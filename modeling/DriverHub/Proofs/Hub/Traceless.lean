import DriverHub.Proofs.Hub.Handshake
import DriverHub.Proofs.Hub.Unison
import DriverHub.Proofs.Session.Grants

/-! Requests that are refused leave no trace. Most change nothing at all. If a grant is refused, those made
before it are revoked again, and all that remains is what was written into a slot that is still free; and that
is never seen. -/
namespace DriverHub

open Function SessionM

variable {config : Config} {τ γ ι H : Type}

theorem SlotPool.agreeBut_modify {n : Nat} {aside : Set (Fin n)} (pool : SlotPool n) {i : Fin n}
    (hi : i ∈ aside) {f : Slot n → Slot n} (hf : (f (pool.slot i)).next = (pool.slot i).next) :
    pool.AgreeBut aside (pool.modify i f) := by
  refine ⟨rfl, rfl, rfl, rfl, fun j => ?_, fun j hj => ?_⟩
  · rw [modify_slot]
    split
    · rename_i hij
      rw [hf, hij]
    · rfl
  · have hij : i ≠ j := by
      rintro rfl
      exact hj hi
    rw [modify_slot, if_neg hij]

/-- What stands in free slots is no part of a layout. -/
theorem Layout.Describes.of_agreeBut {κ : Type} {n : Nat} {layout : Layout κ n}
    {pool pool' : SlotPool n} {queues : κ → Queue n} (h : layout.Describes pool queues)
    (hagree : pool.AgreeBut {i | i ∈ pool.free} pool') : layout.Describes pool' queues := by
  refine { h with free_chain := ?_, free_count := ?_, chain := fun k => ?_, recorded := fun k b hb => ?_ }
  · rw [hagree.freeFirst]
    exact h.free_chain.congr fun i _ => hagree.next i
  · rw [hagree.freeCount]
    exact h.free_count
  · exact (h.chain k).congr fun i _ => hagree.next i
  · have hapart : b.slot ∉ pool.free := by
      rw [← h.free_eq]
      exact h.free_apart k b.slot (mem_slots hb)
    rw [SlotPool.booking, hagree.slot b.slot hapart]
    exact h.recorded k b hb

namespace Hub

variable {hub hub' : Hub config H}

theorem Resembles.bookings_eq (h : hub.Resembles hub') (hstored : hub.Stored) :
    hub'.bookings = hub.bookings := by
  obtain ⟨pool, hpool, rfl⟩ := h
  obtain ⟨layout, hl⟩ := hstored.described
  have hl' := hl.of_agreeBut hpool
  funext k
  rw [← Stored.held_eq hl]
  exact (hl'.held_eq k).symm

theorem Resembles.statistics_eq (h : hub.Resembles hub') : hub'.statistics = hub.statistics := by
  obtain ⟨pool, hpool, rfl⟩ := h
  unfold Hub.statistics
  dsimp only
  rw [hpool.spares, hpool.spareTotal, hpool.freeCount]
  rfl

variable [GrantTable γ] {s t : HubSession config τ γ ι H}

/-- A request was given up. Nobody was called but the grant table, which holds what it held before. Of the
tables, at most what stands in a free slot is different. -/
structure Undone (s t : HubSession config τ γ ι H) : Prop where
  tables : s.tables.Resembles t.tables
  bookings : t.tables.bookings = s.tables.bookings
  free : t.tables.pool.free = s.tables.pool.free
  statistics : t.tables.statistics = s.tables.statistics
  transport : t.transport = s.transport
  interface : t.interface = s.interface
  -- The grants that were created are revoked, in the same order.
  journal : ∃ news, t.journal = news ++ s.journal ∧ calls news = [] ∧ frames news = [] ∧
    revoked news = created news
  grants : ∀ table : GrantTable.Lawful γ, table.intact s.grants →
    table.intact t.grants ∧ table.live t.grants = table.live s.grants

/-- Grants that are created and then revoked leave the live grants as they were. -/
theorem live_of_undone {endpoint : Endpoint} {access : Access} {g g' g'' : γ}
    {segments : List Segment} {grants : List GrantId} {complete : Bool} {journal : Journal H}
    (hcreates : Creates endpoint access g segments grants complete journal g')
    (hrevokes : Revokes g' grants g'') (table : GrantTable.Lawful γ) (hintact : table.intact g) :
    table.intact g'' ∧ table.live g'' = table.live g := by
  obtain ⟨hintact', hnodup, hnew, hothers, hlive⟩ := table.live_of_creates hintact hcreates
  have hsome : ∀ id ∈ grants, (table.live g' id).isSome := by
    intro id hid
    obtain ⟨segment, hsegment⟩ := hlive id hid
    rw [hsegment]
    rfl
  obtain ⟨hintact'', hlive'⟩ := table.live_of_revokes hintact' hrevokes hnodup hsome
  refine ⟨hintact'', funext fun id => ?_⟩
  rw [hlive']
  split
  · rename_i hid
    exact (hnew id hid).symm
  · rename_i hid
    exact hothers id hid

theorem undone_of_abandoned {i : Fin config.drivers} {endpoint : Endpoint} {plan : Plan}
    {grants : List GrantId} (h : Abandoned s i endpoint plan grants t) (hstored : s.tables.Stored) :
    Undone s t := by
  obtain ⟨⟨ticket, primed, hreserve, htables⟩, htransport, hinterface, journal, g, hcreates,
    hrevokes, hjournal⟩ := h
  have hresembles : s.tables.Resembles t.tables := by
    obtain ⟨layout, rest, hfree, hl, -⟩ := hstored.reserved .none hreserve
    obtain ⟨-, -, -, -, rfl⟩ := Queue.reserve_eq_some.mp hreserve
    have hmem : ticket.slot ∈ s.tables.pool.free := by
      rw [← hl.free_eq, hfree]
      exact List.mem_cons_self
    exact ⟨_, SlotPool.agreeBut_modify _ hmem rfl, htables⟩
  constructor
  case tables => exact hresembles
  case bookings => exact hresembles.bookings_eq hstored
  case free =>
    obtain ⟨pool, hpool, heq⟩ := hresembles
    rw [heq]
    exact hpool.free_eq
  case statistics => exact hresembles.statistics_eq
  case transport => exact htransport
  case interface => exact hinterface
  case journal =>
    obtain ⟨hcreated, hrevoked, -⟩ := hcreates.journal_eq
    refine ⟨revocations grants ++ journal, ?_, ?_, ?_, ?_⟩
    · rw [hjournal, List.append_assoc]
    · rw [calls_append, calls_revocations, calls_creates hcreates]
      rfl
    · rw [frames_append, frames_revocations, frames_creates hcreates]
      rfl
    · rw [revoked_append, created_append, revoked_revocations, created_revocations, hcreated, hrevoked,
        List.append_nil, List.nil_append]
  case grants => exact fun table hintact => live_of_undone hcreates hrevokes table hintact

variable [Transport τ]

/-- A request that is refused changed nothing, or it was undone. -/
theorem goes_ask_traceless (h : s.tables.Sound) (id : DriverId) {plan : Except Refusal Plan}
    (hplanned : Planned plan) :
    (ask id plan : HubM config τ γ ι H (Except Refusal UInt32)).Goes s
      (fun answer t => ∀ refusal, answer = .error refusal →
        (refusal ≠ .noMemory → t = s) ∧ (refusal = .noMemory → Undone s t)) fun _ => True := by
  cases hadmitted : s.tables.admitted id plan with
  | error refusal =>
    rw [Goes, ask_refused hadmitted]
    intro refusal' heq
    cases heq
    refine ⟨fun _ => rfl, fun hmemory => ?_⟩
    rw [hmemory] at hadmitted
    exact absurd hadmitted (admitted_ne_noMemory s.tables id hplanned)
  | ok admitted =>
    obtain ⟨admission, p⟩ := admitted
    obtain ⟨i, endpoint, -, hplan, hreserved⟩ := admitted_eq_ok hadmitted
    obtain ⟨ticket, primed, hreserve, rfl⟩ := reserve_eq_ok hreserved
    obtain ⟨grants, complete, journal, g, hcreates⟩ :=
      exists_creates (H := H) endpoint p.kind.direction.access s.grants p.segments
    unfold ask
    rw [goes_bind, goes_tables, hadmitted]
    cases complete with
    | true =>
      apply (goes_issue_granted h (hplanned.proper p hplan).few hreserve hcreates).mono
      · rintro answer t ⟨rfl, -⟩ refusal heq
        cases heq
      · exact fun _ _ => trivial
    | false =>
      apply (goes_issue_denied hreserve hcreates).mono
      · rintro answer t ⟨rfl, habandoned⟩ refusal heq
        cases heq
        exact ⟨fun hother => absurd rfl hother, fun _ => undone_of_abandoned habandoned h.toStored⟩
      · exact fun _ _ => trivial

end Hub

/-- What happens to a hub: an operation, or its collaborators change on their own. -/
inductive Happening (config : Config) (τ γ ι : Type) : Type 1 where
  | operation (operation : Operation config)
  | meanwhile (transport : τ) (grants : γ) (interface : ι)

section Runs

variable [Transport τ] [GrantTable γ] [Interface ι H]

/-- Lets it happen. It answers what the operation answers. -/
def Happening.run : Happening config τ γ ι → HubM config τ γ ι H (Option (Except Refusal UInt32))
  | .operation action => action.run
  | .meanwhile transport grants interface => fun session =>
    .ok none { session with transport, grants, interface }

variable {heads : LaneId config → UInt32} {custody : Custody γ} {s t : HubSession config τ γ ι H}
variable {other : Hub config H}

theorem Operation.unison (h : s.tables.Sound) (hresembles : s.tables.Resembles other)
    (operation : Operation config) : Hub.Unison operation.run operation.run s other := by
  -- What an operation does besides its action is to answer.
  have hanswered {α : Type} {action : HubM config τ γ ι H α} (haction : Hub.Unison action action s other)
      (answer : α → Option (Except Refusal UInt32)) :
      Hub.Unison (do pure (answer (← action))) (do pure (answer (← action))) s other := by
    apply haction.bind
    intro a t other' hresembles'
    exact Hub.unison_blind (blind_pure _) hresembles'
  have hasked {id : DriverId} {plan : Except Refusal Plan}
      (hpetition : operation.petition? = some (id, plan)) :
      Hub.Unison operation.run operation.run s other := by
    rw [operation.run_of_petition hpetition]
    exact hanswered (Hub.unison_ask h.toStored hresembles id plan) some
  cases operation with
  | reconcile source => exact hanswered (Hub.unison_reconcile h hresembles source) fun _ => none
  | send id segments => exact hasked rfl
  | receive id segments => exact hasked rfl
  | configure id change => exact hasked rfl
  | process endpoint reply =>
    exact hanswered (Hub.unison_process h hresembles endpoint reply) fun _ => none
  | processFrame endpoint bytes =>
    exact hanswered (Hub.unison_processFrame h hresembles endpoint bytes) fun _ => none

theorem Happening.unison (h : s.tables.Sound) (hresembles : s.tables.Resembles other)
    (happening : Happening config τ γ ι) : Hub.Unison happening.run happening.run s other := by
  cases happening with
  | operation action => exact action.unison h hresembles
  | meanwhile transport grants interface => exact ⟨none, other, rfl, rfl, hresembles⟩

theorem Happening.goes_sound (h : s.tables.Sound) (happening : Happening config τ γ ι) :
    (happening.run : HubM config τ γ ι H _).Goes s (fun _ t => t.tables.Sound) fun _ => True := by
  cases happening with
  | operation action => exact (action.goes h).mono (fun _ _ ht => ht.1) fun _ _ => trivial
  | meanwhile transport grants interface => exact h

/-- Whatever happens to both, hubs that resemble each other stay in unison. -/
theorem Happening.unison_all (h : s.tables.Sound) (hresembles : s.tables.Resembles other)
    (happenings : List (Happening config τ γ ι)) :
    Hub.Unison (happenings.mapM run) (happenings.mapM run) s other := by
  induction happenings generalizing s other with
  | nil =>
    rw [List.mapM_nil]
    exact Hub.unison_blind (blind_pure _) hresembles
  | cons happening rest ih =>
    rw [List.mapM_cons]
    apply (happening.unison h hresembles).bind_sound (happening.goes_sound h)
    intro answer t other' hsound hresembles'
    apply (ih hsound hresembles').bind
    intro answers u other'' hresembles''
    exact Hub.unison_blind (blind_pure _) hresembles''

/-- A request that is refused leaves no trace. If it is not for want of memory, the whole session is as
before. If it is, the grants made for the request are revoked again, and a slot that is still free was
prepared for it. What stands in free slots is never seen: a hub that differs in nothing else does the same,
whatever happens. -/
theorem Reachable.refused_traceless (h : Reachable heads custody s) :
    (∀ (operation : Operation config) (refusal : Refusal) (t : HubSession config τ γ ι H),
      operation.run s = .ok (some (.error refusal)) t →
        (refusal ≠ .noMemory → t = s) ∧ (refusal = .noMemory → Hub.Undone s t)) ∧
    ∀ pool, s.tables.pool.AgreeBut {i | i ∈ s.tables.pool.free} pool →
      ∀ happenings : List (Happening config τ γ ι),
        Hub.Unison (happenings.mapM Happening.run) (happenings.mapM Happening.run) s
          { s.tables with pool } := by
  have hsound := h.sound
  constructor
  · intro operation refusal t answered
    obtain ⟨id, plan, hpetition⟩ : ∃ id plan, operation.petition? = some (id, plan) := by
      cases (operation.goes_effect hsound).of_ok answered with
      | refused id plan refusal petition refused => exact ⟨id, plan, petition⟩
      | answered id i p petition entry answered => exact ⟨id, .ok p, petition⟩
    have hplanned := Operation.planned_of_petition hpetition
    have hgoes : operation.run.Goes s
        (fun outcome t => ∀ refusal, outcome = some (.error refusal) →
          (refusal ≠ .noMemory → t = s) ∧ (refusal = .noMemory → Hub.Undone s t)) fun _ => True := by
      rw [Operation.run_of_petition hpetition, goes_bind]
      apply (Hub.goes_ask_traceless hsound id hplanned).mono
      · intro answer u hu refusal heq
        exact hu refusal (Option.some.inj heq)
      · exact fun _ _ => trivial
    exact hgoes.of_ok answered refusal rfl
  · intro pool hpool happenings
    exact Happening.unison_all hsound ⟨pool, hpool, rfl⟩ happenings

end Runs

namespace Trial

/-- Reception for a list of one address. -/
def listing : Change where
  set := .mode
  mode := .multicastList
  multicast := some ⟨128, 1⟩
  capabilities := ⟨0⟩
  flags := 0
  media := 0
  address := HardwareAddress.zero

/-- The end of the short run, but no more grants may be created. -/
def scarce : HubSession small Outbox GrantLedger CallbackLog Nat :=
  { session with grants := session.grants.limit (some 0) }

/-- A change that takes memory is refused then. The slot that was prepared for it shows its kind, and
nobody will ever see that. -/
theorem refusal_unseen : ∃ t, (Operation.configure ⟨0⟩ listing).run scarce =
      .ok (some (.error .noMemory)) t ∧
    t.tables.pool ≠ scarce.tables.pool ∧ Hub.Undone scarce t ∧
    ∀ happenings : List (Happening small Outbox GrantLedger CallbackLog),
      Hub.Unison (happenings.mapM Happening.run) (happenings.mapM Happening.run) scarce t.tables := by
  have hscarce : Reachable heads (.any GrantLedger) scarce := reached.meanwhile _ _ _ trivial
  have houtcome : (match (Operation.configure ⟨0⟩ listing).run scarce with
      | .ok answer t => some (answer, decide (t.tables.pool.slots = scarce.tables.pool.slots))
      | .error _ _ => none) = some (some (.error .noMemory), false) := by
    decide +kernel
  split at houtcome
  · rename_i answer t hrun
    injection houtcome with houtcome
    obtain ⟨rfl, hslots⟩ := Prod.mk.inj houtcome
    have hundone := ((Reachable.refused_traceless hscarce).1 _ _ t hrun).2 rfl
    obtain ⟨pool, hpool, htables⟩ := hundone.tables
    refine ⟨t, hrun, fun heq => ?_, hundone, fun happenings => ?_⟩
    · exact of_decide_eq_false hslots (congrArg SlotPool.slots heq)
    · rw [htables]
      exact (Reachable.refused_traceless hscarce).2 pool hpool happenings
  · cases houtcome

end Trial
end DriverHub
