import DriverHub.Proofs.Hub.InitReply
import DriverHub.Proofs.Hub.Run
import DriverHub.Proofs.Hub.Standing

/-! The calls of the interface layer. Whatever a hub does, the calls about an interface come in the
order of its life, and between operations the driver table has the interface where it belongs. -/
namespace DriverHub

open Function SessionM

variable {config : Config} {τ γ ι H α β : Type}

namespace Hub

variable {s t : HubSession config τ γ ι H} {i : Fin config.drivers}

/-- The action calls nobody at the interface layer and changes no entry. -/
def Silent (action : HubM config τ γ ι H α) (s : HubSession config τ γ ι H) : Prop :=
  action.Leads s (fun _ t => s.tables.SameSeats t.tables ∧ calls t.journal = calls s.journal)
    fun _ t => calls t.journal = calls s.journal

section Silent

variable [GrantTable γ]

theorem silent_revokeGrants (grants : List GrantId) :
    Silent (revokeGrants grants : HubM config τ γ ι H Unit) s := by
  apply leads_revokeGrants
  · intro g _
    refine ⟨.refl _, ?_⟩
    rw [calls_append, calls_revocations, List.nil_append]
  · intro grant cause t _ ht
    exact ht

theorem silent_cancelRequests (i : Fin config.drivers) :
    Silent (cancelRequests i : HubM config τ γ ι H Unit) s := by
  unfold cancelRequests
  rw [Silent, leads_bind, leads_tables, leads_bind]
  apply leads_expect
  · rintro ⟨grants, hub⟩ hcancelled
    rw [leads_bind, leads_setTables]
    apply (silent_revokeGrants grants).mono
    · intro _ t ht
      exact ⟨(SameSeats.cancelled hcancelled).trans ht.1, ht.2⟩
    · intro _ t ht
      exact ht
  · intro _ _
    rfl

end Silent

section Silent

variable [Transport τ]

theorem silent_post (driver : DriverId) (endpoint : Endpoint) (request : Request) :
    Silent (post driver endpoint request : HubM config τ γ ι H Unit) s := by
  apply leads_post
  · intro _ _
    exact ⟨.refl _, rfl⟩
  · intro _ _ t _ ht
    exact ht

theorem silent_postInit (i : Fin config.drivers) (endpoint : Endpoint) :
    Silent (postInit i endpoint : HubM config τ γ ι H Unit) s := by
  unfold postInit
  rw [Silent, leads_bind, leads_tables]
  exact silent_post ..

variable [GrantTable γ]

theorem silent_issue {admission : Admission config H} (hseats : s.tables.SameSeats admission.tables)
    (access : Access) (segments : List Segment) (request : SlotGrants → Request) :
    Silent (issue admission access segments request :
      HubM config τ γ ι H (Except Refusal UInt32)) s := by
  unfold issue
  rw [Silent, leads_bind, leads_setTables, leads_bind]
  apply leads_createGrants
  intro grants complete journal g hcreated
  have hcalls : calls (journal ++ s.journal) = calls s.journal := by
    rw [calls_append, calls_creates hcreated, List.nil_append]
  dsimp only
  cases complete with
  | true =>
    rw [if_pos rfl, leads_bind]
    apply leads_expect
    · intro placed _
      rw [leads_bind, leads_setTables, leads_bind]
      apply Leads.mono (silent_post ..)
      · rintro _ t ⟨hseats', hcalls'⟩
        rw [leads_bind, leads_tables, leads_bind]
        apply leads_expect
        · intro hub hcommitted
          rw [leads_bind, leads_setTables, leads_pure]
          -- The slot's grants are no part of who has which entry.
          have hset : admission.tables.SameSeats t.tables :=
            (SameSeats.of_drivers (by rfl)).trans hseats'
          exact ⟨hseats.trans (hset.trans (.committed hcommitted)), hcalls'.trans hcalls⟩
        · intro _ _
          exact hcalls'.trans hcalls
      · intro _ t ht
        exact ht.trans hcalls
    · intro _ _
      exact hcalls
  | false =>
    rw [if_neg Bool.false_ne_true, leads_bind]
    apply Leads.mono (silent_revokeGrants grants)
    · rintro _ t ⟨hseats', hcalls'⟩
      exact ⟨hseats.trans hseats', hcalls'.trans hcalls⟩
    · intro _ t ht
      exact ht.trans hcalls

theorem silent_transfer (direction : Direction) (id : DriverId) (segments : List Segment) :
    Silent (transfer direction id segments : HubM config τ γ ι H (Except Refusal UInt32)) s := by
  unfold transfer
  rw [Silent, leads_bind, leads_tables]
  cases hadmitted : s.tables.admitTransfer direction id segments with
  | error refusal => exact ⟨.refl _, rfl⟩
  | ok admitted =>
    obtain ⟨admission, lengths⟩ := admitted
    obtain ⟨i, endpoint, -, -, hreserve⟩ := admitTransfer_eq_ok hadmitted
    obtain ⟨ticket, primed, -, rfl⟩ := reserve_eq_ok hreserve
    apply silent_issue
    exact .of_drivers rfl

theorem silent_configure (id : DriverId) (change : Change) :
    Silent (configure id change : HubM config τ γ ι H (Except Refusal UInt32)) s := by
  unfold configure
  rw [Silent, leads_bind, leads_tables]
  cases hadmitted : s.tables.admitChange id change with
  | error refusal => exact ⟨.refl _, rfl⟩
  | ok admitted =>
    obtain ⟨admission, list⟩ := admitted
    obtain ⟨i, endpoint, -, -, hreserve⟩ := admitChange_eq_ok hadmitted
    obtain ⟨ticket, primed, -, rfl⟩ := reserve_eq_ok hreserve
    apply silent_issue
    exact .of_drivers rfl

end Silent
end Hub

/-- An interface is added, and what it is told when it is enabled, as the reply of its driver has
it. Its name is what stands in the name field before the first NUL. -/
def Entry.Stems (reply? : Option InitReply) : Entry H → Prop
  | .added _ name capabilities _ => ∃ reply ∈ reply?, reply.WellFormed ∧
      name.bytes = reply.name.toList.takeWhile (· ≠ 0) ∧ capabilities = reply.capabilities
  | .enabled _ _ enablement _ => ∃ reply ∈ reply?, reply.WellFormed ∧
      reply.Tells enablement.name enablement ∧
      ∀ name ∈ enablement.name, name.bytes = reply.name.toList.takeWhile (· ≠ 0)
  | _ => True

/-- The calls since these stem from this reply. -/
def Stemming (reply? : Option InitReply) (before calls : Journal H) : Prop :=
  ∃ new, calls = new ++ before ∧ ∀ entry ∈ new, entry.Stems reply?

/-- A session from which an operation may go on: so far every interface was followed. -/
structure InOrder (reply? : Option InitReply) (before : Journal H)
    (s : HubSession config τ γ ι H) : Prop where
  stems : Stemming reply? before (calls s.journal)
  labelled : s.tables.Labelled
  followed : ∀ handle, Unshared handle (calls s.journal) →
    Followed s.tables.state (calls s.journal) handle

/-- A session that has ended: so far the calls came in order. -/
structure CutShort (reply? : Option InitReply) (before : Journal H)
    (s : HubSession config τ γ ι H) : Prop where
  stems : Stemming reply? before (calls s.journal)
  course : ∀ handle, Unshared handle (calls s.journal) →
    ∃ phase, Course handle (calls s.journal) phase

section InOrder

variable {s t : HubSession config τ γ ι H} {i : Fin config.drivers}
variable {reply? : Option InitReply} {before : Journal H}

theorem Stemming.append {later journal : Journal H} (h : Stemming reply? before journal)
    (hstems : ∀ entry ∈ later, entry.Stems reply?) : Stemming reply? before (later ++ journal) := by
  obtain ⟨new, rfl, hnew⟩ := h
  refine ⟨later ++ new, (List.append_assoc ..).symm, ?_⟩
  intro entry hentry
  rcases List.mem_append.mp hentry with hlater | hold
  · exact hstems entry hlater
  · exact hnew entry hold

variable (hs : InOrder reply? before s)
include hs

theorem InOrder.grown (hlabelled : t.tables.Labelled) (later : Journal H)
    (hcalls : calls t.journal = later ++ calls s.journal)
    (hstems : ∀ entry ∈ later, entry.Stems reply?)
    (hfollowed : ∀ handle, Unshared handle (later ++ calls s.journal) →
      Followed s.tables.state (calls s.journal) handle →
      Followed t.tables.state (later ++ calls s.journal) handle) : InOrder reply? before t := by
  refine ⟨?_, hlabelled, ?_⟩
  · rw [hcalls]
    exact hs.stems.append hstems
  · intro handle hunshared
    rw [hcalls] at hunshared ⊢
    exact hfollowed handle hunshared (hs.followed handle hunshared.of_append)

theorem InOrder.same (hseats : s.tables.SameSeats t.tables)
    (hcalls : calls t.journal = calls s.journal) : InOrder reply? before t := by
  apply hs.grown (hs.labelled.same hseats) [] hcalls nofun
  intro handle _ hfollowed
  rw [hseats.state]
  exact hfollowed

/-- What is done to the journal without calling anybody changes nothing. -/
theorem InOrder.noted {journal : Journal H} (hcalls : calls journal = calls s.journal) :
    InOrder reply? before { s with journal } := hs.same (.refl _) hcalls

theorem InOrder.cutShort (hcalls : calls t.journal = calls s.journal) : CutShort reply? before t := by
  constructor
  · rw [hcalls]
    exact hs.stems
  · intro handle hunshared
    rw [hcalls] at hunshared ⊢
    obtain ⟨phase, hcourse, -⟩ := hs.followed handle hunshared
    exact ⟨phase, hcourse⟩

theorem InOrder.withdrawn (hlabelled : t.tables.Labelled)
    (hstate : t.tables.state = update s.tables.state i .free)
    (hcalls : calls t.journal = (s.tables.state i).withdrawing ⟨i⟩ ++ calls s.journal) :
    InOrder reply? before t := by
  apply hs.grown hlabelled _ hcalls
  · intro entry hentry
    unfold Occupant.withdrawing at hentry
    split at hentry
    · obtain rfl := List.mem_singleton.mp hentry
      trivial
    · cases hentry
  · intro handle _ hfollowed
    rw [hstate]
    exact hfollowed.withdrawn i

theorem InOrder.quieted (hlabelled : t.tables.Labelled) (label : Label) (endpoint : Endpoint)
    (hstate : t.tables.state =
      update s.tables.state i (.pending label endpoint (s.tables.state i).handle?))
    (hcalls : calls t.journal = (s.tables.state i).quieting ⟨i⟩ ++ calls s.journal) :
    InOrder reply? before t := by
  apply hs.grown hlabelled _ hcalls
  · intro entry hentry
    unfold Occupant.quieting at hentry
    split at hentry
    · obtain rfl := List.mem_singleton.mp hentry
      trivial
    · cases hentry
  · intro handle _ hfollowed
    rw [hstate]
    exact hfollowed.quieted i label endpoint

end InOrder

namespace Hub

variable {s t : HubSession config τ γ ι H} {i : Fin config.drivers}
variable {reply? : Option InitReply} {before : Journal H}

/-- From here on the action keeps the calls in order, and every interface where it belongs. -/
def Keeps (reply? : Option InitReply) (before : Journal H) (action : HubM config τ γ ι H α)
    (s : HubSession config τ γ ι H) : Prop :=
  action.Leads s (fun _ t => InOrder reply? before t) fun _ t => CutShort reply? before t

theorem Silent.keeps {action : HubM config τ γ ι H α} (h : Silent action s)
    (hs : InOrder reply? before s) : Keeps reply? before action s := by
  apply h.mono
  · intro _ t ht
    exact hs.same ht.1 ht.2
  · intro _ t ht
    exact hs.cutShort ht

section Actions

variable [GrantTable γ] [Interface ι H]

theorem leads_takeDown (h : s.tables.Labelled) (i : Fin config.drivers) :
    (takeDown i : HubM config τ γ ι H Unit).Leads s
      (fun _ t => t.tables.Labelled ∧ t.tables.state = update s.tables.state i .free ∧
        calls t.journal = (s.tables.state i).withdrawing ⟨i⟩ ++ calls s.journal)
      fun _ t => calls t.journal = calls s.journal := by
  unfold takeDown
  rw [leads_bind]
  apply (silent_cancelRequests i).mono
  · rintro _ t ⟨hseats, hcalls⟩
    have hlabelled := h.same hseats
    have hstate := hseats.state
    rw [leads_bind, leads_tables]
    dsimp only
    rw [(hlabelled.driver_eq i).1, hstate]
    unfold Occupant.withdrawing
    cases s.tables.state i with
    | free =>
      dsimp only [Occupant.driverState]
      rw [leads_fail]
      exact hcalls
    | pending label endpoint handle =>
      dsimp only [Occupant.driverState]
      rw [leads_bind]
      apply leads_expect
      · intro hub hsettled
        have hsettled' := SameSeats.settled hsettled
        have hlabelled' := (hlabelled.same hsettled').freed i
        have hfreed : (hub.freed i).state = update s.tables.state i .free := by
          rw [freed_state, hsettled'.state, hstate]
        cases handle with
        | none =>
          rw [leads_bind, leads_note, leads_setTables]
          exact ⟨hlabelled', hfreed, hcalls⟩
        | some handle =>
          rw [leads_bind, leads_removeInterface, leads_bind, leads_note, leads_setTables]
          have hremoved := congrArg (List.cons (Entry.removed (⟨i⟩ : DriverId) handle)) hcalls
          exact ⟨hlabelled', hfreed, hremoved⟩
      · intro _ _
        exact hcalls
    | active label endpoint handle =>
      dsimp only [Occupant.driverState]
      rw [leads_bind, leads_removeInterface, leads_bind, leads_note, leads_setTables]
      have hfreed : (t.tables.freed i).state = update s.tables.state i .free := by
        rw [freed_state, hstate]
      have hremoved := congrArg (List.cons (Entry.removed (⟨i⟩ : DriverId) handle)) hcalls
      exact ⟨hlabelled.freed i, hfreed, hremoved⟩
  · intro _ t ht
    exact ht

theorem keeps_takeDown (hs : InOrder reply? before s) (i : Fin config.drivers) :
    Keeps reply? before (takeDown i : HubM config τ γ ι H Unit) s := by
  apply (leads_takeDown hs.labelled i).mono
  · rintro _ t ⟨hlabelled, hstate, hcalls⟩
    exact hs.withdrawn hlabelled hstate hcalls
  · intro _ t ht
    exact hs.cutShort ht

section Answered

variable {label : Label} {endpoint : Endpoint} {reply : InitReply} {name : InterfaceName}
variable {kept : Option H} {handle : H} {enablement : Enablement}
variable (hreply : reply ∈ reply?) (hchecked : reply.checked = .ok name)
include hreply hchecked

theorem stems_hiring (i : Fin config.drivers) (handle : H)
    (henablement : enablement = reply.enablement (if kept.isNone then some name else none))
    (answer : Bool) : ∀ entry ∈ (.enabled ⟨i⟩ handle enablement answer ::
      hiring ⟨i⟩ name reply.capabilities handle kept : Journal H), entry.Stems reply? := by
  obtain ⟨hformed, hbytes⟩ := InitReply.checked_eq_ok_iff.mp hchecked
  rw [List.forall_mem_cons]
  constructor
  · subst henablement
    refine ⟨reply, hreply, hformed, reply.tells_enablement _, ?_⟩
    intro told htold
    cases kept with
    | none =>
      obtain rfl := Option.some.inj htold
      exact hbytes
    | some _ => cases htold
  · intro entry hentry
    cases kept with
    | none =>
      obtain rfl := List.mem_singleton.mp hentry
      exact ⟨reply, hreply, hformed, hbytes, rfl⟩
    | some _ => cases hentry

section Asked

/-! A pending driver has an interface now, and the interface layer is asked to enable it. -/

variable (hs : InOrder reply? before s) (hi : s.tables.state i = .pending label endpoint kept)
variable (hkept : ∀ old ∈ kept, old = handle)
include hs hi hkept

section Answer

variable (henablement : enablement = reply.enablement (if kept.isNone then some name else none))
include henablement

omit [GrantTable γ] [Interface ι H] in
theorem cutShort_of_asked {answer : Bool} (hcalls : calls t.journal =
      .enabled ⟨i⟩ handle enablement answer ::
        (hiring ⟨i⟩ name reply.capabilities handle kept ++ calls s.journal)) :
    CutShort reply? before t := by
  have hstems := stems_hiring hreply hchecked i handle henablement answer
  have hname : enablement.name = if kept.isNone then some name else none :=
    congrArg Enablement.name henablement
  constructor
  · rw [hcalls]
    exact hs.stems.append hstems
  · intro other hunshared
    rw [hcalls] at hunshared ⊢
    exact (hs.followed other hunshared.of_append).course hi hkept hunshared hname answer

omit [GrantTable γ] [Interface ι H] in
theorem inOrder_of_activated (hcalls : calls t.journal = .enabled ⟨i⟩ handle enablement true ::
      (hiring ⟨i⟩ name reply.capabilities handle kept ++ calls s.journal))
    (hlabelled : t.tables.Labelled)
    (hstate : t.tables.state = update s.tables.state i (.active label endpoint handle)) :
    InOrder reply? before t := by
  have hstems := stems_hiring hreply hchecked i handle henablement true
  have hname : enablement.name = if kept.isNone then some name else none :=
    congrArg Enablement.name henablement
  apply hs.grown hlabelled _ hcalls hstems
  intro other hunshared hfollowed
  rw [hstate]
  exact hfollowed.activated hi hkept hunshared hname

theorem keeps_refused (hcalls : calls t.journal = .enabled ⟨i⟩ handle enablement false ::
      (hiring ⟨i⟩ name reply.capabilities handle kept ++ calls s.journal))
    (hlabelled : t.tables.Labelled)
    (hstate : t.tables.state = update s.tables.state i (.pending label endpoint (some handle))) :
    Keeps reply? before (takeDown i : HubM config τ γ ι H Unit) t := by
  have hstems := stems_hiring hreply hchecked i handle henablement false
  have hname : enablement.name = if kept.isNone then some name else none :=
    congrArg Enablement.name henablement
  have hwithdrawing : (t.tables.state i).withdrawing ⟨i⟩ = [.removed ⟨i⟩ handle] := by
    rw [hstate, update_self]
    rfl
  apply (leads_takeDown hlabelled i).mono
  · rintro _ u ⟨hlabelled', hfreed, hremoved⟩
    rw [hwithdrawing, hcalls] at hremoved
    rw [hstate, update_idem] at hfreed
    apply hs.grown hlabelled' (.removed ⟨i⟩ handle :: .enabled ⟨i⟩ handle enablement false ::
      hiring ⟨i⟩ name reply.capabilities handle kept) hremoved
    · exact List.forall_mem_cons.mpr ⟨trivial, hstems⟩
    · intro other hunshared hfollowed
      rw [hfreed]
      exact hfollowed.refused hi hkept hunshared hname
  · intro _ u hu
    exact cutShort_of_asked hreply hchecked hs hi hkept henablement (hu.trans hcalls)

end Answer

theorem keeps_enable (hseats : s.tables.SameSeats t.tables)
    (hcalls : calls t.journal = hiring ⟨i⟩ name reply.capabilities handle kept ++ calls s.journal) :
    Keeps reply? before
      (enable i endpoint handle kept.isNone name reply : HubM config τ γ ι H Unit) t := by
  have hlabelled := hs.labelled.same hseats
  have hlabel : (t.tables.state i).label? = some label := by
    rw [hseats.state, hi]
    rfl
  have hseated : t.tables.setState i (.pending endpoint (some handle)) =
      t.tables.seated i (.pending label endpoint (some handle)) :=
    setState_eq_seated (.pending label endpoint (some handle)) hlabel hlabelled
  have htold := (InitReply.checked_eq_ok_iff.mp hchecked).1.told_eq_ok
    (if kept.isNone then some name else none)
  unfold enable
  rw [Keeps, leads_bind, leads_tables, leads_bind, leads_setTables, hseated, htold]
  have hopened := SameSeats.opened (t.tables.seated i (.pending label endpoint (some handle))) i
    reply.maxSend reply.maxReceive
  generalize (t.tables.seated i (.pending label endpoint (some handle))).opened i
    reply.maxSend reply.maxReceive = hub at hopened ⊢
  have hhub : hub.state = update s.tables.state i (.pending label endpoint (some handle)) := by
    rw [hopened.state, seated_state, hseats.state]
  have hlabelled' := (hlabelled.seated i (.pending label endpoint (some handle))).same hopened
  rw [leads_bind, leads_expect_ok, leads_bind]
  apply leads_enableInterface
  intro answer interface _
  generalize henablement : reply.enablement (if kept.isNone then some name else none) = enablement
  have hcalled := congrArg (List.cons (Entry.enabled (⟨i⟩ : DriverId) handle enablement answer)) hcalls
  cases answer with
  | false =>
    rw [if_neg Bool.false_ne_true, leads_bind, leads_note]
    exact keeps_refused hreply hchecked hs hi hkept henablement.symm hcalled hlabelled' hhub
  | true =>
    rw [if_pos rfl, leads_bind, leads_tables, leads_bind]
    apply leads_expect
    · intro hub' hsettled
      have hsettled' := SameSeats.settled hsettled
      have hlabelled'' := hlabelled'.same hsettled'
      have hlabel' : (hub'.state i).label? = some label := by
        rw [hsettled'.state, hhub, update_self]
        rfl
      have hseated' : hub'.setState i (.active endpoint handle) =
          hub'.seated i (.active label endpoint handle) :=
        setState_eq_seated (.active label endpoint handle) hlabel' hlabelled''
      rw [leads_bind, leads_setTables, leads_note, hseated']
      have hactive : (hub'.seated i (.active label endpoint handle)).state =
          update s.tables.state i (.active label endpoint handle) := by
        rw [seated_state, hsettled'.state, hhub, update_idem]
      exact inOrder_of_activated hreply hchecked hs hi hkept henablement.symm hcalled
        (hlabelled''.seated i _) hactive
    · intro _ _
      exact cutShort_of_asked hreply hchecked hs hi hkept henablement.symm hcalled

end Asked

theorem keeps_accept (hs : InOrder reply? before s)
    (hi : s.tables.state i = .pending label endpoint kept) :
    Keeps reply? before (accept i endpoint kept name reply : HubM config τ γ ι H Unit) s := by
  unfold accept
  cases kept with
  | some handle =>
    have hsame : ∀ old ∈ some handle, old = handle := fun _ hold => (Option.some.inj hold).symm
    exact keeps_enable hreply hchecked hs hi hsame (.refl _) rfl
  | none =>
    dsimp only
    rw [Keeps, leads_bind]
    apply leads_addInterface
    intro answer interface _
    cases answer with
    | none =>
      have hrefused : InOrder reply? before { s with
          interface
          journal := .noticed (.addRefused ⟨i⟩ name) ::
            .added ⟨i⟩ name reply.capabilities none :: s.journal } := by
        obtain ⟨hformed, hbytes⟩ := InitReply.checked_eq_ok_iff.mp hchecked
        refine hs.grown hs.labelled [.added ⟨i⟩ name reply.capabilities none] rfl ?_ ?_
        · intro entry hentry
          obtain rfl := List.mem_singleton.mp hentry
          exact ⟨reply, hreply, hformed, hbytes, rfl⟩
        · intro handle _ hfollowed
          exact hfollowed.other nofun
      dsimp only
      rw [leads_bind, leads_note]
      exact keeps_takeDown hrefused i
    | some handle =>
      have hnone : ∀ old ∈ (none : Option H), old = handle := nofun
      exact keeps_enable hreply hchecked hs hi hnone (.refl _) rfl

end Answered

theorem keeps_initReply (hs : InOrder reply? before s) (i : Fin config.drivers) {reply : InitReply}
    (hreply : reply ∈ reply?) :
    Keeps reply? before (initReply i reply : HubM config τ γ ι H Unit) s := by
  unfold initReply
  rw [Keeps, leads_bind, leads_tables, (hs.labelled.driver_eq i).1]
  cases hstate : s.tables.state i with
  | free => exact hs.noted rfl
  | active label endpoint handle => exact hs.noted rfl
  | pending label endpoint handle =>
    dsimp only [Occupant.driverState]
    split
    · exact hs.noted rfl
    · split
      · rename_i name hchecked
        exact keeps_accept hreply hchecked hs hstate
      · rename_i fault _
        rw [leads_bind, leads_note]
        apply keeps_takeDown
        exact hs.noted rfl

theorem keeps_finish (hs : InOrder reply? before s) (i : Fin config.drivers) (kind : RequestKind)
    (number : UInt32) (result : Int32) :
    Keeps reply? before (finish i kind number result : HubM config τ γ ι H Unit) s := by
  unfold finish
  rw [Keeps, leads_bind, leads_tables, (hs.labelled.driver_eq i).1]
  cases hactive : s.tables.state i with
  | free => exact hs.noted rfl
  | pending label endpoint handle => exact hs.noted rfl
  | active label endpoint handle =>
    dsimp only [Occupant.driverState]
    rw [leads_bind]
    apply leads_expect
    · intro completed hcompleted
      cases completed with
      | none => exact hs.noted rfl
      | some completed =>
        obtain ⟨grants, hub⟩ := completed
        dsimp only
        rw [leads_bind, leads_setTables, leads_bind]
        apply (silent_revokeGrants grants).mono
        · rintro _ t ⟨hrevoked, hcalls⟩
          have hseats : s.tables.SameSeats t.tables := (SameSeats.completed hcompleted).trans hrevoked
          rw [leads_reportFinished]
          have htold := congrArg (List.cons (Entry.finished (⟨i⟩ : DriverId) kind handle result)) hcalls
          refine hs.grown (hs.labelled.same hseats) [.finished ⟨i⟩ kind handle result] htold ?_ ?_
          · exact List.forall_mem_cons.mpr ⟨trivial, nofun⟩
          · intro other _ hfollowed
            change Followed t.tables.state _ other
            rw [hseats.state]
            exact hfollowed.told hactive rfl (.finished ⟨i⟩ kind result)
        · intro _ t ht
          exact hs.cutShort ht
    · intro _ _
      exact hs.cutShort rfl

theorem keeps_sweepEntry {δ : Type} [Discovery δ] (hs : InOrder reply? before s) (source : δ)
    (i : Fin config.drivers) :
    Keeps reply? before (sweepEntry source i : HubM config τ γ ι H Unit) s := by
  unfold sweepEntry
  rw [Keeps, leads_bind, leads_tables]
  split
  · split
    · rw [leads_bind, leads_lookUp]
      split
      · exact hs.noted rfl
      · apply keeps_takeDown
        exact hs.noted rfl
    · exact hs
  · exact hs

variable [Transport τ]

omit [GrantTable γ] in
theorem keeps_takeStatus (hs : InOrder reply? before s) (i : Fin config.drivers) (number : UInt32)
    (report : StatusReport) :
    Keeps reply? before (takeStatus i number report : HubM config τ γ ι H Unit) s := by
  unfold takeStatus
  rw [Keeps, leads_bind, leads_tables, (hs.labelled.driver_eq i).1]
  cases hactive : s.tables.state i with
  | free => exact hs.noted rfl
  | pending label endpoint handle => exact hs.noted rfl
  | active label endpoint handle =>
    have hreported : InOrder reply? before { s with
        interface := Interface.status s.interface handle report
        journal := .reported ⟨i⟩ handle report :: s.journal } := by
      refine hs.grown hs.labelled [.reported ⟨i⟩ handle report] rfl ?_ ?_
      · exact List.forall_mem_cons.mpr ⟨trivial, nofun⟩
      · intro other _ hfollowed
        exact hfollowed.told hactive rfl (.reported ⟨i⟩ report)
    dsimp only [Occupant.driverState]
    rw [leads_bind, leads_reportStatus]
    exact (silent_post ..).keeps hreported

theorem keeps_process (hs : InOrder reply? before s) (endpoint : Endpoint) {reply : Reply}
    (hreply : ∀ init, reply = .init init → init ∈ reply?) :
    Keeps reply? before (process endpoint reply : HubM config τ γ ι H Unit) s := by
  unfold process
  rw [Keeps, leads_bind, leads_tables]
  split
  · exact hs.noted rfl
  · cases reply with
    | init reply => exact keeps_initReply hs _ (hreply reply rfl)
    | finished kind number result => exact keeps_finish hs ..
    | status number report => exact keeps_takeStatus hs ..

theorem keeps_processFrame (hs : InOrder reply? before s) (endpoint : Endpoint) {bytes : List UInt8}
    (hreply : ∀ init, Reply.decode bytes = .ok (.ok (.init init)) → init ∈ reply?) :
    Keeps reply? before (processFrame endpoint bytes : HubM config τ γ ι H Unit) s := by
  obtain ⟨decoded, hdecoded⟩ := Reply.exists_decode bytes
  cases decoded with
  | ok reply =>
    rw [processFrame_of_reply hdecoded]
    apply keeps_process hs
    rintro init rfl
    exact hreply init hdecoded
  | error error =>
    rw [processFrame_of_error hdecoded]
    exact hs.noted rfl

omit [GrantTable γ] [Interface ι H] in
/-- A driver is asked to start, after its entry and its interface were made ready for it. -/
theorem keeps_postInit (hs : InOrder reply? before s) (hlabelled : t.tables.Labelled) (label : Label)
    (endpoint : Endpoint)
    (hstate : t.tables.state =
      update s.tables.state i (.pending label endpoint (s.tables.state i).handle?))
    (hcalls : calls t.journal = (s.tables.state i).quieting ⟨i⟩ ++ calls s.journal) :
    Keeps reply? before (postInit i endpoint : HubM config τ γ ι H Unit) t :=
  (silent_postInit i endpoint).keeps (hs.quieted hlabelled label endpoint hstate hcalls)

theorem keeps_restart (hs : InOrder reply? before s) (i : Fin config.drivers) (endpoint : Endpoint) :
    Keeps reply? before (restart i endpoint : HubM config τ γ ι H Unit) s := by
  unfold restart
  rw [Keeps, leads_bind]
  apply (silent_cancelRequests i).mono
  · rintro _ t ⟨hseats, hcalls⟩
    rw [leads_bind, leads_tables, leads_bind]
    apply leads_expect
    · intro hub hbegun
      have hseats' := hseats.trans (.begun hbegun)
      have hlabelled := hs.labelled.same hseats'
      have hhub : hub.state = s.tables.state := hseats'.state
      have hset (occupant : Occupant H) :
          (hub.seated i occupant).state = update s.tables.state i occupant := by
        rw [seated_state, hhub]
      have hseated (occupant : Occupant H) (hlabel : (s.tables.state i).label? = occupant.label?) :
          hub.setState i occupant.driverState = hub.seated i occupant :=
        setState_eq_seated occupant (hhub ▸ hlabel) hlabelled
      rw [(hlabelled.driver_eq i).1, hhub]
      cases hs' : s.tables.state i with
      | free =>
        dsimp only [Occupant.driverState]
        rw [leads_bind, leads_fail]
        exact hs.cutShort hcalls
      | pending label old handle =>
        have hwritten := hseated (.pending label endpoint handle) (by rw [hs']; rfl)
        dsimp only [Occupant.driverState] at hwritten ⊢
        rw [leads_bind, leads_setTables, leads_bind, leads_note, hwritten]
        apply keeps_postInit hs (hlabelled.seated i _) label endpoint <;> rw [hs']
        · exact hset _
        · exact hcalls
      | active label old handle =>
        have hwritten := hseated (.pending label endpoint (some handle)) (by rw [hs']; rfl)
        dsimp only [Occupant.driverState] at hwritten ⊢
        rw [leads_bind, leads_disableInterface, leads_bind, leads_setTables, leads_bind, leads_note,
          hwritten]
        apply keeps_postInit hs (hlabelled.seated i _) label endpoint <;> rw [hs']
        · exact hset _
        · exact congrArg (List.cons (Entry.disabled (⟨i⟩ : DriverId) handle)) hcalls
    · intro _ _
      exact hs.cutShort hcalls
  · intro _ t ht
    exact hs.cutShort ht

theorem keeps_bringUp (h : s.tables.Sound) (hs : InOrder reply? before s) (label : Label)
    (endpoint : Endpoint) :
    Keeps reply? before (bringUp label endpoint : HubM config τ γ ι H Unit) s := by
  unfold bringUp
  rw [Keeps, leads_bind, leads_tables]
  cases s.tables.findLabel label with
  | some i => exact keeps_restart hs i endpoint
  | none =>
    dsimp only
    cases hfree : s.tables.findFree with
    | none =>
      have hpassed : InOrder reply? before { s with
          tables := { s.tables with dropped := s.tables.dropped + 1, fullReported := true } } :=
        hs.same (.of_drivers rfl) rfl
      dsimp only
      rw [leads_bind, leads_setTables]
      split
      · exact hpassed
      · exact hpassed.noted rfl
    | some i =>
      dsimp only
      rw [leads_bind]
      apply leads_expect
      · intro hub hbegun
        rw [leads_bind, leads_setTables, leads_bind, leads_note]
        -- The entry was free, so there was no interface in it.
        have hi := h.state_of_findFree hfree
        have hbegun' := SameSeats.begun hbegun
        have hlabelled : (s.tables.occupied i label endpoint).Labelled :=
          hs.labelled.seated i (.pending label endpoint none)
        have hstate : hub.state = update s.tables.state i (.pending label endpoint none) :=
          hbegun'.state.trans (seated_state s.tables i (.pending label endpoint none))
        apply keeps_postInit hs (hlabelled.same hbegun') label endpoint <;> rw [hi]
        · exact hstate
        · rfl
      · intro _ _
        exact hs.cutShort rfl

theorem keeps_apply (h : s.tables.Sound) (hs : InOrder reply? before s) (event : DriverEvent) :
    Keeps reply? before (apply event : HubM config τ γ ι H Unit) s := by
  unfold apply
  split
  · split
    · exact keeps_bringUp h hs ..
    · exact hs.noted rfl
  · exact hs

theorem Keeps.bind {action : HubM config τ γ ι H α} {next : α → HubM config τ γ ι H β}
    (h : Keeps reply? before action s) (hplays : Plays action s)
    (hnext : ∀ a t, t.tables.Sound → InOrder reply? before t → Keeps reply? before (next a) t) :
    Keeps reply? before (action >>= next) s := by
  rw [Keeps, leads_bind]
  unfold Keeps Plays Goes Leads at *
  split
  · rename_i a t hrun
    rw [hrun] at h hplays
    exact hnext a t hplays.1 h
  · rename_i fatal t hrun
    rw [hrun] at h
    exact h

variable {δ : Type} [Discovery δ]

theorem keeps_takeEvents (h : s.tables.Sound) (hs : InOrder reply? before s) (source : δ) :
    Keeps reply? before (takeEvents source : HubM config τ γ ι H δ) s := by
  -- The recursion is on the changes that are still to be reported.
  induction hbacklog : Discovery.backlog source using Nat.strong_induction_on generalizing source s with
  | _ count ih =>
    rw [takeEvents]
    split
    · rename_i event rest hpoll
      have hless : Discovery.backlog rest < count := hbacklog ▸ Discovery.backlog_poll _ _ _ hpoll
      -- The change is acted on right after it was reported.
      let t : HubSession config τ γ ι H :=
        { s with journal := .polled (.ok (some event)) :: s.journal }
      have ht : t.tables.Sound := h
      have hkept : InOrder reply? before t := hs.noted rfl
      rw [Keeps, leads_bind, leads_recordPoll]
      apply Keeps.bind (s := t) (keeps_apply ht hkept event) (plays_apply ht rfl)
      intro _ u hu hkept'
      exact ih _ hless hu hkept' rest rfl
    · exact hs.noted rfl
    · exact hs.noted rfl

theorem keeps_sweep (h : s.tables.Sound) (hs : InOrder reply? before s) (source : δ)
    (entries : List (Fin config.drivers)) :
    Keeps reply? before (sweep source entries : HubM config τ γ ι H Unit) s := by
  -- The induction is on the entries still to be looked at; the tables stay sound for each of them.
  induction entries generalizing s with
  | nil => exact hs
  | cons i rest ih =>
    apply (keeps_sweepEntry hs source i).bind (plays_sweepEntry h source i)
    intro _ t ht hkept
    exact ih ht hkept

theorem keeps_reconcile (h : s.tables.Sound) (hs : InOrder reply? before s) (source : δ) :
    Keeps reply? before (reconcile source : HubM config τ γ ι H δ) s := by
  apply (keeps_takeEvents h hs source).bind (plays_takeEvents h source)
  intro source' t ht hkept
  apply (keeps_sweep ht hkept source' _).bind (plays_sweep ht source' _)
  intro _ u _ hkept'
  exact hkept'

end Actions
end Hub

/-- The init reply that an operation takes, if it takes one. -/
def Operation.reply? : Operation config → Option InitReply
  | .process _ (.init reply) => some reply
  | .processFrame _ bytes =>
    match Reply.decode bytes with
    | .ok (.ok (.init reply)) => some reply
    | _ => none
  | _ => none

section Runs

variable [Transport τ] [GrantTable γ] [Interface ι H] {s : HubSession config τ γ ι H}

theorem Operation.keeps (h : s.tables.Sound) (operation : Operation config)
    (hfollowed : ∀ handle, Unshared handle (calls s.journal) →
      Followed s.tables.state (calls s.journal) handle) :
    Hub.Keeps operation.reply? (calls s.journal) operation.run s := by
  have hs : InOrder operation.reply? (calls s.journal) s :=
    ⟨⟨[], rfl, nofun⟩, h.labelled, hfollowed⟩
  have hanswered {ρ : Type} {reply? : Option InitReply} {before : Journal H}
      {action : HubM config τ γ ι H ρ} {f : ρ → Option (Except Refusal UInt32)}
      (hkeeps : Hub.Keeps reply? before action s) :
      Hub.Keeps reply? before (do pure (f (← action))) s := by
    rw [Hub.Keeps, leads_bind]
    exact hkeeps
  cases operation with
  | reconcile source => exact hanswered (Hub.keeps_reconcile h hs source)
  | send id segments => exact hanswered ((Hub.silent_transfer .send id segments).keeps hs)
  | receive id segments => exact hanswered ((Hub.silent_transfer .receive id segments).keeps hs)
  | configure id change => exact hanswered ((Hub.silent_configure id change).keeps hs)
  | process endpoint reply =>
    apply hanswered (Hub.keeps_process hs endpoint _)
    rintro init rfl
    rfl
  | processFrame endpoint bytes =>
    apply hanswered (Hub.keeps_processFrame hs endpoint _)
    intro init hdecoded
    simp only [reply?, hdecoded, Option.mem_def]

variable {heads : LaneId config → UInt32} {custody : Custody γ}

theorem Reachable.followed (h : Reachable heads custody s) (handle : H)
    (hunshared : Unshared handle (calls s.journal)) :
    Followed s.tables.state (calls s.journal) handle := by
  induction h generalizing handle with
  | new built initial =>
    obtain rfl := HubSession.eq_of_new built
    refine ⟨.absent, .start, .absent fun i => ?_⟩
    rw [Hub.startingAt_state]
    exact nofun
  | @after s t reached operation answer answered ih =>
    -- The operation starts from where the one before it left every interface.
    have hkeeps := operation.keeps reached.sound ih
    rw [Hub.Keeps, Leads, answered] at hkeeps
    exact hkeeps.followed handle hunshared
  | meanwhile _ _ _ _ _ ih => exact ih handle hunshared

/-- The calls about an interface come in the order of its life, as long as its handle is not given away
twice at a time; between operations the driver table has it exactly while it is in use, an enabled one
for an active driver and a disabled one for a pending driver. Once it is removed it is not heard of
again. What an operation has interfaces added and enabled with is from the reply it takes, and if it
ends the work the calls came in order so far. -/
theorem Reachable.callbacks_in_order (h : Reachable heads custody s) :
    (∀ handle, Unshared handle (calls s.journal) →
      (∃ phase, Course handle (calls s.journal) phase) ∧
      (∀ phase, Course handle (calls s.journal) phase → Standing s.tables.state handle phase) ∧
      (InUse handle (calls s.journal) ↔ ∃ i, (s.tables.state i).handle? = some handle) ∧
      ∀ later driver earlier, calls s.journal = later ++ .removed driver handle :: earlier →
        (∀ driver name capabilities, .added driver name capabilities (some handle) ∉ later) →
        ∀ entry ∈ later, entry.handle? ≠ some handle) ∧
    ∀ operation : Operation config, operation.run.Leads s
      (fun _ t => Stemming operation.reply? (calls s.journal) (calls t.journal))
      fun _ t => Stemming operation.reply? (calls s.journal) (calls t.journal) ∧
        ∀ handle, Unshared handle (calls t.journal) →
          ∃ phase, Course handle (calls t.journal) phase := by
  constructor
  · intro handle hunshared
    obtain ⟨phase, hcourse, hstanding⟩ := h.followed handle hunshared
    refine ⟨⟨phase, hcourse⟩, ?stands, ?inUse, ?silent⟩
    case stands =>
      intro phase' hcourse'
      rw [← hcourse.unique hcourse']
      exact hstanding
    case inUse =>
      rw [hcourse.inUse_iff]
      cases hstanding with
      | absent nowhere => simp [nowhere]
      | enabled i label endpoint active =>
        exact ⟨fun _ => ⟨i, congrArg Occupant.handle? active⟩, fun _ => nofun⟩
      | disabled i label endpoint pending =>
        exact ⟨fun _ => ⟨i, congrArg Occupant.handle? pending⟩, fun _ => nofun⟩
    case silent =>
      intro later driver earlier hcalls hnew
      rw [hcalls] at hcourse
      obtain ⟨phase', hremoved⟩ := hcourse.of_append
      obtain rfl := hremoved.of_removed
      exact (hcourse.silent hremoved hnew).2
  · intro operation
    apply (operation.keeps h.sound h.followed).mono
    · intro _ t ht
      exact ht.stems
    · intro _ t ht
      exact ⟨ht.stems, ht.course⟩

end Runs

/-! A driver reports its status, restarts and disappears. The next one gets an interface of its own. -/
namespace Trial

def succession : List (Operation small) :=
  [.process ⟨5⟩ (.status 3 ⟨1, 0, 0, 0, 0, 0⟩), .reconcile roster,
    .process ⟨5⟩ (.init { reply with id := 4 }), .reconcile ({} : Roster), .reconcile roster,
    .process ⟨5⟩ (.init { reply with id := 6 })]

theorem successor_served :
    Unshared 1 (calls (session.afterAll succession).journal) ∧
    Unshared 2 (calls (session.afterAll succession).journal) ∧
    (¬∃ i, ((session.afterAll succession).tables.state i).handle? = some 1) ∧
    (∃ i, ((session.afterAll succession).tables.state i).handle? = some 2) ∧
    ∃ phase, Course 2 (calls (session.afterAll succession).journal) phase ∧
      Standing (session.afterAll succession).tables.state 2 phase := by
  obtain ⟨hcourses, -⟩ := Reachable.callbacks_in_order (reached.afterAll succession)
  have hfirst : Unshared 1 (calls (session.afterAll succession).journal) := by decide +kernel
  have hsecond : Unshared 2 (calls (session.afterAll succession).journal) := by decide +kernel
  have hleft : ¬InUse 1 (calls (session.afterAll succession).journal) := by decide +kernel
  have hserved : InUse 2 (calls (session.afterAll succession).journal) := by decide +kernel
  obtain ⟨-, -, hgone, -⟩ := hcourses 1 hfirst
  obtain ⟨⟨phase, hcourse⟩, hstanding, hheld, -⟩ := hcourses 2 hsecond
  exact ⟨hfirst, hsecond, fun hi => hleft (hgone.mpr hi), hheld.mp hserved, phase, hcourse,
    hstanding phase hcourse⟩

end Trial
end DriverHub
