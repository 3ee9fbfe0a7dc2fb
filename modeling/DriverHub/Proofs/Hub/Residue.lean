import DriverHub.Proofs.Hub.Incoming
import DriverHub.Proofs.Hub.Outgoing
import DriverHub.Proofs.Request.Residue
import DriverHub.Proofs.Session.Blind

/-! What was left in free slots is never seen again. Two hubs whose tables differ in nothing else do the same
with the same operations: they answer the same, ask their collaborators for the same, and end for the same
reasons. -/
namespace DriverHub

open Function SessionM

variable {config : Config} {τ γ ι H α β : Type}

namespace Hub

/-- The tables agree in all but the kinds and grants of these slots. -/
def AgreeBut (aside : Set (Fin config.slots)) (hub hub' : Hub config H) : Prop :=
  ∃ pool, hub.pool.AgreeBut aside pool ∧ hub' = { hub with pool }

/-- The tables agree in all but the kinds and grants of free slots. -/
def Resembles (hub hub' : Hub config H) : Prop := hub.AgreeBut {i | i ∈ hub.pool.free} hub'

variable {hub hub' : Hub config H} {i : Fin config.drivers}

/-- A queue runs through slots that are not free. -/
theorem Stored.exists_chain (h : hub.Stored) (k : LaneId config) :
    ∃ slots, hub.pool.Chain (hub.queues k).first slots ∧ (hub.queues k).last = slots.getLast? ∧
      ∀ i ∈ slots, i ∉ hub.pool.free := by
  obtain ⟨layout, hl⟩ := h.described
  have hfree := hl.free_eq
  refine ⟨layout.slots k, hl.chain k, hl.last k, fun i hi => ?_⟩
  rw [← hfree]
  exact hl.free_apart k i hi

theorem Stored.first_not_free (h : hub.Stored) (k : LaneId config) {slot : Fin config.slots}
    (hfirst : (hub.queues k).first = some slot) : slot ∉ hub.pool.free := by
  obtain ⟨slots, hchain, -, hapart⟩ := h.exists_chain k
  rw [hchain.start_eq] at hfirst
  exact hapart slot (List.mem_of_head? hfirst)

theorem Stored.last_not_free (h : hub.Stored) (k : LaneId config) {slot : Fin config.slots}
    (hlast : (hub.queues k).last = some slot) : slot ∉ hub.pool.free := by
  obtain ⟨slots, -, hlast', hapart⟩ := h.exists_chain k
  rw [hlast'] at hlast
  exact hapart slot (List.mem_of_getLast? hlast)

/-- Free slots stay free while requests only leave a lane. -/
theorem Stored.free_subset (h : hub.Stored) (h' : hub'.Stored) {k : LaneId config}
    {lane : Lane config.slots} (hlane : hub'.lane = update hub.lane k lane)
    (hfewer : lane.bookings ⊆ hub.bookings k) {slot : Fin config.slots}
    (hslot : slot ∈ hub.pool.free) : slot ∈ hub'.pool.free := by
  have hbookings (k' : LaneId config) : hub'.bookings k' ⊆ hub.bookings k' := by
    have hlane' : hub'.bookings k' = (update hub.lane k lane k').bookings :=
      congrArg Lane.bookings (congrFun hlane k')
    rw [hlane', update_apply]
    split
    · rename_i hk
      rw [hk]
      exact hfewer
    · exact List.Subset.refl _
  obtain ⟨layout, hl⟩ := h.described
  obtain ⟨layout', hl'⟩ := h'.described
  rw [← hl.free_eq] at hslot
  rw [← hl'.free_eq]
  rcases hl'.covered slot with hfree | ⟨k, hused⟩
  · exact hfree
  · obtain ⟨b, hb, rfl⟩ := List.mem_map.mp hused
    rw [held_eq hl'] at hb
    have hheld : b ∈ layout.held k := by
      rw [held_eq hl]
      exact hbookings k hb
    exact absurd hslot (hl.free_apart k b.slot (Layout.Describes.mem_slots hheld))

theorem AgreeBut.resembles {aside : Set (Fin config.slots)} (h : hub.AgreeBut aside hub')
    (hfree : ∀ slot ∈ aside, slot ∈ hub.pool.free) : hub.Resembles hub' := by
  obtain ⟨pool, hpool, rfl⟩ := h
  exact ⟨pool, hpool.mono hfree, rfl⟩

/-- Both queues of an entry are drained, over the pool as it is then. -/
theorem cancelled_of_drained {pool : SlotPool config.slots} {sends receives : Released config.slots}
    (hsends : (hub.queues (i, .send)).cancelAll pool = .ok sends)
    (hreceives : (hub.queues (i, .receive)).cancelAll sends.pool = .ok receives) :
    ({ hub with pool } : Hub config H).cancelled i = .ok (sends.grants ++ receives.grants,
      { hub.modify i fun driver => { driver with send := sends.queue, receive := receives.queue } with
        pool := receives.pool }) := by
  change (hub.driver i).send.cancelAll pool = _ at hsends
  change (hub.driver i).receive.cancelAll sends.pool = _ at hreceives
  unfold Hub.cancelled
  change ((hub.driver i).send.cancelAll pool >>= _) = _
  rw [hsends]
  change ((hub.driver i).receive.cancelAll sends.pool >>= _) = _
  rw [hreceives]
  rfl

theorem cancelled_alike (h : hub.Stored) (hresembles : hub.Resembles hub') (i : Fin config.drivers) :
    Alike (fun done done' => done'.1 = done.1 ∧ done.2.Resembles done'.2) (hub.cancelled i)
      (hub'.cancelled i) := by
  obtain ⟨pool, hpool, rfl⟩ := hresembles
  obtain ⟨sends, hsends, -, hstored, hlane⟩ := h.cancelAll (i, .send)
  obtain ⟨receives, hreceives, -, hstored', hlane'⟩ := hstored.cancelAll (i, .receive)
  have hreceive : (hub.withQueue (i, .send) sends.queue sends.pool).queues (i, .receive) =
      hub.queues (i, .receive) := by
    rw [withQueue_queues, update_of_ne (by simp)]
  rw [hreceive] at hreceives
  have hfree {slot : Fin config.slots} (hslot : slot ∈ hub.pool.free) : slot ∈ sends.pool.free :=
    h.free_subset hstored hlane (List.nil_subset _) hslot
  have hfree' {slot : Fin config.slots} (hslot : slot ∈ sends.pool.free) :
      slot ∈ receives.pool.free :=
    hstored.free_subset hstored' hlane' (List.nil_subset _) hslot
  -- The queues are drained one after the other, each along slots that are not free.
  obtain ⟨slots, hchain, -, hslots⟩ := h.exists_chain (i, .send)
  obtain ⟨slots', hchain', -, hslots'⟩ := hstored.exists_chain (i, .receive)
  rw [hreceive] at hchain'
  have hsent := Queue.cancelAll_alike _ hpool hchain hslots
  obtain ⟨sends', hsends', hsend⟩ := hsent.exists_ok hsends
  have hreceived := Queue.cancelAll_alike _ hsend.pool hchain' fun slot hmem hslot =>
    hslots' slot hmem (hfree hslot)
  obtain ⟨receives', hreceives', hreceive'⟩ := hreceived.exists_ok hreceives
  have hdone : hub.cancelled i = _ := cancelled_of_drained hsends hreceives
  have hdone' := cancelled_of_drained hsends' hreceives'
  rw [hsend.queue, hreceive'.queue, hsend.grants, hreceive'.grants] at hdone'
  rw [hdone, hdone']
  refine .ok ⟨rfl, receives'.pool, ?_, rfl⟩
  exact hreceive'.pool.mono fun slot hslot => hfree' (hfree hslot)

/-- The same requests are completed. -/
theorem completed?_alike (h : hub.Stored) (hresembles : hub.Resembles hub') (i : Fin config.drivers)
    (kind : RequestKind) (number : UInt32) :
    Alike (Option.Rel fun done done' => done'.1 = done.1 ∧ done.2.Resembles done'.2)
      (hub.completed? i kind number) (hub'.completed? i kind number) := by
  obtain ⟨pool, hpool, rfl⟩ := hresembles
  have hqueue (pool : SlotPool config.slots) {answer : Option (Released config.slots)}
      (hdone : (hub.queues (i, kind.direction)).complete? pool kind number = .ok answer) :
      ({ hub with pool } : Hub config H).completed? i kind number =
        .ok (answer.map fun gone => (gone.grants,
          hub.withQueue (i, kind.direction) gone.queue gone.pool)) := by
    unfold Hub.completed?
    change ((hub.queues (i, kind.direction)).complete? pool kind number >>= _) = _
    rw [hdone]
    cases answer <;> rfl
  have hcompleted := Queue.complete?_alike (hub.queues (i, kind.direction)) hpool
    (fun _ hfirst => h.first_not_free _ hfirst) kind number
  rcases hcompleted.outcome with ⟨answer, answer', hdone, hdone', hsame⟩ |
    ⟨defect, hdone, hdone', -⟩
  · have hleft : hub.completed? i kind number = _ := hqueue hub.pool hdone
    rw [hleft, hqueue pool hdone']
    cases hsame with
    | none => exact .ok .none
    | @some gone gone' hgone =>
      rcases h.completed? i kind number with ⟨-, hnone⟩ |
        ⟨b, rest, queue, freed, -, -, -, hdone, hstored, hlane⟩
      · cases hnone.symm.trans hleft
      · obtain ⟨-, hhub⟩ := Prod.mk.inj (Option.some.inj (Except.ok.inj (hdone.symm.trans hleft)))
        rw [hhub] at hstored hlane
        refine .ok (.some ⟨hgone.grants, gone'.pool, ?_, ?_⟩)
        · apply hgone.pool.mono
          intro slot hslot
          exact h.free_subset hstored hlane (List.tail_subset _) hslot
        · exact congrArg (hub.withQueue (i, kind.direction) · gone'.pool) hgone.queue
  · unfold Hub.completed?
    change Alike _ ((hub.queues (i, kind.direction)).complete? hub.pool kind number >>= _)
      ((hub.queues (i, kind.direction)).complete? pool kind number >>= _)
    rw [hdone, hdone']
    exact .error trivial

theorem begun_alike (hresembles : hub.Resembles hub') (i : Fin config.drivers) :
    Alike Resembles (hub.begun i) (hub'.begun i) := by
  obtain ⟨pool, hpool, rfl⟩ := hresembles
  unfold Hub.begun
  change Alike Resembles ((hub.driver i).send.begin >>= _) ((hub.driver i).send.begin >>= _)
  cases (hub.driver i).send.begin with
  | error defect => exact .error trivial
  | ok send =>
    change Alike Resembles ((hub.driver i).receive.begin >>= _) ((hub.driver i).receive.begin >>= _)
    cases (hub.driver i).receive.begin with
    | error defect => exact .error trivial
    | ok receive => exact .ok ⟨pool, hpool, rfl⟩

theorem settled_alike (hresembles : hub.Resembles hub') :
    Alike Resembles hub.settled hub'.settled := by
  obtain ⟨pool, hpool, rfl⟩ := hresembles
  unfold Hub.settled
  dsimp only
  split
  · exact .error trivial
  · exact .ok ⟨pool, hpool, rfl⟩

theorem Resembles.state (hresembles : hub.Resembles hub') (i : Fin config.drivers) :
    (hub'.driver i).state = (hub.driver i).state := by
  obtain ⟨pool, -, rfl⟩ := hresembles
  rfl

theorem Resembles.setState (hresembles : hub.Resembles hub') (i : Fin config.drivers)
    (state : DriverState H) : (hub.setState i state).Resembles (hub'.setState i state) := by
  obtain ⟨pool, hpool, rfl⟩ := hresembles
  exact ⟨pool, hpool, rfl⟩

theorem Resembles.opened (hresembles : hub.Resembles hub') (i : Fin config.drivers)
    (maxSend maxReceive : UInt8) :
    (hub.opened i maxSend maxReceive).Resembles (hub'.opened i maxSend maxReceive) := by
  obtain ⟨pool, hpool, rfl⟩ := hresembles
  exact ⟨pool, hpool, rfl⟩

theorem Resembles.occupied (hresembles : hub.Resembles hub') (i : Fin config.drivers) (label : Label)
    (endpoint : Endpoint) :
    (hub.occupied i label endpoint).Resembles (hub'.occupied i label endpoint) := by
  obtain ⟨pool, hpool, rfl⟩ := hresembles
  exact ⟨pool, hpool, rfl⟩

theorem Resembles.freed (hresembles : hub.Resembles hub') (i : Fin config.drivers) :
    (hub.freed i).Resembles (hub'.freed i) := by
  obtain ⟨pool, hpool, rfl⟩ := hresembles
  have hlowered (hub : Hub config H) (mark : Nat) :
      ({ hub with pool } : Hub config H).lowered mark = hub.lowered mark := by
    induction mark with
    | zero => rfl
    | succ mark ih =>
      rw [lowered, lowered, ih]
  have hmark : (({ hub with pool } : Hub config H).seated i .free).lowered hub.highWater =
      (hub.seated i .free).lowered hub.highWater := hlowered (hub.seated i .free) hub.highWater
  refine ⟨pool, hpool, ?_⟩
  exact congrArg (fun highWater => ({ hub.seated i .free with pool, highWater } : Hub config H)) hmark

/-- A reserved request enters its queue. -/
theorem committed_alike (h : hub.Stored) {kind : RequestKind} {ticket : Ticket config.slots}
    {primed primed' : SlotPool config.slots}
    (hreserve : (hub.queues (i, kind.direction)).reserve hub.pool kind = some (ticket, primed))
    (hprimed : primed.AgreeBut ({j | j ∈ hub.pool.free} \ {ticket.slot}) primed')
    (grants : SlotGrants) :
    Alike Resembles
      (({ hub with pool := primed.setGrants ticket.slot grants } : Hub config H).committed i ticket)
      (({ hub with pool := primed'.setGrants ticket.slot grants } : Hub config H).committed i
        ticket) := by
  have hkind : ticket.kind = kind := (Queue.reserve_eq_some.mp hreserve).2.2.2.1
  subst hkind
  obtain ⟨done, hdone, henqueued⟩ := h.enqueued grants hreserve
  -- The slot was prepared on both sides, and the queue ends in a slot that is not free.
  have hslot : ticket.slot ∉ {j | j ∈ hub.pool.free} \ {ticket.slot} := fun hmem => hmem.2 rfl
  have hgranted : (primed.setGrants ticket.slot grants).AgreeBut
      ({j | j ∈ hub.pool.free} \ {ticket.slot}) (primed'.setGrants ticket.slot grants) :=
    hprimed.modify hslot _
  have hcommit := Queue.commit_alike (hub.queues (i, ticket.kind.direction)) hgranted hslot
    fun _ hlast hmem => h.last_not_free _ hlast hmem.1
  have hall : Alike (AgreeBut ({j | j ∈ hub.pool.free} \ {ticket.slot}))
      (({ hub with pool := primed.setGrants ticket.slot grants } : Hub config H).committed i ticket)
      (({ hub with pool := primed'.setGrants ticket.slot grants } : Hub config H).committed i
        ticket) := by
    apply hcommit.bind
    rintro ⟨queue, pool⟩ ⟨queue', pool'⟩ ⟨rfl, hpool⟩
    exact .ok ⟨pool', hpool, rfl⟩
  obtain ⟨done', hdone', hagree⟩ := hall.exists_ok hdone
  rw [hdone, hdone']
  apply Agree.ok
  apply hagree.resembles
  rintro slot ⟨hfree, hne⟩
  change slot ∈ hub.pool.free at hfree
  rw [henqueued.free] at hfree
  exact (List.mem_cons.mp hfree).resolve_left hne

end Hub
end DriverHub
