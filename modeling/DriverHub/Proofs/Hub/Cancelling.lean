import DriverHub.Proofs.Hub.Grants
import DriverHub.Proofs.Hub.Spares
import DriverHub.Proofs.Hub.Table

/-! Work that is cancelled. A driver that comes up again, or that is gone, loses all its requests: their
grants are revoked in order, their slots and spares come back, and its queues move on past their numbers.
What the other drivers have in flight stays as it is. -/
namespace DriverHub

open Function SessionM

variable {config : Config} {τ γ ι H : Type}

namespace Queue

variable {n : Nat}

/-- The queue without its requests and closed, so many numbers past the one that comes next. -/
def emptied (queue : Queue n) (steps : UInt32) : Queue n :=
  { queue with
    head := queue.head + UInt32.ofNat queue.depth + steps
    depth := 0
    limit := 0
    first := none
    last := none }

theorem begin_emptied (queue : Queue n) (steps : UInt32) :
    (queue.emptied steps).begin = .ok (queue.emptied (steps + 1)) := by
  simp only [begin, emptied, ne_eq, not_true_eq_false, ↓reduceIte, UInt32.add_assoc]

end Queue

namespace Hub

section Tables

variable {hub hub' hub₁ hub₂ : Hub config H} {i : Fin config.drivers}

/-- All requests left a queue, and it is closed. Their slots come first in the free list, that of the
latest request in front, and the spares that they had borrowed are back. Nothing else has changed. -/
structure Cleared (hub : Hub config H) (k : LaneId config) (hub' : Hub config H) : Prop where
  queue : hub'.queues k = (hub.queues k).emptied 0
  queues : ∀ k', k' ≠ k → hub'.queues k' = hub.queues k'
  bookings : ∀ k', hub'.bookings k' = if k' = k then [] else hub.bookings k'
  free : hub'.pool.free = ((hub.bookings k).map Booking.slot).reverse ++ hub.pool.free
  freeCount : hub'.pool.freeCount = hub.pool.freeCount + (hub.queues k).depth
  spares : hub'.pool.spares = hub.pool.spares + owed (hub.queues k).guaranteed (hub.bookings k)
  spareTotal : hub'.pool.spareTotal = hub.pool.spareTotal

/-- A queue is cancelled and put back with the pool. -/
theorem Stored.cleared (h : hub.Stored) (k : LaneId config) :
    ∃ gone, (hub.queues k).cancelAll hub.pool = .ok gone ∧
      gone.grants = (hub.bookings k).flatMap (fun b => b.grants.present) ∧
      (hub.withQueue k gone.queue gone.pool).Stored ∧
      hub.Cleared k (hub.withQueue k gone.queue gone.pool) := by
  obtain ⟨gone, hgone, hgrants, hstored, -⟩ := h.cancelAll k
  obtain ⟨layout, hl⟩ := h.described
  have hheld := held_eq hl k
  have howed := h.owed_le k
  rw [← hheld] at howed
  obtain ⟨gone', hgone', -, hhead, hdepth, hlimit, hguaranteed, hspares, htotal, hdesc⟩ :=
    hl.cancelAll k howed
  obtain rfl := Except.ok.inj (hgone.symm.trans hgone')
  -- The whole list of the queue is dropped, so nothing is left to be its first or last request.
  have hnil : (layout.drop k (layout.held k).length).held k = [] := by simp [Layout.drop]
  obtain ⟨hfirst, hlast⟩ := hdesc.ends_eq_none hnil
  rw [update_self] at hfirst hlast
  have hdesc' : (layout.drop k (layout.held k).length).Describes
      (hub.withQueue k gone.queue gone.pool).pool
      (hub.withQueue k gone.queue gone.pool).queues := by
    rw [withQueue_queues]
    exact hdesc
  have hfree : (layout.drop k (layout.held k).length).free =
      ((hub.bookings k).map Booking.slot).reverse ++ hub.pool.free := by
    have hall : (layout.slots k).take (layout.held k).length = layout.slots k := by
      apply List.take_of_length_le
      rw [Layout.slots, List.length_map]
    rw [← hheld, ← hl.free_eq]
    simp only [Layout.drop, hall]
    rfl
  refine ⟨gone, hgone, hgrants, hstored, ?_⟩
  constructor
  case queue =>
    rw [withQueue_queues, update_self]
    rw [hl.depth] at hhead
    cases hqueue : gone.queue
    rw [hqueue] at hhead hdepth hlimit hguaranteed hfirst hlast
    simp only [Queue.emptied, Queue.mk.injEq, UInt32.add_zero]
    exact ⟨hhead, hdepth, hlimit, hguaranteed, hfirst, hlast⟩
  case queues =>
    intro k' hk
    rw [withQueue_queues, update_of_ne hk]
  case bookings =>
    intro k'
    rw [← held_eq hdesc', ← held_eq hl]
    split
    · subst k'
      exact hnil
    · rename_i hk
      simp [Layout.drop, hk]
  case free => rw [← hdesc'.free_eq, hfree]
  case freeCount =>
    rw [← hdesc'.free_count, hfree, List.length_append, List.length_reverse, List.length_map,
      h.length_bookings, ← hl.free_eq, hl.free_count, Nat.add_comm]
  case spares =>
    rw [← hheld]
    exact hspares
  case spareTotal => exact htotal

/-- All requests left both queues of an entry. Their slots come first in the free list, those of the
latest receives in front, and every spare that a send had borrowed is back. Both queues are closed and
have moved past the numbers of the requests, and so many more. The other entries, and the requests in
their queues, are as they were. -/
structure Emptied (hub : Hub config H) (i : Fin config.drivers) (steps : UInt32)
    (hub' : Hub config H) : Prop where
  queues : ∀ d, hub'.queues (i, d) = (hub.queues (i, d)).emptied steps
  others : ∀ j, j ≠ i → hub'.driver j = hub.driver j
  bookings : ∀ k, hub'.bookings k = if k.1 = i then [] else hub.bookings k
  free : hub'.pool.free =
    ((hub.bookings (i, .send) ++ hub.bookings (i, .receive)).map Booking.slot).reverse ++ hub.pool.free
  freeCount : hub'.pool.freeCount = hub.pool.freeCount +
    ((hub.queues (i, .send)).depth + (hub.queues (i, .receive)).depth)
  spares : hub'.pool.spares = hub.pool.spares +
    ((hub.queues (i, .send)).depth - config.sendDepth.toNat)
  spareTotal : hub'.pool.spareTotal = hub.pool.spareTotal

/-- Only one entry is written. -/
theorem driver_of_set {driver : Driver config.slots H}
    (hset : hub'.drivers = hub.drivers.set i driver i.isLt) {j : Fin config.drivers} (hj : j ≠ i) :
    hub'.driver j = hub.driver j := by
  have hne : (i : Nat) ≠ j := fun heq => hj (Fin.ext heq.symm)
  simp only [Hub.driver, hset, Fin.getElem_fin, Vector.getElem_set_ne i.isLt j.isLt hne]

theorem others_of_cancelled {grants : List GrantId} (h : hub.cancelled i = .ok (grants, hub'))
    {j : Fin config.drivers} (hj : j ≠ i) : hub'.driver j = hub.driver j := by
  obtain ⟨sends, -, h⟩ := except_bind_eq_ok.mp h
  obtain ⟨receives, -, h⟩ := except_bind_eq_ok.mp h
  cases h
  exact driver_of_set rfl hj

theorem Stored.emptied (h : hub.Stored) (i : Fin config.drivers) :
    ∃ hub', hub.cancelled i = .ok (hub.grantsAt i, hub') ∧ hub.SameEntries hub' ∧
      hub.Emptied i 0 hub' := by
  obtain ⟨sends, hsends, -, hstored, hclear⟩ := h.cleared (i, .send)
  obtain ⟨receives, hreceives, -, -, hclear'⟩ := hstored.cleared (i, .receive)
  obtain ⟨hub', hcancelled, -, hsame, -⟩ := h.cancelled i
  -- Cancelling puts both queues back at once, which comes to the same as one after the other.
  have hboth : hub' = (hub.withQueue (i, .send) sends.queue sends.pool).withQueue (i, .receive)
      receives.queue receives.pool := by
    have hsends' : (hub.driver i).send.cancelAll hub.pool = .ok sends := hsends
    rw [withQueue_queues, update_of_ne (by simp)] at hreceives
    have hreceives' : (hub.driver i).receive.cancelAll sends.pool = .ok receives := hreceives
    have hunfolded := hcancelled
    unfold Hub.cancelled at hunfolded
    simp only [bind, Except.bind, hsends', hreceives', pure, Except.pure] at hunfolded
    rw [withQueue_withQueue]
    exact (congrArg Prod.snd (Except.ok.inj hunfolded)).symm
  have hreceive := hclear.queues (i, .receive) (by simp)
  have hsend := hclear'.queues (i, .send) (by simp)
  have hbookings := hclear.bookings (i, .receive)
  rw [if_neg (by simp)] at hbookings
  refine ⟨hub', hcancelled, hsame, ⟨?queues, fun j hj => others_of_cancelled hcancelled hj, ?bookings,
    ?free, ?freeCount, ?spares, ?spareTotal⟩⟩
  case queues =>
    intro d
    rw [hboth]
    cases d with
    | send => rw [hsend, hclear.queue]
    | receive => rw [hclear'.queue, hreceive]
  case bookings =>
    rintro ⟨j, d⟩
    rw [hboth, hclear'.bookings, hclear.bookings]
    cases d <;> by_cases hj : j = i <;> simp [hj]
  case free =>
    rw [hboth, hclear'.free, hbookings, hclear.free, List.map_append, List.reverse_append,
      List.append_assoc]
  case freeCount => rw [hboth, hclear'.freeCount, hreceive, hclear.freeCount, Nat.add_assoc]
  case spares =>
    -- Sends owe what they have beyond the guarantee, and receives owe nothing.
    rw [hboth, hclear'.spares, hreceive, hbookings, hclear.spares, h.owed_send, h.owed_receive]
    rfl
  case spareTotal => rw [hboth, hclear'.spareTotal, hclear.spareTotal]

/-- What happens to an entry apart from its queues takes no part. -/
theorem Emptied.congr {steps : UInt32} (h : hub.Emptied i steps hub₁)
    (hpool : hub₂.pool = hub₁.pool) (hqueues : hub₂.queues = hub₁.queues)
    (hothers : ∀ j, j ≠ i → hub₂.driver j = hub₁.driver j) : hub.Emptied i steps hub₂ := by
  refine ⟨?queues, fun j hj => (hothers j hj).trans (h.others j hj), ?bookings, ?free, ?freeCount,
    ?spares, ?spareTotal⟩
  case queues =>
    rw [hqueues]
    exact h.queues
  case bookings =>
    intro k
    rw [← h.bookings k, Hub.bookings, Hub.bookings, hpool, hqueues]
  case free =>
    rw [hpool]
    exact h.free
  case freeCount =>
    rw [hpool]
    exact h.freeCount
  case spares =>
    rw [hpool]
    exact h.spares
  case spareTotal =>
    rw [hpool]
    exact h.spareTotal

theorem Emptied.entered {steps : UInt32} (h : hub.Emptied i steps hub₁) (occupant : Occupant H)
    {highWater pending : Nat} : hub.Emptied i steps (hub₁.entered i occupant highWater pending) :=
  h.congr rfl (seated_queues hub₁ i occupant) fun _ hj => driver_of_set rfl hj

/-- Queues that were emptied are made ready for a new start. -/
theorem Emptied.begun {steps : UInt32} (h : hub.Emptied i steps hub₁) :
    ∃ hub₂, hub₁.begun i = .ok hub₂ ∧ hub.Emptied i (steps + 1) hub₂ := by
  have hbegin (d : Direction) : (hub₁.queues (i, d)).begin =
      .ok ((hub.queues (i, d)).emptied (steps + 1)) := by
    rw [h.queues, Queue.begin_emptied]
  have hsend : (hub₁.driver i).send.begin = _ := hbegin .send
  have hreceive : (hub₁.driver i).receive.begin = _ := hbegin .receive
  have hbegun : hub₁.begun i = .ok (hub₁.modify i fun driver => { driver with
      send := (hub.queues (i, .send)).emptied (steps + 1)
      receive := (hub.queues (i, .receive)).emptied (steps + 1) }) := by
    unfold Hub.begun
    simp only [bind, Except.bind, hsend, hreceive, pure, Except.pure]
  refine ⟨_, hbegun, ⟨?queues, ?others, ?bookings, h.free, h.freeCount, h.spares, h.spareTotal⟩⟩
  case queues =>
    intro d
    rw [modify_queues, if_pos rfl]
    cases d <;> rfl
  case others =>
    intro j hj
    exact (driver_of_set rfl hj).trans (h.others j hj)
  case bookings =>
    intro k
    rw [Hub.bookings, modify_queues]
    by_cases hk : k.1 = i
    · rw [if_pos hk.symm, if_pos hk]
      cases k.2 <;> rfl
    · have hold := h.bookings k
      rw [if_neg hk] at hold
      rw [if_neg (Ne.symm hk), if_neg hk]
      exact hold

end Tables

section Sessions

variable [GrantTable γ]

/-- The work ends because a grant of the requests of an entry is not revoked. -/
def Unrevoked (s : HubSession config τ γ ι H) (i : Fin config.drivers) (fatal : Fatal) : Prop :=
  ∃ grant cause, RevokesUpTo grant cause s.grants (s.tables.grantsAt i) ∧
    fatal = .revocation grant cause

/-- The work ends because the request to start is not delivered. -/
def Unasked [Transport τ] (s : HubSession config τ γ ι H) (i : Fin config.drivers)
    (endpoint : Endpoint) (fatal : Fatal) : Prop :=
  ∃ cause transport, Transport.send s.transport endpoint
    (.init ((s.tables.queues (i, .send)).emptied 1).head) = (.error cause, transport) ∧
    fatal = .delivery .init endpoint cause

/-- A known driver was restarted. Its requests are cancelled, and it is asked to start at the endpoint
announced, under the number that its send queue has now. It keeps its entry, its label and its interface,
which is disabled if the driver was active. -/
structure Restarted [Transport τ] [Interface ι H] (s : HubSession config τ γ ι H)
    (i : Fin config.drivers) (label : Label) (endpoint : Endpoint) (t : HubSession config τ γ ι H) :
    Prop where
  state : t.tables.state =
    update s.tables.state i (.pending label endpoint (s.tables.state i).handle?)
  emptied : s.tables.Emptied i 1 t.tables
  revoked : Revokes s.grants (s.tables.grantsAt i) t.grants
  sent : Transport.send s.transport endpoint (.init (t.tables.queues (i, .send)).head) =
    (.ok (), t.transport)
  interface : t.interface = (s.tables.state i).quieted s.interface
  journal : t.journal =
    .posted ⟨i⟩ endpoint (.init (t.tables.queues (i, .send)).head) (.ok ()) ::
      .noticed (.restarted ⟨i⟩ endpoint) :: ((s.tables.state i).quieting ⟨i⟩ ++
        (revocations (s.tables.grantsAt i) ++ s.journal))

/-- A driver was taken down. Its requests are cancelled, its interface, if any, is removed, and its entry
is free. -/
structure Dismissed [Interface ι H] (s : HubSession config τ γ ι H) (i : Fin config.drivers)
    (t : HubSession config τ γ ι H) : Prop where
  state : t.tables.state = update s.tables.state i .free
  emptied : s.tables.Emptied i 0 t.tables
  revoked : Revokes s.grants (s.tables.grantsAt i) t.grants
  transport : t.transport = s.transport
  interface : t.interface = (s.tables.state i).withdrawn s.interface
  journal : ∃ endpoint, (s.tables.state i).endpoint? = some endpoint ∧
    t.journal = .noticed (.gone ⟨i⟩ endpoint) :: ((s.tables.state i).withdrawing ⟨i⟩ ++
      (revocations (s.tables.grantsAt i) ++ s.journal))

variable [Transport τ] [Interface ι H]
variable {s : HubSession config τ γ ι H} {i : Fin config.drivers}

theorem goes_restart_cancelled (h : s.tables.Sound) {label : Label}
    (hknown : (s.tables.state i).label? = some label) (endpoint : Endpoint) :
    (restart i endpoint : HubM config τ γ ι H Unit).Goes s
      (fun _ t => Restarted s i label endpoint t)
      fun fatal => Unrevoked s i fatal ∨ Unasked s i endpoint fatal := by
  obtain ⟨hub₁, hcancelled, hsame, hemptied⟩ := h.toStored.emptied i
  obtain ⟨hub₂, hbegun, hemptied₂⟩ := hemptied.begun
  have hseats : s.tables.SameSeats hub₂ := hsame.toSameSeats.trans (.begun hbegun)
  have hlabelled := h.labelled.same hseats
  rw [show (0 + 1 : UInt32) = 1 from rfl] at hemptied₂
  unfold restart
  rw [goes_bind]
  refine goes_cancelRequests hcancelled (fun g hg => ?_) fun grant cause hg =>
    .inl ⟨grant, cause, hg, rfl⟩
  -- Whatever the driver was before, what is left to do is to ask it to start.
  have hpost (t : HubSession config τ γ ι H) (hstate' : t.tables.state =
      update s.tables.state i (.pending label endpoint (s.tables.state i).handle?))
      (hemptied' : s.tables.Emptied i 1 t.tables) (htransport : t.transport = s.transport)
      (hgrants : t.grants = g) (hinterface : t.interface = (s.tables.state i).quieted s.interface)
      (hjournal : t.journal = .noticed (.restarted ⟨i⟩ endpoint) ::
        ((s.tables.state i).quieting ⟨i⟩ ++
          (revocations (s.tables.grantsAt i) ++ s.journal))) :
      (postInit i endpoint : HubM config τ γ ι H Unit).Goes t
        (fun _ u => Restarted s i label endpoint u)
        fun fatal => Unrevoked s i fatal ∨ Unasked s i endpoint fatal := by
    apply goes_postInit
    · intro transport hsent
      rw [htransport] at hsent
      exact ⟨hstate', hemptied', hgrants ▸ hg, hsent, hinterface, congrArg _ hjournal⟩
    · intro cause transport hsent
      rw [htransport] at hsent
      have hhead : (t.view.lane (i, .send)).head = ((s.tables.queues (i, .send)).emptied 1).head :=
        congrArg Queue.head (hemptied'.queues .send)
      rw [hhead] at hsent
      exact .inr ⟨cause, transport, hsent, rfl⟩
  -- The label stays that of the driver, so it is the same one that has the entry.
  have hseated (handle : Option H) : hub₂.setState i (.pending endpoint handle) =
      hub₂.seated i (.pending label endpoint handle) := by
    apply setState_eq_seated (.pending label endpoint handle) ?_ hlabelled
    rw [hseats.state]
    exact hknown
  have hstate (handle : Option H) : (hub₂.seated i (.pending label endpoint handle)).state =
      update s.tables.state i (.pending label endpoint handle) := by
    rw [seated_state, hseats.state]
  rw [goes_bind, goes_tables]
  dsimp only
  rw [hbegun, goes_bind, goes_expect, (hlabelled.driver_eq i).1, hseats.state]
  cases hs : s.tables.state i with
  | free =>
    rw [hs] at hknown
    cases hknown
  | pending label' endpoint' handle =>
    rw [hs] at hpost
    dsimp only [Occupant.driverState]
    rw [hseated]
    exact hpost _ (hstate _) (hemptied₂.entered _) rfl rfl rfl rfl
  | active label' endpoint' handle =>
    rw [hs] at hpost
    dsimp only [Occupant.driverState]
    rw [hseated]
    exact hpost _ (hstate _) (hemptied₂.entered _) rfl rfl rfl rfl

omit [Transport τ] in
theorem goes_takeDown_cancelled (h : s.tables.SoundBut i) (hused : s.tables.state i ≠ .free) :
    (takeDown i : HubM config τ γ ι H Unit).Goes s (fun _ t => Dismissed s i t) (Unrevoked s i) := by
  obtain ⟨hub₁, hcancelled, hsame, hemptied⟩ := h.toStored.emptied i
  unfold takeDown
  rw [goes_bind]
  refine goes_cancelRequests hcancelled (fun g hg => ?_) fun grant cause hg => ⟨grant, cause, hg, rfl⟩
  have hlabelled := h.labelled.same hsame.toSameSeats
  have hfreed (pending : Nat) : (({ hub₁ with pending } : Hub config H).freed i).state =
      update s.tables.state i .free := by
    rw [← hsame.state]
    exact seated_state hub₁ i .free
  rw [goes_bind, goes_tables]
  dsimp only
  rw [(hlabelled.driver_eq i).1, hsame.state]
  -- A pending driver is counted out before it goes, with the interface that it may have kept.
  cases hs : s.tables.state i with
  | free => exact absurd hs hused
  | pending label endpoint handle =>
    have hpos : hub₁.pending ≠ 0 := by
      rw [hsame.pending]
      exact Nat.ne_of_gt (h.settled (by rw [hs]; rfl)).2
    dsimp only [Occupant.driverState]
    rw [goes_bind, settled, if_neg hpos, goes_expect]
    cases handle with
    | none =>
      refine ⟨hfreed _, hemptied.entered .free, hg, rfl, ?_, endpoint, ?_, ?_⟩ <;> rw [hs] <;> rfl
    | some handle =>
      refine ⟨hfreed _, hemptied.entered .free, hg, rfl, ?_, endpoint, ?_, ?_⟩ <;> rw [hs] <;> rfl
  | active label endpoint handle =>
    refine ⟨hfreed _, hemptied.entered .free, hg, rfl, ?_, endpoint, ?_, ?_⟩ <;> rw [hs] <;> rfl

end Sessions

/-- The tables with which the driver of an entry may be taken down: those that are there, or, while its
interface is being enabled, those in which its queues were just opened. -/
inductive Dismissible (hub : Hub config H) (i : Fin config.drivers) : Hub config H → Prop
  | known (used : hub.state i ≠ .free) : Dismissible hub i hub
  | opened (label : Label) (endpoint : Endpoint) (handle? : Option H) (handle : H)
      (maxSend maxReceive : UInt8) (pending : hub.state i = .pending label endpoint handle?) :
      Dismissible hub i
        ((hub.setState i (.pending endpoint (some handle))).opened i maxSend maxReceive)

theorem Dismissible.soundBut {hub hub' : Hub config H} {i : Fin config.drivers}
    (h : hub.Dismissible i hub') (hsound : hub.Sound) : hub'.SoundBut i ∧ hub'.state i ≠ .free := by
  cases h with
  | known used => exact ⟨hsound.but i, used⟩
  | opened label endpoint handle? handle maxSend maxReceive pending =>
    have hseated : hub.setState i (.pending endpoint (some handle)) =
        hub.seated i (.pending label endpoint (some handle)) :=
      setState_eq_seated (.pending label endpoint (some handle)) (by rw [pending]; rfl) hsound.labelled
    rw [hseated]
    obtain ⟨hbut, hstate, -⟩ := hsound.opened pending (some handle) maxSend maxReceive rfl
    refine ⟨hbut, ?_⟩
    rw [hstate, update_self]
    exact Occupant.pending_ne_free

theorem Sound.findLabel_eq_some {hub : Hub config H} (h : hub.Sound)
    (hlabels : Apart Occupant.label? hub.state) {i : Fin config.drivers} {label : Label}
    (hi : (hub.state i).label? = some label) : hub.findLabel label = some i := by
  cases hfound : hub.findLabel label with
  | none => exact absurd hi (label_ne_of_findLabel h hfound i)
  | some j =>
    rw [h.labelled.findLabel_eq] at hfound
    have hj : (hub.state j).label? = some label := of_decide_eq_true (state_of_first hfound)
    rw [hlabels j i label hj hi]

theorem apply_of_announced [Transport τ] [GrantTable γ] [Interface ι H] {event : DriverEvent}
    {label : Label} {endpoint : Endpoint} (h : event.announced? = some (label, endpoint)) :
    (apply event : HubM config τ γ ι H Unit) = bringUp label endpoint := by
  unfold DriverEvent.announced? at h
  split at h
  · rename_i endpoint' label' hstatus hendpoint hlabel
    cases h
    simp only [apply, hstatus, hendpoint, hlabel]
  · cases h

end Hub

section Runs

variable [Transport τ] [GrantTable γ] [Interface ι H]

/-- The sessions between the steps of operations: one that can be reached, and from there on one in which
something was noted, a change that discovery reported was acted on, or an entry was checked. -/
inductive Underway (heads : LaneId config → UInt32) (custody : Custody γ) :
    HubSession config τ γ ι H → Prop
  | reached {s : HubSession config τ γ ι H} (reached : Reachable heads custody s) :
      Underway heads custody s
  | noted {s : HubSession config τ γ ι H} (underway : Underway heads custody s) (entry : Entry H)
      (quiet : entry.Quiet) : Underway heads custody { s with journal := entry :: s.journal }
  | applied {s t : HubSession config τ γ ι H} {event : DriverEvent} {older : Journal H}
      (underway : Underway heads custody s)
      (polled : s.journal = .polled (.ok (some event)) :: older)
      (answered : Hub.apply event s = .ok () t) : Underway heads custody t
  | swept {s t : HubSession config τ γ ι H} {δ : Type} [Discovery δ] {source : δ}
      {i : Fin config.drivers} (underway : Underway heads custody s)
      (answered : Hub.sweepEntry source i s = .ok () t) : Underway heads custody t

variable {heads : LaneId config → UInt32} {custody : Custody γ} {s : HubSession config τ γ ι H}

theorem Underway.played (h : Underway heads custody s) :
    ∃ s₀, Reachable heads custody s₀ ∧ Hub.Played s₀ s := by
  induction h with
  | @reached s reached => exact ⟨s, reached, reached.sound, .refl⟩
  | noted _ entry quiet ih =>
    obtain ⟨s₀, hreached, hplayed⟩ := ih
    exact ⟨s₀, hreached, hplayed.1, hplayed.2.tail (.noted entry quiet)⟩
  | applied _ polled answered ih =>
    obtain ⟨s₀, hreached, hplayed⟩ := ih
    exact ⟨s₀, hreached, hplayed.trans ((Hub.plays_apply hplayed.1 polled).of_ok answered)⟩
  | swept _ answered ih =>
    obtain ⟨s₀, hreached, hplayed⟩ := ih
    exact ⟨s₀, hreached, hplayed.trans ((Hub.plays_sweepEntry hplayed.1 _ _).of_ok answered)⟩

theorem Underway.ordered (h : Underway heads custody s) : s.view.Ordered := by
  obtain ⟨s₀, hreached, -, hmoves⟩ := h.played
  have hvalid := hreached.valid
  exact hmoves.keep (fun _ _ hv hmove => hmove.ordered hvalid hv) hreached.ordered

/-- The requests of one driver are cancelled exactly, at any time and whatever is in flight. A driver that
comes up again is restarted; one whose label has vanished, or that is given up while it starts, is taken
down. In each case the grants of its requests are revoked, sends first and the oldest first, and only a
revocation or the request to start can fail. In a table that keeps its word no revocation fails, and all
other grants stay live. -/
theorem Underway.work_cancelled (h : Underway heads custody s) (i : Fin config.drivers) :
    (∀ event label endpoint, event.announced? = some (label, endpoint) →
      (s.tables.state i).label? = some label →
      (Hub.apply event : HubM config τ γ ι H Unit).Goes s
        (fun _ t => Hub.Restarted s i label endpoint t)
        fun fatal => Hub.Unrevoked s i fatal ∨ Hub.Unasked s i endpoint fatal) ∧
    (∀ hub, s.tables.Dismissible i hub → ∀ (interface : ι) (journal : Journal H),
      let s : HubSession config τ γ ι H := { s with tables := hub, interface, journal }
      (Hub.takeDown i : HubM config τ γ ι H Unit).Goes s (fun _ t => Hub.Dismissed s i t)
        (Hub.Unrevoked s i)) ∧
    (∀ {δ : Type} [Discovery δ] (source : δ) label, (s.tables.state i).label? = some label →
      Discovery.isPresent source label = false →
      let looked : HubSession config τ γ ι H :=
        { s with journal := .lookedUp label false :: s.journal }
      (Hub.sweepEntry source i : HubM config τ γ ι H Unit).Goes s
        (fun _ t => Hub.Dismissed looked i t) (Hub.Unrevoked s i)) ∧
    ∀ table : GrantTable.Lawful γ, custody = table.custody →
      (∀ fatal, ¬Hub.Unrevoked s i fatal) ∧
      ∀ g, Revokes s.grants (s.tables.grantsAt i) g → ∀ id, table.live g id =
        if id ∈ s.tables.grantsAt i then none else table.live s.grants id := by
  obtain ⟨s₀, hreached, hsound, hmoves⟩ := h.played
  have hlabels := h.ordered.labels
  refine ⟨?restarts, ?takesDown, ?sweeps, ?lawful⟩
  case restarts =>
    intro event label endpoint hannounced hknown
    rw [Hub.apply_of_announced hannounced]
    unfold Hub.bringUp
    rw [goes_bind, goes_tables, hsound.findLabel_eq_some hlabels hknown]
    exact Hub.goes_restart_cancelled hsound hknown endpoint
  case takesDown =>
    intro hub hdismissible interface journal s'
    obtain ⟨hbut, hused⟩ := hdismissible.soundBut hsound
    exact Hub.goes_takeDown_cancelled (s := s') hbut hused
  case sweeps =>
    intro δ _ source label hknown habsent looked
    have hused : s.tables.state i ≠ .free := Occupant.ne_free_of_label hknown
    have hmark := hsound.toMarked.lt_highWater hused
    have hfree : (s.tables.driver i).state.isFree = false := by
      rw [(hsound.labelled.driver_eq i).1, Occupant.isFree_driverState]
      cases hs : s.tables.state i <;> simp_all [Occupant.isFree]
    unfold Hub.sweepEntry
    rw [goes_bind, goes_tables, hfree, (hsound.labelled.driver_eq i).2, hknown]
    dsimp only
    rw [if_pos hmark, goes_bind, goes_lookUp, habsent]
    exact Hub.goes_takeDown_cancelled (s := looked) (hsound.but i) hused
  case lawful =>
    rintro table rfl
    have hgranted := hmoves.granted hreached.agrees hreached.granted
    have hnodup := hgranted.held.nodup_grantsAt i
    have hout := hgranted.held.out_of_mem_grantsAt (i := i)
    refine ⟨?_, fun g hg => (table.live_of_revokes hgranted.intact hg hnodup hout).2⟩
    rintro fatal ⟨grant, cause, hfails, -⟩
    exact table.not_revokesUpTo hgranted.intact hnodup hout grant cause hfails

end Runs

namespace Trial

/-- Two drivers are active, and what they have in flight lies across each other: three packets and room
for one of the first driver, and one packet of the second. -/
def crossed : HubSession pair Outbox GrantLedger CallbackLog Nat :=
  atRest.afterAll [.reconcile crowd, .process ⟨5⟩ (.init { reply with id := 1 }),
    .process ⟨6⟩ (.init { reply with id := 1 }), .send ⟨0⟩ [⟨0, 16⟩, ⟨16, 16⟩],
    .send ⟨1⟩ [⟨128, 16⟩], .receive ⟨0⟩ [⟨64, 16⟩], .send ⟨0⟩ [⟨32, 8⟩], .send ⟨0⟩ []]

/-- The first driver comes up again somewhere else, or is taken down, or is found to have vanished. The
spare that its third packet had borrowed comes back, and its next number is six. -/
theorem crossed_cancelled :
    crossed.tables.grantsAt first =
      [⟨0, by decide⟩, ⟨1, by decide⟩, ⟨4, by decide⟩, ⟨3, by decide⟩] ∧
    (∃ t, (Hub.apply (.up (label.bytes ++ [0]) ⟨9⟩) :
        HubM pair Outbox GrantLedger CallbackLog Nat Unit) crossed = .ok () t ∧
      Hub.Restarted crossed first label ⟨9⟩ t ∧ t.tables.statistics.freeSlots = 6 ∧
      t.tables.statistics.spareAvailable = 1 ∧ (t.tables.queues (first, .send)).head = 6) ∧
    (∃ t, (Hub.takeDown first : HubM pair Outbox GrantLedger CallbackLog Nat Unit) crossed =
        .ok () t ∧ Hub.Dismissed crossed first t ∧
      ∀ id, GrantLedger.lawful.live t.grants id = if id ∈ crossed.tables.grantsAt first then none
        else GrantLedger.lawful.live crossed.grants id) ∧
    ∃ t, (Hub.sweepEntry ({} : Roster) first :
        HubM pair Outbox GrantLedger CallbackLog Nat Unit) crossed = .ok () t ∧
      Hub.Dismissed { crossed with journal := .lookedUp label false :: crossed.journal } first t := by
  have hstart : Reachable (fun _ => 0) GrantLedger.lawful.custody atRest :=
    .new pair_built ⟨⟨rfl, nofun⟩, fun _ => rfl⟩
  have hlabel : (crossed.tables.state first).label? = some label := by decide +kernel
  have hfault : crossed.transport.failing = false := by decide +kernel
  have hannounced : (DriverEvent.up (label.bytes ++ [0]) ⟨9⟩).announced? = some (label, ⟨9⟩) := by
    decide
  obtain ⟨hrestarts, htakesDown, hsweeps, hlawful⟩ :=
    Underway.work_cancelled (.reached (hstart.afterAll _)) first
  obtain ⟨hrevocable, hlive⟩ := hlawful GrantLedger.lawful rfl
  refine ⟨by decide +kernel, ?restarted, ?dismissed, ?swept⟩
  case restarted =>
    have hgoes := hrestarts _ _ _ hannounced hlabel
    have hnever (fatal : Fatal) : ¬(Hub.Unrevoked crossed first fatal ∨
        Hub.Unasked crossed first ⟨9⟩ fatal) := by
      rintro (hfails | ⟨cause, transport, hsent, -⟩)
      · exact hrevocable fatal hfails
      · simp only [Transport.send, hfault, Bool.false_eq_true, ↓reduceIte, Prod.mk.injEq, reduceCtorEq,
          false_and] at hsent
    obtain ⟨_, t, hrun, ht⟩ := hgoes.answers_of_never hnever
    refine ⟨t, hrun, ht, ?_, ?_, ?_⟩
    · exact ht.emptied.freeCount.trans (by decide +kernel)
    · exact ht.emptied.spares.trans (by decide +kernel)
    · rw [ht.emptied.queues]
      decide +kernel
  case dismissed =>
    have hused : crossed.tables.state first ≠ .free := Occupant.ne_free_of_label hlabel
    have hgoes := htakesDown _ (.known hused) crossed.interface crossed.journal
    obtain ⟨_, t, hrun, ht⟩ := hgoes.answers_of_never hrevocable
    exact ⟨t, hrun, ht, hlive t.grants ht.revoked⟩
  case swept =>
    have hgoes := hsweeps ({} : Roster) label hlabel rfl
    obtain ⟨_, t, hrun, ht⟩ := hgoes.answers_of_never hrevocable
    exact ⟨t, hrun, ht⟩

end Trial
end DriverHub
