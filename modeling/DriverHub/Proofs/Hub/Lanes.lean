import DriverHub.Hub.Replies
import DriverHub.Hub.Requests
import DriverHub.Proofs.Hub.Occupant
import DriverHub.Proofs.Request.Operations

/-! The tables of a hub as lanes. A lane is what a queue comes to: its head number, its limit and its
requests in order. The tables are stored soundly if the pool is divided among the lanes and spares
are out exactly for the requests beyond the guarantees. -/
namespace DriverHub

open Function Finset

instance : Fintype Direction := ⟨{.send, .receive}, fun d => by cases d <;> decide⟩

/-- Names a queue of a table: an entry and a direction. -/
abbrev LaneId (config : Config) := Fin config.drivers × Direction

/-- A queue as its head number, its limit and its requests, the oldest first. -/
structure Lane (n : Nat) where
  head : UInt32
  limit : Nat
  bookings : List (Booking n)

namespace Lane

variable {n : Nat}

/-- Behind the requests of the lane comes another one. -/
def push (lane : Lane n) (b : Booking n) : Lane n := { lane with bookings := lane.bookings ++ [b] }

/-- The oldest request leaves the lane. -/
def pop (lane : Lane n) : Lane n :=
  { lane with head := lane.head + 1, bookings := lane.bookings.tail }

/-- All requests leave the lane, and it is closed. -/
def clear (lane : Lane n) : Lane n :=
  ⟨lane.head + UInt32.ofNat lane.bookings.length, 0, []⟩

/-- The lane moves to a fresh number and stays closed. -/
def begin (lane : Lane n) : Lane n := { lane with head := lane.head + 1, limit := 0 }

/-- The lane moves to a fresh number and is opened. -/
def activate (lane : Lane n) (limit : Nat) : Lane n := { lane with head := lane.head + 1, limit }

/-- A reply with this kind and number finishes the oldest request of the lane. -/
def Answers (lane : Lane n) (kind : RequestKind) (number : UInt32) : Prop :=
  lane.head = number ∧ lane.bookings.head?.map Booking.kind = some kind

end Lane

/-- Lanes with both lanes of an entry changed. -/
def atEntry {config : Config} {n : Nat} (lanes : LaneId config → Lane n) (i : Fin config.drivers)
    (f : Direction → Lane n → Lane n) : LaneId config → Lane n :=
  fun k => if k.1 = i then f k.2 (lanes k) else lanes k

theorem atEntry_apply {config : Config} {n : Nat} (lanes : LaneId config → Lane n)
    (i : Fin config.drivers) (f : Direction → Lane n → Lane n) (k : LaneId config) :
    atEntry lanes i f k = if k.1 = i then f k.2 (lanes k) else lanes k := rfl

theorem atEntry_eq_update {config : Config} {n : Nat} (lanes : LaneId config → Lane n)
    (i : Fin config.drivers) (f : Direction → Lane n → Lane n) :
    update (update lanes (i, .send) (f .send (lanes (i, .send)))) (i, .receive)
      (f .receive (lanes (i, .receive))) = atEntry lanes i f := by
  funext k
  obtain ⟨j, d⟩ := k
  by_cases hj : j = i
  · subst j
    cases d <;> simp [atEntry, update]
  · simp [atEntry, update, hj]

theorem atEntry_congr {config : Config} {n : Nat} {lanes : LaneId config → Lane n}
    {i : Fin config.drivers} {f g : Direction → Lane n → Lane n}
    (h : ∀ d, f d (lanes (i, d)) = g d (lanes (i, d))) :
    atEntry lanes i f = atEntry lanes i g := by
  funext ⟨j, d⟩
  simp only [atEntry]
  split
  · subst j
    exact h d
  · rfl

theorem atEntry_atEntry {config : Config} {n : Nat} (lanes : LaneId config → Lane n)
    (i : Fin config.drivers) (f g : Direction → Lane n → Lane n) :
    atEntry (atEntry lanes i f) i g = atEntry lanes i fun d lane => g d (f d lane) := by
  funext k
  simp only [atEntry]
  split <;> rfl

theorem bookings_atEntry_same {config : Config} {n : Nat} {lanes : LaneId config → Lane n}
    {i : Fin config.drivers} {f : Direction → Lane n → Lane n}
    (hf : ∀ d lane, (f d lane).bookings = lane.bookings) (k : LaneId config) :
    (atEntry lanes i f k).bookings = (lanes k).bookings := by
  rw [atEntry_apply]
  split
  · exact hf k.2 (lanes k)
  · rfl

theorem bookings_atEntry_nil {config : Config} {n : Nat} {lanes : LaneId config → Lane n}
    {i : Fin config.drivers} {f : Direction → Lane n → Lane n}
    (hf : ∀ d lane, (f d lane).bookings = []) (k : LaneId config) :
    (atEntry lanes i f k).bookings = if k.1 = i then [] else (lanes k).bookings := by
  rw [atEntry_apply]
  split
  · exact hf k.2 (lanes k)
  · rfl

/-- How many requests an opened lane admits: as many as the driver takes, but no more receives than
the configuration foresees. -/
def openLimit (config : Config) (maxSend maxReceive : UInt8) : Direction → Nat
  | .send => maxSend.toNat
  | .receive => min maxReceive.toNat config.receiveDepth.toNat

namespace Hub

variable {config : Config} {H : Type}

def queues (hub : Hub config H) (k : LaneId config) : Queue config.slots :=
  (hub.driver k.1).queue k.2

/-- The requests in flight of a lane, the oldest first. -/
def bookings (hub : Hub config H) (k : LaneId config) : List (Booking config.slots) :=
  (hub.queues k).bookings hub.pool

def lane (hub : Hub config H) (k : LaneId config) : Lane config.slots :=
  ⟨(hub.queues k).head, (hub.queues k).limit, hub.bookings k⟩

/-- Who has an entry. -/
def state (hub : Hub config H) (i : Fin config.drivers) : Occupant H := (hub.driver i).occupant

/-- The spares that come back when all requests in flight have left their queues. -/
def borrowed (hub : Hub config H) : Nat :=
  ∑ k, owed (hub.queues k).guaranteed (hub.bookings k)

/-- The pool is divided among free list and queues, each queue holds requests of its direction
only and no more than it may, there are no gaps between their grants, and the spares in hand and
those borrowed are all there are. -/
structure Stored (hub : Hub config H) : Prop where
  described : ∃ layout : Layout (LaneId config) config.slots, layout.Describes hub.pool hub.queues
  kinds : ∀ k, ∀ b ∈ hub.bookings k, b.kind.direction = k.2
  gapless : ∀ k, ∀ b ∈ hub.bookings k, b.grants.Gapless
  bounded : ∀ k, (hub.bookings k).length ≤ (hub.queues k).limit
  guaranteed : ∀ i, (hub.queues (i, .send)).guaranteed = config.sendDepth.toNat
  spares : hub.pool.spares + hub.borrowed = hub.pool.spareTotal
  total : hub.pool.spareTotal = config.spareRequests.toNat

/-- Driver states and labels are the same. -/
structure SameSeats (hub hub' : Hub config H) : Prop where
  states : ∀ i, (hub'.driver i).state = (hub.driver i).state
  labels : ∀ i, (hub'.driver i).label = (hub.driver i).label

/-- Driver states, labels and counters are the same. -/
structure SameEntries (hub hub' : Hub config H) : Prop extends hub.SameSeats hub' where
  highWater : hub'.highWater = hub.highWater
  pending : hub'.pending = hub.pending
  dropped : hub'.dropped = hub.dropped
  fullReported : hub'.fullReported = hub.fullReported

/-- Replaces a queue and the pool. -/
def withQueue (hub : Hub config H) (k : LaneId config) (queue : Queue config.slots)
    (pool : SlotPool config.slots) : Hub config H :=
  { hub.modify k.1 fun driver => driver.setQueue k.2 queue with pool }

theorem modify_drivers (hub : Hub config H) (i j : Fin config.drivers)
    (f : Driver config.slots H → Driver config.slots H) :
    (hub.modify i f).driver j = if i = j then f (hub.driver i) else hub.driver j := by
  simp only [modify, driver, Fin.getElem_fin, Vector.getElem_set, Fin.ext_iff]

theorem modify_state (hub : Hub config H) (i j : Fin config.drivers)
    (f : Driver config.slots H → Driver config.slots H) :
    (hub.modify i f).state j = if i = j then (f (hub.driver i)).occupant else hub.state j := by
  rw [state, modify_drivers, apply_ite Driver.occupant]
  rfl

theorem modify_queues (hub : Hub config H) (i : Fin config.drivers)
    (f : Driver config.slots H → Driver config.slots H) (k : LaneId config) :
    (hub.modify i f).queues k = if i = k.1 then (f (hub.driver i)).queue k.2 else hub.queues k := by
  rw [queues, modify_drivers, apply_ite (Driver.queue · k.2)]
  rfl

@[simp] theorem withQueue_queues (hub : Hub config H) (k : LaneId config)
    (queue : Queue config.slots) (pool : SlotPool config.slots) :
    (hub.withQueue k queue pool).queues = update hub.queues k queue := by
  funext k'
  obtain ⟨i, d⟩ := k
  obtain ⟨j, d'⟩ := k'
  change (hub.modify i fun driver => driver.setQueue d queue).queues (j, d') = _
  rw [modify_queues]
  by_cases hij : i = j
  · subst j
    cases d <;> cases d' <;> simp [update, Driver.setQueue, Driver.queue, queues]
  · simp [hij, update, Ne.symm hij]

theorem withQueue_sameEntries (hub : Hub config H) (k : LaneId config)
    (queue : Queue config.slots) (pool : SlotPool config.slots) :
    hub.SameEntries (hub.withQueue k queue pool) := by
  -- A queue is no part of who has its entry.
  have hdriver (j : Fin config.drivers) : (hub.withQueue k queue pool).driver j =
      if k.1 = j then (hub.driver k.1).setQueue k.2 queue else hub.driver j :=
    modify_drivers hub k.1 j fun driver => driver.setQueue k.2 queue
  refine ⟨⟨fun j => ?_, fun j => ?_⟩, rfl, rfl, rfl, rfl⟩
  all_goals
    rw [hdriver]
    split
    · subst j
      cases k.2 <;> rfl
    · rfl

section Same

variable {hub hub' hub'' : Hub config H}

theorem SameSeats.refl (hub : Hub config H) : hub.SameSeats hub := ⟨fun _ => rfl, fun _ => rfl⟩

theorem SameSeats.trans (h : hub.SameSeats hub') (h' : hub'.SameSeats hub'') : hub.SameSeats hub'' :=
  ⟨fun i => (h'.states i).trans (h.states i), fun i => (h'.labels i).trans (h.labels i)⟩

theorem SameSeats.state (h : hub.SameSeats hub') : hub'.state = hub.state := by
  funext i
  simp only [Hub.state, Driver.occupant, h.states i, h.labels i]

theorem SameEntries.refl (hub : Hub config H) : hub.SameEntries hub := ⟨.refl hub, rfl, rfl, rfl, rfl⟩

theorem SameEntries.trans (h : hub.SameEntries hub') (h' : hub'.SameEntries hub'') :
    hub.SameEntries hub'' :=
  ⟨h.toSameSeats.trans h'.toSameSeats, h'.highWater.trans h.highWater, h'.pending.trans h.pending,
    h'.dropped.trans h.dropped, h'.fullReported.trans h.fullReported⟩

end Same

@[simp] theorem withQueue_state (hub : Hub config H) (k : LaneId config)
    (queue : Queue config.slots) (pool : SlotPool config.slots) :
    (hub.withQueue k queue pool).state = hub.state := (withQueue_sameEntries ..).state

theorem withQueue_withQueue (hub : Hub config H) (i : Fin config.drivers)
    (send receive : Queue config.slots) (pool pool' : SlotPool config.slots) :
    (hub.withQueue (i, .send) send pool).withQueue (i, .receive) receive pool' =
      { hub.modify i fun driver => { driver with send, receive } with pool := pool' } := by
  simp [withQueue, modify, driver, Driver.setQueue]

namespace Stored

variable {hub : Hub config H} {layout layout' : Layout (LaneId config) config.slots}

theorem held_eq (hl : layout.Describes hub.pool hub.queues) (k : LaneId config) :
    layout.held k = hub.bookings k := hl.held_eq k

/-- One queue changed together with the pool: the lanes change there alone. -/
theorem withQueue (h : hub.Stored) (hl : layout.Describes hub.pool hub.queues) {k : LaneId config}
    {queue : Queue config.slots} {pool : SlotPool config.slots}
    (hl' : layout'.Describes pool (update hub.queues k queue))
    (hheld : ∀ k', k' ≠ k → layout'.held k' = layout.held k')
    (hkinds : ∀ b ∈ layout'.held k, b.kind.direction = k.2)
    (hgapless : ∀ b ∈ layout'.held k, b.grants.Gapless)
    (hlimit : (layout'.held k).length ≤ queue.limit)
    (hguaranteed : queue.guaranteed = (hub.queues k).guaranteed)
    (hspares : pool.spares + owed queue.guaranteed (layout'.held k) =
      hub.pool.spares + owed (hub.queues k).guaranteed (layout.held k))
    (htotal : pool.spareTotal = hub.pool.spareTotal) :
    (hub.withQueue k queue pool).Stored ∧
      (hub.withQueue k queue pool).lane =
        update hub.lane k ⟨queue.head, queue.limit, layout'.held k⟩ := by
  have hdesc : layout'.Describes (hub.withQueue k queue pool).pool
      (hub.withQueue k queue pool).queues := by
    rw [withQueue_queues]
    exact hl'
  have hqueue (k' : LaneId config) : (hub.withQueue k queue pool).queues k' =
      if k' = k then queue else hub.queues k' := by
    rw [withQueue_queues, update_apply]
  have hbookings (k' : LaneId config) : (hub.withQueue k queue pool).bookings k' =
      if k' = k then layout'.held k else hub.bookings k' := by
    rw [← held_eq hdesc]
    split
    · subst k'
      rfl
    · rename_i hk
      rw [hheld k' hk, held_eq hl]
  -- Kinds, bounds and guarantees hold at this lane by assumption and elsewhere as before.
  refine ⟨⟨⟨layout', hdesc⟩, ?kinds, ?gapless, ?bounded, ?guaranteed, ?spares, htotal.trans h.total⟩, ?lane⟩
  case kinds =>
    intro k'
    rw [hbookings]
    split
    · subst k'
      exact hkinds
    · exact h.kinds k'
  case gapless =>
    intro k'
    rw [hbookings]
    split
    · subst k'
      exact hgapless
    · exact h.gapless k'
  case bounded =>
    intro k'
    rw [hbookings, hqueue]
    split
    · exact hlimit
    · exact h.bounded k'
  case guaranteed =>
    intro i
    rw [hqueue]
    split
    · rename_i hk
      rw [hguaranteed, ← hk]
      exact h.guaranteed i
    · exact h.guaranteed i
  case spares =>
    -- Only the summand of this lane differs.
    have hsum : (hub.withQueue k queue pool).borrowed + owed (hub.queues k).guaranteed
        (hub.bookings k) = hub.borrowed + owed queue.guaranteed (layout'.held k) := by
      unfold borrowed
      rw [← add_sum_erase univ _ (mem_univ k), ← add_sum_erase univ (fun k' =>
        owed (hub.queues k').guaranteed (hub.bookings k')) (mem_univ k)]
      have hrest : ∀ k' ∈ univ.erase k, owed ((hub.withQueue k queue pool).queues k').guaranteed
          ((hub.withQueue k queue pool).bookings k') =
          owed (hub.queues k').guaranteed (hub.bookings k') := by
        intro k' hk'
        rw [hbookings, hqueue, if_neg (ne_of_mem_erase hk'), if_neg (ne_of_mem_erase hk')]
      rw [sum_congr rfl hrest, hbookings, hqueue, if_pos rfl, if_pos rfl]
      omega
    have hbefore := h.spares
    rw [held_eq hl] at hspares
    change pool.spares + _ = pool.spareTotal
    omega
  case lane =>
    funext k'
    rw [update_apply, lane, hbookings, hqueue]
    split <;> rfl

theorem owed_le (h : hub.Stored) (k : LaneId config) :
    hub.pool.spares + owed (hub.queues k).guaranteed (hub.bookings k) ≤ hub.pool.spareTotal := by
  have hsum : owed (hub.queues k).guaranteed (hub.bookings k) ≤ hub.borrowed :=
    single_le_sum (f := fun k => owed (hub.queues k).guaranteed (hub.bookings k))
      (fun _ _ => Nat.zero_le _) (mem_univ k)
  have := h.spares
  omega

theorem length_bookings (h : hub.Stored) (k : LaneId config) :
    (hub.bookings k).length = (hub.queues k).depth := by
  obtain ⟨layout, hl⟩ := h.described
  rw [← held_eq hl, hl.depth]

theorem congr {hub' : Hub config H} (h : hub.Stored) (hpool : hub'.pool = hub.pool)
    (hqueues : hub'.queues = hub.queues) : hub'.Stored ∧ hub'.lane = hub.lane := by
  have hbookings : hub'.bookings = hub.bookings := by
    funext k
    rw [bookings, bookings, hpool, hqueues]
  refine ⟨⟨?described, ?kinds, ?gapless, ?bounded, ?guaranteed, ?spares, ?total⟩, ?lane⟩
  case described =>
    rw [hpool, hqueues]
    exact h.described
  case kinds =>
    rw [hbookings]
    exact h.kinds
  case gapless =>
    rw [hbookings]
    exact h.gapless
  case bounded =>
    rw [hbookings, hqueues]
    exact h.bounded
  case guaranteed =>
    rw [hqueues]
    exact h.guaranteed
  case spares =>
    rw [borrowed, hbookings, hqueues, hpool]
    exact h.spares
  case total =>
    rw [hpool]
    exact h.total
  case lane =>
    funext k
    rw [lane, lane, hqueues, hbookings]

/-- The grants in use of the requests of a lane are all that they have. -/
theorem flatMap_recorded (h : hub.Stored) (k : LaneId config) :
    (hub.bookings k).flatMap (fun b => b.grants.recorded) =
      (hub.bookings k).flatMap fun b => b.grants.present := by
  apply List.flatMap_congr
  intro b hb
  exact (h.gapless k b hb).recorded_eq

theorem cancelAll (h : hub.Stored) (k : LaneId config) :
    ∃ gone, (hub.queues k).cancelAll hub.pool = .ok gone ∧
      gone.grants = (hub.bookings k).flatMap (fun b => b.grants.present) ∧
      (hub.withQueue k gone.queue gone.pool).Stored ∧
      (hub.withQueue k gone.queue gone.pool).lane = update hub.lane k (hub.lane k).clear := by
  obtain ⟨layout, hl⟩ := h.described
  have howed := h.owed_le k
  have hheld := held_eq hl k
  rw [← hheld] at howed
  obtain ⟨gone, hgone, hgrants, hhead, hdepth, hlimit, hguaranteed, hspares, htotal, hdesc⟩ :=
    hl.cancelAll k howed
  -- Nothing stays in the lane, so kinds and bound are void there.
  have hnil : (layout.drop k (layout.held k).length).held k = [] := by simp [Layout.drop]
  obtain ⟨hstored, hlane⟩ := h.withQueue hl hdesc (fun k' hk => by simp [Layout.drop, hk])
    (by simp [hnil]) (by simp [hnil]) (by simp [hnil]) hguaranteed (by simp [hnil, hspares, owed]) htotal
  refine ⟨gone, hgone, by rw [hgrants, hheld, h.flatMap_recorded], hstored, ?_⟩
  rw [hlane, hnil, hlimit, hhead, hheld]
  rfl

theorem renumber (h : hub.Stored) (k : LaneId config) (head : UInt32) {limit : Nat}
    (hlimit : (hub.bookings k).length ≤ limit) :
    (hub.withQueue k { hub.queues k with head, limit } hub.pool).Stored ∧
      (hub.withQueue k { hub.queues k with head, limit } hub.pool).lane =
        update hub.lane k { hub.lane k with head, limit } := by
  obtain ⟨layout, hl⟩ := h.described
  have hheld := held_eq hl k
  have hdesc : layout.Describes hub.pool
      (update hub.queues k { hub.queues k with head, limit }) := hl.update_same rfl rfl rfl
  obtain ⟨hstored, hlane⟩ := h.withQueue hl hdesc (fun _ _ => rfl)
    (by rw [hheld]; exact h.kinds k) (by rw [hheld]; exact h.gapless k) (by rw [hheld]; exact hlimit)
    rfl rfl rfl
  refine ⟨hstored, ?_⟩
  rw [hlane, hheld]
  rfl

theorem withPool (h : hub.Stored) (hl : layout.Describes hub.pool hub.queues)
    {pool : SlotPool config.slots} (hl' : layout.Describes pool hub.queues)
    (hspares : pool.spares = hub.pool.spares) (htotal : pool.spareTotal = hub.pool.spareTotal) :
    ({ hub with pool } : Hub config H).Stored ∧ ({ hub with pool } : Hub config H).lane = hub.lane := by
  have hqueues : ({ hub with pool } : Hub config H).queues = hub.queues := rfl
  have hbookings : ({ hub with pool } : Hub config H).bookings = hub.bookings := by
    funext k
    rw [← held_eq hl]
    exact (hl'.held_eq k).symm
  refine ⟨⟨⟨layout, hl'⟩, ?kinds, ?gapless, ?bounded, h.guaranteed, ?spares, htotal.trans h.total⟩, ?lane⟩
  case kinds =>
    rw [hbookings]
    exact h.kinds
  case gapless =>
    rw [hbookings]
    exact h.gapless
  case bounded =>
    rw [hbookings]
    exact h.bounded
  case spares =>
    rw [borrowed, hbookings]
    change pool.spares + hub.borrowed = pool.spareTotal
    rw [hspares, htotal, h.spares]
  case lane =>
    funext k
    rw [lane, hbookings]
    rfl

/-- A slot reserved for a request of a lane, and then given its grants: it is still the first free
one, and nothing else has changed. -/
theorem reserved (h : hub.Stored) {k : LaneId config} {kind : RequestKind}
    {ticket : Ticket config.slots} {primed : SlotPool config.slots} (grants : SlotGrants)
    (hreserve : (hub.queues k).reserve hub.pool kind = some (ticket, primed)) :
    ∃ layout : Layout (LaneId config) config.slots, ∃ rest,
      layout.free = ticket.slot :: rest ∧ layout.Describes hub.pool hub.queues ∧
      layout.Describes primed hub.queues ∧
      layout.Describes (primed.setGrants ticket.slot grants) hub.queues ∧
      (primed.setGrants ticket.slot grants).booking ticket.slot = ⟨ticket.slot, kind, grants⟩ := by
  obtain ⟨layout, hl⟩ := h.described
  obtain ⟨-, hfirst, -, -, rfl⟩ := Queue.reserve_eq_some.mp hreserve
  -- The reservation takes the first free slot, where the layout may be written freely.
  have hhead := hl.free_chain.start_eq
  rw [hfirst] at hhead
  obtain ⟨rest, hfree⟩ := List.head?_eq_some_iff.mp hhead.symm
  have hmem : ticket.slot ∈ layout.free := by
    rw [hfree]
    exact List.mem_cons_self
  have hprimed := hl.modify_free hmem (f := fun slot => { slot with kind, grants := .none }) rfl
  refine ⟨layout, rest, hfree, hl, hprimed, hprimed.modify_free hmem rfl, ?_⟩
  simp only [SlotPool.booking, SlotPool.setGrants_slot, SlotPool.modify_slot, if_pos]

theorem primed (h : hub.Stored) {k : LaneId config} {kind : RequestKind}
    {ticket : Ticket config.slots} {primed : SlotPool config.slots}
    (hreserve : (hub.queues k).reserve hub.pool kind = some (ticket, primed)) :
    ({ hub with pool := primed } : Hub config H).Stored ∧
      ({ hub with pool := primed } : Hub config H).lane = hub.lane := by
  obtain ⟨layout, -, -, hl, hl', -⟩ := h.reserved .none hreserve
  obtain ⟨-, -, -, -, rfl⟩ := Queue.reserve_eq_some.mp hreserve
  exact h.withPool hl hl' rfl rfl

/-- A reserved request with its grants enters its lane at the end. -/
theorem committed (h : hub.Stored) {i : Fin config.drivers} {kind : RequestKind}
    {ticket : Ticket config.slots} {primed : SlotPool config.slots} {grants : SlotGrants}
    (hgapless : grants.Gapless)
    (hreserve : (hub.queues (i, kind.direction)).reserve hub.pool kind = some (ticket, primed)) :
    ∃ queue pool, ({ hub with pool := primed.setGrants ticket.slot grants } : Hub config H).committed
        i ticket = .ok (hub.withQueue (i, kind.direction) queue pool) ∧
      (hub.withQueue (i, kind.direction) queue pool).Stored ∧
      (hub.withQueue (i, kind.direction) queue pool).lane =
        update hub.lane (i, kind.direction)
          ((hub.lane (i, kind.direction)).push ⟨ticket.slot, kind, grants⟩) := by
  obtain ⟨layout, rest, hfree, hl, -, hl', hbooking⟩ := h.reserved grants hreserve
  obtain ⟨hrefuses, -, -, rfl, rfl⟩ := Queue.reserve_eq_some.mp hreserve
  have hheld := held_eq hl (i, ticket.kind.direction)
  have hlength := h.length_bookings (i, ticket.kind.direction)
  -- The queue was neither at its limit nor short of a spare that it needs.
  simp only [Queue.refuses, Bool.or_eq_false_iff, Bool.and_eq_false_imp, decide_eq_false_iff_not,
    Nat.not_le] at hrefuses
  obtain ⟨queue', pool', hcommit, hqueue, hspares, htotal, hdesc⟩ :=
    hl'.commit (i, ticket.kind.direction) hfree fun hneeds =>
      Nat.pos_of_ne_zero (hrefuses.2 hneeds)
  rw [hbooking] at hdesc
  have hpushed : (layout.push (i, ticket.kind.direction)
      ⟨ticket.slot, ticket.kind, grants⟩).held (i, ticket.kind.direction) =
        hub.bookings (i, ticket.kind.direction) ++ [⟨ticket.slot, ticket.kind, grants⟩] := by
    simp only [Layout.push, update_self, hheld]
  have hkinds := h.kinds (i, ticket.kind.direction)
  obtain ⟨hstored, hlane⟩ := h.withQueue hl hdesc (fun k' hk => by simp [Layout.push, hk]) (by
      rw [hpushed]
      intro b hb
      rcases List.mem_append.mp hb with hb | hb
      · exact hkinds b hb
      · rw [List.mem_singleton.mp hb])
    (by
      rw [hpushed]
      intro b hb
      rcases List.mem_append.mp hb with hb | hb
      · exact h.gapless (i, ticket.kind.direction) b hb
      · rw [List.mem_singleton.mp hb]
        exact hgapless)
    (by
      rw [hpushed, List.length_append, List.length_singleton, hqueue.limit, hlength]
      exact hrefuses.1) hqueue.guaranteed (by
      -- A spare leaves the pool exactly if the lane was at its guarantee or beyond.
      rw [hpushed, hheld, hqueue.guaranteed, owed_append hkinds, hlength]
      change pool'.spares + _ = hub.pool.spares at hspares
      rw [Queue.needsSpare] at hspares
      dsimp only
      omega) htotal
  refine ⟨queue', pool', ?_, hstored, ?_⟩
  · unfold Hub.committed
    have hcommit' : ((hub.driver i).queue ticket.kind.direction).commit _ ticket =
        .ok (queue', pool') := hcommit
    simp only [driver] at hcommit'
    simp only [bind, Except.bind, driver, hcommit']
    rfl
  · rw [hlane, hpushed, hqueue.head, hqueue.limit]
    rfl

/-- A reply finishes the oldest request of a lane if it has that request's kind and number, and
nothing otherwise. -/
theorem completed? (h : hub.Stored) (i : Fin config.drivers) (kind : RequestKind)
    (number : UInt32) :
    (¬(hub.lane (i, kind.direction)).Answers kind number ∧
      hub.completed? i kind number = .ok none) ∨
    ∃ b rest queue pool, hub.bookings (i, kind.direction) = b :: rest ∧ b.kind = kind ∧
      (hub.lane (i, kind.direction)).head = number ∧
      hub.completed? i kind number =
        .ok (some (b.grants.present, hub.withQueue (i, kind.direction) queue pool)) ∧
      (hub.withQueue (i, kind.direction) queue pool).Stored ∧
      (hub.withQueue (i, kind.direction) queue pool).lane =
        update hub.lane (i, kind.direction) (hub.lane (i, kind.direction)).pop := by
  obtain ⟨layout, hl⟩ := h.described
  have hheld := held_eq hl (i, kind.direction)
  have hcomplete := hl.complete?_eq (i, kind.direction) kind number
  rw [hheld] at hcomplete
  -- The queue asks of its oldest request what `Lane.Answers` asks of the lane.
  by_cases hanswers : (hub.queues (i, kind.direction)).head = number ∧
      (hub.bookings (i, kind.direction)).head?.map Booking.kind = some kind
  · right
    rw [if_pos hanswers] at hcomplete
    obtain ⟨hhead, hkind⟩ := hanswers
    obtain ⟨b, hb, rfl⟩ := Option.map_eq_some_iff.mp hkind
    obtain ⟨rest, hbookings⟩ := List.head?_eq_some_iff.mp hb
    -- The oldest request leaves, and its spare comes back within the total.
    have howed := h.owed_le (i, b.kind.direction)
    rw [hbookings] at hheld howed
    obtain ⟨gone, hgone, hgrants, hshort, hspares, htotal, hdesc⟩ := hl.advance hheld howed
    have hrest : (layout.drop (i, b.kind.direction) 1).held (i, b.kind.direction) = rest := by
      simp [Layout.drop, hheld]
    have hdepth := h.bounded (i, b.kind.direction)
    rw [hbookings, List.length_cons] at hdepth
    have hkinds := h.kinds (i, b.kind.direction)
    have hall := h.gapless (i, b.kind.direction)
    rw [hbookings] at hkinds hall
    obtain ⟨hstored, hlane⟩ := h.withQueue hl hdesc (fun k' hk => by simp [Layout.drop, hk])
      (by rw [hrest]; exact fun c hc => hkinds c (List.mem_cons_of_mem _ hc))
      (by rw [hrest]; exact fun c hc => hall c (List.mem_cons_of_mem _ hc))
      (by rw [hrest, hshort.limit]; omega) hshort.guaranteed
      (by rw [hrest, hheld, hshort.guaranteed, hspares]) htotal
    refine ⟨b, rest, gone.queue, gone.pool, hbookings, rfl, hhead, ?_, hstored, ?_⟩
    · rw [(hall b List.mem_cons_self).recorded_eq] at hgrants
      rw [hgone] at hcomplete
      have hcomplete' : ((hub.driver i).queue b.kind.direction).complete? hub.pool b.kind number =
          .ok (some gone) := hcomplete
      unfold Hub.completed?
      simp only [bind, Except.bind, hcomplete', hgrants]
      rfl
    · rw [hlane, hrest, hshort.head, hshort.limit]
      simp only [Lane.pop, lane, hbookings, List.tail_cons]
      rfl
  · left
    rw [if_neg hanswers] at hcomplete
    have hcomplete' : ((hub.driver i).queue kind.direction).complete? hub.pool kind number =
        .ok none := hcomplete
    refine ⟨hanswers, ?_⟩
    unfold Hub.completed?
    simp only [bind, Except.bind, hcomplete']
    rfl

theorem cancelled (h : hub.Stored) (i : Fin config.drivers) :
    ∃ hub', hub.cancelled i = .ok ((hub.bookings (i, .send) ++ hub.bookings (i, .receive)).flatMap
        (fun b => b.grants.present), hub') ∧ hub'.Stored ∧ hub.SameEntries hub' ∧
      hub'.lane = atEntry hub.lane i fun _ lane => lane.clear := by
  obtain ⟨sends, hsends, hsgrants, hstored, hlane⟩ := h.cancelAll (i, .send)
  obtain ⟨receives, hreceives, hrgrants, hstored', hlane'⟩ := hstored.cancelAll (i, .receive)
  -- The sends leave first, and the receives of the entry stay as they were.
  have hother : (hub.withQueue (i, .send) sends.queue sends.pool).lane (i, .receive) =
      hub.lane (i, .receive) := by
    rw [hlane, update_of_ne (by simp)]
  have hbookings : (hub.withQueue (i, .send) sends.queue sends.pool).bookings (i, .receive) =
      hub.bookings (i, .receive) := congrArg Lane.bookings hother
  rw [hbookings] at hrgrants
  rw [withQueue_queues, update_of_ne (by simp)] at hreceives
  refine ⟨_, ?_, hstored', (withQueue_sameEntries ..).trans (withQueue_sameEntries ..), ?_⟩
  · have hsends' : (hub.driver i).send.cancelAll hub.pool = .ok sends := hsends
    have hreceives' : (hub.driver i).receive.cancelAll sends.pool = .ok receives := hreceives
    unfold Hub.cancelled
    simp only [bind, Except.bind, hsends', hreceives', pure, Except.pure, withQueue_withQueue,
      hsgrants, hrgrants, List.flatMap_append]
  · rw [hlane', hother, hlane]
    exact atEntry_eq_update hub.lane i fun _ lane => lane.clear

theorem renumberBoth (h : hub.Stored) (i : Fin config.drivers) (head : Direction → UInt32)
    (limit : Direction → Nat) (hlimit : ∀ d, (hub.bookings (i, d)).length ≤ limit d) :
    let hub' := hub.modify i fun driver => { driver with
      send := { hub.queues (i, .send) with head := head .send, limit := limit .send }
      receive := { hub.queues (i, .receive) with
        head := head .receive, limit := limit .receive } }
    hub'.Stored ∧ hub.SameEntries hub' ∧
      hub'.lane = atEntry hub.lane i fun d lane => { lane with head := head d, limit := limit d } := by
  intro hub'
  obtain ⟨hstored, hlane⟩ := h.renumber (i, .send) (head .send) (hlimit .send)
  -- What the receives hold is measured before the sends move on and bounds them afterwards.
  have hother := congrFun hlane (i, .receive)
  rw [update_of_ne (by simp)] at hother
  have hbookings := congrArg Lane.bookings hother
  have hlimit' := hlimit .receive
  change Hub.bookings _ _ = hub.bookings _ at hbookings
  rw [← hbookings] at hlimit'
  obtain ⟨hstored', hlane'⟩ := hstored.renumber (i, .receive) (head .receive) hlimit'
  rw [withQueue_queues, update_of_ne (by simp)] at hstored' hlane'
  change (Hub.withQueue _ _ _ hub.pool).Stored at hstored'
  change (Hub.withQueue _ _ _ hub.pool).lane = _ at hlane'
  rw [withQueue_withQueue] at hstored' hlane'
  refine ⟨hstored', ?_, ?_⟩
  · have hsame := (withQueue_sameEntries hub (i, .send)
      { hub.queues (i, .send) with head := head .send, limit := limit .send } hub.pool).trans
      (withQueue_sameEntries _ (i, .receive)
        { hub.queues (i, .receive) with head := head .receive, limit := limit .receive } hub.pool)
    rw [withQueue_withQueue] at hsame
    exact hsame
  · rw [hother, hlane] at hlane'
    refine hlane'.trans ?_
    exact atEntry_eq_update hub.lane i fun d lane => { lane with head := head d, limit := limit d }

theorem begun (h : hub.Stored) {i : Fin config.drivers} (hnone : ∀ d, hub.bookings (i, d) = []) :
    ∃ hub', hub.begun i = .ok hub' ∧ hub'.Stored ∧ hub.SameEntries hub' ∧
      hub'.lane = atEntry hub.lane i fun _ lane => lane.begin := by
  obtain ⟨layout, hl⟩ := h.described
  have hsend : (hub.driver i).send.begin = _ := hl.begin_eq ((held_eq hl _).trans (hnone .send))
  have hreceive : (hub.driver i).receive.begin = _ :=
    hl.begin_eq ((held_eq hl _).trans (hnone .receive))
  obtain ⟨hstored, hsame, hlane⟩ := h.renumberBoth i (fun d => (hub.queues (i, d)).head + 1)
    (fun _ => 0) fun d => by rw [hnone d, List.length_nil]
  refine ⟨_, ?_, hstored, hsame, hlane.trans (atEntry_congr fun d => rfl)⟩
  unfold Hub.begun
  simp only [bind, Except.bind, hsend, hreceive, pure, Except.pure]

theorem opened (h : hub.Stored) {i : Fin config.drivers} (hnone : ∀ d, hub.bookings (i, d) = [])
    (maxSend maxReceive : UInt8) :
    (hub.opened i maxSend maxReceive).Stored ∧ hub.SameEntries (hub.opened i maxSend maxReceive) ∧
      (hub.opened i maxSend maxReceive).lane =
        atEntry hub.lane i fun d lane => lane.activate (openLimit config maxSend maxReceive d) := by
  obtain ⟨hstored, hsame, hlane⟩ := h.renumberBoth i (fun d => (hub.queues (i, d)).head + 1)
    (openLimit config maxSend maxReceive) fun d => by rw [hnone d]; exact Nat.zero_le _
  exact ⟨hstored, hsame, hlane.trans (atEntry_congr fun d => rfl)⟩

end Stored

end Hub
end DriverHub
