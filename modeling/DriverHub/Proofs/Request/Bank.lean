import DriverHub.InMemory.GrantLedger
import DriverHub.Proofs.Request.Shelf

/-! A bank shows a shelf: its free list is the stack, and each of its queues is a lane. Every operation
keeps this, so that a run of a bank and the run of the shelf with the same operations cannot be told
apart. -/
namespace DriverHub

open Function SessionM

variable {n m : Nat} {γ : Type}

/-- The stack and the lanes as a division of slots. -/
def Shelf.layout (shelf : Shelf n m) : Layout (Fin m) n :=
  ⟨shelf.free, fun i => (shelf.lane i).bookings⟩

/-- A lane that changes holds its own requests, and the others hold theirs. -/
theorem held_update (lanes : Fin m → Lane n) (i : Fin m) (lane : Lane n) :
    (fun j => (update lanes i lane j).bookings) =
      update (fun j => (lanes j).bookings) i lane.bookings := comp_update Lane.bookings lanes i lane

namespace Bank

/-- A bank with this stack and these lanes. -/
structure Shows (bank : Bank n m) (shelf : Shelf n m) : Prop where
  described : shelf.layout.Describes bank.pool bank.queue
  head : ∀ i, (bank.queue i).head = (shelf.lane i).head
  limit : ∀ i, (bank.queue i).limit = (shelf.lane i).limit
  guaranteed : ∀ i, (bank.queue i).guaranteed = shelf.guaranteed i
  spares : bank.pool.spares = shelf.spares
  spareTotal : bank.pool.spareTotal = shelf.spareTotal
  within : shelf.spares ≤ shelf.spareTotal

/-- What can end the work with a bank: a queue is begun while there are requests in it, more spares come
back than were lent, or a grant is not revoked. -/
inductive Ends : Fatal → Prop
  | pendingBegun : Ends (.defect .beginOnPending)
  | spareOverflow : Ends (.defect .spareOverflow)
  | revocation (grant : GrantId) (cause : GrantError) : Ends (.revocation grant cause)

theorem settle_queue (bank : Bank n m) (i : Fin m) (queue : Queue n) (pool : SlotPool n) :
    (bank.settle i queue pool).queue = update bank.queue i queue := by
  funext j
  change (bank.queues.set i queue i.isLt)[j.val] = _
  rw [Vector.getElem_set, update_apply]
  by_cases hij : i = j
  · rw [if_pos (congrArg Fin.val hij), if_pos hij.symm]
  · rw [if_neg (fun h => hij (Fin.ext h)), if_neg (Ne.symm hij)]
    rfl

namespace Shows

variable {bank : Bank n m} {shelf : Shelf n m}

theorem depth (h : bank.Shows shelf) (i : Fin m) : (bank.queue i).depth = shelf.depth i :=
  (h.described.depth i).symm

theorem reading (h : bank.Shows shelf) : bank.reading = shelf.reading := by
  have hqueue (i : Fin m) : ((bank.queue i).head, (bank.queue i).depth, (bank.queue i).limit) =
      ((shelf.lane i).head, shelf.depth i, (shelf.lane i).limit) := by
    rw [h.head, h.depth, h.limit]
  rw [Bank.reading, Shelf.reading, h.spares, ← h.described.free_count, funext hqueue]
  rfl

/-- One queue and the pool changed, and so did one lane and the stack. -/
theorem settle (h : bank.Shows shelf) {i : Fin m} {queue : Queue n} {pool : SlotPool n}
    {shelf' : Shelf n m} {lane : Lane n} (hlane : shelf'.lane = update shelf.lane i lane)
    (hguarantees : shelf'.guaranteed = shelf.guaranteed)
    (hdesc : shelf'.layout.Describes pool (update bank.queue i queue))
    (hhead : queue.head = lane.head) (hlimit : queue.limit = lane.limit)
    (hguaranteed : queue.guaranteed = (bank.queue i).guaranteed)
    (hspares : pool.spares = shelf'.spares) (htotal : pool.spareTotal = shelf'.spareTotal)
    (hwithin : shelf'.spares ≤ shelf'.spareTotal) : (bank.settle i queue pool).Shows shelf' := by
  have hsame (j : Fin m) : ((bank.settle i queue pool).queue j).head = (shelf'.lane j).head ∧
      ((bank.settle i queue pool).queue j).limit = (shelf'.lane j).limit ∧
      ((bank.settle i queue pool).queue j).guaranteed = shelf'.guaranteed j := by
    rw [settle_queue, hlane, hguarantees, update_apply, update_apply]
    by_cases hji : j = i
    · subst hji
      rw [if_pos rfl, if_pos rfl]
      exact ⟨hhead, hlimit, hguaranteed.trans (h.guaranteed j)⟩
    · rw [if_neg hji, if_neg hji]
      exact ⟨h.head j, h.limit j, h.guaranteed j⟩
  constructor
  case described =>
    rw [settle_queue]
    exact hdesc
  case head => exact fun j => (hsame j).1
  case limit => exact fun j => (hsame j).2.1
  case guaranteed => exact fun j => (hsame j).2.2
  case spares => exact hspares
  case spareTotal => exact htotal
  case within => exact hwithin

/-- A queue changes where its requests do not matter, and its lane changes so. -/
theorem renumber (h : bank.Shows shelf) (i : Fin m) (queue : Queue n) (lane : Lane n)
    (hbookings : lane.bookings = (shelf.lane i).bookings)
    (hfirst : queue.first = (bank.queue i).first) (hlast : queue.last = (bank.queue i).last)
    (hdepth : queue.depth = (bank.queue i).depth) (hhead : queue.head = lane.head)
    (hlimit : queue.limit = lane.limit)
    (hguaranteed : queue.guaranteed = (bank.queue i).guaranteed) :
    (bank.settle i queue bank.pool).Shows (shelf.setLane i lane) := by
  have hlayout : (shelf.setLane i lane).layout = shelf.layout := by
    have hheld : (fun j => (update shelf.lane i lane j).bookings) =
        fun j => (shelf.lane j).bookings := by
      rw [held_update, hbookings]
      exact update_eq_self i _
    simp only [Shelf.layout, Shelf.setLane, hheld]
  refine h.settle rfl rfl ?_ hhead hlimit hguaranteed h.spares h.spareTotal h.within
  rw [hlayout]
  exact h.described.update_same hfirst hlast hdepth

theorem activate (h : bank.Shows shelf) (i : Fin m) (limit : Nat) :
    (bank.settle i ((bank.queue i).activate limit) bank.pool).Shows
      (shelf.setLane i ((shelf.lane i).activate limit)) := by
  have hhead : (bank.queue i).head + 1 = (shelf.lane i).head + 1 := by rw [h.head]
  exact h.renumber i _ _ rfl rfl rfl rfl hhead rfl rfl

theorem usesSpares_iff (kind : RequestKind) : kind.usesSpares = true ↔ kind ≠ .receive := by
  cases kind <;> decide

/-- What a free slot records matters to nobody. -/
theorem modify_free (h : bank.Shows shelf) {slot : Fin n} (hslot : slot ∈ shelf.free)
    {f : Slot n → Slot n} (hf : (f (bank.pool.slot slot)).next = (bank.pool.slot slot).next) :
    ({ bank with pool := bank.pool.modify slot f } : Bank n m).Shows shelf :=
  { h with described := h.described.modify_free hslot hf }

theorem needsSpare_iff (h : bank.Shows shelf) (i : Fin m) (kind : RequestKind) :
    (bank.queue i).needsSpare kind = true ↔ shelf.needsSpare i kind := by
  rw [Queue.needsSpare, Shelf.needsSpare, Bool.and_eq_true, usesSpares_iff, decide_eq_true_iff,
    h.guaranteed, h.depth]

/-- The reserved request enters the queue, and its slot goes to the end of the lane. -/
theorem commit (h : bank.Shows shelf) (i : Fin m) {ticket : Ticket n} {rest : List (Fin n)}
    (hfree : shelf.free = ticket.slot :: rest)
    (hspare : shelf.needsSpare i ticket.kind → 0 < shelf.spares) {grants : SlotGrants}
    (hbooking : bank.pool.booking ticket.slot = ⟨ticket.slot, ticket.kind, grants⟩) :
    ∃ queue pool, (bank.queue i).commit bank.pool ticket = .ok (queue, pool) ∧
      (bank.settle i queue pool).Shows (shelf.push i ⟨ticket.slot, ticket.kind, grants⟩) := by
  have hspare' : (bank.queue i).needsSpare ticket.kind = true → 0 < bank.pool.spares := by
    rw [h.needsSpare_iff, h.spares]
    exact hspare
  obtain ⟨queue, pool, hcommit, hqueue, hspares, htotal, hdesc⟩ :=
    h.described.commit i hfree hspare'
  rw [hbooking] at hdesc
  have hlayout : (shelf.push i ⟨ticket.slot, ticket.kind, grants⟩).layout =
      shelf.layout.push i ⟨ticket.slot, ticket.kind, grants⟩ := by
    simp only [Shelf.layout, Shelf.push, held_update]
    rfl
  have hlent : pool.spares = (shelf.push i ⟨ticket.slot, ticket.kind, grants⟩).spares := by
    change pool.spares = shelf.spares - if shelf.needsSpare i ticket.kind then 1 else 0
    rw [← h.spares]
    simp only [h.needsSpare_iff] at hspares
    omega
  have hwithin := h.within
  refine ⟨queue, pool, hcommit, h.settle rfl rfl ?_ ?_ ?_ hqueue.guaranteed hlent ?_ ?_⟩
  · rw [hlayout]
    exact hdesc
  · rw [hqueue.head, h.head]
    rfl
  · rw [hqueue.limit, h.limit]
    rfl
  · rw [htotal, h.spareTotal]
    rfl
  · exact Nat.le_trans (Nat.sub_le _ _) hwithin

end Shows

/-! The operations of a bank and of the shelf that it shows are in step. -/

variable {s : Session (Bank n m) Unit γ Unit Empty} {shelf : Shelf n m}

variable [GrantTable γ]

theorem inStep_revokeGrants (h : s.tables.Shows shelf) (grants : List GrantId) :
    InStep (revokeGrants grants : BankM n m γ Unit) (revokeGrants grants : ShelfM n m γ Unit) s shelf
      (fun _ t _ shelf' => t.tables.Shows shelf') Ends := by
  refine (SessionM.inStep_revokeGrants grants Ends.revocation).mono fun _ t _ shelf' hrevoked => ?_
  obtain ⟨htables, rfl⟩ := hrevoked
  rw [htables]
  exact h

end Bank

-- A send that borrowed nothing leaves while the receive behind it makes the queue deeper than guaranteed:
-- a spare comes back that was never lent.
example : ∃ t, (Bank.performAll [.activate 0 2, .request 0 .send ⟨default, default, .read⟩ (.commit []),
    .request 0 .receive ⟨default, default, .write⟩ (.commit []), .complete 0 .send 1] :
      BankM 2 1 GrantLedger _) ⟨Bank.new 2 0 [(0, 1)], (), {}, (), []⟩ =
    .error (.defect .spareOverflow) t := ⟨_, rfl⟩

end DriverHub
