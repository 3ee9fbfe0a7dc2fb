import DriverHub.Proofs.Request.Operations
import DriverHub.Proofs.Session.InStep

/-! What was left in slots that nobody uses. Two pools may differ in the kinds and grants that stand in some
slots; as long as no queue runs through these slots, every operation does the same with both pools. -/
namespace DriverHub

open SessionM

variable {n : Nat} {aside : Set (Fin n)} {pool pool' : SlotPool n}

/-- The pools agree in all but the kinds and grants of these slots. -/
structure SlotPool.AgreeBut (aside : Set (Fin n)) (pool pool' : SlotPool n) : Prop where
  freeFirst : pool'.freeFirst = pool.freeFirst
  freeCount : pool'.freeCount = pool.freeCount
  spares : pool'.spares = pool.spares
  spareTotal : pool'.spareTotal = pool.spareTotal
  next : ∀ i, (pool'.slot i).next = (pool.slot i).next
  slot : ∀ i, i ∉ aside → pool'.slot i = pool.slot i

/-- Neither check fails in another way than the other, and nothing more is asked of a failure. -/
abbrev Alike {α β : Type} (belong : α → β → Prop) : Except Defect α → Except Defect β → Prop :=
  Agree belong fun _ => True

namespace SlotPool.AgreeBut

theorem mono {aside' : Set (Fin n)} (h : AgreeBut aside pool pool') (hsub : aside ⊆ aside') :
    AgreeBut aside' pool pool' :=
  { h with slot := fun i hi => h.slot i fun hmem => hi (hsub hmem) }

theorem free_eq (h : AgreeBut aside pool pool') : pool'.free = pool.free := by
  have hfollow (count : Nat) (start : Option (Fin n)) :
      pool'.follow count start = pool.follow count start := by
    induction count generalizing start with
    | zero => rfl
    | succ count ih =>
      cases start with
      | none => rfl
      | some i => rw [follow, follow, h.next, ih]
  rw [SlotPool.free, SlotPool.free, h.freeCount, h.freeFirst, hfollow]

/-- The same change of a slot in which they agree. -/
theorem modify (h : AgreeBut aside pool pool') {i : Fin n} (hi : i ∉ aside) (f : Slot n → Slot n) :
    AgreeBut aside (pool.modify i f) (pool'.modify i f) := by
  have hslot := h.slot i hi
  refine { h with next := fun j => ?_, slot := fun j hj => ?_ }
  · rw [modify_slot, modify_slot, hslot]
    split
    · rfl
    · exact h.next j
  · rw [modify_slot, modify_slot, hslot, h.slot j hj]

/-- A slot that is prepared for a request agrees from then on. -/
theorem prepare (h : AgreeBut aside pool pool') (i : Fin n) (kind : RequestKind)
    (grants : SlotGrants) :
    AgreeBut (aside \ {i}) (pool.modify i fun slot => { slot with kind, grants })
      (pool'.modify i fun slot => { slot with kind, grants }) := by
  refine { h with next := fun j => ?_, slot := fun j hj => ?_ }
  · rw [modify_slot, modify_slot]
    split
    · exact h.next i
    · exact h.next j
  · rw [modify_slot, modify_slot]
    split
    · rw [h.next i]
    · rename_i hij
      apply h.slot
      intro hmem
      exact hj ⟨hmem, Ne.symm hij⟩

theorem take (h : AgreeBut aside pool pool') {i : Fin n} (hi : i ∉ aside) :
    Alike (AgreeBut aside) (pool.take i) (pool'.take i) := by
  have hslot := h.slot i hi
  have hcount := h.freeCount
  have hlink : AgreeBut aside (pool.link i none) (pool'.link i none) := h.modify hi _
  unfold SlotPool.take
  rw [h.freeFirst, hcount]
  split
  · exact .error trivial
  · split
    · exact .error trivial
    · exact .ok { hlink with freeFirst := congrArg Slot.next hslot, freeCount := rfl }

theorem release (h : AgreeBut aside pool pool') {i : Fin n} (hi : i ∉ aside) :
    (pool'.release i).1 = (pool.release i).1 ∧
      AgreeBut aside (pool.release i).2 (pool'.release i).2 := by
  have hslot := h.slot i hi
  have hcount := h.freeCount
  have hcleared : AgreeBut aside (pool.setGrants i .none) (pool'.setGrants i .none) := h.modify hi _
  have hlinked := hcleared.modify hi fun slot => { slot with next := pool.freeFirst }
  constructor
  · exact congrArg (fun slot => slot.grants.recorded) hslot
  · unfold SlotPool.release
    rw [h.freeFirst, hcount]
    exact { hlinked with freeFirst := rfl, freeCount := rfl }

theorem takeSpare (h : AgreeBut aside pool pool') :
    Alike (AgreeBut aside) pool.takeSpare pool'.takeSpare := by
  unfold SlotPool.takeSpare
  rw [h.spares]
  split
  · exact .error trivial
  · exact .ok { h with spares := rfl }

theorem returnSpare (h : AgreeBut aside pool pool') :
    Alike (AgreeBut aside) pool.returnSpare pool'.returnSpare := by
  unfold SlotPool.returnSpare
  rw [h.spares, h.spareTotal]
  split
  · exact .error trivial
  · exact .ok { h with spares := rfl, spareTotal := rfl }

end SlotPool.AgreeBut

/-- The same requests left a queue. -/
structure Released.Alike (aside : Set (Fin n)) (gone gone' : Released n) : Prop where
  queue : gone'.queue = gone.queue
  grants : gone'.grants = gone.grants
  pool : gone.pool.AgreeBut aside gone'.pool

namespace Queue

variable (queue : Queue n)

/-- A queue refuses the same requests, or hands out the same ticket; the slot agrees then. -/
theorem reserve_alike (h : pool.AgreeBut aside pool') (kind : RequestKind) :
    (queue.reserve pool kind = none ∧ queue.reserve pool' kind = none) ∨
    ∃ ticket primed primed', queue.reserve pool kind = some (ticket, primed) ∧
      queue.reserve pool' kind = some (ticket, primed') ∧
      primed.AgreeBut (aside \ {ticket.slot}) primed' := by
  have hrefuses : queue.refuses pool' kind = queue.refuses pool kind := by
    unfold Queue.refuses
    rw [h.spares]
  unfold Queue.reserve SlotPool.prime
  rw [hrefuses, h.freeFirst]
  by_cases hrefused : queue.refuses pool kind
  · left
    rw [if_pos hrefused, if_pos hrefused]
    exact ⟨rfl, rfl⟩
  · rw [if_neg hrefused, if_neg hrefused]
    cases pool.freeFirst with
    | none => exact .inl ⟨rfl, rfl⟩
    | some i => exact .inr ⟨_, _, _, rfl, rfl, h.prepare i kind .none⟩

/-- A slot is put behind the last one of a queue. -/
theorem append_alike (h : pool.AgreeBut aside pool')
    (hlast : ∀ last, queue.last = some last → last ∉ aside) (slot : Fin n) :
    (queue.append pool' slot).1 = (queue.append pool slot).1 ∧
      (queue.append pool slot).2.AgreeBut aside (queue.append pool' slot).2 := by
  unfold Queue.append
  cases hlast' : queue.last with
  | none => exact ⟨rfl, h⟩
  | some last =>
    exact ⟨rfl, h.modify (hlast last hlast') fun old => { old with next := some slot }⟩

theorem commit_alike (h : pool.AgreeBut aside pool') {ticket : Ticket n}
    (hslot : ticket.slot ∉ aside) (hlast : ∀ last, queue.last = some last → last ∉ aside) :
    Alike (fun done done' => done'.1 = done.1 ∧ done.2.AgreeBut aside done'.2)
      (queue.commit pool ticket) (queue.commit pool' ticket) := by
  have htaken {lent lent' : SlotPool n} (hlent : lent.AgreeBut aside lent') :
      Alike (fun done done' => done'.1 = done.1 ∧ done.2.AgreeBut aside done'.2)
        (do return queue.append (← lent.take ticket.slot) ticket.slot)
        (do return queue.append (← lent'.take ticket.slot) ticket.slot) := by
    apply (hlent.take hslot).bind
    intro taken taken' htaken
    exact .ok (queue.append_alike htaken hlast ticket.slot)
  unfold Queue.commit
  split
  · apply h.takeSpare.bind
    intro lent lent' hlent
    exact htaken hlent
  · exact htaken h

theorem advance_alike (h : pool.AgreeBut aside pool')
    (hfirst : ∀ first, queue.first = some first → first ∉ aside) :
    Alike (Released.Alike aside) (queue.advance pool) (queue.advance pool') := by
  unfold Queue.advance
  cases hfirst' : queue.first with
  | none => exact .error trivial
  | some first =>
    have hmem := hfirst first hfirst'
    dsimp only
    rw [h.slot first hmem]
    split
    · apply h.returnSpare.bind
      intro back back' hback
      obtain ⟨hgrants, hreleased⟩ := hback.release hmem
      exact .ok ⟨rfl, hgrants, hreleased⟩
    · obtain ⟨hgrants, hreleased⟩ := h.release hmem
      exact .ok ⟨rfl, hgrants, hreleased⟩

/-- Behind the request that left, the queue runs on as before. -/
theorem chain_of_advance {slot : Fin n} {rest : List (Fin n)}
    (hchain : pool.Chain queue.first (slot :: rest)) {gone : Released n}
    (hgone : queue.advance pool = .ok gone) : gone.pool.Chain gone.queue.first rest := by
  have hfirst : queue.first = some slot := hchain.start_eq
  have hnodup := hchain.nodup
  have htail := hchain.tail
  -- Only the first slot is linked anew.
  have hreleased (back : SlotPool n) (hback : ∀ i, back.slot i = pool.slot i) :
      (back.release slot).2.Chain (pool.slot slot).next rest := by
    apply htail.congr
    intro i hi
    have hne : slot ≠ i := by
      rintro rfl
      exact (List.nodup_cons.mp hnodup).1 hi
    change (((back.setGrants slot .none).link slot back.freeFirst).slot i).next = _
    rw [SlotPool.link_slot, if_neg hne, SlotPool.setGrants_slot, if_neg hne, hback]
  unfold Queue.advance at hgone
  simp only [hfirst] at hgone
  split at hgone
  · obtain ⟨back, hback, hok⟩ := except_bind_eq_ok.mp hgone
    cases hok
    apply hreleased
    intro i
    unfold SlotPool.returnSpare at hback
    split at hback
    · cases hback
    · cases hback
      rfl
  · cases hgone
    exact hreleased pool fun _ => rfl

theorem drain_alike {queue : Queue n} (h : pool.AgreeBut aside pool') {slots : List (Fin n)}
    (hchain : pool.Chain queue.first slots) (hslots : ∀ i ∈ slots, i ∉ aside) (count : Nat) :
    Alike (Released.Alike aside) (queue.drain pool count) (queue.drain pool' count) := by
  -- By induction on the requests that leave, along the slots of the queue.
  induction count generalizing queue pool pool' slots with
  | zero => exact .ok ⟨rfl, rfl, h⟩
  | succ count ih =>
    have hfirst (first : Fin n) (heq : queue.first = some first) : first ∉ aside := by
      rw [hchain.start_eq] at heq
      exact hslots first (List.mem_of_head? heq)
    have hstep := queue.advance_alike h hfirst
    rcases hstep.outcome with ⟨gone, gone', hgone, hgone', hqueue, hgrants, hpool⟩ |
      ⟨defect, hgone, hgone', -⟩
    · obtain ⟨rest, hrest, hsub⟩ : ∃ rest, gone.pool.Chain gone.queue.first rest ∧ rest ⊆ slots := by
        cases slots with
        | nil =>
          have hnone : queue.first = none := hchain.start_eq
          simp only [Queue.advance, hnone] at hgone
          cases hgone
        | cons slot rest => exact ⟨rest, queue.chain_of_advance hchain hgone, List.subset_cons_self ..⟩
      have hlater : Alike (Released.Alike aside) (gone.queue.drain gone.pool count)
          (gone'.queue.drain gone'.pool count) := by
        rw [hqueue]
        exact ih hpool hrest fun i hi => hslots i (hsub hi)
      rw [Queue.drain, Queue.drain, hgone, hgone']
      apply hlater.bind
      intro last last' hlast
      have hall : gone'.grants ++ last'.grants = gone.grants ++ last.grants := by
        rw [hgrants, hlast.grants]
      exact .ok ⟨hlast.queue, hall, hlast.pool⟩
    · rw [Queue.drain, Queue.drain, hgone, hgone']
      exact .error trivial

theorem cancelAll_alike (h : pool.AgreeBut aside pool') {slots : List (Fin n)}
    (hchain : pool.Chain queue.first slots) (hslots : ∀ i ∈ slots, i ∉ aside) :
    Alike (Released.Alike aside) (queue.cancelAll pool) (queue.cancelAll pool') := by
  apply (drain_alike h hchain hslots queue.depth).bind
  intro gone gone' hgone
  have hqueue : { gone'.queue with limit := 0 } = { gone.queue with limit := 0 } := by
    rw [hgone.queue]
  exact .ok ⟨hqueue, hgone.grants, hgone.pool⟩

/-- A queue completes the same requests. -/
theorem complete?_alike (h : pool.AgreeBut aside pool')
    (hfirst : ∀ first, queue.first = some first → first ∉ aside) (kind : RequestKind)
    (number : UInt32) :
    Alike (Option.Rel (Released.Alike aside)) (queue.complete? pool kind number)
      (queue.complete? pool' kind number) := by
  unfold Queue.complete?
  split
  · exact .ok .none
  · cases hfirst' : queue.first with
    | none => exact .ok .none
    | some first =>
      dsimp only
      rw [h.slot first (hfirst first hfirst')]
      split
      · rcases (queue.advance_alike h hfirst).outcome with ⟨gone, gone', hgone, hgone', halike⟩ |
          ⟨defect, hgone, hgone', -⟩
        · rw [hgone, hgone']
          exact .ok (.some halike)
        · rw [hgone, hgone']
          exact .error trivial
      · exact .ok .none

end Queue
end DriverHub
