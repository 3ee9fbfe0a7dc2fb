import DriverHub.Request.Queue
import Mathlib

/-! Chains of slots. All lists of the pool run through the one `next` field of its slots; a chain says
which slots such a list runs through, up to its end. -/
namespace DriverHub
namespace SlotPool

variable {n : Nat}

/-- Following `next` from `start` on runs through these slots, in this order, and then ends. -/
inductive Chain (pool : SlotPool n) : Option (Fin n) → List (Fin n) → Prop
  | done : Chain pool none []
  | step (i : Fin n) {rest : List (Fin n)} (tail : Chain pool (pool.slot i).next rest) :
      Chain pool (some i) (i :: rest)

/-- The slots met when `next` is followed from `start` on, at most `count` of them. -/
def follow (pool : SlotPool n) : (count : Nat) → (start : Option (Fin n)) → List (Fin n)
  | count + 1, some i => i :: pool.follow count (pool.slot i).next
  | _, _ => []

theorem modify_slot (pool : SlotPool n) (i j : Fin n) (f : Slot n → Slot n) :
    (pool.modify i f).slot j = if i = j then f (pool.slot i) else pool.slot j := by
  simp only [modify, slot, Fin.getElem_fin, Vector.getElem_set, Fin.ext_iff]

theorem link_slot (pool : SlotPool n) (i j : Fin n) (next : Option (Fin n)) :
    (pool.link i next).slot j =
      if i = j then { pool.slot i with next } else pool.slot j := modify_slot ..

theorem setGrants_slot (pool : SlotPool n) (i j : Fin n) (grants : SlotGrants) :
    (pool.setGrants i grants).slot j =
      if i = j then { pool.slot i with grants } else pool.slot j := modify_slot ..

theorem Chain.unique {pool : SlotPool n} {start : Option (Fin n)} {xs ys : List (Fin n)}
    (hx : pool.Chain start xs) (hy : pool.Chain start ys) : xs = ys := by
  induction hx generalizing ys with
  | done => cases hy; rfl
  | step i _ ih =>
    cases hy with
    | step _ tail => rw [ih tail]

/-- The part of a chain from one of its slots on is the chain of that slot. -/
theorem Chain.of_mem {pool : SlotPool n} {start : Option (Fin n)} {xs : List (Fin n)}
    (h : pool.Chain start xs) {i : Fin n} (hi : i ∈ xs) :
    ∃ ys, pool.Chain (some i) ys ∧ ys <:+ xs := by
  induction h with
  | done => simp at hi
  | @step j rest tail ih =>
    rcases List.mem_cons.mp hi with rfl | hi
    · exact ⟨i :: rest, .step i tail, List.suffix_rfl⟩
    · obtain ⟨ys, hys, hsub⟩ := ih hi
      exact ⟨ys, hys, hsub.trans (List.suffix_cons j rest)⟩

/-- A chain ends, so it meets no slot twice. -/
theorem Chain.nodup {pool : SlotPool n} {start : Option (Fin n)} {xs : List (Fin n)}
    (h : pool.Chain start xs) : xs.Nodup := by
  induction h with
  | done => exact List.nodup_nil
  | @step i rest tail ih =>
    refine List.nodup_cons.mpr ⟨fun hi => ?_, ih⟩
    -- The chain of `i` would be shorter than itself.
    obtain ⟨ys, hys, hsub⟩ := tail.of_mem hi
    have heq := hys.unique (.step i tail)
    have hlen := hsub.length_le
    rw [heq, List.length_cons] at hlen
    omega

theorem Chain.start_eq {pool : SlotPool n} {start : Option (Fin n)} {xs : List (Fin n)}
    (h : pool.Chain start xs) : start = xs.head? := by
  cases h <;> rfl

theorem Chain.tail {pool : SlotPool n} {start : Option (Fin n)} {i : Fin n} {rest : List (Fin n)}
    (h : pool.Chain start (i :: rest)) : pool.Chain (pool.slot i).next rest := by
  cases h
  assumption

theorem Chain.congr {pool pool' : SlotPool n} {start : Option (Fin n)} {xs : List (Fin n)}
    (h : pool.Chain start xs)
    (same : ∀ i ∈ xs, (pool'.slot i).next = (pool.slot i).next) : pool'.Chain start xs := by
  induction h with
  | done => exact .done
  | step i _ ih =>
    have htail := ih fun j hj => same j (List.mem_cons_of_mem _ hj)
    rw [← same i List.mem_cons_self] at htail
    exact .step i htail

/-- Linking the last slot of a chain to a slot that ends one appends that slot. -/
theorem Chain.append {pool pool' : SlotPool n} {start : Option (Fin n)} {xs : List (Fin n)}
    (h : pool.Chain start xs) {last i : Fin n} (hlast : xs.getLast? = some last)
    (hi : (pool'.slot i).next = none) (hlink : (pool'.slot last).next = some i)
    (same : ∀ j ∈ xs, j ≠ last → (pool'.slot j).next = (pool.slot j).next) :
    pool'.Chain start (xs ++ [i]) := by
  -- Only the last link is new; the slots before it, being others, keep theirs.
  induction h with
  | done => simp at hlast
  | @step j rest tail ih =>
    have hnodup := (Chain.step j tail).nodup
    rcases rest with _ | ⟨k, rest⟩
    · obtain rfl : j = last := by simpa using hlast
      refine .step j ?_
      rw [hlink]
      refine .step i ?_
      rw [hi]
      exact .done
    · have hlast' : (k :: rest).getLast? = some last := by simpa using hlast
      have hne : j ≠ last := by
        rintro rfl
        exact (List.nodup_cons.mp hnodup).1 (List.mem_of_getLast? hlast')
      have htail := ih hlast' fun x hx => same x (List.mem_cons_of_mem _ hx)
      rw [← same j List.mem_cons_self hne] at htail
      exact .step j htail

theorem Chain.follow_eq {pool : SlotPool n} {start : Option (Fin n)} {xs : List (Fin n)}
    (h : pool.Chain start xs) : pool.follow xs.length start = xs := by
  induction h with
  | done => rfl
  | step i _ ih => rw [List.length_cons, follow, ih]

/-- From any slot on, the free list of a new pool goes through all slots behind it. -/
theorem chain_new (n spares : Nat) {first : Nat} (hfirst : first ≤ n) :
    (new n spares).Chain (slotAt? n first) ((List.finRange n).drop first) := by
  -- By induction on the slots left, since the list is followed upwards.
  induction hrest : n - first generalizing first with
  | zero =>
    have heq : first = n := by omega
    rw [slotAt?, dif_neg (by omega), List.drop_eq_nil_of_le (by simp [heq])]
    exact .done
  | succ rest ih =>
    have hlt : first < n := by omega
    have hdrop : (List.finRange n).drop first = ⟨first, hlt⟩ :: (List.finRange n).drop (first + 1) := by
      rw [List.drop_eq_getElem_cons (by simpa using hlt)]
      simp
    have hnext : ((new n spares).slot ⟨first, hlt⟩).next = slotAt? n (first + 1) := by
      simp [new, slot]
    rw [slotAt?, dif_pos hlt, hdrop]
    refine .step ⟨first, hlt⟩ ?_
    rw [hnext]
    exact ih hlt (by omega)

end SlotPool
end DriverHub
