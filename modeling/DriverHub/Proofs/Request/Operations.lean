import DriverHub.Proofs.Request.Layout

/-! The operations of a queue, seen on its layout. Each needs only that spares are in hand or out as
the operation expects; that they are is a matter of all queues together. -/
namespace DriverHub

open Function

variable {n : Nat} {κ : Type}

theorem SlotPool.prime_eq_some {pool primed : SlotPool n} {kind : RequestKind} {i : Fin n} :
    pool.prime kind = some (i, primed) ↔ pool.freeFirst = some i ∧
      primed = pool.modify i fun slot => { slot with kind, grants := SlotGrants.none } := by
  unfold SlotPool.prime
  split
  · rename_i hfirst
    simp [hfirst]
  · rename_i j hfirst
    simp only [hfirst, Option.some.injEq, Prod.mk.injEq]
    constructor
    · rintro ⟨rfl, rfl⟩
      exact ⟨rfl, rfl⟩
    · rintro ⟨rfl, rfl⟩
      exact ⟨rfl, rfl⟩

theorem Queue.reserve_eq_some {queue : Queue n} {pool primed : SlotPool n} {kind : RequestKind}
    {ticket : Ticket n} :
    queue.reserve pool kind = some (ticket, primed) ↔
      queue.refuses pool kind = false ∧ pool.freeFirst = some ticket.slot ∧
      ticket.number = queue.head + UInt32.ofNat queue.depth ∧ ticket.kind = kind ∧
      primed = pool.modify ticket.slot fun slot =>
        { slot with kind, grants := SlotGrants.none } := by
  obtain ⟨slot, number, kind'⟩ := ticket
  unfold Queue.reserve
  by_cases hrefuses : queue.refuses pool kind
  · simp [hrefuses]
  · simp only [hrefuses, Bool.false_eq_true, ↓reduceIte, Option.map_eq_some_iff, Prod.mk.injEq,
      Ticket.mk.injEq, Prod.exists, SlotPool.prime_eq_some, true_and]
    constructor
    · rintro ⟨i, p, ⟨hfirst, hp⟩, ⟨rfl, rfl, rfl⟩, rfl⟩
      exact ⟨hfirst, rfl, rfl, hp⟩
    · rintro ⟨hfirst, rfl, rfl, hp⟩
      exact ⟨slot, primed, ⟨hfirst, hp⟩, ⟨rfl, rfl, rfl⟩, rfl⟩

theorem SlotPool.takeSpare_eq {pool : SlotPool n} (h : 0 < pool.spares) :
    pool.takeSpare = .ok { pool with spares := pool.spares - 1 } := by
  rw [SlotPool.takeSpare, if_neg (Nat.ne_of_gt h)]

theorem SlotPool.returnSpare_eq {pool : SlotPool n} (h : pool.spares < pool.spareTotal) :
    pool.returnSpare = .ok { pool with spares := pool.spares + 1 } := by
  rw [SlotPool.returnSpare, if_neg (Nat.not_le.mpr h)]

theorem SlotPool.take_eq {pool : SlotPool n} {i : Fin n} (hfirst : pool.freeFirst = some i)
    (hcount : pool.freeCount ≠ 0) :
    pool.take i = .ok { pool.link i none with
      freeFirst := (pool.slot i).next
      freeCount := pool.freeCount - 1 } := by
  rw [SlotPool.take, if_neg (not_not.mpr hfirst), if_neg hcount]

/-- The pool without its first free slot and without some of its spares. -/
def SlotPool.taken (pool : SlotPool n) (i : Fin n) (lent : Nat) : SlotPool n :=
  { pool.link i none with
    freeFirst := (pool.slot i).next
    freeCount := pool.freeCount - 1
    spares := pool.spares - lent }

theorem Queue.commit_eq {queue : Queue n} {pool : SlotPool n} {ticket : Ticket n}
    (hfirst : pool.freeFirst = some ticket.slot) (hcount : pool.freeCount ≠ 0)
    (hspare : queue.needsSpare ticket.kind = true → 0 < pool.spares) :
    queue.commit pool ticket = .ok (queue.append
      (pool.taken ticket.slot (if queue.needsSpare ticket.kind then 1 else 0)) ticket.slot) := by
  unfold Queue.commit
  by_cases hneeds : queue.needsSpare ticket.kind
  · have htake := @SlotPool.take_eq n { pool with spares := pool.spares - 1 } ticket.slot hfirst
      hcount
    simp only [hneeds, ↓reduceIte, SlotPool.takeSpare_eq (hspare hneeds), bind, Except.bind, htake]
    rfl
  · simp only [hneeds, Bool.false_eq_true, ↓reduceIte, bind, Except.bind,
      SlotPool.take_eq hfirst hcount]
    rfl

/-- The pool with one more free slot and with spares that came back. -/
def SlotPool.released (pool : SlotPool n) (i : Fin n) (back : Nat) : SlotPool n :=
  { (pool.release i).2 with spares := pool.spares + back }

theorem Queue.advance_eq {queue : Queue n} {pool : SlotPool n} {slot : Fin n} {back : Nat}
    (hfirst : queue.first = some slot)
    (hback : back = if (pool.slot slot).kind.usesSpares && queue.guaranteed < queue.depth
      then 1 else 0)
    (hspare : pool.spares + back ≤ pool.spareTotal) :
    queue.advance pool = .ok {
      queue := { queue with
        head := queue.head + 1
        depth := queue.depth - 1
        first := (pool.slot slot).next
        last := if (pool.slot slot).next.isNone then none else queue.last }
      pool := pool.released slot back
      grants := (pool.slot slot).grants.recorded } := by
  unfold Queue.advance
  simp only [hfirst]
  by_cases hcond : (pool.slot slot).kind.usesSpares && decide (queue.guaranteed < queue.depth)
  · rw [if_pos hcond] at hback
    subst hback
    simp only [hcond, ↓reduceIte, SlotPool.returnSpare_eq hspare, bind, Except.bind]
    rfl
  · rw [if_neg hcond] at hback
    subst hback
    simp only [hcond, Bool.false_eq_true, ↓reduceIte, bind, Except.bind]
    rfl

theorem SlotPool.released_slot (pool : SlotPool n) (i j : Fin n) (back : Nat) :
    (pool.released i back).slot j =
      if i = j then ⟨pool.freeFirst, (pool.slot i).kind, SlotGrants.none⟩ else pool.slot j := by
  change ((pool.setGrants i SlotGrants.none).link i pool.freeFirst).slot j = _
  rw [SlotPool.link_slot]
  split
  · rw [SlotPool.setGrants_slot, if_pos rfl]
  · rename_i hne
    rw [SlotPool.setGrants_slot, if_neg hne]

/-- The oldest request of a queue gave its slot and its number up; the rest stays as it is. -/
structure Queue.Shortened (queue queue' : Queue n) (count : Nat) : Prop where
  head : queue'.head = queue.head + UInt32.ofNat count
  depth : queue'.depth + count = queue.depth
  limit : queue'.limit = queue.limit
  guaranteed : queue'.guaranteed = queue.guaranteed

/-- One request more is in the queue, behind the others. -/
structure Queue.Lengthened (queue queue' : Queue n) : Prop where
  head : queue'.head = queue.head
  depth : queue'.depth = queue.depth + 1
  limit : queue'.limit = queue.limit
  guaranteed : queue'.guaranteed = queue.guaranteed

theorem Queue.Shortened.refl (queue : Queue n) : queue.Shortened queue 0 := ⟨by simp, rfl, rfl, rfl⟩

theorem Queue.Shortened.trans {queue queue' queue'' : Queue n} {a b : Nat}
    (h : queue.Shortened queue' a) (h' : queue'.Shortened queue'' b) :
    queue.Shortened queue'' (a + b) := by
  refine ⟨?_, ?_, h'.limit.trans h.limit, h'.guaranteed.trans h.guaranteed⟩
  · rw [h'.head, h.head, UInt32.ofNat_add, UInt32.add_assoc]
  · have := h.depth
    have := h'.depth
    omega

theorem Layout.drop_drop [DecidableEq κ] (layout : Layout κ n) (k : κ) (a b : Nat) :
    (layout.drop k a).drop k b = layout.drop k (a + b) := by
  have hslots : (layout.drop k a).slots k = (layout.slots k).drop a := by
    rw [Layout.slots_drop, if_pos rfl]
  have hheld : (layout.drop k a).held k = (layout.held k).drop a := by
    simp [Layout.drop]
  simp only [Layout.drop, Layout.mk.injEq]
  constructor
  · change ((layout.drop k a).slots k |>.take b).reverse ++ _ = _
    rw [hslots, ← List.append_assoc, ← List.reverse_append, List.take_add]
  · change update (layout.drop k a).held k (((layout.drop k a).held k).drop b) = _
    rw [hheld, List.drop_drop]
    exact update_idem ..

namespace Layout.Describes

variable [DecidableEq κ] {layout : Layout κ n} {pool : SlotPool n} {queues : κ → Queue n}

/-- A queue may change where the layout does not look. -/
theorem update_same (h : layout.Describes pool queues) {k : κ} {queue' : Queue n}
    (hfirst : queue'.first = (queues k).first) (hlast : queue'.last = (queues k).last)
    (hdepth : queue'.depth = (queues k).depth) :
    layout.Describes pool (update queues k queue') := by
  have hsame (k' : κ) : (update queues k queue' k').first = (queues k').first ∧
      (update queues k queue' k').last = (queues k').last ∧
      (update queues k queue' k').depth = (queues k').depth := by
    by_cases hk : k' = k
    · subst k'
      rw [update_self]
      exact ⟨hfirst, hlast, hdepth⟩
    · rw [update_of_ne hk]
      exact ⟨rfl, rfl, rfl⟩
  refine { h with chain := ?chain, depth := ?depth, last := ?last }
  case chain =>
    intro k'
    rw [(hsame k').1]
    exact h.chain k'
  case depth =>
    intro k'
    rw [(hsame k').2.2, h.depth]
  case last =>
    intro k'
    rw [(hsame k').2.1, h.last]

theorem commit (h : layout.Describes pool queues) (k : κ) {ticket : Ticket n} {rest : List (Fin n)}
    (hfree : layout.free = ticket.slot :: rest)
    (hspare : (queues k).needsSpare ticket.kind = true → 0 < pool.spares) :
    ∃ queue' pool', (queues k).commit pool ticket = .ok (queue', pool') ∧
      (queues k).Lengthened queue' ∧
      pool'.spares + (if (queues k).needsSpare ticket.kind then 1 else 0) = pool.spares ∧
      pool'.spareTotal = pool.spareTotal ∧
      (layout.push k (pool.booking ticket.slot)).Describes pool' (update queues k queue') := by
  have hfirst : pool.freeFirst = some ticket.slot := by
    rw [h.free_chain.start_eq, hfree, List.head?_cons]
  have hcount : pool.freeCount = rest.length + 1 := by
    rw [← h.free_count, hfree, List.length_cons]
  rw [Queue.commit_eq hfirst (by omega) hspare]
  generalize hlent : (if (queues k).needsSpare ticket.kind then 1 else 0) = lent
  have hspares : pool.spares - lent + lent = pool.spares := by
    subst lent
    split
    · rename_i hneeds
      have := hspare hneeds
      omega
    · rfl
  have hcount' : pool.freeCount - 1 + 1 = pool.freeCount := by omega
  have hlastmem (j : Fin n) (hj : (queues k).last = some j) : j ≠ ticket.slot := by
    rw [h.last] at hj
    rintro rfl
    refine h.free_apart k ticket.slot (List.mem_of_getLast? hj) ?_
    rw [hfree]
    exact List.mem_cons_self
  have htaken (j : Fin n) : (pool.taken ticket.slot lent).slot j =
      if ticket.slot = j then { pool.slot ticket.slot with next := none } else pool.slot j :=
    SlotPool.link_slot ..
  have hbooking (j : Fin n) : (pool.taken ticket.slot lent).booking j = pool.booking j := by
    simp only [SlotPool.booking, htaken]
    split <;> simp_all
  -- The first request of a queue becomes its first slot; a later one is linked behind the last.
  rcases hl : (queues k).last with _ | l
  · refine ⟨{ queues k with
        depth := (queues k).depth + 1, first := some ticket.slot, last := some ticket.slot },
      pool.taken ticket.slot lent, by simp only [Queue.append, hl], ⟨rfl, rfl, rfl, rfl⟩, hspares,
      rfl, ?_⟩
    have hnone : (queues k).first = none := by
      have hnil : layout.slots k = [] := List.getLast?_eq_none_iff.mp ((h.last k).symm.trans hl)
      rw [(h.chain k).start_eq, hnil, List.head?_nil]
    refine h.push hfree rfl hcount' ?_ (by simp [hl]) (fun j hj _ => ?_) hbooking ?_ rfl rfl
    · rw [htaken, if_pos rfl]
    · rw [htaken, if_neg (Ne.symm hj)]
    · rw [hnone, Option.getD_none]
  · have hne : l ≠ ticket.slot := hlastmem l hl
    refine ⟨{ queues k with depth := (queues k).depth + 1, last := some ticket.slot },
      (pool.taken ticket.slot lent).link l (some ticket.slot), by simp only [Queue.append, hl],
      ⟨rfl, rfl, rfl, rfl⟩, hspares, rfl, ?_⟩
    have hsome : (queues k).first = some (((queues k).first).getD ticket.slot) := by
      have hne' : layout.slots k ≠ [] := by
        intro hnil
        have := h.last k
        rw [hnil, hl] at this
        simp at this
      rw [(h.chain k).start_eq, List.head?_eq_some_head hne', Option.getD_some]
    refine h.push hfree rfl hcount' ?_ (fun j hj => ?_) (fun j hj hjl => ?_) (fun j => ?_) hsome rfl
      rfl
    · rw [SlotPool.link_slot, if_neg hne, htaken, if_pos rfl]
    · rw [SlotPool.link_slot, if_pos (Option.some.inj (hl.symm.trans hj))]
    · have hlj : l ≠ j := fun he => hjl (he ▸ hl)
      rw [SlotPool.link_slot, if_neg hlj, htaken, if_neg (Ne.symm hj)]
    · rw [← hbooking j]
      simp only [SlotPool.booking, SlotPool.link_slot]
      split <;> simp_all

/-- The oldest request of a queue leaves it, and the spare that it gives back has room. -/
theorem advance_of_room (h : layout.Describes pool queues) {k : κ} {b : Booking n}
    {rest : List (Booking n)} (hheld : layout.held k = b :: rest) {back : Nat}
    (hback : back = if b.kind.usesSpares && (queues k).guaranteed < rest.length + 1 then 1 else 0)
    (hspare : pool.spares + back ≤ pool.spareTotal) :
    ∃ gone, (queues k).advance pool = .ok gone ∧ gone.grants = b.grants.recorded ∧
      (queues k).Shortened gone.queue 1 ∧ gone.pool.spares = pool.spares + back ∧
      gone.pool.spareTotal = pool.spareTotal ∧
      (∀ i, i ≠ b.slot → gone.pool.slot i = pool.slot i) ∧
      (layout.drop k 1).Describes gone.pool (update queues k gone.queue) := by
  have hdepth : (queues k).depth = rest.length + 1 := by
    rw [← h.depth, hheld, List.length_cons]
  have hfirst : (queues k).first = some b.slot := by
    rw [(h.chain k).start_eq, slots, hheld, List.map_cons, List.head?_cons]
  have hbooking := h.recorded k b (by rw [hheld]; exact List.mem_cons_self)
  have hkind : (pool.slot b.slot).kind = b.kind := congrArg Booking.kind hbooking
  have hgrants : (pool.slot b.slot).grants = b.grants := congrArg Booking.grants hbooking
  have hsame (i : Fin n) (hi : i ≠ b.slot) :
      (pool.released b.slot back).slot i = pool.slot i := by
    rw [SlotPool.released_slot, if_neg (Ne.symm hi)]
  have hadvance := Queue.advance_eq hfirst (by rw [hkind, hdepth, hback]) hspare
  rw [hadvance]
  refine ⟨_, rfl, by rw [hgrants], ⟨rfl, ?_, rfl, rfl⟩, rfl, rfl, hsame, ?_⟩
  · change (queues k).depth - 1 + 1 = _
    omega
  · refine h.pop hheld rfl rfl ?_ hsame rfl rfl ?_
    · rw [SlotPool.released_slot, if_pos rfl]
    · change (queues k).depth - 1 + 1 = _
      omega

/-- The oldest request of a queue leaves it, and the spare that it is owed comes back. -/
theorem advance (h : layout.Describes pool queues) {k : κ} {b : Booking n}
    {rest : List (Booking n)} (hheld : layout.held k = b :: rest)
    (hspare : pool.spares + owed (queues k).guaranteed (b :: rest) ≤ pool.spareTotal) :
    ∃ gone, (queues k).advance pool = .ok gone ∧ gone.grants = b.grants.recorded ∧
      (queues k).Shortened gone.queue 1 ∧
      gone.pool.spares + owed (queues k).guaranteed rest =
        pool.spares + owed (queues k).guaranteed (b :: rest) ∧
      gone.pool.spareTotal = pool.spareTotal ∧
      (layout.drop k 1).Describes gone.pool (update queues k gone.queue) := by
  -- No more spares come back than are out, so the check of the total passes.
  rw [owed_cons] at hspare ⊢
  obtain ⟨gone, hgone, hgrants, hshort, hspares, htotal, -, hdesc⟩ :=
    h.advance_of_room hheld rfl (by omega)
  exact ⟨gone, hgone, hgrants, hshort, by omega, htotal, hdesc⟩

theorem drop_zero (h : layout.Describes pool queues) (k : κ) :
    (layout.drop k 0).Describes pool queues := by
  have heq : layout.drop k 0 = layout := by
    simp [Layout.drop]
  rwa [heq]

theorem drain (h : layout.Describes pool queues) {k : κ} {bs : List (Booking n)}
    (hheld : layout.held k = bs)
    (hspare : pool.spares + owed (queues k).guaranteed bs ≤ pool.spareTotal) :
    ∃ gone, (queues k).drain pool bs.length = .ok gone ∧
      gone.grants = bs.flatMap (fun b => b.grants.recorded) ∧
      (queues k).Shortened gone.queue bs.length ∧
      gone.pool.spares = pool.spares + owed (queues k).guaranteed bs ∧
      gone.pool.spareTotal = pool.spareTotal ∧
      (layout.drop k bs.length).Describes gone.pool (update queues k gone.queue) := by
  -- The induction is on the requests in flight: what is behind the first one is the list of a queue
  -- that has advanced by one.
  induction bs generalizing layout pool queues with
  | nil =>
    refine ⟨⟨queues k, pool, []⟩, rfl, rfl, .refl _, by simp [owed], rfl, ?_⟩
    rw [update_eq_self]
    exact h.drop_zero k
  | cons b rest ih =>
    obtain ⟨first, hfirst, hgrants, hshort, hspares, htotal, hdesc⟩ := h.advance hheld hspare
    have hself : update queues k first.queue k = first.queue := update_self ..
    have hrest : (layout.drop k 1).held k = rest := by simp [Layout.drop, hheld]
    have hguaranteed := hshort.guaranteed
    obtain ⟨gone, hgone, hgrants', hshort', hspares', htotal', hdesc'⟩ := ih hdesc hrest (by
      rw [hself, hguaranteed, hspares, htotal]
      exact hspare)
    rw [hself] at hgone hshort' hspares'
    rw [update_idem, Layout.drop_drop] at hdesc'
    refine ⟨{ gone with grants := first.grants ++ gone.grants }, ?_, ?_, ?_, ?_, ?_, ?_⟩
    · simp only [List.length_cons, Queue.drain, hfirst, hgone, bind, Except.bind]
      rfl
    · simp only [hgrants, hgrants', List.flatMap_cons]
    · rw [List.length_cons, Nat.add_comm]
      exact hshort.trans hshort'
    · rw [hspares', hguaranteed, hspares]
    · exact htotal'.trans htotal
    · rw [List.length_cons, Nat.add_comm]
      exact hdesc'

omit [DecidableEq κ] in
theorem ends_eq_none (h : layout.Describes pool queues) {k : κ} (hheld : layout.held k = []) :
    (queues k).first = none ∧ (queues k).last = none := by
  have hslots : layout.slots k = [] := by rw [slots, hheld, List.map_nil]
  constructor
  · rw [(h.chain k).start_eq, hslots, List.head?_nil]
  · rw [h.last, hslots, List.getLast?_nil]

omit [DecidableEq κ] in
theorem begin_eq (h : layout.Describes pool queues) {k : κ} (hheld : layout.held k = []) :
    (queues k).begin = .ok { queues k with head := (queues k).head + 1, limit := 0 } := by
  obtain ⟨hfirst, hlast⟩ := h.ends_eq_none hheld
  have hdepth : (queues k).depth = 0 := by rw [← h.depth, hheld, List.length_nil]
  rw [Queue.begin, if_neg (not_not.mpr hdepth)]
  simp only [hdepth, hfirst, hlast]

theorem cancelAll (h : layout.Describes pool queues) (k : κ)
    (hspare : pool.spares + owed (queues k).guaranteed (layout.held k) ≤ pool.spareTotal) :
    ∃ gone, (queues k).cancelAll pool = .ok gone ∧
      gone.grants = (layout.held k).flatMap (fun b => b.grants.recorded) ∧
      gone.queue.head = (queues k).head + UInt32.ofNat (layout.held k).length ∧
      gone.queue.depth = 0 ∧ gone.queue.limit = 0 ∧
      gone.queue.guaranteed = (queues k).guaranteed ∧
      gone.pool.spares = pool.spares + owed (queues k).guaranteed (layout.held k) ∧
      gone.pool.spareTotal = pool.spareTotal ∧
      (layout.drop k (layout.held k).length).Describes gone.pool (update queues k gone.queue) := by
  obtain ⟨gone, hgone, hgrants, hshort, hspares, htotal, hdesc⟩ := h.drain rfl hspare
  have hdepth := hshort.depth
  rw [h.depth] at hgone hdepth
  refine ⟨{ gone with queue := { gone.queue with limit := 0 } }, ?_, hgrants, hshort.head, ?_, rfl,
    hshort.guaranteed, hspares, htotal, ?_⟩
  · simp only [Queue.cancelAll, hgone, bind, Except.bind]
    rfl
  · change gone.queue.depth = 0
    omega
  · have hsame : (layout.drop k (layout.held k).length).Describes gone.pool
        (update (update queues k gone.queue) k { gone.queue with limit := 0 }) :=
      hdesc.update_same (by rw [update_self]) (by rw [update_self]) (by rw [update_self])
    rwa [update_idem] at hsame

omit [DecidableEq κ] in
/-- A request is completed exactly if it is the oldest one and has the kind and the number given. -/
theorem complete?_eq (h : layout.Describes pool queues) (k : κ) (kind : RequestKind)
    (number : UInt32) :
    (queues k).complete? pool kind number =
      if (queues k).head = number ∧ ((layout.held k).head?.map Booking.kind) = some kind then
        ((queues k).advance pool).map some
      else .ok none := by
  have hdepth := h.depth k
  unfold Queue.complete?
  rcases hheld : layout.held k with _ | ⟨b, rest⟩
  · rw [hheld, List.length_nil] at hdepth
    simp [← hdepth]
  · -- The first slot of the queue records what the layout says of its oldest request.
    have hfirst : (queues k).first = some b.slot := by
      rw [(h.chain k).start_eq, slots, hheld, List.map_cons, List.head?_cons]
    have hkind : (pool.slot b.slot).kind = b.kind :=
      congrArg Booking.kind (h.recorded k b (by rw [hheld]; exact List.mem_cons_self))
    have hpos : (queues k).depth ≠ 0 := by
      rw [← hdepth, hheld, List.length_cons]
      omega
    simp only [hpos, hfirst, List.head?_cons, Option.map_some, Option.some.injEq, ← hkind, false_or]
    by_cases hhead : (queues k).head = number
    · rw [if_neg (not_not.mpr hhead)]
      by_cases hb : (pool.slot b.slot).kind = kind
      · rw [if_pos hb, if_pos ⟨hhead, hb⟩]
      · rw [if_neg hb, if_neg fun hc => hb hc.2]
    · rw [if_pos hhead, if_neg fun hc => hhead hc.1]

end Layout.Describes
end DriverHub
