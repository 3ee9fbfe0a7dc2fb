import DriverHub.Proofs.Request.Chain

/-! What a pool and the queues over it hold, as plain lists: the free slots in order, and for each
queue its requests in order. Each operation of a queue is an operation on these lists. -/
namespace DriverHub

open Function

/-- A request in a queue: its slot, and what is recorded there. -/
structure Booking (n : Nat) where
  slot : Fin n
  kind : RequestKind
  grants : SlotGrants
deriving DecidableEq

/-- The grants among the entries of a slot, in order. -/
def SlotGrants.present (grants : SlotGrants) : List GrantId := grants.toList.reduceOption

/-- Behind an empty entry of a slot there are only empty ones. -/
def SlotGrants.Gapless (grants : SlotGrants) : Prop :=
  grants.toList.Pairwise fun entry later => entry = Option.none → later = Option.none

/-- Where there is no gap, the entries before the first gap are all there are. -/
theorem SlotGrants.Gapless.recorded_eq {grants : SlotGrants} (h : grants.Gapless) :
    grants.recorded = grants.present := by
  unfold Gapless at h
  unfold recorded present
  generalize grants.toList = entries at *
  induction entries with
  | nil => rfl
  | cons entry rest ih =>
    obtain ⟨hfirst, hrest⟩ := List.pairwise_cons.mp h
    cases entry with
    | none =>
      rw [List.eq_replicate_of_mem fun later hlater => hfirst later hlater rfl]
      rw [List.reduceOption_cons_of_none, List.reduceOption_replicate_none]
      rfl
    | some grant => rw [List.reduceOption_cons_of_some, leading, ih hrest]

/-- The division of `n` slots: the free ones, and the requests of each queue, the oldest first. -/
structure Layout (κ : Type) (n : Nat) where
  free : List (Fin n)
  held : κ → List (Booking n)

variable {n : Nat} {κ : Type}

/-- What a slot records. -/
def SlotPool.booking (pool : SlotPool n) (i : Fin n) : Booking n :=
  ⟨i, (pool.slot i).kind, (pool.slot i).grants⟩

/-- The free slots, the next one to be taken first. -/
def SlotPool.free (pool : SlotPool n) : List (Fin n) := pool.follow pool.freeCount pool.freeFirst

/-- The requests of a queue in flight, the oldest first. -/
def Queue.bookings (queue : Queue n) (pool : SlotPool n) : List (Booking n) :=
  (pool.follow queue.depth queue.first).map pool.booking

/-- The spares that come back when these requests leave a queue with this guarantee. A request
gives one back if, when it leaves, the queue is deeper than guaranteed. -/
def owed (guaranteed : Nat) (bookings : List (Booking n)) : Nat :=
  (bookings.take (bookings.length - guaranteed)).countP fun b => b.kind.usesSpares

namespace Layout

/-- The slots of a queue. -/
def slots (layout : Layout κ n) (k : κ) : List (Fin n) := (layout.held k).map Booking.slot

/-- The pool and its queues are divided like this: the free list and the list of each queue are
chains of the pool, and every slot is on exactly one of them. -/
structure Describes (layout : Layout κ n) (pool : SlotPool n) (queues : κ → Queue n) : Prop where
  free_chain : pool.Chain pool.freeFirst layout.free
  free_count : layout.free.length = pool.freeCount
  chain : ∀ k, pool.Chain (queues k).first (layout.slots k)
  depth : ∀ k, (layout.held k).length = (queues k).depth
  last : ∀ k, (queues k).last = (layout.slots k).getLast?
  recorded : ∀ k, ∀ b ∈ layout.held k, pool.booking b.slot = b
  free_apart : ∀ k, ∀ i ∈ layout.slots k, i ∉ layout.free
  held_apart : ∀ k k', ∀ i ∈ layout.slots k, i ∈ layout.slots k' → k = k'
  covered : ∀ i, i ∈ layout.free ∨ ∃ k, i ∈ layout.slots k

variable [DecidableEq κ] {layout : Layout κ n} {pool : SlotPool n} {queues : κ → Queue n}

/-- A request moved from the free list to the end of a queue. -/
def push (layout : Layout κ n) (k : κ) (b : Booking n) : Layout κ n where
  free := layout.free.tail
  held := update layout.held k (layout.held k ++ [b])

/-- The oldest requests of a queue moved to the free list, one after the other. -/
def drop (layout : Layout κ n) (k : κ) (count : Nat) : Layout κ n where
  free := ((layout.slots k).take count).reverse ++ layout.free
  held := update layout.held k ((layout.held k).drop count)

theorem slots_push (layout : Layout κ n) (k k' : κ) (b : Booking n) :
    (layout.push k b).slots k' =
      if k' = k then layout.slots k ++ [b.slot] else layout.slots k' := by
  simp only [slots, push, update_apply]
  split
  · rw [List.map_append]
    rfl
  · rfl

theorem slots_drop (layout : Layout κ n) (k k' : κ) (count : Nat) :
    (layout.drop k count).slots k' =
      if k' = k then (layout.slots k).drop count else layout.slots k' := by
  simp only [slots, drop, update_apply]
  split
  · rw [List.map_drop]
  · rfl

end Layout

/-- Of a new pool, every slot is free, the lowest first. -/
theorem Layout.describes_new {spares : Nat} {queues : κ → Queue n}
    (hempty : ∀ k, (queues k).first = none ∧ (queues k).last = none ∧ (queues k).depth = 0) :
    (⟨List.finRange n, fun _ => []⟩ : Layout κ n).Describes (SlotPool.new n spares) queues where
  free_chain := SlotPool.chain_new n spares (Nat.zero_le _)
  free_count := List.length_finRange
  chain k := by
    rw [(hempty k).1]
    exact .done
  depth k := (hempty k).2.2.symm
  last k := (hempty k).2.1
  recorded _ _ hb := nomatch hb
  free_apart _ _ hi := nomatch hi
  held_apart _ _ _ hi := nomatch hi
  covered i := .inl (List.mem_finRange i)

theorem owed_cons (guaranteed : Nat) (b : Booking n) (rest : List (Booking n)) :
    owed guaranteed (b :: rest) =
      (if b.kind.usesSpares && guaranteed < rest.length + 1 then 1 else 0) +
        owed guaranteed rest := by
  unfold owed
  by_cases hg : guaranteed < rest.length + 1
  · have hlen : (b :: rest).length - guaranteed = rest.length - guaranteed + 1 := by
      simp only [List.length_cons]
      omega
    rw [hlen, List.take_succ_cons, List.countP_cons]
    simp [hg, Nat.add_comm]
  · have hlen : rest.length + 1 - guaranteed = 0 := by omega
    have hrest : rest.length - guaranteed = 0 := by omega
    simp [hlen, hrest, hg]

theorem owed_of_all {guaranteed : Nat} {bookings : List (Booking n)}
    (h : ∀ b ∈ bookings, b.kind.usesSpares = true) :
    owed guaranteed bookings = bookings.length - guaranteed := by
  unfold owed
  rw [List.countP_eq_length.mpr fun b hb => h b (List.mem_of_mem_take hb), List.length_take]
  omega

theorem owed_of_none {guaranteed : Nat} {bookings : List (Booking n)}
    (h : ∀ b ∈ bookings, b.kind.usesSpares = false) : owed guaranteed bookings = 0 := by
  unfold owed
  rw [List.countP_eq_zero]
  intro b hb
  simp [h b (List.mem_of_mem_take hb)]

theorem usesSpares_eq (kind : RequestKind) :
    kind.usesSpares = decide (kind.direction = .send) := by cases kind <;> rfl

/-- Among requests of one direction, the one that comes last borrows a spare if the guarantee is
used up. -/
theorem owed_append {guaranteed : Nat} {bookings : List (Booking n)} {b : Booking n}
    (h : ∀ c ∈ bookings, c.kind.direction = b.kind.direction) :
    owed guaranteed (bookings ++ [b]) = owed guaranteed bookings +
      if b.kind.usesSpares && guaranteed ≤ bookings.length then 1 else 0 := by
  have huses : ∀ c ∈ bookings, c.kind.usesSpares = b.kind.usesSpares := fun c hc => by
    rw [usesSpares_eq, usesSpares_eq, h c hc]
  have huses' : ∀ c ∈ bookings ++ [b], c.kind.usesSpares = b.kind.usesSpares := by
    intro c hc
    rcases List.mem_append.mp hc with hc | hc
    · exact huses c hc
    · rw [List.mem_singleton.mp hc]
  cases hb : b.kind.usesSpares with
  | true =>
    rw [owed_of_all fun c hc => (huses c hc).trans hb,
      owed_of_all fun c hc => (huses' c hc).trans hb, List.length_append, List.length_singleton]
    by_cases hg : guaranteed ≤ bookings.length
    · simp only [hg, decide_true, Bool.and_self, ↓reduceIte]
      omega
    · simp only [hg, decide_false, Bool.and_false, Bool.false_eq_true, ↓reduceIte]
      omega
  | false =>
    rw [owed_of_none fun c hc => (huses c hc).trans hb,
      owed_of_none fun c hc => (huses' c hc).trans hb]
    rfl

namespace Layout.Describes

variable {layout : Layout κ n} {pool : SlotPool n} {queues : κ → Queue n}

/-- What is said of a request is what its slot records. -/
theorem held_eq_map (h : layout.Describes pool queues) (k : κ) :
    layout.held k = (layout.slots k).map pool.booking := by
  rw [slots, List.map_map]
  conv_lhs => rw [← List.map_id (layout.held k)]
  exact List.map_congr_left fun b hb => (h.recorded k b hb).symm

theorem held_eq (h : layout.Describes pool queues) (k : κ) :
    layout.held k = (queues k).bookings pool := by
  have hfollow := (h.chain k).follow_eq
  have hlength : (layout.slots k).length = (queues k).depth := by
    rw [slots, List.length_map, h.depth]
  rw [hlength] at hfollow
  rw [Queue.bookings, hfollow, ← h.held_eq_map]

theorem free_eq (h : layout.Describes pool queues) : layout.free = pool.free := by
  rw [SlotPool.free, ← h.free_count, h.free_chain.follow_eq]

theorem mem_slots {k : κ} {b : Booking n} (hb : b ∈ layout.held k) : b.slot ∈ layout.slots k :=
  List.mem_map_of_mem hb

/-- What a free slot records matters to nobody. -/
theorem modify_free (h : layout.Describes pool queues) {i : Fin n} (hi : i ∈ layout.free)
    {f : Slot n → Slot n} (hf : (f (pool.slot i)).next = (pool.slot i).next) :
    layout.Describes (pool.modify i f) queues := by
  have hnext (j : Fin n) : ((pool.modify i f).slot j).next = (pool.slot j).next := by
    by_cases hij : i = j
    · subst j
      rw [SlotPool.modify_slot, if_pos rfl, hf]
    · rw [SlotPool.modify_slot, if_neg hij]
  refine { h with
    free_chain := h.free_chain.congr fun j _ => hnext j
    chain := fun k => (h.chain k).congr fun j _ => hnext j
    recorded := fun k b hb => ?_ }
  have hne : i ≠ b.slot := by
    rintro rfl
    exact h.free_apart k b.slot (mem_slots hb) hi
  simp only [SlotPool.booking, SlotPool.modify_slot, if_neg hne]
  exact h.recorded k b hb

/-- A queue runs on into a slot that is linked behind its last one. -/
theorem chain_push (h : layout.Describes pool queues) {k : κ} {slot : Fin n}
    (hfresh : slot ∉ layout.slots k) {pool' : SlotPool n} (hslot : (pool'.slot slot).next = none)
    (hlink : ∀ j, (queues k).last = some j → (pool'.slot j).next = some slot)
    (hnext : ∀ j, j ≠ slot → (queues k).last ≠ some j →
      (pool'.slot j).next = (pool.slot j).next) :
    pool'.Chain (some (((queues k).first).getD slot)) (layout.slots k ++ [slot]) := by
  have hchain := h.chain k
  -- An empty queue starts with the slot; any other one is followed up to its last slot first.
  rcases hl : (queues k).last with _ | l
  · have hnil : layout.slots k = [] := List.getLast?_eq_none_iff.mp ((h.last k).symm.trans hl)
    have hstart := hchain.start_eq
    rw [hnil] at hstart ⊢
    rw [hstart]
    refine .step slot ?_
    rw [hslot]
    exact .done
  · have hlast : (layout.slots k).getLast? = some l := (h.last k).symm.trans hl
    have hne : layout.slots k ≠ [] := List.ne_nil_of_mem (List.mem_of_getLast? hlast)
    have hsome : some (((queues k).first).getD slot) = (queues k).first := by
      rw [hchain.start_eq, List.head?_eq_some_head hne, Option.getD_some]
    rw [hsome]
    refine hchain.append hlast hslot (hlink l hl) fun j hj hjl => hnext j ?_ fun hl' => ?_
    · rintro rfl
      exact hfresh hj
    · exact hjl (Option.some.inj (hl'.symm.trans hl))

/-- The first free slot taken for a request and linked behind the last one of its queue. -/
theorem push [DecidableEq κ] (h : layout.Describes pool queues) {k : κ} {slot : Fin n}
    {rest : List (Fin n)} (hfree : layout.free = slot :: rest) {pool' : SlotPool n}
    {queue' : Queue n} (hfirst : pool'.freeFirst = (pool.slot slot).next)
    (hcount : pool'.freeCount + 1 = pool.freeCount) (hslot : (pool'.slot slot).next = none)
    (hlink : ∀ j, (queues k).last = some j → (pool'.slot j).next = some slot)
    (hnext : ∀ j, j ≠ slot → (queues k).last ≠ some j →
      (pool'.slot j).next = (pool.slot j).next)
    (hbooking : ∀ j, pool'.booking j = pool.booking j)
    (hhead : queue'.first = some (((queues k).first).getD slot))
    (hlast : queue'.last = some slot) (hdepth : queue'.depth = (queues k).depth + 1) :
    (layout.push k (pool.booking slot)).Describes pool' (update queues k queue') := by
  have hmem : slot ∈ layout.free := by rw [hfree]; exact List.mem_cons_self
  have hnodup := h.free_chain.nodup
  rw [hfree] at hnodup
  have hrest := (List.nodup_cons.mp hnodup).1
  have hapart (k' : κ) (j : Fin n) (hj : j ∈ layout.slots k') : j ≠ slot := by
    rintro rfl
    exact h.free_apart k' j hj hmem
  -- The one slot of the old lists whose link changes is the last one of this queue.
  have hlastmem (j : Fin n) (hj : (queues k).last = some j) : j ∈ layout.slots k := by
    rw [h.last] at hj
    exact List.mem_of_getLast? hj
  have hslots (k' : κ) : (layout.push k (pool.booking slot)).slots k' =
      if k' = k then layout.slots k ++ [slot] else layout.slots k' := layout.slots_push ..
  refine ⟨?free_chain, ?free_count, ?chain, ?depth, ?last, ?recorded, ?free_apart,
    ?held_apart, ?covered⟩
  case free_chain =>
    -- The free list goes on without its first slot; no link of it is among those changed.
    have htail := h.free_chain
    rw [hfree] at htail
    simp only [Layout.push, hfree, List.tail_cons, hfirst]
    refine htail.tail.congr fun j hj => hnext j ?_ fun hl => ?_
    · rintro rfl
      exact hrest hj
    · refine h.free_apart k j (hlastmem j hl) ?_
      rw [hfree]
      exact List.mem_cons_of_mem _ hj
  case free_count =>
    have hlen := h.free_count
    simp only [Layout.push, hfree, List.tail_cons, List.length_cons] at hlen ⊢
    omega
  case chain =>
    intro k'
    -- The queue runs on into the new slot, and the other queues do not meet what was linked.
    rw [hslots]
    by_cases hk : k' = k
    · subst k'
      rw [if_pos rfl, update_self, hhead]
      exact h.chain_push (fun hj => hapart k slot hj rfl) hslot hlink hnext
    · rw [if_neg hk, update_of_ne hk]
      refine (h.chain k').congr fun j hj => hnext j (hapart k' j hj) fun hl => hk ?_
      exact h.held_apart k' k j hj (hlastmem j hl)
  case depth =>
    intro k'
    by_cases hk : k' = k
    · subst k'
      simp [Layout.push, h.depth, hdepth]
    · simp [Layout.push, hk, h.depth]
  case last =>
    intro k'
    rw [hslots]
    by_cases hk : k' = k
    · subst k'
      simp [hlast]
    · simp [hk, h.last]
  case recorded =>
    intro k' b hb
    rw [hbooking]
    by_cases hk : k' = k
    · subst k'
      simp only [Layout.push, update_self, List.mem_append, List.mem_singleton] at hb
      rcases hb with hb | rfl
      · exact h.recorded k b hb
      · rfl
    · simp only [Layout.push, update_of_ne hk] at hb
      exact h.recorded k' b hb
  case free_apart =>
    intro k' j hj
    rw [hslots] at hj
    simp only [Layout.push, hfree, List.tail_cons]
    have hold : ∀ k', j ∈ layout.slots k' → j ∉ rest := fun k' hj' hjr =>
      h.free_apart k' j hj' (by rw [hfree]; exact List.mem_cons_of_mem _ hjr)
    split at hj
    · rcases List.mem_append.mp hj with hj | hj
      · exact hold k hj
      · rwa [List.mem_singleton.mp hj]
    · exact hold k' hj
  case held_apart =>
    intro k₁ k₂ j h₁ h₂
    -- Two queues that share a slot are one: the new slot was in none of them.
    rw [hslots] at h₁ h₂
    have hnew (k' : κ) : slot ∉ layout.slots k' := fun hj => hapart k' slot hj rfl
    grind [h.held_apart]
  case covered =>
    intro j
    rcases h.covered j with hj | ⟨k', hj⟩
    · rw [hfree] at hj
      rcases List.mem_cons.mp hj with rfl | hj
      · exact .inr ⟨k, by rw [hslots, if_pos rfl]; simp⟩
      · exact .inl (by simpa [Layout.push, hfree] using hj)
    · refine .inr ⟨k', ?_⟩
      rw [hslots]
      split
      · subst k'
        exact List.mem_append_left _ hj
      · exact hj

/-- The oldest request of a queue taken out and its slot put in front of the free list. -/
theorem pop [DecidableEq κ] (h : layout.Describes pool queues) {k : κ} {b : Booking n}
    {rest : List (Booking n)} (hheld : layout.held k = b :: rest) {pool' : SlotPool n}
    {queue' : Queue n} (hfirst : pool'.freeFirst = some b.slot)
    (hcount : pool'.freeCount = pool.freeCount + 1)
    (hslot : (pool'.slot b.slot).next = pool.freeFirst)
    (hsame : ∀ j, j ≠ b.slot → pool'.slot j = pool.slot j)
    (hhead : queue'.first = (pool.slot b.slot).next)
    (hlast : queue'.last = if queue'.first.isNone then none else (queues k).last)
    (hdepth : queue'.depth + 1 = (queues k).depth) :
    (layout.drop k 1).Describes pool' (update queues k queue') := by
  have hslotsk : layout.slots k = b.slot :: rest.map Booking.slot := by
    rw [slots, hheld, List.map_cons]
  have hslots (k' : κ) : (layout.drop k 1).slots k' =
      if k' = k then rest.map Booking.slot else layout.slots k' := by
    rw [Layout.slots_drop, hslotsk]
    rfl
  have hfree : (layout.drop k 1).free = b.slot :: layout.free := by
    simp [Layout.drop, hslotsk]
  have hchain := h.chain k
  have hnodup := hchain.nodup
  rw [hslotsk] at hnodup hchain
  have hrest := (List.nodup_cons.mp hnodup).1
  have hmem : b.slot ∈ layout.slots k := by rw [hslotsk]; exact List.mem_cons_self
  -- What stays in a queue was there before, and is not the slot that left.
  have hout (k' : κ) (j : Fin n) (hj : j ∈ (layout.drop k 1).slots k') :
      j ≠ b.slot ∧ j ∈ layout.slots k' := by
    rw [hslots] at hj
    split at hj
    · subst k'
      exact ⟨fun he => hrest (he ▸ hj), by rw [hslotsk]; exact List.mem_cons_of_mem _ hj⟩
    · rename_i hk
      exact ⟨fun he => hk (h.held_apart k' k j hj (he ▸ hmem)), hj⟩
  refine ⟨?free_chain, ?free_count, ?chain, ?depth, ?last, ?recorded, ?free_apart,
    ?held_apart, ?covered⟩
  case free_chain =>
    -- The slot that left comes before the free list as it was.
    rw [hfree, hfirst]
    refine .step b.slot ?_
    rw [hslot]
    refine h.free_chain.congr fun j hj => ?_
    rw [hsame j fun he => h.free_apart k b.slot hmem (he ▸ hj)]
  case free_count =>
    rw [hfree, List.length_cons, h.free_count, hcount]
  case chain =>
    intro k'
    have hbase : pool.Chain (update queues k queue' k').first ((layout.drop k 1).slots k') := by
      rw [hslots]
      by_cases hk : k' = k
      · subst k'
        rw [if_pos rfl, update_self, hhead]
        exact hchain.tail
      · rw [if_neg hk, update_of_ne hk]
        exact h.chain k'
    exact hbase.congr fun j hj => by rw [hsame j (hout k' j hj).1]
  case depth =>
    intro k'
    have hd := h.depth k
    by_cases hk : k' = k
    · subst k'
      simp only [Layout.drop, hheld, update_self, List.length_cons, List.drop_succ_cons,
        List.drop_zero] at hd ⊢
      omega
    · simp [Layout.drop, hk, h.depth]
  case last =>
    intro k'
    rw [hslots]
    by_cases hk : k' = k
    · subst k'
      rw [if_pos rfl, update_self, hlast, hhead, hchain.tail.start_eq, h.last, hslotsk]
      cases rest <;> simp
    · simp [hk, h.last]
  case recorded =>
    intro k' c hc
    have hcs : c.slot ≠ b.slot := (hout k' c.slot (mem_slots hc)).1
    have hold : c ∈ layout.held k' := by
      by_cases hk : k' = k
      · subst k'
        simp only [Layout.drop, hheld, update_self, List.drop_succ_cons, List.drop_zero] at hc
        rw [hheld]
        exact List.mem_cons_of_mem _ hc
      · simpa [Layout.drop, hk] using hc
    rw [SlotPool.booking, hsame c.slot hcs]
    exact h.recorded k' c hold
  case free_apart =>
    intro k' j hj
    obtain ⟨hne, hj⟩ := hout k' j hj
    rw [hfree, List.mem_cons, not_or]
    exact ⟨hne, h.free_apart k' j hj⟩
  case held_apart =>
    intro k₁ k₂ j h₁ h₂
    exact h.held_apart k₁ k₂ j (hout k₁ j h₁).2 (hout k₂ j h₂).2
  case covered =>
    intro j
    -- A slot that is in no queue now was free before, or has just left.
    rw [hfree]
    rcases h.covered j with hj | ⟨k', hj⟩
    · exact .inl (List.mem_cons_of_mem _ hj)
    · by_cases he : j = b.slot
      · exact .inl (by rw [he]; exact List.mem_cons_self)
      · refine .inr ⟨k', ?_⟩
        rw [hslots]
        split
        · subst k'
          rw [hslotsk] at hj
          exact (List.mem_cons.mp hj).resolve_left he
        · exact hj

end Layout.Describes
end DriverHub
