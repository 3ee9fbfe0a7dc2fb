import DriverHub.Proofs.Hub.Agreement

/-! Every request slot has one owner: the free list or one queue. What a slot of a queue records stays
until its request is completed or cancelled. -/
namespace DriverHub

open Function Finset

variable {config : Config} {τ γ ι H : Type}

namespace Account

theorem left_begin (a : Account) (direction : Direction) (request : Request) :
    (a.begin direction request).left = a.left := by cases direction <;> rfl

theorem left_activate (a : Account) : a.activate.left = a.left := rfl

theorem left_complete (a : Account) (kind : RequestKind) (result : Int32) :
    (a.complete kind result).left = a.left + 1 := by
  simp only [complete, left]
  omega

theorem left_cancel (a : Account) : a.cancel.left = a.left + a.inFlight.length := by
  simp only [cancel, left]
  omega

theorem left_post (a : Account) (direction : Direction) (request : Request) :
    (a.post direction request).left = a.left := by
  unfold post
  split
  · split <;> rfl
  · split
    · exact left_begin ..
    · rfl

/-- Requests leave a lane from its front, and the others stay as they are. -/
theorem Fits.leaves {n : Nat} {a a' : Account} {state state' : Occupant H} {lane lane' : Lane n}
    {direction : Direction} (h : a.Fits state lane)
    (hturn : Turn direction state a lane state' a' lane') :
    a.left ≤ a'.left ∧ lane'.bookings = lane.bookings.drop (a'.left - a.left) := by
  -- A lane from which nothing leaves, and one from which everything does.
  have hnone (hleft : a'.left = a.left) (hbookings : lane'.bookings = lane.bookings) :
      a.left ≤ a'.left ∧ lane'.bookings = lane.bookings.drop (a'.left - a.left) := by
    rw [hleft, Nat.sub_self, List.drop_zero]
    exact ⟨Nat.le_refl _, hbookings⟩
  have hall (hleft : a'.left = a.left + a.inFlight.length) (hbookings : lane'.bookings = []) :
      a.left ≤ a'.left ∧ lane'.bookings = lane.bookings.drop (a'.left - a.left) := by
    rw [hleft, Nat.add_sub_cancel_left, h.length_inFlight, List.drop_length]
    exact ⟨Nat.le_add_right .., hbookings⟩
  cases hturn with
  | kept => exact hnone rfl rfl
  | begun request free pending number => exact hnone (left_begin ..) rfl
  | begunAgain request pending number =>
    refine hall ?_ rfl
    rw [left_begin, left_cancel]
  | closed => exact hall (left_cancel a) rfl
  | opened limit pending => exact hnone (left_activate a) rfl
  | turnedDown limit pending => exact hall (left_cancel a.activate) rfl
  | @popped b rest result active oldest =>
    rw [left_complete, Nat.add_sub_cancel_left, List.drop_one]
    exact ⟨Nat.le_succ _, rfl⟩

end Account

namespace View

/-- The requests that left a lane up to now. -/
def left (heads : LaneId config → UInt32) (v : View config τ γ ι H) (k : LaneId config) : Nat :=
  (account (heads k) k v.journal).left

variable [Transport τ] [GrantTable γ] [Interface ι H]
variable {heads : LaneId config → UInt32} {v w : View config τ γ ι H}

theorem Move.leaves (h : v.Agrees heads) (hmove : Move v w) (k : LaneId config) :
    v.left heads k ≤ w.left heads k ∧
      (w.lane k).bookings = (v.lane k).bookings.drop (w.left heads k - v.left heads k) :=
  (h k).leaves (hmove.turns (heads k) k)

omit [Interface ι H] in
/-- Issuing a request takes none out of a lane, and puts at most one behind the others. -/
theorem Issue.joins (heads : LaneId config → UInt32) {outcome : Except Refusal UInt32}
    (hissue : Issue v outcome w) (k : LaneId config) :
    w.left heads k = v.left heads k ∧ ∃ new, (w.lane k).bookings = (v.lane k).bookings ++ new := by
  cases hissue with
  | issued i label endpoint handle slot kind segments request active created few carries sent =>
    constructor
    · simp only [left]
      rw [account_posted, account_creates created]
      split
      · exact Account.left_post ..
      · rfl
    · dsimp only
      rw [update_apply]
      split
      · rename_i hk
        subst hk
        exact ⟨[⟨slot, kind, .ofList _⟩], rfl⟩
      · exact ⟨[], (List.append_nil _).symm⟩
  | abandoned i label endpoint handle access segments active created revoked =>
    refine ⟨?_, [], (List.append_nil _).symm⟩
    simp only [left]
    rw [account_revocations, account_creates created]

theorem Moves.leaves (h : v.Agrees heads) (hmoves : Moves v w) (k : LaneId config) :
    v.left heads k ≤ w.left heads k ∧
      (w.lane k).bookings = (v.lane k).bookings.drop (w.left heads k - v.left heads k) := by
  induction hmoves with
  | refl =>
    rw [Nat.sub_self, List.drop_zero]
    exact ⟨Nat.le_refl _, rfl⟩
  | @tail w w' hmoves hmove ih =>
    obtain ⟨hle, hbookings⟩ := ih
    have hagrees : w.Agrees heads := Moves.keep hmoves (fun _ _ hv hm => hm.agrees hv) h
    obtain ⟨hle', hbookings'⟩ := hmove.leaves hagrees k
    refine ⟨hle.trans hle', ?_⟩
    rw [hbookings', hbookings, List.drop_drop]
    congr 1
    omega

end View

variable [Transport τ] [GrantTable γ] [Interface ι H]
variable {heads : LaneId config → UInt32} {custody : Custody γ} {s t : HubSession config τ γ ι H}

/-- An operation takes requests out of a queue from its front, as many as are completed or cancelled by
the journal, and may put one behind the others; what the others record stays as it is. -/
theorem Reachable.bookings_after (h : Reachable heads custody s) {operation : Operation config}
    {answer : Option (Except Refusal UInt32)} (answered : operation.run s = .ok answer t)
    (k : LaneId config) :
    s.view.left heads k ≤ t.view.left heads k ∧
      ∃ new, t.tables.bookings k =
        (s.tables.bookings k).drop (t.view.left heads k - s.view.left heads k) ++ new := by
  rcases h.ran answered with ⟨hmoves, -⟩ | ⟨outcome, -, hissue⟩
  · obtain ⟨hle, hbookings⟩ := hmoves.leaves h.agrees k
    exact ⟨hle, [], by rw [List.append_nil]; exact hbookings⟩
  · obtain ⟨hleft, new, hbookings⟩ := hissue.joins heads k
    refine ⟨le_of_eq hleft.symm, new, ?_⟩
    rw [hleft, Nat.sub_self, List.drop_zero]
    exact hbookings

/-- The lists of a division of slots have together as many slots as there are. -/
theorem Layout.Describes.length_add {hub : Hub config H}
    {layout : Layout (LaneId config) config.slots} (h : layout.Describes hub.pool hub.queues) :
    hub.pool.freeCount + ∑ k, (hub.queues k).depth = config.slots := by
  -- The lists are disjoint and cover all slots, so their lengths add up to the number of slots.
  have hcover : (univ : Finset (Fin config.slots)) =
      layout.free.toFinset ∪ univ.biUnion fun k => (layout.slots k).toFinset := by
    ext i
    simp only [mem_univ, mem_union, List.mem_toFinset, mem_biUnion, true_and, true_iff]
    exact h.covered i
  have hfree : Disjoint layout.free.toFinset (univ.biUnion fun k => (layout.slots k).toFinset) := by
    rw [Finset.disjoint_left]
    intro i hi hheld
    obtain ⟨k, -, hk⟩ := mem_biUnion.mp hheld
    exact h.free_apart k i (List.mem_toFinset.mp hk) (List.mem_toFinset.mp hi)
  have hapart : (Set.univ : Set (LaneId config)).PairwiseDisjoint
      fun k => (layout.slots k).toFinset := by
    intro k _ k' _ hne
    rw [Function.onFun, Finset.disjoint_left]
    intro i hi hi'
    exact hne (h.held_apart k k' i (List.mem_toFinset.mp hi) (List.mem_toFinset.mp hi'))
  have hlength (k : LaneId config) : (layout.slots k).toFinset.card = (hub.queues k).depth := by
    rw [List.toFinset_card_of_nodup (h.chain k).nodup, ← h.depth, Layout.slots, List.length_map]
  calc hub.pool.freeCount + ∑ k, (hub.queues k).depth
      = layout.free.toFinset.card + ∑ k, (layout.slots k).toFinset.card := by
        rw [List.toFinset_card_of_nodup h.free_chain.nodup, h.free_count]
        simp only [hlength]
    _ = (univ : Finset (Fin config.slots)).card := by
        rw [hcover, card_union_of_disjoint hfree, card_biUnion fun k _ k' _ hne =>
          hapart (Set.mem_univ k) (Set.mem_univ k') hne]
    _ = config.slots := Fintype.card_fin _

/-- Every slot has one owner. The free list and the lists of the queues are chains of the pool without
repetitions, as long as the counts and depths say, and every slot is on exactly one of them. A queue
holds only requests of its direction, and what it records of a request stays as it is until the
request is completed or cancelled. -/
theorem Reachable.slots_owned (h : Reachable heads custody s) :
    (∃ (free : List (Fin config.slots)) (held : LaneId config → List (Fin config.slots)),
      s.tables.pool.Chain s.tables.pool.freeFirst free ∧ free.Nodup ∧
      free.length = s.tables.pool.freeCount ∧
      (∀ k, s.tables.pool.Chain (s.tables.queues k).first (held k) ∧ (held k).Nodup ∧
        (held k).length = (s.tables.queues k).depth ∧
        (s.tables.queues k).last = (held k).getLast? ∧
        ((s.tables.queues k).first = none ↔ (s.tables.queues k).depth = 0) ∧
        ((s.tables.queues k).last = none ↔ (s.tables.queues k).depth = 0) ∧
        (∀ i ∈ held k, (s.tables.pool.slot i).kind.direction = k.2) ∧
        s.tables.bookings k = (held k).map s.tables.pool.booking) ∧
      ∀ i, i ∈ free ∧ (∀ k, i ∉ held k) ∨ i ∉ free ∧ ∃! k, i ∈ held k) ∧
    s.tables.statistics.freeSlots + ∑ k, (s.tables.queues k).depth =
      s.tables.statistics.totalSlots ∧
    ∀ (operation : Operation config) answer t, operation.run s = .ok answer t → ∀ k,
        s.view.left heads k ≤ t.view.left heads k ∧
        ∃ new, t.tables.bookings k =
          (s.tables.bookings k).drop (t.view.left heads k - s.view.left heads k) ++ new := by
  obtain ⟨layout, hl⟩ := h.sound.described
  have hlength (k : LaneId config) : (layout.slots k).length = (s.tables.queues k).depth := by
    rw [Layout.slots, List.length_map, hl.depth]
  refine ⟨⟨layout.free, layout.slots, hl.free_chain, hl.free_chain.nodup, hl.free_count,
    fun k => ⟨hl.chain k, (hl.chain k).nodup, hlength k, hl.last k, ?first, ?last,
      ?kinds, ?bookings⟩, ?owner⟩, hl.length_add,
    fun operation answer t answered k => h.bookings_after answered k⟩
  case first => rw [← hlength, (hl.chain k).start_eq, List.head?_eq_none_iff, List.length_eq_zero_iff]
  case last => rw [← hlength, hl.last, List.getLast?_eq_none_iff, List.length_eq_zero_iff]
  case kinds =>
    intro i hi
    obtain ⟨b, hb, rfl⟩ := List.mem_map.mp hi
    have hkind : (s.tables.pool.slot b.slot).kind = b.kind :=
      congrArg Booking.kind (hl.recorded k b hb)
    rw [Hub.Stored.held_eq hl] at hb
    rw [hkind]
    exact h.sound.kinds k b hb
  case bookings =>
    rw [← Hub.Stored.held_eq hl]
    exact hl.held_eq_map k
  case owner =>
    intro i
    by_cases hfree : i ∈ layout.free
    · exact .inl ⟨hfree, fun k hk => hl.free_apart k i hk hfree⟩
    · obtain ⟨k, hk⟩ := (hl.covered i).resolve_left hfree
      exact .inr ⟨hfree, k, hk, fun k' hk' => hl.held_apart k' k i hk' hk⟩

/-- In the short run, one slot of four is free. -/
theorem Trial.slots_counted :
    session.tables.statistics.freeSlots = 1 ∧
    1 + ∑ k, (session.tables.queues k).depth = session.tables.statistics.totalSlots := by
  have h := Reachable.slots_owned reached
  have hfree : session.tables.statistics.freeSlots = 1 := by decide +kernel
  exact ⟨hfree, hfree ▸ h.2.1⟩

end DriverHub
