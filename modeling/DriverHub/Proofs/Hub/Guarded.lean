import DriverHub.Proofs.Hub.Admission
import DriverHub.Proofs.Hub.Effects

/-! Tables on which no step of the hub meets a case that should not be. The checks of the hub's own
bookkeeping are outcomes and never come up; here stands what else the steps rely on without asking. -/
namespace DriverHub

open Finset SessionM

variable {config : Config} {τ γ ι H δ : Type}

namespace Hub

/-- The mark lies in the table and pending drivers are counted; a list has a first and a last slot
exactly if it is not empty; slots and spares add up; queues of drivers that are not active are
empty; and where a queue is not full there is a free slot. -/
structure Guarded (hub : Hub config H) : Prop where
  mark : hub.highWater ≤ config.drivers
  above : ∀ i : Fin config.drivers, hub.highWater ≤ i → hub.state i = .free
  pending : hub.pending = (univ.filter fun i => (hub.state i).isPending).card
  first : ∀ k, (hub.queues k).first = none ↔ (hub.queues k).depth = 0
  last : ∀ k, (hub.queues k).last = none ↔ (hub.queues k).depth = 0
  freeFirst : hub.pool.freeFirst = none ↔ hub.pool.freeCount = 0
  slots : hub.pool.freeCount +
    (∑ i, (hub.queues (i, .send)).depth + ∑ i, (hub.queues (i, .receive)).depth) = config.slots
  spares : hub.pool.spares ≤ hub.pool.spareTotal
  idle : ∀ k : LaneId config, (hub.state k.1).isActive = false → (hub.queues k).depth = 0
  slot : ∀ i kind, ¬hub.Full i kind → hub.pool.freeFirst ≠ none

variable {hub : Hub config H}

theorem Stored.first_eq_none_iff (h : hub.Stored) (k : LaneId config) :
    (hub.queues k).first = none ↔ (hub.queues k).depth = 0 := by
  obtain ⟨layout, hl⟩ := h.described
  rw [(hl.chain k).start_eq, List.head?_eq_none_iff, ← hl.depth, List.length_eq_zero_iff,
    Layout.slots, List.map_eq_nil_iff]

theorem Stored.last_eq_none_iff (h : hub.Stored) (k : LaneId config) :
    (hub.queues k).last = none ↔ (hub.queues k).depth = 0 := by
  obtain ⟨layout, hl⟩ := h.described
  rw [hl.last, List.getLast?_eq_none_iff, ← hl.depth, List.length_eq_zero_iff, Layout.slots,
    List.map_eq_nil_iff]

theorem Stored.freeFirst_eq_none_iff (h : hub.Stored) :
    hub.pool.freeFirst = none ↔ hub.pool.freeCount = 0 := by
  obtain ⟨layout, hl⟩ := h.described
  rw [hl.free_chain.start_eq, List.head?_eq_none_iff, ← hl.free_count, List.length_eq_zero_iff]

theorem Ready.guarded (h : hub.Ready) : hub.Guarded where
  mark := h.sound.highWater_le
  above := h.sound.mark
  pending := h.sound.pending_eq
  first := h.sound.first_eq_none_iff
  last := h.sound.last_eq_none_iff
  freeFirst := h.sound.freeFirst_eq_none_iff
  slots := h.sound.free_add_depths
  spares := by
    rw [← h.sound.spares]
    exact Nat.le_add_right _ _
  idle := by
    rintro ⟨i, d⟩ hidle
    rw [← h.sound.length_bookings, h.sound.bookings_eq_nil hidle, List.length_nil]
  slot i kind hadmits := h.sound.freeFirst_ne_none (h.free_of_not_full hadmits)

end Hub

/-- Discovery reported a change. -/
def Entry.isChange : Entry H → Bool
  | .polled (.ok (some _)) => true
  | _ => false

/-- How many changes discovery has reported. -/
def changes (journal : Journal H) : Nat := journal.countP Entry.isChange

theorem changes_le_of_suffix {journal later : Journal H} (h : journal <:+ later) :
    changes journal ≤ changes later := h.sublist.countP_le

theorem Register.dropped_take_le (register : Register config) (event : DriverEvent) :
    (register.take event).dropped ≤ register.dropped + 1 := by
  unfold take enter
  split
  · split
    · exact Nat.le_succ _
    · exact Nat.le_refl _
  · exact Nat.le_succ _

section Dropped

variable [Transport τ] [GrantTable γ] [Interface ι H] {s t u : HubSession config τ γ ι H}

/-- Between two sessions, no more drivers were dropped than changes were reported. -/
def Session.Drops (s t : HubSession config τ γ ι H) : Prop :=
  t.tables.dropped + changes s.journal ≤ s.tables.dropped + changes t.journal

omit [Transport τ] [GrantTable γ] [Interface ι H] in
theorem Session.Drops.trans (h : s.Drops t) (h' : t.Drops u) : s.Drops u := by
  unfold Drops at *
  omega

omit [Transport τ] [GrantTable γ] [Interface ι H] in
theorem Session.drops_of_suffix (hdropped : t.tables.dropped = s.tables.dropped)
    (hsuffix : s.journal <:+ t.journal) : s.Drops t := by
  have hle := changes_le_of_suffix hsuffix
  unfold Drops
  omega

namespace Hub

variable [Discovery δ]

theorem goes_takeEvents_drops (h : s.tables.Sound) (source : δ) :
    (takeEvents source : HubM config τ γ ι H δ).Goes s (fun _ t => t.tables.Sound ∧ s.Drops t)
      fun _ => True := by
  -- The recursion is on the changes that are still to be reported.
  induction hbacklog : Discovery.backlog source using Nat.strong_induction_on generalizing source s with
  | _ count ih =>
    rw [takeEvents]
    split
    · rename_i event rest hpoll
      rw [goes_bind, goes_recordPoll, goes_bind]
      have hpolled : ({ s with journal := .polled (.ok (some event)) :: s.journal } :
          HubSession config τ γ ι H).tables.Sound := h
      refine Goes.mono ((kept_apply hpolled event).and (plays_apply hpolled rfl)) (fun _ t ht => ?_)
        fun _ _ => trivial
      obtain ⟨hkept, -, hmoves⟩ := ht
      -- The change was reported before it was acted on, so a driver may have been dropped.
      have hfirst : s.Drops t := by
        have htaken := s.register.dropped_take_le event
        have hdropped : t.tables.dropped = _ := congrArg Register.dropped hkept.register
        have hle : changes s.journal + 1 ≤ changes t.journal := by
          have hsuffix := changes_le_of_suffix hmoves.suffix
          exact (List.countP_cons_of_pos rfl).symm.trans_le hsuffix
        change (s.register.take event).dropped ≤ s.tables.dropped + 1 at htaken
        change _ = (s.register.take event).dropped at hdropped
        unfold Session.Drops
        omega
      have hfewer := hbacklog ▸ Discovery.backlog_poll _ _ _ hpoll
      exact Goes.mono (ih _ hfewer hkept.sound rest rfl) (fun _ u hu => ⟨hu.1, hfirst.trans hu.2⟩)
        fun _ _ => trivial
    · exact ⟨h, Session.drops_of_suffix rfl (List.suffix_cons _ _)⟩
    · exact ⟨h, Session.drops_of_suffix rfl (List.suffix_append [_, _] _)⟩

theorem goes_reconcile_drops (h : s.tables.Sound) (source : δ) :
    (reconcile source : HubM config τ γ ι H δ).Goes s (fun _ t => s.Drops t) fun _ => True := by
  unfold reconcile
  rw [goes_bind]
  refine Goes.mono (goes_takeEvents_drops h source) (fun rest t ht => ?_) fun _ _ => trivial
  rw [goes_bind]
  have hsweep := (kept_sweep ht.1 rest (List.finRange config.drivers)).and
    (plays_sweep ht.1 rest (List.finRange config.drivers))
  refine Goes.mono hsweep (fun _ u hu => ht.2.trans ?_) fun _ _ => trivial
  obtain ⟨hkept, -, hmoves⟩ := hu
  exact Session.drops_of_suffix (congrArg Register.dropped hkept.register) hmoves.suffix

end Hub

theorem Operation.goes_drops (h : s.tables.Sound) (operation : Operation config) :
    operation.run.Goes s (fun _ t => s.Drops t) fun _ => True := by
  by_cases hreconcile : operation.IsReconcile
  · cases operation with
    | reconcile source =>
      change Goes (do let _ ← Hub.reconcile source; pure none) _ _ _
      rw [goes_bind]
      exact Goes.mono (Hub.goes_reconcile_drops h source) (fun _ _ ht => ht) fun _ _ => trivial
    | _ => exact hreconcile.elim
  · refine Goes.mono ((operation.goes_effect h).and (operation.goes h)) (fun answer t ht => ?_)
      fun _ _ => trivial
    obtain ⟨heffect, hran⟩ := ht
    exact Session.drops_of_suffix (heffect.dropped hreconcile) hran.suffix

variable {heads : LaneId config → UInt32} {custody : Custody γ}

/-- No more drivers are dropped than changes are reported. -/
theorem Reachable.dropped_le (h : Reachable heads custody s) :
    s.tables.dropped ≤ changes s.journal := by
  induction h with
  | new built initial => exact Nat.zero_le _
  | @after s t reached operation answer answered ih =>
    have hdrops := (operation.goes_drops reached.sound).of_ok answered
    unfold Session.Drops at hdrops
    omega
  | meanwhile _ _ _ _ _ ih => exact ih

end Dropped

end DriverHub
