import DriverHub.Proofs.Hub.Lanes
import DriverHub.Proofs.Session.Outcome

/-! Sound tables: they are stored soundly, only active entries have open lanes, the entries in use are those
with labels, the counters are right, and the mark is one past the last entry in use. The tables' own
operations keep this and never fail a check of theirs. -/
namespace DriverHub

namespace Hub

open Function Finset

variable {config : Config} {H : Type}

/-- The mark is one past the last entry in use, or zero. -/
structure Marked (hub : Hub config H) : Prop where
  mark : ∀ j : Fin config.drivers, hub.highWater ≤ j → hub.state j = .free
  last : hub.highWater ≠ 0 → ∃ j : Fin config.drivers, j + 1 = hub.highWater ∧ hub.state j ≠ .free

/-- The entries in use are those with labels. -/
def Labelled (hub : Hub config H) : Prop := ∀ i, (hub.driver i).Labelled

/-- Labels, mark and counters are right. -/
structure Tallied (hub : Hub config H) : Prop extends hub.Marked where
  labelled : hub.Labelled
  pending : hub.pending = ∑ j, (hub.state j).isPending.toNat
  reported : hub.fullReported = decide (0 < hub.dropped)

/-- Sound tables, if one entry is not asked whether its lanes are closed. -/
structure SoundBut (i : Fin config.drivers) (hub : Hub config H) : Prop
    extends hub.Stored, hub.Tallied where
  closed : ∀ j, j ≠ i → (hub.state j).isActive = false → ∀ d, (hub.lane (j, d)).limit = 0

structure Sound (hub : Hub config H) : Prop extends hub.Stored, hub.Tallied where
  closed : ∀ j, (hub.state j).isActive = false → ∀ d, (hub.lane (j, d)).limit = 0

variable {hub hub' : Hub config H} {i : Fin config.drivers}

theorem Sound.but (h : hub.Sound) (i : Fin config.drivers) : hub.SoundBut i :=
  ⟨h.toStored, h.toTallied, fun j _ => h.closed j⟩

theorem Sound.bookings_eq_nil (h : hub.Sound) (hi : (hub.state i).isActive = false)
    (d : Direction) : hub.bookings (i, d) = [] := by
  have hlimit := h.closed i hi d
  have hbounded := h.bounded (i, d)
  change (hub.queues (i, d)).limit = 0 at hlimit
  rw [hlimit] at hbounded
  exact List.length_eq_zero_iff.mp (Nat.le_zero.mp hbounded)

theorem Labelled.same (h : hub.Labelled) (hsame : hub.SameSeats hub') : hub'.Labelled := by
  intro j
  rw [Driver.Labelled, hsame.states, hsame.labels]
  exact h j

/-- What the entry is used for, and its label, are those of the driver that has it. -/
theorem Labelled.driver_eq (h : hub.Labelled) (i : Fin config.drivers) :
    (hub.driver i).state = (hub.state i).driverState ∧ (hub.driver i).label = (hub.state i).label? :=
  ⟨(h i).state_eq, (h i).label_eq⟩

/-- The first entry below the mark whose occupant satisfies `p`. -/
def first? (hub : Hub config H) (p : Occupant H → Bool) : Option (Fin config.drivers) :=
  (List.finRange config.drivers).find? fun i => i < hub.highWater && p (hub.state i)

theorem state_of_first {p : Occupant H → Bool} (hfirst : hub.first? p = some i) :
    p (hub.state i) = true := by
  have hsome := List.find?_some hfirst
  simp only [Bool.and_eq_true] at hsome
  exact hsome.2

/-- What is asked of an entry can be asked of its occupant. -/
theorem find?_eq_first? {p : Driver config.slots H → Bool}
    {q : Occupant H → Bool} (hpq : ∀ i, p (hub.driver i) = q (hub.state i)) :
    hub.find? p = hub.first? q := by
  unfold find? first?
  simp only [hpq]

theorem Labelled.findEndpoint_eq (h : hub.Labelled) (endpoint : Endpoint) :
    hub.findEndpoint endpoint = hub.first? fun occupant => occupant.endpoint? = some endpoint := by
  apply find?_eq_first?
  intro j
  rw [(h.driver_eq j).1, Occupant.endpoint?_driverState]

theorem endpoint_of_findEndpoint (h : hub.Labelled) {endpoint : Endpoint}
    (hfound : hub.findEndpoint endpoint = some i) : (hub.state i).endpoint? = some endpoint := by
  rw [h.findEndpoint_eq] at hfound
  exact of_decide_eq_true (state_of_first hfound)

theorem Labelled.findLabel_eq (h : hub.Labelled) (label : Label) :
    hub.findLabel label = hub.first? fun occupant => occupant.label? = some label := by
  apply find?_eq_first?
  intro j
  rw [(h.driver_eq j).1, (h.driver_eq j).2]
  cases hub.state j <;> rfl

theorem Labelled.findFree_eq (h : hub.Labelled) : hub.findFree =
    match hub.first? Occupant.isFree with
    | some i => some i
    | none => if h : hub.highWater < config.drivers then some ⟨hub.highWater, h⟩ else none := by
  have hfind : hub.find? (fun driver => driver.state.isFree) = hub.first? Occupant.isFree := by
    apply find?_eq_first?
    intro j
    rw [(h.driver_eq j).1, Occupant.isFree_driverState]
  exact congrArg (fun found : Option (Fin config.drivers) =>
    match found with
    | some i => some i
    | none => if h : hub.highWater < config.drivers then some ⟨hub.highWater, h⟩ else none) hfind

theorem Marked.lt_highWater (h : hub.Marked) (hi : hub.state i ≠ .free) : i < hub.highWater := by
  by_contra hle
  exact hi (h.mark i (Nat.le_of_not_lt hle))

/-- The mark stays right while an entry that is in use stays in use. -/
theorem Marked.replaced (h : hub.Marked) (hi : hub.state i ≠ .free) {state : Occupant H}
    (hstate : hub'.state = update hub.state i state) (hused : state ≠ .free)
    (hmark : hub'.highWater = hub.highWater) : hub'.Marked := by
  have hlt := h.lt_highWater hi
  refine ⟨?mark, ?last⟩
  case mark =>
    intro j hj
    have hne : j ≠ i := by
      rintro rfl
      omega
    rw [hstate, update_of_ne hne]
    exact h.mark j (hmark ▸ hj)
  case last =>
    intro hpos
    rw [hmark] at hpos ⊢
    obtain ⟨j, hj, hj'⟩ := h.last hpos
    refine ⟨j, hj, ?_⟩
    rw [hstate, update_apply]
    split
    · exact hused
    · exact hj'

/-- A lane may change without its limit. -/
theorem limit_update {lanes : LaneId config → Lane config.slots} {k : LaneId config}
    {lane : Lane config.slots} (hlimit : lane.limit = (lanes k).limit) (k' : LaneId config) :
    (update lanes k lane k').limit = (lanes k').limit := by
  rw [update_apply]
  split
  · subst k'
    exact hlimit
  · rfl

/-- One entry changed hands: its lanes must fit the new state, and the counters must follow. -/
theorem SoundBut.change (h : hub.SoundBut i) (hstored : hub'.Stored) {state : Occupant H}
    (hstate : hub'.state = update hub.state i state)
    (hlane : ∀ j, j ≠ i → ∀ d, hub'.lane (j, d) = hub.lane (j, d))
    (hclosed : state.isActive = false → ∀ d, (hub'.lane (i, d)).limit = 0)
    (hpending : hub'.pending + (hub.state i).isPending.toNat =
      hub.pending + state.isPending.toNat)
    (hmarked : hub'.Marked) (hlabelled : hub'.Labelled)
    (hreported : hub'.fullReported = decide (0 < hub'.dropped)) : hub'.Sound := by
  refine ⟨hstored, ⟨hmarked, hlabelled, ?pending, hreported⟩, ?closed⟩
  case closed =>
    intro j hj d
    by_cases hji : j = i
    · subst j
      rw [hstate, update_self] at hj
      exact hclosed hj d
    · rw [hstate, update_of_ne hji] at hj
      rw [hlane j hji d]
      exact h.closed j hji hj d
  case pending =>
    -- Only this entry can change how many drivers are pending.
    have hsum : (∑ j, (hub'.state j).isPending.toNat) + (hub.state i).isPending.toNat =
        (∑ j, (hub.state j).isPending.toNat) + state.isPending.toNat := by
      rw [← add_sum_erase univ _ (mem_univ i),
        ← add_sum_erase univ (fun j => (hub.state j).isPending.toNat) (mem_univ i)]
      have hrest : ∀ j ∈ univ.erase i,
          (hub'.state j).isPending.toNat = (hub.state j).isPending.toNat := by
        intro j hj
        rw [hstate, update_of_ne (ne_of_mem_erase hj)]
      rw [sum_congr rfl hrest, hstate, update_self]
      omega
    have := h.pending
    omega

/-- The tables with another driver in an entry. -/
def seated (hub : Hub config H) (i : Fin config.drivers) (occupant : Occupant H) : Hub config H :=
  hub.modify i fun driver => driver.seat occupant

theorem seated_state (hub : Hub config H) (i : Fin config.drivers) (occupant : Occupant H) :
    (hub.seated i occupant).state = update hub.state i occupant := by
  funext j
  rw [seated, modify_state]
  by_cases hij : i = j
  · subst j
    rw [if_pos rfl, update_self, Driver.occupant_seat]
  · rw [if_neg hij, update_of_ne (Ne.symm hij)]

theorem seated_queues (hub : Hub config H) (i : Fin config.drivers) (occupant : Occupant H) :
    (hub.seated i occupant).queues = hub.queues := by
  funext k
  rw [seated, modify_queues]
  split
  · obtain ⟨j, d⟩ := k
    subst i
    cases d <;> rfl
  · rfl

theorem Labelled.seated (h : hub.Labelled) (i : Fin config.drivers) (occupant : Occupant H) :
    (hub.seated i occupant).Labelled := by
  intro j
  rw [Hub.seated, modify_drivers]
  split
  · exact Driver.labelled_seat ..
  · exact h j

/-- Where the label stays, only the state is written. -/
theorem setState_eq_seated (occupant : Occupant H) (h : (hub.state i).label? = occupant.label?)
    (hlabelled : hub.Labelled) : hub.setState i occupant.driverState = hub.seated i occupant := by
  rw [← (hlabelled.driver_eq i).2] at h
  simp only [setState, Hub.seated, modify, Driver.seat, ← h]

/-- The tables with another driver in an entry, and with these counters. -/
def entered (hub : Hub config H) (i : Fin config.drivers) (occupant : Occupant H)
    (highWater pending : Nat) : Hub config H :=
  { hub.seated i occupant with highWater, pending }

theorem entered_state (hub : Hub config H) (i : Fin config.drivers) (occupant : Occupant H)
    (highWater pending : Nat) :
    (hub.entered i occupant highWater pending).state = update hub.state i occupant := seated_state ..

theorem Labelled.entered (h : hub.Labelled) (i : Fin config.drivers) (occupant : Occupant H)
    (highWater pending : Nat) : (hub.entered i occupant highWater pending).Labelled :=
  h.seated i occupant

/-- Who has an entry, and the counters, are no matter of pool and queues. -/
theorem Stored.entered (h : hub.Stored) (i : Fin config.drivers) (occupant : Occupant H)
    (highWater pending : Nat) :
    (hub.entered i occupant highWater pending).Stored ∧
      (hub.entered i occupant highWater pending).lane = hub.lane :=
  h.congr rfl (seated_queues ..)

theorem Sound.state_of_findFree (h : hub.Sound) (hfree : hub.findFree = some i) :
    hub.state i = .free := by
  rw [h.labelled.findFree_eq] at hfree
  split at hfree
  · rename_i j hfind
    obtain rfl := Option.some.inj hfree
    have hsome := state_of_first hfind
    cases hj : hub.state j <;> simp_all [Occupant.isFree]
  · split at hfree
    · obtain rfl := Option.some.inj hfree
      exact h.mark _ (Nat.le_refl _)
    · simp at hfree

theorem Sound.started (h : hub.Sound) (hfree : hub.findFree = some i) (label : Label)
    (endpoint : Endpoint) :
    ∃ hub', (hub.occupied i label endpoint).begun i = .ok hub' ∧ hub'.Sound ∧
      hub'.state = update hub.state i (.pending label endpoint none) ∧
      hub'.lane = (atEntry hub.lane i fun _ lane => lane.begin) ∧ hub'.dropped = hub.dropped := by
  have hi := h.state_of_findFree hfree
  have hentered : hub.occupied i label endpoint = hub.entered i (.pending label endpoint none)
      (max hub.highWater (i + 1)) (hub.pending + 1) := rfl
  have hstate := entered_state hub i (.pending label endpoint none) (max hub.highWater (i + 1))
    (hub.pending + 1)
  have hlabelled := h.labelled.entered i (.pending label endpoint none) (max hub.highWater (i + 1))
    (hub.pending + 1)
  obtain ⟨hstored, hlane⟩ := h.entered i (.pending label endpoint none)
    (max hub.highWater (i + 1)) (hub.pending + 1)
  rw [← hentered] at hstate hlabelled hstored hlane
  have hnone (d : Direction) : (hub.occupied i label endpoint).bookings (i, d) = [] := by
    refine (congrArg Lane.bookings (congrFun hlane (i, d))).trans (h.bookings_eq_nil ?_ d)
    rw [hi]
    rfl
  obtain ⟨hub', hbegun, hstored', hsame, hlane'⟩ := hstored.begun hnone
  rw [hlane] at hlane'
  have hstate' := hsame.state.trans hstate
  refine ⟨hub', hbegun, (h.but i).change hstored' hstate' ?others ?closed ?pending ⟨?mark, ?last⟩
    (hlabelled.same hsame.toSameSeats) ?reported, hstate', hlane', hsame.dropped⟩
  case others =>
    intro j hj d
    rw [hlane', atEntry, if_neg hj]
  case closed =>
    intro _ d
    rw [hlane', atEntry, if_pos rfl]
    rfl
  case pending =>
    rw [hsame.pending, hi]
    rfl
  case mark =>
    -- The mark is past the entry now, and is not lowered.
    intro j hj
    rw [hsame.highWater] at hj
    change max hub.highWater (i + 1) ≤ j at hj
    have hne : j ≠ i := by
      rintro rfl
      omega
    rw [hstate', update_of_ne hne]
    exact h.mark j (by omega)
  case last =>
    -- The last entry in use is the one it was, or the new one behind it.
    intro _
    have hmark : hub'.highWater = max hub.highWater (i + 1) := hsame.highWater
    rw [hmark, hstate']
    by_cases hlt : i + 1 < hub.highWater
    · obtain ⟨j, hj, hused⟩ := h.last (by omega)
      refine ⟨j, by omega, ?_⟩
      have hne : j ≠ i := by
        rintro rfl
        exact hused hi
      rwa [update_of_ne hne]
    · refine ⟨i, by omega, ?_⟩
      rw [update_self]
      exact Occupant.pending_ne_free
  case reported =>
    rw [hsame.fullReported, hsame.dropped]
    exact h.reported

/-- The grants of all requests of an entry, in the order in which they are cancelled. -/
def grantsAt (hub : Hub config H) (i : Fin config.drivers) : List GrantId :=
  (hub.bookings (i, .send) ++ hub.bookings (i, .receive)).flatMap fun b => b.grants.present

theorem Sound.restarted (h : hub.Sound) {label : Label}
    (hlabel : (hub.state i).label? = some label) (endpoint : Endpoint) (handle : Option H) :
    ∃ hub₁ hub₂, hub.cancelled i = .ok (hub.grantsAt i, hub₁) ∧ hub₁.begun i = .ok hub₂ ∧
      hub.SameEntries hub₂ ∧
      ∀ hub', hub' = hub₂.entered i (.pending label endpoint handle) hub₂.highWater
          (hub₂.pending + (hub.state i).isActive.toNat) →
        hub'.Sound ∧ hub'.state = update hub.state i (.pending label endpoint handle) ∧
        hub'.queues = hub₂.queues ∧
        hub'.lane = (atEntry hub.lane i fun _ lane => lane.clear.begin) ∧
        hub'.dropped = hub.dropped := by
  -- The lanes are emptied and moved on first, and who has the entry changes last.
  obtain ⟨hub₁, hcancelled, hstored₁, hsame₁, hlane₁⟩ := h.cancelled i
  have hnone (d : Direction) : hub₁.bookings (i, d) = [] := by
    refine (congrArg Lane.bookings (congrFun hlane₁ (i, d))).trans ?_
    rw [atEntry, if_pos rfl]
    rfl
  obtain ⟨hub₂, hbegun, hstored₂, hsame₂, hlane₂⟩ := hstored₁.begun hnone
  have hsame := hsame₁.trans hsame₂
  rw [hlane₁, atEntry_atEntry] at hlane₂
  refine ⟨hub₁, hub₂, hcancelled, hbegun, hsame, ?_⟩
  intro hub' hentered
  subst hentered
  obtain ⟨hstored', hlane'⟩ := hstored₂.entered i (.pending label endpoint handle) hub₂.highWater
    (hub₂.pending + (hub.state i).isActive.toNat)
  have hstate' := entered_state hub₂ i (.pending label endpoint handle) hub₂.highWater
    (hub₂.pending + (hub.state i).isActive.toNat)
  rw [hsame.state] at hstate'
  rw [hlane₂] at hlane'
  have hi : hub.state i ≠ .free := Occupant.ne_free_of_label hlabel
  have hmarked := h.toMarked.replaced hi hstate' Occupant.pending_ne_free hsame.highWater
  have hlabelled := (h.labelled.same hsame.toSameSeats).entered i (.pending label endpoint handle)
    hub₂.highWater (hub₂.pending + (hub.state i).isActive.toNat)
  refine ⟨(h.but i).change hstored' hstate' ?others ?closed ?pending hmarked hlabelled ?reported,
    hstate', seated_queues .., hlane', hsame.dropped⟩
  case others =>
    intro j hj d
    rw [hlane', atEntry, if_neg hj]
  case closed =>
    intro _ d
    rw [hlane', atEntry, if_pos rfl]
    rfl
  case pending =>
    -- Only a driver that was active is pending in addition now.
    change hub₂.pending + _ + _ = _
    rw [hsame.pending]
    cases hs : hub.state i <;>
      simp_all [Occupant.label?, Occupant.isActive, Occupant.isPending]
  case reported =>
    change hub₂.fullReported = decide (0 < hub₂.dropped)
    rw [hsame.fullReported, hsame.dropped]
    exact h.reported

theorem SoundBut.settled (h : hub.SoundBut i) (hi : (hub.state i).isPending = true) :
    hub.settled = .ok { hub with pending := hub.pending - 1 } ∧ 0 < hub.pending := by
  have hle : (hub.state i).isPending.toNat ≤ ∑ j, (hub.state j).isPending.toNat :=
    single_le_sum (f := fun j => (hub.state j).isPending.toNat) (fun _ _ => Nat.zero_le _)
      (mem_univ i)
  rw [hi, ← h.pending] at hle
  have hpos : 0 < hub.pending := hle
  rw [Hub.settled, if_neg (Nat.ne_of_gt hpos)]
  exact ⟨rfl, hpos⟩

theorem eq_of_settled (h : hub.settled = .ok hub') : hub' = { hub with pending := hub.pending - 1 } := by
  unfold Hub.settled at h
  split at h
  · cases h
  · exact (Except.ok.inj h).symm

/-- From the lowered mark up to the mark given, every entry is free. -/
theorem Labelled.state_of_lowered_le (h : hub.Labelled) {mark : Nat} {j : Fin config.drivers}
    (hj : hub.lowered mark ≤ j) (hlt : j < mark) : hub.state j = .free := by
  -- The induction is on the mark, which is taken down by one for each free entry.
  induction mark with
  | zero => omega
  | succ mark ih =>
    rw [lowered] at hj
    split at hj
    · rename_i hfree
      by_cases hjm : j = mark
      · subst mark
        simp only [Vector.getElem?_eq_getElem j.isLt, Option.map_some,
          Option.getD_some] at hfree
        change (hub.driver j).state.isFree = true at hfree
        rw [(h.driver_eq j).1, Occupant.isFree_driverState] at hfree
        cases hs : hub.state j <;> simp_all [Occupant.isFree]
      · exact ih hj (by omega)
    · omega

/-- The lowered mark is zero or one past an entry in use. -/
theorem Labelled.state_ne_of_lowered (h : hub.Labelled) {mark : Nat} (hle : mark ≤ config.drivers)
    (hpos : hub.lowered mark ≠ 0) :
    ∃ j : Fin config.drivers, j + 1 = hub.lowered mark ∧ hub.state j ≠ .free := by
  induction mark with
  | zero => exact absurd rfl hpos
  | succ mark ih =>
    have hlt : mark < config.drivers := by omega
    rw [lowered] at hpos ⊢
    split
    · rename_i hfree
      rw [if_pos hfree] at hpos
      exact ih (Nat.le_of_lt hlt) hpos
    · rename_i hused
      refine ⟨⟨mark, hlt⟩, rfl, ?_⟩
      intro hfree
      apply hused
      rw [Vector.getElem?_eq_getElem hlt, Option.map_some, Option.getD_some]
      change (hub.driver ⟨mark, hlt⟩).state.isFree = true
      rw [(h.driver_eq ⟨mark, hlt⟩).1, hfree]
      rfl

theorem Marked.highWater_le (h : hub.Marked) : hub.highWater ≤ config.drivers := by
  by_cases hzero : hub.highWater = 0
  · omega
  · obtain ⟨j, hj, -⟩ := h.last hzero
    omega

/-- An entry gives up its driver. Its lanes may have been opened before. -/
theorem SoundBut.dismissed (h : hub.SoundBut i) (hmark : i < hub.highWater) :
    ∃ hub₁, hub.cancelled i = .ok (hub.grantsAt i, hub₁) ∧ hub.SameEntries hub₁ ∧
      ((hub.state i).isPending = true →
        hub₁.settled = .ok { hub₁ with pending := hub₁.pending - 1 }) ∧
      ∀ hub₂, hub₂ = { hub₁ with pending := hub₁.pending - (hub.state i).isPending.toNat } →
        (hub₂.freed i).Sound ∧ (hub₂.freed i).state = update hub.state i .free ∧
        (hub₂.freed i).lane = (atEntry hub.lane i fun _ lane => lane.clear) ∧
        (hub₂.freed i).dropped = hub.dropped := by
  obtain ⟨hub₁, hcancelled, hstored₁, hsame, hlane₁⟩ := h.cancelled i
  have hpos (hi : (hub.state i).isPending = true) : 0 < hub.pending := (h.settled hi).2
  refine ⟨hub₁, hcancelled, hsame, fun hi => ?_, ?_⟩
  · rw [Hub.settled, if_neg]
    rw [hsame.pending]
    exact Nat.ne_of_gt (hpos hi)
  · intro hub₂ hcounted
    subst hcounted
    generalize hless : hub₁.pending - (hub.state i).isPending.toNat = less
    have hstate : (({ hub₁ with pending := less } : Hub config H).freed i).state =
        update hub.state i .free := by
      rw [← hsame.state]
      exact seated_state hub₁ i .free
    obtain ⟨hstored, hlane⟩ := hstored₁.entered i .free
      (({ hub₁ with pending := less } : Hub config H).freed i).highWater less
    rw [hlane₁] at hlane
    have hlabelled : (({ hub₁ with pending := less } : Hub config H).seated i .free).Labelled :=
      (h.labelled.same hsame.toSameSeats).seated i .free
    refine ⟨h.change hstored hstate ?others ?closed ?pending ⟨?mark, ?last⟩ hlabelled ?reported,
      hstate, hlane, hsame.dropped⟩
    case others =>
      intro j hj d
      refine (congrFun hlane (j, d)).trans ?_
      rw [atEntry, if_neg hj]
    case closed =>
      intro _ d
      refine (congrArg Lane.limit (congrFun hlane (i, d))).trans ?_
      rw [atEntry, if_pos rfl]
      rfl
    case pending =>
      change less + _ = _
      rw [← hless, hsame.pending]
      cases hi : (hub.state i).isPending
      · rfl
      · exact Nat.sub_add_cancel (hpos hi)
    case mark =>
      intro j hj
      -- Below the old mark the entries passed are free; above it no entry was in use.
      by_cases hlt : j < hub.highWater
      · rw [← hsame.highWater] at hlt
        exact hlabelled.state_of_lowered_le hj hlt
      · rw [hstate]
        have hne : j ≠ i := by
          rintro rfl
          exact hlt hmark
        rw [update_of_ne hne]
        exact h.mark j (Nat.le_of_not_lt hlt)
    case last =>
      have hle := h.toMarked.highWater_le
      rw [← hsame.highWater] at hle
      exact hlabelled.state_ne_of_lowered hle
    case reported =>
      change hub₁.fullReported = decide (0 < hub₁.dropped)
      rw [hsame.fullReported, hsame.dropped]
      exact h.reported

/-- The lanes of a pending driver are opened. The driver is not active yet, so its entry alone does
not fit. -/
theorem Sound.opened (h : hub.Sound) {label : Label} {endpoint : Endpoint} {handle : Option H}
    (hi : hub.state i = .pending label endpoint handle) (handle' : Option H)
    (maxSend maxReceive : UInt8) {hub' : Hub config H}
    (hopened : hub' =
      (hub.seated i (.pending label endpoint handle')).opened i maxSend maxReceive) :
    hub'.SoundBut i ∧ hub'.state = update hub.state i (.pending label endpoint handle') ∧
      hub'.highWater = hub.highWater ∧ hub'.dropped = hub.dropped ∧
      (∀ d, hub'.bookings (i, d) = []) ∧
      hub'.lane = atEntry hub.lane i fun d lane =>
        lane.activate (openLimit config maxSend maxReceive d) := by
  subst hopened
  obtain ⟨hstored, hlane⟩ := h.entered i (.pending label endpoint handle') hub.highWater
    hub.pending
  change (hub.seated i (.pending label endpoint handle')).Stored at hstored
  change (hub.seated i (.pending label endpoint handle')).lane = hub.lane at hlane
  have hnone (d : Direction) :
      (hub.seated i (.pending label endpoint handle')).bookings (i, d) = [] := by
    refine (congrArg Lane.bookings (congrFun hlane (i, d))).trans (h.bookings_eq_nil ?_ d)
    rw [hi]
    rfl
  obtain ⟨hstored', hsame, hlane'⟩ := hstored.opened hnone maxSend maxReceive
  have hstate := hsame.state.trans (seated_state hub i (.pending label endpoint handle'))
  rw [hlane] at hlane'
  -- The driver stays pending, whether it has an interface or not, so the counter need not follow.
  have hpending (j : Fin config.drivers) :
      (update hub.state i (.pending label endpoint handle') j).isPending =
        (hub.state j).isPending := by
    by_cases hj : j = i
    · subst j
      rw [update_self, hi]
      rfl
    · rw [update_of_ne hj]
  have hused : hub.state i ≠ .free := by
    rw [hi]
    exact Occupant.pending_ne_free
  have hmarked := h.toMarked.replaced hused hstate Occupant.pending_ne_free hsame.highWater
  have hlabelled := (h.labelled.seated i (.pending label endpoint handle')).same hsame.toSameSeats
  refine ⟨⟨hstored', ⟨hmarked, hlabelled, ?pending, ?reported⟩, ?closed⟩, hstate, hsame.highWater,
    hsame.dropped, ?none, hlane'⟩
  case closed =>
    intro j hj hactive d
    rw [hstate, update_of_ne hj] at hactive
    rw [hlane', atEntry, if_neg hj]
    exact h.closed j hactive d
  case pending =>
    rw [hsame.pending, hstate]
    simp only [hpending]
    exact h.pending
  case reported =>
    rw [hsame.fullReported, hsame.dropped]
    exact h.reported
  case none =>
    intro d
    refine (congrArg Lane.bookings (congrFun hlane' (i, d))).trans ?_
    rw [atEntry, if_pos rfl, ← hlane]
    exact hnone d

/-- A pending driver whose lanes are open becomes active. -/
theorem SoundBut.activated (h : hub.SoundBut i) (hpending : (hub.state i).isPending = true)
    (label : Label) (endpoint : Endpoint) (handle : H) :
    ∃ hub', hub.settled = .ok hub' ∧ hub'.dropped = hub.dropped ∧
      (hub'.seated i (.active label endpoint handle)).Sound ∧
      (hub'.seated i (.active label endpoint handle)).state =
        update hub.state i (.active label endpoint handle) ∧
      (hub'.seated i (.active label endpoint handle)).lane = hub.lane := by
  obtain ⟨hsettled, hpos⟩ := h.settled hpending
  refine ⟨_, hsettled, rfl, ?_⟩
  obtain ⟨hstored, hlane⟩ := h.entered i (.active label endpoint handle) hub.highWater
    (hub.pending - 1)
  have hstate := entered_state hub i (.active label endpoint handle) hub.highWater
    (hub.pending - 1)
  have hused : hub.state i ≠ .free := by
    intro hfree
    rw [hfree] at hpending
    cases hpending
  have hmarked := h.toMarked.replaced hused hstate nofun rfl
  have hlabelled := h.labelled.entered i (.active label endpoint handle) hub.highWater
    (hub.pending - 1)
  refine ⟨h.change hstored hstate ?others ?closed ?pending hmarked hlabelled h.reported, hstate, hlane⟩
  case others =>
    intro j _ d
    exact congrFun hlane (j, d)
  case closed =>
    intro hactive
    cases hactive
  case pending =>
    rw [hpending]
    change hub.pending - 1 + 1 = hub.pending
    exact Nat.sub_add_cancel hpos

/-- The requests change, and who has which entry does not. -/
theorem Sound.within (h : hub.Sound) (hstored : hub'.Stored) (hsame : hub.SameEntries hub')
    (hlimit : ∀ k, (hub'.lane k).limit = (hub.lane k).limit) : hub'.Sound := by
  refine ⟨hstored, ⟨⟨?mark, ?last⟩, h.labelled.same hsame.toSameSeats, ?pending, ?reported⟩, ?closed⟩
  case closed =>
    intro j hj d
    rw [hsame.state] at hj
    rw [hlimit]
    exact h.closed j hj d
  case pending =>
    rw [hsame.pending, hsame.state]
    exact h.pending
  case mark =>
    intro j hj
    rw [hsame.highWater] at hj
    rw [hsame.state]
    exact h.mark j hj
  case last =>
    rw [hsame.highWater, hsame.state]
    exact h.last
  case reported =>
    rw [hsame.fullReported, hsame.dropped]
    exact h.reported

theorem Sound.passedOver (h : hub.Sound) {dropped : Nat} (hdropped : 0 < dropped) :
    ({ hub with dropped, fullReported := true } : Hub config H).Sound ∧
      ({ hub with dropped, fullReported := true } : Hub config H).lane = hub.lane := by
  obtain ⟨hstored, hlane⟩ :
      ({ hub with dropped, fullReported := true } : Hub config H).Stored ∧
        ({ hub with dropped, fullReported := true } : Hub config H).lane = hub.lane :=
    h.congr rfl rfl
  exact ⟨⟨hstored, ⟨⟨h.mark, h.last⟩, h.labelled, h.pending, (decide_eq_true hdropped).symm⟩,
    h.closed⟩, hlane⟩

/-- The first free slot may be prepared for a request. -/
theorem Sound.reserved (h : hub.Sound) {k : LaneId config} {kind : RequestKind}
    {ticket : Ticket config.slots} {primed : SlotPool config.slots}
    (hreserve : (hub.queues k).reserve hub.pool kind = some (ticket, primed)) :
    ({ hub with pool := primed } : Hub config H).Sound ∧
      ({ hub with pool := primed } : Hub config H).lane = hub.lane := by
  obtain ⟨hstored, hlane⟩ := h.primed hreserve
  exact ⟨h.within hstored ⟨⟨fun _ => rfl, fun _ => rfl⟩, rfl, rfl, rfl, rfl⟩ fun k => by rw [hlane], hlane⟩

theorem Sound.issued (h : hub.Sound) {kind : RequestKind} {ticket : Ticket config.slots}
    {primed : SlotPool config.slots} {grants : SlotGrants} (hgapless : grants.Gapless)
    (hreserve : (hub.queues (i, kind.direction)).reserve hub.pool kind = some (ticket, primed)) :
    ∃ hub', ({ hub with pool := primed.setGrants ticket.slot grants } : Hub config H).committed i
        ticket = .ok hub' ∧ hub'.Sound ∧ hub'.dropped = hub.dropped ∧ hub'.state = hub.state ∧
      hub'.lane = update hub.lane (i, kind.direction)
        ((hub.lane (i, kind.direction)).push ⟨ticket.slot, kind, grants⟩) := by
  obtain ⟨queue, pool, hcommitted, hstored, hlane⟩ := h.committed hgapless hreserve
  refine ⟨_, hcommitted, h.within hstored (withQueue_sameEntries ..) fun k => ?_,
    (withQueue_sameEntries ..).dropped, withQueue_state .., hlane⟩
  rw [hlane]
  apply limit_update
  rfl

theorem Sound.completed? (h : hub.Sound) (i : Fin config.drivers) (kind : RequestKind)
    (number : UInt32) :
    (¬(hub.lane (i, kind.direction)).Answers kind number ∧
      hub.completed? i kind number = .ok none) ∨
    ∃ b rest hub', hub.bookings (i, kind.direction) = b :: rest ∧ b.kind = kind ∧
      (hub.lane (i, kind.direction)).head = number ∧
      hub.completed? i kind number = .ok (some (b.grants.present, hub')) ∧ hub'.Sound ∧
      hub'.dropped = hub.dropped ∧ hub'.state = hub.state ∧
      hub'.lane = update hub.lane (i, kind.direction) (hub.lane (i, kind.direction)).pop := by
  rcases h.toStored.completed? i kind number with hnone |
    ⟨b, rest, queue, pool, hbookings, hkind, hhead, hcompleted, hstored, hlane⟩
  · exact .inl hnone
  · refine .inr ⟨b, rest, _, hbookings, hkind, hhead, hcompleted,
      h.within hstored (withQueue_sameEntries ..) fun k => ?_, (withQueue_sameEntries ..).dropped,
      withQueue_state .., hlane⟩
    rw [hlane]
    apply limit_update
    rfl

section Seats

/-! What is done to queues and counters changes nobody's entry. -/

theorem SameSeats.of_drivers (h : hub'.drivers = hub.drivers) : hub.SameSeats hub' := by
  constructor <;> intro j <;> simp only [driver, h]

theorem sameSeats_modify {f : Driver config.slots H → Driver config.slots H}
    (hstate : ∀ driver, (f driver).state = driver.state)
    (hlabel : ∀ driver, (f driver).label = driver.label) : hub.SameSeats (hub.modify i f) := by
  constructor <;> intro j <;> rw [modify_drivers] <;> split
  · subst j
    exact hstate _
  · rfl
  · subst j
    exact hlabel _
  · rfl

theorem SameSeats.cancelled {grants : List GrantId} (h : hub.cancelled i = .ok (grants, hub')) :
    hub.SameSeats hub' := by
  obtain ⟨sends, -, h⟩ := except_bind_eq_ok.mp h
  obtain ⟨receives, -, h⟩ := except_bind_eq_ok.mp h
  cases h
  have hmodified : hub.SameSeats (hub.modify i fun driver => { driver with
      send := sends.queue, receive := receives.queue }) :=
    sameSeats_modify (fun _ => rfl) fun _ => rfl
  exact hmodified.trans (.of_drivers rfl)

theorem SameSeats.begun (h : hub.begun i = .ok hub') : hub.SameSeats hub' := by
  obtain ⟨send, -, h⟩ := except_bind_eq_ok.mp h
  obtain ⟨receive, -, h⟩ := except_bind_eq_ok.mp h
  cases h
  exact sameSeats_modify (fun _ => rfl) fun _ => rfl

theorem SameSeats.opened (hub : Hub config H) (i : Fin config.drivers) (maxSend maxReceive : UInt8) :
    hub.SameSeats (hub.opened i maxSend maxReceive) := sameSeats_modify (fun _ => rfl) fun _ => rfl

theorem SameSeats.settled (h : hub.settled = .ok hub') : hub.SameSeats hub' := by
  rw [eq_of_settled h]
  exact .of_drivers rfl

theorem SameSeats.completed {kind : RequestKind} {number : UInt32} {grants : List GrantId}
    (h : hub.completed? i kind number = .ok (some (grants, hub'))) : hub.SameSeats hub' := by
  obtain ⟨gone?, -, h⟩ := except_bind_eq_ok.mp h
  cases gone? with
  | none => cases h
  | some gone =>
    cases h
    exact (withQueue_sameEntries hub (i, kind.direction) gone.queue gone.pool).toSameSeats

theorem SameSeats.committed {ticket : Ticket config.slots} (h : hub.committed i ticket = .ok hub') :
    hub.SameSeats hub' := by
  obtain ⟨⟨queue, pool⟩, -, h⟩ := except_bind_eq_ok.mp h
  cases h
  exact (withQueue_sameEntries hub (i, ticket.kind.direction) queue pool).toSameSeats

theorem freed_state (hub : Hub config H) (i : Fin config.drivers) :
    (hub.freed i).state = update hub.state i .free := seated_state hub i .free

theorem Labelled.freed (h : hub.Labelled) (i : Fin config.drivers) : (hub.freed i).Labelled :=
  h.seated i .free

end Seats

end Hub
end DriverHub
