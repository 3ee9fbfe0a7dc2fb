import DriverHub.Proofs.Hub.Account
import DriverHub.Proofs.Hub.Run

/-! The driver table. Every driver has one entry, the counters and the mark follow the entries, only
active drivers have open queues, and as long as discovery keeps endpoints apart the table does. -/
namespace DriverHub

open Function Finset

variable {config : Config} {τ γ ι H α : Type}

/-- In a valid configuration there is a driver, and the queue depths fit into a byte. -/
theorem Config.Valid.bounds (h : config.Valid) :
    0 < config.drivers ∧ (1 ≤ config.sendDepth.toNat ∧ config.sendDepth.toNat ≤ 255) ∧
      1 ≤ config.receiveDepth.toNat ∧ config.receiveDepth.toNat ≤ 255 := by
  unfold Config.Valid Config.fault? at h
  split at h
  · cases h
  · rename_i hdrivers
    split at h
    · cases h
    · split at h
      · cases h
      · rename_i hempty
        split at h
        · cases h
        · rename_i hdeep
          simp only [Config.depthLimit, ← UInt64.toNat_inj, UInt64.lt_iff_toNat_lt, not_or, not_lt,
            UInt64.reduceToNat] at hdrivers hempty hdeep
          unfold Config.drivers
          omega

/-- What no two entries have in common. -/
def Apart (f : Occupant H → Option α) (state : Fin config.drivers → Occupant H) : Prop :=
  ∀ i j a, f (state i) = some a → f (state j) = some a → i = j

theorem Apart.replaced {f : Occupant H → Option α} {states : Fin config.drivers → Occupant H}
    (h : Apart f states) {i : Fin config.drivers} {state : Occupant H}
    (hnew : ∀ a, f state = some a → ∀ j, j ≠ i → f (states j) ≠ some a) :
    Apart f (update states i state) := by
  intro j k a hj hk
  rw [update_apply] at hj hk
  split at hj
  · split at hk
    · rename_i hji hki
      rw [hji, hki]
    · rename_i hki
      exact absurd hk (hnew a hj k hki)
  · rename_i hji
    split at hk
    · exact absurd hj (hnew a hk j hji)
    · exact h j k a hj hk

/-- An entry that keeps its value, or loses it, stays apart from the others. -/
theorem Apart.kept {f : Occupant H → Option α} {states : Fin config.drivers → Occupant H}
    (h : Apart f states) {i : Fin config.drivers} {state : Occupant H}
    (hnew : ∀ a, f state = some a → f (states i) = some a) : Apart f (update states i state) := by
  apply h.replaced
  intro a ha j hji hj
  exact hji (h j i a hj (hnew a ha))

/-- The most requests that may be in flight in a direction. -/
def mostOpen (config : Config) : Direction → Nat
  | .send => 255
  | .receive => config.receiveDepth.toNat

/-- Active drivers have open lanes, within the bounds of both sides. -/
def Open (state : Fin config.drivers → Occupant H) (lane : LaneId config → Lane config.slots) :
    Prop :=
  ∀ i, (state i).isActive = true → ∀ d, 1 ≤ (lane (i, d)).limit ∧
    (lane (i, d)).limit ≤ mostOpen config d

/-- An entry and its lanes change, and all others stay as they are. -/
theorem Open.entry {states : Fin config.drivers → Occupant H}
    {lanes : LaneId config → Lane config.slots} (h : Open states lanes) {i : Fin config.drivers}
    {state : Occupant H} {f : Direction → Lane config.slots → Lane config.slots}
    (hnew : state.isActive = true → ∀ d, 1 ≤ (f d (lanes (i, d))).limit ∧
      (f d (lanes (i, d))).limit ≤ mostOpen config d) :
    Open (update states i state) (atEntry lanes i f) := by
  intro j hj d
  rw [atEntry_apply]
  by_cases hji : j = i
  · subst hji
    rw [update_self] at hj
    rw [if_pos rfl]
    exact hnew hj d
  · rw [update_of_ne hji] at hj
    rw [if_neg hji]
    exact h j hj d

/-- A lane may change without its limit. -/
theorem Open.lane {states : Fin config.drivers → Occupant H}
    {lanes : LaneId config → Lane config.slots} (h : Open states lanes) {k : LaneId config}
    {lane : Lane config.slots}
    (hlimit : lane.limit = (lanes k).limit) : Open states (update lanes k lane) := by
  intro j hj d
  rw [Hub.limit_update hlimit]
  exact h j hj d

/-- What a driver that is accepted asks for is within the bounds. -/
theorem openLimit_bounds (hvalid : config.Valid) {reply : InitReply} {name : InterfaceName}
    (hchecked : reply.checked = .ok name) (d : Direction) :
    1 ≤ openLimit config reply.maxSend reply.maxReceive d ∧
      openLimit config reply.maxSend reply.maxReceive d ≤ mostOpen config d := by
  obtain ⟨-, -, hreceive, -⟩ := hvalid.bounds
  have hlimits : reply.maxSend ≠ 0 ∧ reply.maxReceive ≠ 0 := by
    unfold InitReply.checked at hchecked
    split at hchecked
    · cases hchecked
    · split at hchecked
      · cases hchecked
      · split at hchecked
        · cases hchecked
        · rename_i hlimits
          rwa [not_or] at hlimits
  simp only [ne_eq, ← UInt8.toNat_inj, UInt8.reduceToNat] at hlimits
  have hsend := reply.maxSend.toNat_lt
  cases d with
  | send =>
    simp only [openLimit, mostOpen]
    omega
  | receive =>
    simp only [openLimit, mostOpen]
    omega

/-- The label and the endpoint of the driver that has an entry. -/
def Occupant.seat? : Occupant H → Option (Label × Endpoint)
  | .free => none
  | .pending label endpoint _ | .active label endpoint _ => some (label, endpoint)

/-- Label and endpoint of the driver with this identifier, as the notices of a journal have it. -/
def seat (driver : DriverId) : Journal H → Option (Label × Endpoint)
  | [] => none
  | .noticed (.up seated label endpoint) :: older =>
    if seated = driver then some (label, endpoint) else seat driver older
  | .noticed (.restarted seated endpoint) :: older =>
    if seated = driver then (seat driver older).map fun known => (known.1, endpoint)
    else seat driver older
  | .noticed (.gone seated _) :: older =>
    if seated = driver then none else seat driver older
  | _ :: older => seat driver older

/-- The driver that discovery reported, if this entry of a journal is about one. -/
def Entry.announced? : Entry H → Option (Label × Endpoint)
  | .polled (.ok (some event)) => event.announced?
  | _ => none

/-- Whenever discovery reports a driver, nobody with another label is where it came up. -/
def Exclusive (config : Config) : Journal H → Prop
  | [] => True
  | entry :: older =>
    (∀ i : Fin config.drivers, ∀ new ∈ entry.announced?, ∀ known ∈ seat ⟨i⟩ older,
      known.2 = new.2 → known.1 = new.1) ∧ Exclusive config older

instance Exclusive.decidable (config : Config) : DecidablePred (Exclusive config (H := H))
  | [] => isTrue trivial
  | _ :: older => @instDecidableAnd _ _ _ (Exclusive.decidable config older)

theorem Exclusive.of_suffix {journal older : Journal H} (h : Exclusive config journal)
    (hsuffix : older <:+ journal) : Exclusive config older := by
  induction journal with
  | nil =>
    rw [List.suffix_nil.mp hsuffix]
    exact h
  | cons entry rest ih =>
    rcases List.suffix_cons_iff.mp hsuffix with rfl | hrest
    · exact h
    · exact ih h.2 hrest

section Seats

variable {driver : DriverId} {journal : Journal H}

theorem seat_append {entries : Journal H} (h : ∀ entry ∈ entries, ∀ notice, entry ≠ .noticed notice) :
    seat driver (entries ++ journal) = seat driver journal := by
  induction entries with
  | nil => rfl
  | cons entry rest ih =>
    have hrest := ih fun e he => h e (List.mem_cons_of_mem entry he)
    rw [← hrest, List.cons_append]
    cases entry with
    | noticed notice => exact absurd rfl (h _ List.mem_cons_self notice)
    | _ => rfl

theorem seat_quiet {entry : Entry H} (h : entry.Quiet) :
    seat driver (entry :: journal) = seat driver journal := by
  cases entry with
  | noticed notice => cases notice <;> first | rfl | exact h.elim
  | _ => rfl

theorem seat_revocations (grants : List GrantId) :
    seat driver (revocations grants ++ journal) = seat driver journal := by
  apply seat_append
  intro entry hentry notice
  obtain ⟨grant, -, rfl⟩ := List.mem_map.mp hentry
  exact nofun

theorem seat_creates [GrantTable γ] {endpoint : Endpoint} {access : Access} {g g' : γ}
    {segments : List Segment} {grants : List GrantId} {complete : Bool} {entries : Journal H}
    (h : Creates endpoint access g segments grants complete entries g') :
    seat driver (entries ++ journal) = seat driver journal := by
  induction h generalizing journal with
  | done => rfl
  | refused => rfl
  | step _ _ ih =>
    rw [List.append_assoc, ih]
    rfl

theorem seat_quieting (state : Occupant H) (concerned : DriverId) :
    seat driver (state.quieting concerned ++ journal) = seat driver journal := by
  cases state <;> rfl

theorem seat_withdrawing (state : Occupant H) (concerned : DriverId) :
    seat driver (state.withdrawing concerned ++ journal) = seat driver journal := by
  unfold Occupant.withdrawing
  split <;> rfl

theorem seat_hires [Interface ι H] {concerned : DriverId} {name : InterfaceName}
    {capabilities : Capabilities} {interface interface' : ι} {journal' : Journal H}
    {handle? : Option H} {handle : H} {isNew : Bool}
    (h : Hires concerned name capabilities interface journal handle? handle isNew interface'
      journal') :
    seat driver journal' = seat driver journal := by
  cases h <;> rfl

variable {i j : Fin config.drivers} {endpoint : Endpoint}

theorem seat_up (label : Label) :
    seat ⟨j⟩ (.noticed (.up ⟨i⟩ label endpoint) :: journal) =
      if j = i then some (label, endpoint) else seat ⟨j⟩ journal := by
  simp only [seat, driver_eq_iff]

theorem seat_restarted :
    seat ⟨j⟩ (.noticed (.restarted ⟨i⟩ endpoint) :: journal) =
      if j = i then (seat ⟨j⟩ journal).map fun known => (known.1, endpoint)
      else seat ⟨j⟩ journal := by
  simp only [seat, driver_eq_iff]

theorem seat_gone :
    seat ⟨j⟩ (.noticed (.gone ⟨i⟩ endpoint) :: journal) =
      if j = i then none else seat ⟨j⟩ journal := by
  simp only [seat, driver_eq_iff]

end Seats

namespace View

variable [Transport τ] [GrantTable γ] [Interface ι H] {v w : View config τ γ ι H}

/-- What is so of every table: the notices tell who has which entry, labels are apart, and the lanes of
active drivers are open. -/
structure Ordered (v : View config τ γ ι H) : Prop where
  seats : ∀ i : Fin config.drivers, seat ⟨i⟩ v.journal = (v.state i).seat?
  labels : Apart Occupant.label? v.state
  lanes : Open v.state v.lane

omit [Transport τ] [GrantTable γ] [Interface ι H] in
/-- The notices follow an entry that changes hands if they say nothing of the others. -/
theorem seats_update {states : Fin config.drivers → Occupant H} {journal journal' : Journal H}
    (h : ∀ i : Fin config.drivers, seat ⟨i⟩ journal = (states i).seat?) {i : Fin config.drivers}
    {state : Occupant H} (hnew : seat ⟨i⟩ journal' = state.seat?)
    (hothers : ∀ j : Fin config.drivers, j ≠ i → seat ⟨j⟩ journal' = seat ⟨j⟩ journal)
    (j : Fin config.drivers) : seat ⟨j⟩ journal' = (update states i state j).seat? := by
  by_cases hji : j = i
  · subst hji
    rw [update_self, hnew]
  · rw [update_of_ne hji, hothers j hji, h]

theorem Move.ordered (hvalid : config.Valid) (h : v.Ordered) (hmove : Move v w) : w.Ordered := by
  cases hmove with
  | noted entry quiet =>
    refine ⟨fun i => ?_, h.labels, h.lanes⟩
    rw [seat_quiet quiet]
    exact h.seats i
  | started i label endpoint free sent fresh =>
    refine ⟨seats_update h.seats ?seat ?others, h.labels.replaced ?label, h.lanes.entry nofun⟩
    case seat => exact (seat_up label).trans (if_pos rfl)
    case others => exact fun j hj => (seat_up label).trans (if_neg hj)
    case label =>
      intro known hknown j _
      obtain rfl := Option.some.inj hknown
      exact fresh j
  | restarted i label endpoint known =>
    have hsilent (j : Fin config.drivers) : seat ⟨j⟩ ((v.state i).quieting ⟨i⟩ ++
        (revocations (v.grantsAt i) ++ v.journal)) = seat ⟨j⟩ v.journal := by
      rw [seat_quieting, seat_revocations]
    refine ⟨seats_update h.seats ?seat ?others, h.labels.kept ?label, h.lanes.entry nofun⟩
    case seat =>
      -- The notice has the new endpoint only; the label is the one the entry had before.
      refine seat_restarted.trans ?_
      rw [if_pos rfl, hsilent, h.seats]
      cases hs : v.state i with
      | free =>
        rw [hs] at known
        cases known
      | _ =>
        rw [hs] at known
        obtain rfl := Option.some.inj known
        rfl
    case others => exact fun j hj => (seat_restarted.trans (if_neg hj)).trans (hsilent j)
    case label =>
      intro same hsame
      obtain rfl := Option.some.inj hsame
      exact known
  | gone i endpoint known revoked =>
    have hsilent (j : Fin config.drivers) : seat ⟨j⟩ ((v.state i).withdrawing ⟨i⟩ ++
        (revocations (v.grantsAt i) ++ v.journal)) = seat ⟨j⟩ v.journal := by
      rw [seat_withdrawing, seat_revocations]
    refine ⟨seats_update h.seats ?seat ?others, h.labels.kept nofun, h.lanes.entry nofun⟩
    case seat => exact seat_gone.trans (if_pos rfl)
    case others => exact fun j hj => (seat_gone.trans (if_neg hj)).trans (hsilent j)
  | turnedAway => exact ⟨h.seats, h.labels, h.lanes⟩
  | @activated i label endpoint reply name _ _ _ _ _ journal pending latest checked hires enabled =>
    have hsilent (j : Fin config.drivers) : seat ⟨j⟩ journal = seat ⟨j⟩ v.journal := seat_hires hires
    refine ⟨seats_update h.seats ?seat ?others, h.labels.kept ?label, h.lanes.entry ?lane⟩
    case seat =>
      refine (hsilent i).trans ?_
      rw [h.seats, pending]
      rfl
    case others => exact fun j _ => hsilent j
    case label =>
      intro same hsame
      rw [pending]
      exact hsame
    case lane => exact fun _ d => openLimit_bounds hvalid checked d
  | @refused i label endpoint reply name _ _ _ _ _ journal pending latest checked hires refused =>
    have hsilent (j : Fin config.drivers) : seat ⟨j⟩ journal = seat ⟨j⟩ v.journal := seat_hires hires
    refine ⟨seats_update h.seats ?seat ?others, h.labels.kept nofun, h.lanes.entry nofun⟩
    case seat => exact seat_gone.trans (if_pos rfl)
    case others => exact fun j hj => (seat_gone.trans (if_neg hj)).trans (hsilent j)
  | completed i label endpoint handle b rest result active oldest revoked =>
    refine ⟨fun j => ?_, h.labels, h.lanes.lane rfl⟩
    exact (seat_revocations _).trans (h.seats j)
  | reported => exact ⟨h.seats, h.labels, h.lanes⟩
  | acknowledged => exact ⟨h.seats, h.labels, h.lanes⟩

omit [Interface ι H] in
theorem Issue.ordered {outcome : Except Refusal UInt32} (h : v.Ordered)
    (hissue : Issue v outcome w) : w.Ordered := by
  cases hissue with
  | issued i label endpoint handle slot kind segments request active created few carries sent =>
    refine ⟨fun j => ?_, h.labels, h.lanes.lane rfl⟩
    exact (seat_creates created).trans (h.seats j)
  | abandoned i label endpoint handle access segments active created revoked =>
    refine ⟨fun j => ?_, h.labels, h.lanes⟩
    exact ((seat_revocations _).trans (seat_creates created)).trans (h.seats j)

omit [Transport τ] [GrantTable γ] [Interface ι H] in
/-- Where a driver was just reported, there is no other one. -/
theorem Ordered.label_of_announced (h : v.Ordered) (hexclusive : Exclusive config v.journal)
    {label : Label} {endpoint : Endpoint} (hannounced : Announced label endpoint v.journal)
    {j : Fin config.drivers} (hj : (v.state j).endpoint? = some endpoint) :
    (v.state j).label? = some label := by
  obtain ⟨event, older, hjournal, hevent⟩ := hannounced
  have hseat := h.seats j
  rw [hjournal] at hexclusive hseat
  change seat ⟨j⟩ older = _ at hseat
  cases hs : v.state j with
  | free =>
    rw [hs] at hj
    cases hj
  | _ =>
    rw [hs] at hj hseat
    have hknown := hexclusive.1 j (label, endpoint) hevent _ hseat (Option.some.inj hj)
    exact congrArg some hknown

/-- As long as drivers are reported at endpoints of their own, no two entries have one endpoint. -/
theorem Move.endpoints_apart (h : v.Ordered)
    (hendpoints : Exclusive config v.journal → Apart Occupant.endpoint? v.state)
    (hmove : Move v w) (hexclusive : Exclusive config w.journal) :
    Apart Occupant.endpoint? w.state := by
  have hbefore := hexclusive.of_suffix hmove.suffix
  have hapart := hendpoints hbefore
  cases hmove with
  | started i label endpoint free sent fresh announced =>
    apply hapart.replaced
    intro new hnew j _ hj
    obtain rfl := Option.some.inj hnew
    exact fresh j (h.label_of_announced hbefore announced hj)
  | restarted i label endpoint known revoked sent announced =>
    apply hapart.replaced
    intro new hnew j hji hj
    obtain rfl := Option.some.inj hnew
    exact hji (h.labels j i label (h.label_of_announced hbefore announced hj) known)
  | activated i label endpoint reply name pending =>
    apply hapart.kept
    intro same hsame
    rw [pending]
    exact hsame
  | gone | refused => exact hapart.kept nofun
  | noted | turnedAway | completed | reported | acknowledged => exact hapart

end View

namespace Hub

variable {hub : Hub config H}

/-- What callers can rely on: the mark is one past the last entry in use; an entry has a label exactly if
it is in use, so its state and its label are those of the driver that has it; every driver has one entry,
by which it is found; the counters count the table; queues are open for active drivers only; and
drivers passed over are reported once. -/
structure Tidy (hub : Hub config H) : Prop where
  highWater : hub.statistics.highWater =
    univ.sup fun i => if (hub.state i).isFree then 0 else (i : Nat) + 1
  labelled : ∀ i, (hub.driver i).label.isSome ↔ (hub.driver i).state ≠ .free
  occupants : ∀ i, (hub.driver i).state = (hub.state i).driverState ∧
    (hub.driver i).label = (hub.state i).label?
  labels : ∀ i j label, (hub.state i).label? = some label → (hub.state j).label? = some label →
    i = j
  found : ∀ label id, hub.driverId? label = some id ↔
    ∃ i : Fin config.drivers, id = ⟨i⟩ ∧ (hub.state i).label? = some label
  pending : hub.statistics.pending = (univ.filter fun i => (hub.state i).isPending).card
  active : hub.statistics.active = (univ.filter fun i => (hub.state i).isActive).card
  closed : ∀ i, (hub.state i).isActive = false → ∀ d,
    (hub.queues (i, d)).depth = 0 ∧ (hub.queues (i, d)).limit = 0
  opened : ∀ i, (hub.state i).isActive = true →
    (1 ≤ (hub.queues (i, .send)).limit ∧ (hub.queues (i, .send)).limit ≤ 255) ∧
    1 ≤ (hub.queues (i, .receive)).limit ∧
    (hub.queues (i, .receive)).limit ≤ config.receiveDepth.toNat
  free : ∀ i, hub.state i = .free → (hub.state i).handle? = none
  reported : hub.statistics.fullReports = if 0 < hub.statistics.dropped then 1 else 0

theorem Marked.highWater_eq (h : hub.Marked) :
    hub.highWater = univ.sup fun i => if (hub.state i).isFree then 0 else (i : Nat) + 1 := by
  apply le_antisymm
  · -- The last entry in use reaches up to the mark.
    by_cases hzero : hub.highWater = 0
    · omega
    · obtain ⟨j, hj, hused⟩ := h.last hzero
      have hle := le_sup (f := fun i => if (hub.state i).isFree then 0 else (i : Nat) + 1)
        (mem_univ j)
      have hfree : (hub.state j).isFree = false := by
        cases hs : hub.state j with
        | free => exact absurd hs hused
        | _ => rfl
      simp only [hfree, Bool.false_eq_true, ↓reduceIte] at hle
      omega
  · apply Finset.sup_le
    intro j _
    split
    · exact Nat.zero_le _
    · rename_i hused
      apply h.lt_highWater
      intro hfree
      rw [hfree] at hused
      exact hused rfl

theorem Tallied.pending_eq (h : hub.Tallied) :
    hub.pending = (univ.filter fun i => (hub.state i).isPending).card := by
  rw [h.pending, card_filter]
  apply sum_congr rfl
  intro i _
  cases (hub.state i).isPending <;> rfl

/-- No active driver is above the mark. -/
theorem Tallied.active_eq (h : hub.Tallied) :
    hub.statistics.active = (univ.filter fun i => (hub.state i).isActive).card := by
  have hbelow (i : Fin config.drivers) :
      (decide (i < hub.highWater) && (hub.driver i).state.isActive) = (hub.state i).isActive := by
    have hdriver : (hub.driver i).state.isActive = (hub.state i).isActive := by
      rw [(h.labelled.driver_eq i).1, Occupant.isActive_driverState]
    cases hactive : (hub.state i).isActive with
    | false => exact Bool.and_eq_false_imp.mpr fun _ => hdriver.trans hactive
    | true =>
      have hlt : i < hub.highWater := by
        apply h.lt_highWater
        intro hfree
        rw [hfree] at hactive
        cases hactive
      exact Bool.and_eq_true_iff.mpr ⟨decide_eq_true hlt, hdriver.trans hactive⟩
  rw [statistics]
  simp only [hbelow]
  rw [List.countP_eq_length_filter, card_def, filter_val, Fin.univ_def, Multiset.filter_coe,
    Multiset.coe_card]
  simp only [Bool.decide_eq_true]

/-- A driver is found by its label, in its one entry. -/
theorem Sound.driverId?_eq_some (h : hub.Sound) (hlabels : Apart Occupant.label? hub.state)
    (label : Label) (id : DriverId) :
    hub.driverId? label = some id ↔
      ∃ i : Fin config.drivers, id = ⟨i⟩ ∧ (hub.state i).label? = some label := by
  unfold driverId?
  cases hfound : hub.findLabel label with
  | none =>
    have hnowhere := label_ne_of_findLabel h hfound
    refine ⟨nofun, ?_⟩
    rintro ⟨i, -, hi⟩
    exact absurd hi (hnowhere i)
  | some i =>
    have hi := label_of_findLabel h.labelled hfound
    change some (⟨i⟩ : DriverId) = some id ↔ _
    constructor
    · intro heq
      exact ⟨i, (Option.some.inj heq).symm, hi⟩
    · rintro ⟨j, rfl, hj⟩
      rw [hlabels i j label hi hj]

end Hub

section Runs

variable [Transport τ] [GrantTable γ] [Interface ι H]
variable {heads : LaneId config → UInt32} {custody : Custody γ} {s : HubSession config τ γ ι H}

theorem Reachable.valid (h : Reachable heads custody s) : config.Valid := by
  induction h with
  | new built initial =>
    unfold HubSession.new at built
    split at built
    · cases built
    · rename_i hnone
      exact hnone
  | after _ _ _ ih => exact ih
  | meanwhile _ _ _ _ _ ih => exact ih

theorem Reachable.ordered (h : Reachable heads custody s) : s.view.Ordered := by
  have hvalid := h.valid
  apply h.view_induction
  · intro transport grants interface _
    exact ⟨fun _ => rfl, nofun, nofun⟩
  · exact fun v w hv hmove => hmove.ordered hvalid hv
  · exact fun v _ w hv hissue => hissue.ordered hv
  · exact fun v transport grants interface hv _ => ⟨hv.seats, hv.labels, hv.lanes⟩

theorem Reachable.endpoints_apart (h : Reachable heads custody s)
    (hexclusive : Exclusive config s.journal) : Apart Occupant.endpoint? s.tables.state := by
  have hvalid := h.valid
  have hboth : s.view.Ordered ∧
      (Exclusive config s.view.journal → Apart Occupant.endpoint? s.view.state) := by
    refine h.view_induction (P := fun v => v.Ordered ∧
      (Exclusive config v.journal → Apart Occupant.endpoint? v.state)) ?_ ?_ ?_ ?_
    · intro transport grants interface _
      exact ⟨⟨fun _ => rfl, nofun, nofun⟩, nofun⟩
    · exact fun v w hv hmove => ⟨hmove.ordered hvalid hv.1, hmove.endpoints_apart hv.1 hv.2⟩
    · intro v outcome w hv hissue
      refine ⟨hissue.ordered hv.1, fun hw => ?_⟩
      have hapart := hv.2 (hw.of_suffix hissue.suffix)
      cases hissue <;> exact hapart
    · exact fun v transport grants interface hv _ => ⟨⟨hv.1.seats, hv.1.labels, hv.1.lanes⟩, hv.2⟩
  exact hboth.2 hexclusive

/-- The table is in order after every operation, and the notices tell who has which entry. If no driver
was ever reported where a driver with another label was, then no two drivers are at one endpoint. -/
theorem Reachable.table_tidy (h : Reachable heads custody s) :
    s.tables.Tidy ∧ (∀ i : Fin config.drivers, seat ⟨i⟩ s.journal = (s.tables.state i).seat?) ∧
    (Exclusive config s.journal → ∀ i j endpoint, (s.tables.state i).endpoint? = some endpoint →
      (s.tables.state j).endpoint? = some endpoint → i = j) := by
  have hsound := h.sound
  have hordered := h.ordered
  refine ⟨⟨hsound.highWater_eq, ?labelled, hsound.labelled.driver_eq, hordered.labels,
    hsound.driverId?_eq_some hordered.labels, hsound.pending_eq, hsound.active_eq, ?closed, ?opened, ?free,
    ?reported⟩, hordered.seats, h.endpoints_apart⟩
  case labelled =>
    intro i
    have hlabelled : (s.tables.driver i).label.isSome = !(s.tables.driver i).state.isFree :=
      hsound.labelled i
    rw [hlabelled]
    cases (s.tables.driver i).state <;> simp [DriverState.isFree]
  case closed =>
    intro i hi d
    have hnone := hsound.bookings_eq_nil hi d
    have hdepth := hsound.length_bookings (i, d)
    rw [hnone] at hdepth
    exact ⟨hdepth.symm, hsound.closed i hi d⟩
  case opened => exact fun i hi => ⟨hordered.lanes i hi .send, hordered.lanes i hi .receive⟩
  case free =>
    intro i hi
    rw [hi]
    rfl
  case reported =>
    have hreported := hsound.reported
    simp only [Hub.statistics, hreported]
    split <;> simp_all

end Runs

/-! A table of two entries: one driver becomes active, one does not answer, and a third is passed
over. -/
namespace Trial

def pair : Config := { small with maxDrivers := 2 }

/-- The entry of the first driver. -/
def first : Fin pair.drivers := ⟨0, by decide⟩

def crowd : Roster where
  present := [[110], [111], [112]]
  events := [.up [110, 0] ⟨5⟩, .up [111, 0] ⟨6⟩, .up [112, 0] ⟨7⟩]

def atRest : HubSession pair Outbox GrantLedger CallbackLog Nat where
  tables := Hub.startingAt pair fun _ => 0
  transport := {}
  grants := {}
  interface := {}
  journal := [.noticed (.started pair)]

theorem pair_built :
    HubSession.new pair 7 {} {} {} = .ok { atRest with tables := Hub.empty pair } :=
  HubSession.new_eq_ok (by decide) (show pair.requestSlots = .ok 7 from rfl) (by decide) _ _ _

def crowded : HubSession pair Outbox GrantLedger CallbackLog Nat :=
  atRest.afterAll [.reconcile crowd, .process ⟨5⟩ (.init { reply with id := 1 })]

theorem crowded_tidy :
    crowded.tables.statistics.active = 1 ∧ crowded.tables.statistics.dropped = 1 ∧
    crowded.tables.Tidy ∧ Exclusive pair crowded.journal ∧
    ∀ i j endpoint, (crowded.tables.state i).endpoint? = some endpoint →
      (crowded.tables.state j).endpoint? = some endpoint → i = j := by
  have hstart : Reachable (fun _ => 0) (.any GrantLedger) atRest :=
    .new pair_built trivial
  have hexclusive : Exclusive pair crowded.journal := by decide +kernel
  obtain ⟨htidy, -, hendpoints⟩ := Reachable.table_tidy (hstart.afterAll
    [.reconcile crowd, .process ⟨5⟩ (.init { reply with id := 1 })])
  refine ⟨by decide +kernel, by decide +kernel, htidy, hexclusive, hendpoints hexclusive⟩

end Trial
end DriverHub
