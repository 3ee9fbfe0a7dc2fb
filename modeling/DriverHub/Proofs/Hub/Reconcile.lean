import DriverHub.Proofs.Hub.Table

/-! Reconciling as a table of labels and endpoints. Seen so, a driver that came up is entered, those that
vanished are struck out, and nothing else happens; slots, numbers and the mark play no part. -/
namespace DriverHub

open Function SessionM

variable {config : Config} {τ γ ι H δ : Type}

/-- The requests handed to the transport: for which driver, to which endpoint and of which type. -/
abbrev Frames := List (DriverId × Endpoint × Wire.RequestType)

/-- The table, how many drivers were passed over, and the requests handed over, the oldest first. -/
@[ext] structure Register (config : Config) where
  seats : Fin config.drivers → Option (Label × Endpoint)
  dropped : Nat
  frames : Frames

namespace Register

variable (register : Register config)

def holder? (label : Label) : Option (Fin config.drivers) :=
  Fin.find? fun i => (register.seats i).map Prod.fst = some label

/-- The lowest entry that nobody has. -/
def vacant? : Option (Fin config.drivers) := Fin.find? fun i => (register.seats i).isNone

/-- A driver came up. It is asked to start in the entry that it has, or else in the lowest vacant one;
if there is none, it is dropped. -/
def enter (label : Label) (endpoint : Endpoint) : Register config :=
  match (register.holder? label).or register.vacant? with
  | some i => { register with
      seats := update register.seats i (some (label, endpoint))
      frames := register.frames ++ [(⟨i⟩, endpoint, .init)] }
  | none => { register with dropped := register.dropped + 1 }

/-- Only a driver that came up at an endpoint with a valid label matters. -/
def take (event : DriverEvent) : Register config :=
  match event.announced? with
  | some (label, endpoint) => register.enter label endpoint
  | none => register

/-- Of these entries, those whose labels have vanished are struck out. -/
def strike (entries : List (Fin config.drivers)) (present : Label → Bool) : Register config :=
  { register with seats := fun i =>
      if i ∈ entries then (register.seats i).filter fun seat => present seat.1
      else register.seats i }

/-- All entries whose labels have vanished are struck out. -/
def retain (present : Label → Bool) : Register config :=
  { register with seats := fun i => (register.seats i).filter fun seat => present seat.1 }

/-- Taking changes hands over init requests, and no others. -/
theorem frames_foldl_take (events : List DriverEvent) :
    ∃ added, (events.foldl take register).frames = register.frames ++ added ∧
      ∀ frame ∈ added, frame.2.2 = .init := by
  induction events generalizing register with
  | nil => exact ⟨[], (List.append_nil _).symm, nofun⟩
  | cons event events ih =>
    obtain ⟨others, hothers, hinits⟩ := ih (register.take event)
    have hfirst : ∃ first, (register.take event).frames = register.frames ++ first ∧
        ∀ frame ∈ first, frame.2.2 = .init := by
      unfold take
      split
      · unfold enter
        split
        · exact ⟨[_], rfl, fun frame hframe => by rw [List.mem_singleton.mp hframe]⟩
        · exact ⟨[], (List.append_nil _).symm, nofun⟩
      · exact ⟨[], (List.append_nil _).symm, nofun⟩
    obtain ⟨first, hframes, hinit⟩ := hfirst
    refine ⟨first ++ others, ?_, fun frame hframe => ?_⟩
    · rw [List.foldl_cons, hothers, hframes, List.append_assoc]
    · exact (List.mem_append.mp hframe).elim (hinit frame) (hinits frame)

end Register

/-- The request that was handed to the transport, if the entry of the journal is about one. -/
def Entry.frame? : Entry H → Option (DriverId × Endpoint × Wire.RequestType)
  | .posted driver endpoint request _ => some (driver, endpoint, request.type)
  | _ => none

/-- The requests handed to the transport, the oldest first. -/
def frames (journal : Journal H) : Frames := (journal.filterMap Entry.frame?).reverse

section Frames

variable {journal : Journal H}

theorem frames_append (newer older : Journal H) :
    frames (newer ++ older) = frames older ++ frames newer := by
  rw [frames, List.filterMap_append, List.reverse_append]
  rfl

theorem frames_revocations (grants : List GrantId) : frames (revocations grants : Journal H) = [] := by
  simp [frames, revocations, Entry.frame?]

theorem frames_quieting (state : Occupant H) (driver : DriverId) :
    frames (state.quieting driver) = [] := by
  cases state <;> rfl

theorem frames_withdrawing (state : Occupant H) (driver : DriverId) :
    frames (state.withdrawing driver) = [] := by
  unfold Occupant.withdrawing
  split <;> rfl

theorem frames_posted (driver : DriverId) (endpoint : Endpoint) (request : Request)
    (answer : Except TransportError Unit) :
    frames (.posted driver endpoint request answer :: journal) =
      frames journal ++ [(driver, endpoint, request.type)] := List.reverse_cons

theorem frames_cons_noticed (notice : Notice) :
    frames (.noticed notice :: journal) = frames journal := rfl

end Frames

/-- The register of a hub at work. -/
def Session.register (s : HubSession config τ γ ι H) : Register config :=
  ⟨fun i => (s.tables.state i).seat?, s.tables.dropped, frames s.journal⟩

theorem Session.register_eq {s : HubSession config τ γ ι H} {v : View config τ γ ι H}
    {dropped : Nat} (hview : s.view = v) (hdropped : s.tables.dropped = dropped) :
    s.register = ⟨fun i => (v.state i).seat?, dropped, frames v.journal⟩ := by
  subst hview hdropped
  rfl

/-- The source reports these changes in order, and then none or a failure; this is what it comes to. -/
inductive Discovery.Drains [Discovery δ] : δ → List DriverEvent → δ → Prop
  | event {source rest last : δ} {event : DriverEvent} {events : List DriverEvent}
      (polled : Discovery.poll source = (.ok (some event), rest)) (others : Drains rest events last) :
      Drains source (event :: events) last
  | done {source rest : δ} (polled : Discovery.poll source = (.ok none, rest)) :
      Drains source [] rest
  | failed {source rest : δ} {error : DiscoveryError}
      (polled : Discovery.poll source = (.error error, rest)) : Drains source [] rest

namespace Roster

end Roster

namespace Hub

open View

section Search

variable {s : HubSession config τ γ ι H}

theorem first?_eq {hub : Hub config H} (h : hub.Sound) {p : Occupant H → Bool}
    (hfree : p .free = false) : hub.first? p = Fin.find? fun i => p (hub.state i) := by
  rw [first?, Fin.find?_eq_find?_finRange]
  congr 1
  funext i
  -- Above the mark every entry is free.
  by_cases hlt : i < hub.highWater
  · rw [decide_eq_true hlt, Bool.true_and]
  · rw [h.mark i (Nat.le_of_not_lt hlt), hfree, Bool.and_false]

/-- The first driver at an endpoint gets the replies from there. -/
theorem findEndpoint_eq_some {hub : Hub config H} (h : hub.Sound) {i : Fin config.drivers}
    {endpoint : Endpoint} (hi : (hub.state i).endpoint? = some endpoint)
    (hfirst : ∀ j < i, (hub.state j).endpoint? ≠ some endpoint) :
    hub.findEndpoint endpoint = some i := by
  rw [h.labelled.findEndpoint_eq, first?_eq h rfl, Fin.find?_eq_some_iff]
  exact ⟨decide_eq_true hi, fun j hj => decide_eq_false (hfirst j hj)⟩

theorem findEndpoint_eq_none_iff {hub : Hub config H} (h : hub.Sound) {endpoint : Endpoint} :
    hub.findEndpoint endpoint = none ↔ ∀ j, (hub.state j).endpoint? ≠ some endpoint := by
  rw [h.labelled.findEndpoint_eq, first?_eq h rfl, Fin.find?_eq_none_iff]
  simp only [decide_eq_false_iff_not, ne_eq]

theorem findLabel_eq_holder? (h : s.tables.Sound) (label : Label) :
    s.tables.findLabel label = s.register.holder? label := by
  rw [h.labelled.findLabel_eq, first?_eq h rfl, Register.holder?]
  congr 1
  funext i
  change decide ((s.tables.state i).label? = some label) =
    decide ((s.tables.state i).seat?.map Prod.fst = some label)
  cases s.tables.state i <;> rfl

theorem isFree_eq_isNone (state : Occupant H) : state.isFree = state.seat?.isNone := by
  cases state <;> rfl

theorem findFree_eq_vacant? (h : s.tables.Sound) : s.tables.findFree = s.register.vacant? := by
  have hbelow {i : Fin config.drivers} (hi : i < s.tables.highWater) :
      (s.register.seats i).isNone = (decide (i < s.tables.highWater) &&
        (s.tables.state i).isFree) := by
    rw [decide_eq_true hi, Bool.true_and]
    exact (isFree_eq_isNone _).symm
  rw [h.labelled.findFree_eq]
  cases hfind : s.tables.first? Occupant.isFree with
  | some i =>
    -- A free entry below the mark is vacant, and those before it are not.
    rw [first?, ← Fin.find?_eq_find?_finRange, Fin.find?_eq_some_iff] at hfind
    symm
    rw [Register.vacant?, Fin.find?_eq_some_iff]
    have hi : i < s.tables.highWater := by
      have htrue := hfind.1
      rw [Bool.and_eq_true] at htrue
      exact of_decide_eq_true htrue.1
    refine ⟨(hbelow hi).trans hfind.1, fun j hj => ?_⟩
    exact (hbelow (lt_trans hj hi)).trans (hfind.2 j hj)
  | none =>
    rw [first?, ← Fin.find?_eq_find?_finRange, Fin.find?_eq_none_iff] at hfind
    symm
    dsimp only
    split
    · rename_i hlt
      rw [Register.vacant?, Fin.find?_eq_some_iff]
      refine ⟨?_, fun j hj => ?_⟩
      · change (s.tables.state ⟨s.tables.highWater, hlt⟩).seat?.isNone = true
        rw [h.mark _ (Nat.le_refl _)]
        rfl
      · exact (hbelow hj).trans (hfind j)
    · rename_i hle
      rw [Register.vacant?, Fin.find?_eq_none_iff]
      intro j
      have hj : j < s.tables.highWater := lt_of_lt_of_le j.isLt (Nat.le_of_not_lt hle)
      exact (hbelow hj).trans (hfind j)

end Search

variable [Transport τ] [GrantTable γ] [Interface ι H] {s t u : HubSession config τ γ ι H}

/-- A later session with sound tables and this register, in which nobody has become active and whoever
is active is as before. -/
structure Kept (s : HubSession config τ γ ι H) (register : Register config)
    (t : HubSession config τ γ ι H) : Prop where
  sound : t.tables.Sound
  register : t.register = register
  active : ∀ i, (t.tables.state i).isActive = true → t.tables.state i = s.tables.state i

omit [Transport τ] [GrantTable γ] [Interface ι H] in
theorem Kept.trans {register register' : Register config} (h : Kept s register t)
    (h' : Kept t register' u) : Kept s register' u := by
  refine ⟨h'.sound, h'.register, fun i hi => ?_⟩
  have hbefore := h'.active i hi
  rw [hbefore] at hi
  rw [hbefore, h.active i hi]

omit [Transport τ] [GrantTable γ] [Interface ι H] in
/-- Something is recorded that is no request. -/
theorem Kept.record (h : s.tables.Sound) (entry : Entry H) (hframe : entry.frame? = none) :
    Kept s s.register { s with journal := entry :: s.journal } := by
  refine ⟨h, ?_, fun _ _ => rfl⟩
  have hframes : frames (entry :: s.journal) = frames s.journal := by
    rw [frames, List.filterMap_cons_none hframe]
    rfl
  rw [Session.register, hframes]
  rfl

omit [Transport τ] [GrantTable γ] [Interface ι H] in
/-- One entry changes hands, and nobody becomes active. -/
theorem kept_update (hsound : t.tables.Sound) {i : Fin config.drivers} {state : Occupant H}
    {register : Register config} (hstate : t.tables.state = update s.tables.state i state)
    (hidle : state.isActive = false) (hregister : t.register = register) : Kept s register t := by
  refine ⟨hsound, hregister, fun j hj => ?_⟩
  rw [hstate] at hj ⊢
  by_cases hji : j = i
  · subst hji
    rw [update_self, hidle] at hj
    cases hj
  · rw [update_of_ne hji]

omit [Transport τ] [GrantTable γ] [Interface ι H] in
theorem seats_update_eq (states : Fin config.drivers → Occupant H) (i : Fin config.drivers)
    (state : Occupant H) :
    (fun j => (update states i state j).seat?) =
      update (fun j => (states j).seat?) i state.seat? := by
  funext j
  exact apply_update (fun _ => Occupant.seat?) states i state j

theorem kept_bringUp (h : s.tables.Sound) (label : Label) (endpoint : Endpoint) :
    (bringUp label endpoint : HubM config τ γ ι H Unit).Goes s
      (fun _ t => Kept s (s.register.enter label endpoint) t) fun _ => True := by
  refine Goes.mono (goes_bringUp h label endpoint) (fun _ t ht => ?_) fun _ _ => trivial
  obtain ⟨hsound, hbrought⟩ := ht
  cases hbrought with
  | restarted i found dropped revoked sent view =>
    rw [findLabel_eq_holder? h] at found
    apply kept_update hsound (congrArg View.state view) rfl
    rw [Session.register_eq view dropped, Register.enter, found, Option.some_or]
    ext1
    · exact seats_update_eq ..
    · rfl
    · change frames (.posted ⟨i⟩ endpoint _ (.ok ()) :: .noticed (.restarted ⟨i⟩ endpoint) ::
        (_ ++ (_ ++ s.journal))) = _
      rw [frames_posted, frames_cons_noticed, frames_append, frames_append, frames_quieting,
        frames_revocations, List.append_nil, List.append_nil]
      rfl
  | started i unknown free dropped sent view =>
    rw [findLabel_eq_holder? h] at unknown
    rw [findFree_eq_vacant? h] at free
    apply kept_update hsound (congrArg View.state view) rfl
    rw [Session.register_eq view dropped, Register.enter, unknown, free, Option.none_or]
    ext1
    · exact seats_update_eq ..
    · rfl
    · exact frames_posted ⟨i⟩ endpoint _ (.ok ())
  | passedOver unknown full dropped view =>
    rw [findLabel_eq_holder? h] at unknown
    rw [findFree_eq_vacant? h] at full
    have henter : s.register.enter label endpoint =
        { s.register with dropped := s.tables.dropped + 1 } := by
      rw [Register.enter, unknown, full]
      rfl
    rw [henter]
    rcases view with view | view
    · exact ⟨hsound, Session.register_eq view dropped, fun i _ => congrFun (congrArg View.state view) i⟩
    · exact ⟨hsound, Session.register_eq view dropped, fun i _ => congrFun (congrArg View.state view) i⟩

theorem kept_apply (h : s.tables.Sound) (event : DriverEvent) :
    (apply event : HubM config τ γ ι H Unit).Goes s
      (fun _ t => Kept s (s.register.take event) t) fun _ => True := by
  unfold apply
  split
  · rename_i endpoint hstatus hendpoint
    split
    · rename_i label hlabel
      have hannounced : event.announced? = some (label, endpoint) := by
        simp only [DriverEvent.announced?, hstatus, hendpoint, hlabel]
      rw [Register.take, hannounced]
      exact kept_bringUp h label endpoint
    · rename_i hlabel
      have hnone : event.announced? = none := by
        simp only [DriverEvent.announced?, hstatus, hendpoint, hlabel]
      rw [Register.take, hnone]
      exact .record h _ rfl
  · rename_i hnot
    have hnone : event.announced? = none := by
      unfold DriverEvent.announced?
      split
      · rename_i endpoint label hstatus hendpoint _
        exact (hnot endpoint hstatus hendpoint).elim
      · rfl
    rw [Register.take, hnone]
    exact ⟨h, rfl, fun _ _ => rfl⟩

variable [Discovery δ]

theorem kept_takeEvents (h : s.tables.Sound) (source : δ) :
    (takeEvents source : HubM config τ γ ι H δ).Goes s
      (fun rest t => ∃ events, Discovery.Drains source events rest ∧
        Kept s (events.foldl Register.take s.register) t) fun _ => True := by
  -- The recursion is on the changes that are still to be reported.
  induction hbacklog : Discovery.backlog source using Nat.strong_induction_on generalizing source s with
  | _ count ih =>
    rw [takeEvents]
    split
    · rename_i event rest hpolled
      rw [goes_bind, goes_recordPoll, goes_bind]
      have hpoll := Kept.record h (.polled (.ok (some event))) rfl
      refine Goes.mono (kept_apply hpoll.sound event) (fun _ t ht => ?_) fun _ _ => trivial
      have hfewer := hbacklog ▸ Discovery.backlog_poll _ _ _ hpolled
      refine Goes.mono (ih _ hfewer ht.sound rest rfl) (fun last u hu => ?_) fun _ _ => trivial
      obtain ⟨events, hdrains, hkept⟩ := hu
      refine ⟨event :: events, .event hpolled hdrains, hpoll.trans (ht.trans ?_)⟩
      rw [ht.register, hpoll.register] at hkept
      exact hkept
    · rename_i rest hpolled
      exact ⟨[], .done hpolled, .record h _ rfl⟩
    · rename_i error rest hpolled
      have hpoll := Kept.record h (.polled (.error error)) rfl
      have hnoted := Kept.record hpoll.sound (.noticed (.checkFailed error)) rfl
      rw [hpoll.register] at hnoted
      exact ⟨[], .failed hpolled, hpoll.trans hnoted⟩

omit [Transport τ] [GrantTable γ] [Interface ι H] [Discovery δ] in
/-- Nothing is struck out where the entry's label is present, or nobody has it. -/
theorem strike_eq_self {i : Fin config.drivers} {present : Label → Bool}
    (h : ∀ label, (s.tables.state i).label? = some label → present label = true) :
    s.register.strike [i] present = s.register := by
  ext1
  · funext j
    change (if j ∈ [i] then (s.tables.state j).seat?.filter _ else (s.tables.state j).seat?) = _
    split
    · rename_i hj
      obtain rfl := List.mem_singleton.mp hj
      change _ = (s.tables.state j).seat?
      cases hs : s.tables.state j with
      | free => rfl
      | _ =>
        rw [hs] at h
        exact Option.filter_some_pos (h _ rfl)
    · rfl
  · rfl
  · rfl

omit [Transport τ] in
theorem kept_sweepEntry (h : s.tables.Sound) (source : δ) (i : Fin config.drivers) :
    (sweepEntry source i : HubM config τ γ ι H Unit).Goes s
      (fun _ t => Kept s (s.register.strike [i] (Discovery.isPresent source)) t)
      fun _ => True := by
  unfold sweepEntry
  rw [goes_bind, goes_tables]
  split
  · rename_i label _ hlabel
    rw [(h.labelled.driver_eq i).2] at hlabel
    split
    · have hlooked := Kept.record h (.lookedUp label (Discovery.isPresent source label)) rfl
      rw [goes_bind, goes_lookUp]
      split
      · rename_i hpresent
        rw [strike_eq_self]
        · exact hlooked
        · intro label' hlabel'
          rw [hlabel] at hlabel'
          obtain rfl := Option.some.inj hlabel'
          exact hpresent
      · rename_i hmark habsent
        obtain ⟨endpoint, hseat⟩ : ∃ endpoint, (s.tables.state i).seat? = some (label, endpoint) := by
          cases hs : s.tables.state i with
          | free =>
            rw [hs] at hlabel
            cases hlabel
          | _ =>
            rw [hs] at hlabel
            obtain rfl := Option.some.inj hlabel
            exact ⟨_, rfl⟩
        have hknown : (s.tables.state i).endpoint? = some endpoint := by
          cases hs : s.tables.state i <;> rw [hs] at hseat <;> cases hseat <;> rfl
        refine goes_takeDown (hlooked.sound.but i) hmark hknown (fun t g hsound hdropped hg hview => ?_)
          fun _ _ _ => trivial
        refine hlooked.trans (kept_update hsound (congrArg View.state hview) rfl ?_)
        rw [Session.register_eq hview hdropped]
        ext1
        · refine (seats_update_eq ..).trans ?_
          funext j
          change _ = if j ∈ [i] then (s.tables.state j).seat?.filter _ else (s.tables.state j).seat?
          by_cases hj : j = i
          · subst hj
            rw [update_self, if_pos (List.mem_singleton.mpr rfl), hseat]
            exact (Option.filter_some_neg (Bool.not_eq_true _ ▸ habsent)).symm
          · rw [update_of_ne hj, if_neg (List.mem_singleton.not.mpr hj)]
            rfl
        · rfl
        · change frames (.noticed (.gone ⟨i⟩ endpoint) :: (_ ++ (_ ++ .lookedUp label _ :: s.journal))) = _
          rw [frames_cons_noticed, frames_append, frames_append, frames_withdrawing,
            frames_revocations, List.append_nil, List.append_nil]
          rfl
    · -- Above the mark nobody has an entry.
      rename_i hmark
      rw [h.mark i (Nat.le_of_not_lt hmark)] at hlabel
      cases hlabel
  · -- An entry without a label has no driver either.
    rename_i hnone
    rw [(h.labelled.driver_eq i).1, (h.labelled.driver_eq i).2, Occupant.isFree_driverState] at hnone
    rw [strike_eq_self]
    · exact ⟨h, rfl, fun _ _ => rfl⟩
    · intro label hlabel
      cases hs : s.tables.state i <;> rw [hs] at hnone hlabel
      · cases hlabel
      · exact (hnone _ rfl rfl).elim
      · exact (hnone _ rfl rfl).elim

omit [Transport τ] [GrantTable γ] [Interface ι H] [Discovery δ] in
theorem strike_strike (register : Register config) (i : Fin config.drivers)
    (rest : List (Fin config.drivers)) (present : Label → Bool) :
    (register.strike [i] present).strike rest present = register.strike (i :: rest) present := by
  ext1
  · funext j
    simp only [Register.strike, List.mem_cons, List.not_mem_nil, or_false]
    by_cases hj : j = i <;> by_cases hrest : j ∈ rest <;> simp [hj, hrest, Option.filter_filter]
  · rfl
  · rfl

omit [Transport τ] in
theorem kept_sweep (h : s.tables.Sound) (source : δ) (entries : List (Fin config.drivers)) :
    (sweep source entries : HubM config τ γ ι H Unit).Goes s
      (fun _ t => Kept s (s.register.strike entries (Discovery.isPresent source)) t)
      fun _ => True := by
  induction entries generalizing s with
  | nil => exact ⟨h, rfl, fun _ _ => rfl⟩
  | cons i rest ih =>
    rw [sweep, goes_bind]
    refine Goes.mono (kept_sweepEntry h source i) (fun _ t ht => ?_) fun _ _ => trivial
    refine Goes.mono (ih ht.sound) (fun _ u hu => ?_) fun _ _ => trivial
    rw [ht.register, strike_strike] at hu
    exact ht.trans hu

/-- Reconciling takes the changes that are due, and then strikes out whoever has vanished. -/
theorem kept_reconcile (h : s.tables.Sound) (source : δ) :
    (reconcile source : HubM config τ γ ι H δ).Goes s
      (fun rest t => ∃ events, Discovery.Drains source events rest ∧
        Kept s ((events.foldl Register.take s.register).retain (Discovery.isPresent rest)) t)
      fun _ => True := by
  unfold reconcile
  rw [goes_bind]
  refine Goes.mono (kept_takeEvents h source) (fun rest t ht => ?_) fun _ _ => trivial
  obtain ⟨events, hdrains, hkept⟩ := ht
  rw [goes_bind]
  refine Goes.mono (kept_sweep hkept.sound rest (List.finRange config.drivers)) (fun _ u hu => ?_)
    fun _ _ => trivial
  refine ⟨events, hdrains, hkept.trans ?_⟩
  have hall : ∀ register : Register config, register.strike (List.finRange config.drivers)
      (Discovery.isPresent rest) = register.retain (Discovery.isPresent rest) := by
    intro register
    simp only [Register.strike, Register.retain, List.mem_finRange, if_true]
  rw [hall, hkept.register] at hu
  exact hu

end Hub

section Runs

variable [Transport τ] [GrantTable γ] [Interface ι H]
variable {heads : LaneId config → UInt32} {custody : Custody γ} {s t : HubSession config τ γ ι H}

end Runs

end DriverHub
