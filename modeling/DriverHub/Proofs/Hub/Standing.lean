import DriverHub.Proofs.Hub.Moves
import DriverHub.Proofs.Session.Callbacks

/-! Interfaces and the driver table. The entry of an active driver has an enabled interface, that of a
pending driver a disabled one or none, and no two entries have the same. What the hub does to an
entry goes together with the calls it makes. -/
namespace DriverHub

open Function

variable {config : Config} {H : Type}

/-- Where the driver table has an interface that is in this phase, between operations. -/
inductive Standing (states : Fin config.drivers → Occupant H) (handle : H) : Phase → Prop
  | absent (nowhere : ∀ i, (states i).handle? ≠ some handle) : Standing states handle .absent
  | enabled (i : Fin config.drivers) (label : Label) (endpoint : Endpoint)
      (active : states i = .active label endpoint handle)
      (only : ∀ j, j ≠ i → (states j).handle? ≠ some handle) : Standing states handle .enabled
  | disabled (i : Fin config.drivers) (label : Label) (endpoint : Endpoint)
      (pending : states i = .pending label endpoint (some handle))
      (only : ∀ j, j ≠ i → (states j).handle? ≠ some handle) : Standing states handle .disabled

/-- The calls about an interface came in order, and the driver table has it where they left it. -/
def Followed (states : Fin config.drivers → Occupant H) (calls : Journal H) (handle : H) : Prop :=
  ∃ phase, Course handle calls phase ∧ Standing states handle phase

section Standing

variable {states : Fin config.drivers → Occupant H} {handle : H} {phase : Phase}
variable {i : Fin config.drivers} {state : Occupant H} {label : Label} {endpoint : Endpoint}

theorem Standing.calm (h : Standing states handle phase) : phase.Calm := by
  cases h <;> trivial

/-- Whoever has an interface has it alone, and it is enabled or disabled as the driver is active or
pending. -/
theorem Standing.held (h : Standing states handle phase) (hi : (states i).handle? = some handle) :
    ((states i).isActive = true ∧ phase = .enabled ∨
      (states i).isPending = true ∧ phase = .disabled) ∧
    ∀ j, j ≠ i → (states j).handle? ≠ some handle := by
  -- The entry asked for is the one that the phase speaks of, since no other has the interface.
  cases h with
  | absent nowhere => exact absurd hi (nowhere i)
  | enabled k label endpoint active only =>
    obtain rfl : i = k := of_not_not fun hne => only i hne hi
    rw [active]
    exact ⟨.inl ⟨rfl, rfl⟩, only⟩
  | disabled k label endpoint pending only =>
    obtain rfl : i = k := of_not_not fun hne => only i hne hi
    rw [pending]
    exact ⟨.inr ⟨rfl, rfl⟩, only⟩

theorem Standing.of_active (h : Standing states handle phase)
    (hi : states i = .active label endpoint handle) :
    phase = .enabled ∧ ∀ j, j ≠ i → (states j).handle? ≠ some handle := by
  obtain ⟨hphase, honly⟩ := h.held (congrArg Occupant.handle? hi)
  rw [hi] at hphase
  rcases hphase with ⟨-, hphase⟩ | ⟨hpending, -⟩
  · exact ⟨hphase, honly⟩
  · cases hpending

theorem Standing.of_pending (h : Standing states handle phase)
    (hi : states i = .pending label endpoint (some handle)) :
    phase = .disabled ∧ ∀ j, j ≠ i → (states j).handle? ≠ some handle := by
  obtain ⟨hphase, honly⟩ := h.held (congrArg Occupant.handle? hi)
  rw [hi] at hphase
  rcases hphase with ⟨hactive, -⟩ | ⟨-, hphase⟩
  · cases hactive
  · exact ⟨hphase, honly⟩

/-! An entry changes. The others do not have the interface in question, unless this one has nothing
to do with it. -/

theorem Standing.aside (h : Standing states handle phase) (hold : (states i).handle? ≠ some handle)
    (hnew : state.handle? ≠ some handle) : Standing (update states i state) handle phase := by
  -- Who has the interface is not the entry that changes, and that one does not get it either.
  have hother {k : Fin config.drivers} (hk : (states k).handle? = some handle) :
      update states i state k = states k := by
    apply update_of_ne
    rintro rfl
    exact hold hk
  have hnone {j : Fin config.drivers} (hj : (states j).handle? ≠ some handle) :
      (update states i state j).handle? ≠ some handle := by
    by_cases hji : j = i
    · rw [hji, update_self]
      exact hnew
    · rw [update_of_ne hji]
      exact hj
  cases h with
  | absent nowhere => exact .absent fun j => hnone (nowhere j)
  | enabled k label endpoint active only =>
    have hk := (hother (congrArg Occupant.handle? active)).trans active
    exact .enabled k label endpoint hk fun j hj => hnone (only j hj)
  | disabled k label endpoint pending only =>
    have hk := (hother (congrArg Occupant.handle? pending)).trans pending
    exact .disabled k label endpoint hk fun j hj => hnone (only j hj)

variable (hothers : ∀ j, j ≠ i → (states j).handle? ≠ some handle)
include hothers

theorem only_update {j : Fin config.drivers} (hji : j ≠ i) :
    (update states i state j).handle? ≠ some handle := by
  rw [update_of_ne hji]
  exact hothers j hji

theorem standing_of_free : Standing (update states i .free) handle .absent := by
  apply Standing.absent
  intro j
  by_cases hji : j = i
  · rw [hji, update_self]
    exact nofun
  · exact only_update hothers hji

theorem standing_of_active :
    Standing (update states i (.active label endpoint handle)) handle .enabled :=
  .enabled i label endpoint (update_self ..) fun _ hji => only_update hothers hji

theorem standing_of_pending :
    Standing (update states i (.pending label endpoint (some handle))) handle .disabled :=
  .disabled i label endpoint (update_self ..) fun _ hji => only_update hothers hji

end Standing

/-- What is called for a driver that answered, before its interface is enabled: it keeps an interface
that it had. -/
def hiring (driver : DriverId) (name : InterfaceName) (capabilities : Capabilities) (handle : H) :
    Option H → Journal H
  | some _ => []
  | none => [.added driver name capabilities (some handle)]

section Followed

variable {states : Fin config.drivers → Occupant H} {calls later : Journal H} {handle new : H}
variable {i : Fin config.drivers} {state : Occupant H} {label : Label} {endpoint : Endpoint}
variable {name : InterfaceName} {capabilities : Capabilities} {kept : Option H}

theorem Followed.aside (h : Followed states calls handle) (hold : (states i).handle? ≠ some handle)
    (hnew : state.handle? ≠ some handle) (about : ∀ entry ∈ later, entry.handle? ≠ some handle) :
    Followed (update states i state) (later ++ calls) handle := by
  obtain ⟨phase, hcourse, hstanding⟩ := h
  exact ⟨phase, hcourse.aside hstanding.calm about, hstanding.aside hold hnew⟩

theorem Followed.other (h : Followed states calls handle) {entry : Entry H}
    (about : entry.handle? ≠ some handle) : Followed states (entry :: calls) handle := by
  obtain ⟨phase, hcourse, hstanding⟩ := h
  exact ⟨phase, hcourse.step (.other hstanding.calm about), hstanding⟩

/-- An entry is given up, and with it its interface. -/
theorem Followed.withdrawn (h : Followed states calls handle) (i : Fin config.drivers) :
    Followed (update states i .free) ((states i).withdrawing ⟨i⟩ ++ calls) handle := by
  unfold Occupant.withdrawing
  by_cases hi : (states i).handle? = some handle
  · obtain ⟨phase, hcourse, hstanding⟩ := h
    obtain ⟨hphase, honly⟩ := hstanding.held hi
    rw [hi]
    have hremoved : phase.Step handle (.removed ⟨i⟩ handle) .absent := by
      rcases hphase with ⟨-, rfl⟩ | ⟨-, rfl⟩
      · exact .stopped ⟨i⟩
      · exact .forgotten ⟨i⟩
    exact ⟨.absent, hcourse.step hremoved, standing_of_free honly⟩
  · have hfree : (Occupant.free : Occupant H).handle? ≠ some handle := nofun
    apply h.aside hi hfree
    intro entry hentry heq
    split at hentry
    · rename_i other hother
      obtain rfl := List.mem_singleton.mp hentry
      exact hi (hother.trans heq)
    · cases hentry

/-- A driver is asked to start: one that is active is disabled, and the entry keeps its interface. -/
theorem Followed.quieted (h : Followed states calls handle) (i : Fin config.drivers) (label : Label)
    (endpoint : Endpoint) :
    Followed (update states i (.pending label endpoint (states i).handle?))
      ((states i).quieting ⟨i⟩ ++ calls) handle := by
  -- An interface of a driver that was pending is disabled already, and is not told again.
  by_cases hi : (states i).handle? = some handle
  · obtain ⟨phase, hcourse, hstanding⟩ := h
    cases hs : states i with
    | free =>
      rw [hs] at hi
      cases hi
    | pending _ _ kept =>
      rw [hs] at hi
      obtain rfl := hi
      obtain ⟨rfl, honly⟩ := hstanding.of_pending hs
      exact ⟨.disabled, hcourse, standing_of_pending honly⟩
    | active _ _ kept =>
      rw [hs] at hi
      obtain rfl := Option.some.inj hi
      obtain ⟨rfl, honly⟩ := hstanding.of_active hs
      exact ⟨.disabled, hcourse.step (.disabled ⟨i⟩), standing_of_pending honly⟩
  · have hnew : (Occupant.pending label endpoint (states i).handle?).handle? ≠ some handle := hi
    apply h.aside hi hnew
    intro entry hentry heq
    unfold Occupant.quieting at hentry
    split at hentry
    · rename_i hs
      obtain rfl := List.mem_singleton.mp hentry
      rw [hs] at hi
      exact hi heq
    · cases hentry

/-- The interface of an active driver is told of it. -/
theorem Followed.told (h : Followed states calls handle) (hi : states i = .active label endpoint new)
    {entry : Entry H} (about : entry.handle? = some new)
    (told : Phase.Step new .enabled entry .enabled) : Followed states (entry :: calls) handle := by
  by_cases hnew : new = handle
  · subst hnew
    obtain ⟨phase, hcourse, hstanding⟩ := h
    obtain ⟨rfl, -⟩ := hstanding.of_active hi
    exact ⟨.enabled, hcourse.step told, hstanding⟩
  · apply h.other
    rw [about]
    exact fun heq => hnew (Option.some.inj heq)

section Answered

variable {driver : DriverId} {enablement : Enablement}
variable (hi : states i = .pending label endpoint kept) (hkept : ∀ old ∈ kept, old = new)
include hi hkept

/-- The interface of a driver that answered is added, unless there is one, and asked to be enabled. -/
theorem Followed.asked (h : Followed states calls new)
    (hunshared : Unshared new (hiring driver name capabilities new kept ++ calls))
    (hname : enablement.name = if kept.isNone then some name else none) (answer : Bool) :
    Course new (.enabled driver new enablement answer ::
      (hiring driver name capabilities new kept ++ calls)) (.answered answer) ∧
    ∀ j, j ≠ i → (states j).handle? ≠ some new := by
  obtain ⟨phase, hcourse, hstanding⟩ := h
  cases kept with
  | none =>
    -- The handle was not in use, so nobody has it.
    have habsent : phase = .absent :=
      of_not_not fun hne => hunshared.1 rfl (hcourse.inUse_iff.mpr hne)
    subst habsent
    cases hstanding with
    | absent nowhere =>
      have hadded := hcourse.step (.added driver name capabilities)
      exact ⟨hadded.step (.enabled driver answer hname), fun j _ => nowhere j⟩
  | some old =>
    obtain rfl := hkept old rfl
    obtain ⟨rfl, honly⟩ := hstanding.of_pending hi
    exact ⟨hcourse.step (.resumed driver answer hname), honly⟩

/-- For other interfaces, nothing happens when one is added and enabled. -/
theorem not_mem_hiring (hne : new ≠ handle) :
    (states i).handle? ≠ some handle ∧
    ∀ entry ∈ hiring driver name capabilities new kept, entry.handle? ≠ some handle := by
  rw [hi]
  cases kept with
  | none =>
    refine ⟨nofun, ?_⟩
    intro entry hentry heq
    obtain rfl := List.mem_singleton.mp hentry
    exact hne (Option.some.inj heq)
  | some old =>
    obtain rfl := hkept old rfl
    exact ⟨fun heq => hne (Option.some.inj heq), nofun⟩

variable (h : Followed states calls handle)
variable (hunshared : Unshared handle (hiring driver name capabilities new kept ++ calls))
variable (hname : enablement.name = if kept.isNone then some name else none)
include h hunshared hname

theorem Followed.course (answer : Bool) :
    ∃ phase, Course handle (.enabled driver new enablement answer ::
      (hiring driver name capabilities new kept ++ calls)) phase := by
  by_cases hnew : new = handle
  · subst hnew
    exact ⟨_, (h.asked hi hkept hunshared hname answer).1⟩
  · obtain ⟨phase, hcourse, hstanding⟩ := h
    obtain ⟨-, habout⟩ := not_mem_hiring hi hkept hnew
    have hother : (Entry.enabled driver new enablement answer).handle? ≠ some handle :=
      fun heq => hnew (Option.some.inj heq)
    exact ⟨phase, (hcourse.aside hstanding.calm habout).step (.other hstanding.calm hother)⟩

theorem Followed.activated :
    Followed (update states i (.active label endpoint new)) (.enabled driver new enablement true ::
      (hiring driver name capabilities new kept ++ calls)) handle := by
  by_cases hnew : new = handle
  · subst hnew
    obtain ⟨hcourse, honly⟩ := h.asked hi hkept hunshared hname true
    exact ⟨.enabled, hcourse, standing_of_active honly⟩
  · obtain ⟨hold, habout⟩ := not_mem_hiring hi hkept hnew
    have hother : (Occupant.active label endpoint new).handle? ≠ some handle :=
      fun heq => hnew (Option.some.inj heq)
    exact (h.aside hold hother habout).other hother

theorem Followed.refused :
    Followed (update states i .free) (.removed driver new ::
      .enabled driver new enablement false ::
        (hiring driver name capabilities new kept ++ calls)) handle := by
  by_cases hnew : new = handle
  · subst hnew
    obtain ⟨hcourse, honly⟩ := h.asked hi hkept hunshared hname false
    exact ⟨.absent, hcourse.step (.dropped driver), standing_of_free honly⟩
  · obtain ⟨hold, habout⟩ := not_mem_hiring hi hkept hnew
    have hother : some new ≠ some handle := fun heq => hnew (Option.some.inj heq)
    have hfree : (Occupant.free : Occupant H).handle? ≠ some handle := nofun
    have henabled : Followed _ (.enabled driver new enablement false :: _) handle :=
      (h.aside hold hfree habout).other hother
    exact henabled.other hother

end Answered

end Followed
end DriverHub
