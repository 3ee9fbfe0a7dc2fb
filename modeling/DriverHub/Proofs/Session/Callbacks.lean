import DriverHub.Proofs.Session.Outcome

/-! The life of an interface, as the calls of the interface layer tell it: added and enabled at once,
told of its driver while it is enabled, disabled and enabled again as its driver restarts, and
removed. In the lists of calls here the latest call comes first. -/
namespace DriverHub

variable {H : Type}

/-- The interface that a call is about; a call for a new one is about the one it was answered with. -/
def Entry.handle? : Entry H → Option H
  | .added _ _ _ answer => answer
  | .enabled _ handle _ _ | .disabled _ handle | .removed _ handle | .finished _ _ handle _
  | .reported _ handle _ => some handle
  | _ => none

/-- How far an interface has come. -/
inductive Phase where
  -- It is not there yet, or not any more.
  | absent
  -- It was added under this name, and is to be enabled next.
  | added (name : InterfaceName)
  | enabled
  -- It was not enabled, and is to be removed next.
  | refused
  -- Its driver restarts.
  | disabled

/-- What comes next may be about another interface. -/
def Phase.Calm : Phase → Prop
  | .absent | .enabled | .disabled => True
  | .added _ | .refused => False

/-- What an answer to being enabled leads to. -/
def Phase.answered (answer : Bool) : Phase := if answer then .enabled else .refused

/-- What one call means for this interface. -/
inductive Phase.Step (handle : H) : Phase → Entry H → Phase → Prop
  | other {phase : Phase} {entry : Entry H} (calm : phase.Calm)
      (about : entry.handle? ≠ some handle) : Step handle phase entry phase
  | added (driver : DriverId) (name : InterfaceName) (capabilities : Capabilities) :
      Step handle .absent (.added driver name capabilities (some handle)) (.added name)
  -- It is told the name under which it was added, and only then.
  | enabled (driver : DriverId) {name : InterfaceName} {enablement : Enablement} (answer : Bool)
      (named : enablement.name = some name) :
      Step handle (.added name) (.enabled driver handle enablement answer) (answered answer)
  | finished (driver : DriverId) (kind : RequestKind) (result : Int32) :
      Step handle .enabled (.finished driver kind handle result) .enabled
  | reported (driver : DriverId) (report : StatusReport) :
      Step handle .enabled (.reported driver handle report) .enabled
  | disabled (driver : DriverId) : Step handle .enabled (.disabled driver handle) .disabled
  | resumed (driver : DriverId) {enablement : Enablement} (answer : Bool)
      (unnamed : enablement.name = none) :
      Step handle .disabled (.enabled driver handle enablement answer) (answered answer)
  | dropped (driver : DriverId) : Step handle .refused (.removed driver handle) .absent
  | stopped (driver : DriverId) : Step handle .enabled (.removed driver handle) .absent
  | forgotten (driver : DriverId) : Step handle .disabled (.removed driver handle) .absent

/-- After these calls, each in its order, the interface has come this far. -/
inductive Course (handle : H) : Journal H → Phase → Prop
  | start : Course handle [] .absent
  | step {calls : Journal H} {entry : Entry H} {phase phase' : Phase}
      (before : Course handle calls phase) (next : phase.Step handle entry phase') :
      Course handle (entry :: calls) phase'

/-- The interface was added, and not removed since. -/
def InUse (handle : H) : Journal H → Prop
  | [] => False
  | .added _ _ _ (some new) :: older => new = handle ∨ InUse handle older
  | .removed _ old :: older => old ≠ handle ∧ InUse handle older
  | _ :: older => InUse handle older

/-- The interface layer gives this handle to a new interface only while none has it. -/
def Unshared (handle : H) : Journal H → Prop
  | [] => True
  | .added _ _ _ (some new) :: older => (new = handle → ¬InUse handle older) ∧ Unshared handle older
  | _ :: older => Unshared handle older

instance InUse.decidable [DecidableEq H] (handle : H) : DecidablePred (InUse handle)
  | [] => isFalse id
  | .added _ _ _ (some _) :: older => @instDecidableOr _ _ _ (InUse.decidable handle older)
  | .removed _ _ :: older => @instDecidableAnd _ _ _ (InUse.decidable handle older)
  | .added _ _ _ none :: older | .posted _ _ _ _ :: older | .granted _ _ :: older
  | .revoked _ _ :: older | .polled _ :: older | .lookedUp _ _ :: older | .enabled _ _ _ _ :: older
  | .disabled _ _ :: older | .finished _ _ _ _ :: older | .reported _ _ _ :: older
  | .noticed _ :: older => InUse.decidable handle older

instance Unshared.decidable [DecidableEq H] (handle : H) : DecidablePred (Unshared handle)
  | [] => isTrue trivial
  | .added _ _ _ (some _) :: older => @instDecidableAnd _ _ _ (Unshared.decidable handle older)
  | .added _ _ _ none :: older | .posted _ _ _ _ :: older | .granted _ _ :: older
  | .revoked _ _ :: older | .polled _ :: older | .lookedUp _ _ :: older | .enabled _ _ _ _ :: older
  | .disabled _ _ :: older | .removed _ _ :: older | .finished _ _ _ _ :: older
  | .reported _ _ _ :: older | .noticed _ :: older => Unshared.decidable handle older

variable {handle : H} {calls later earlier : Journal H} {entry : Entry H}
variable {phase phase' phase'' : Phase}

theorem Phase.Step.unique (h : phase.Step handle entry phase')
    (h' : phase.Step handle entry phase'') : phase' = phase'' := by
  -- A call about another interface fits the first rule only, and one about this fits one of the rest.
  cases h with
  | other calm about =>
    cases h' with
    | other => rfl
    | added | enabled | finished | reported | disabled | resumed | dropped | stopped | forgotten =>
      exact absurd rfl about
  | _ =>
    cases h' with
    | other calm about => exact absurd rfl about
    | _ => rfl

theorem Course.unique (h : Course handle calls phase) (h' : Course handle calls phase') :
    phase = phase' := by
  induction h generalizing phase' with
  | start =>
    cases h'
    rfl
  | step before next ih =>
    cases h' with
    | step before' next' =>
      cases ih before'
      exact next.unique next'

/-- Calls about other interfaces may come whenever nothing is due for this one. -/
theorem Course.aside (h : Course handle calls phase) (calm : phase.Calm)
    (about : ∀ entry ∈ later, entry.handle? ≠ some handle) : Course handle (later ++ calls) phase := by
  -- None of them changes the phase, so it is calm again before the next.
  induction later with
  | nil => exact h
  | cons entry rest ih =>
    have hrest := ih fun e he => about e (List.mem_cons_of_mem entry he)
    exact hrest.step (.other calm (about entry List.mem_cons_self))

theorem Course.of_append (h : Course handle (later ++ earlier) phase) :
    ∃ phase', Course handle earlier phase' := by
  induction later generalizing phase with
  | nil => exact ⟨phase, h⟩
  | cons entry rest ih =>
    cases h with
    | step before next => exact ih before

theorem inUse_cons_of_ne (about : entry.handle? ≠ some handle) :
    InUse handle (entry :: calls) ↔ InUse handle calls := by
  cases entry with
  | added driver name capabilities answer =>
    cases answer with
    | none => rfl
    | some new =>
      have hne : new ≠ handle := fun heq => about (congrArg some heq)
      simp only [InUse, hne, false_or]
  | removed driver old =>
    have hne : old ≠ handle := fun heq => about (congrArg some heq)
    simp only [InUse, hne, ne_eq, not_false_eq_true, true_and]
  | _ => rfl

/-- An interface in its course is in use exactly if it is there. -/
theorem Course.inUse_iff (h : Course handle calls phase) : InUse handle calls ↔ phase ≠ .absent := by
  induction h with
  | start => exact ⟨False.elim, fun hne => hne rfl⟩
  | step before next ih =>
    cases next with
    | other calm about => rw [inUse_cons_of_ne about, ih]
    | added => simp [InUse]
    | dropped | stopped | forgotten => simp [InUse]
    | enabled driver answer | resumed driver answer =>
      -- It was there before it was to be enabled, and is still there.
      have hused := ih.mpr nofun
      have hthere : Phase.answered answer ≠ .absent := by cases answer <;> exact nofun
      exact ⟨fun _ => hthere, fun _ => hused⟩
    | finished | reported | disabled =>
      have hused := ih.mpr nofun
      exact ⟨fun _ => nofun, fun _ => hused⟩

theorem Unshared.of_append (h : Unshared handle (later ++ calls)) : Unshared handle calls := by
  induction later with
  | nil => exact h
  | cons entry rest ih =>
    apply ih
    cases entry with
    | added driver name capabilities answer =>
      cases answer with
      | none => exact h
      | some new => exact h.2
    | _ => exact h

/-- Once it is removed, no call is about an interface until its handle is given away again. -/
theorem Course.silent (h : Course handle (later ++ earlier) phase) (gone : Course handle earlier .absent)
    (hnew : ∀ driver name capabilities, .added driver name capabilities (some handle) ∉ later) :
    phase = .absent ∧ ∀ entry ∈ later, entry.handle? ≠ some handle := by
  -- From the removal on the phase stays as it is, call by call.
  induction later generalizing phase with
  | nil => exact ⟨h.unique gone, nofun⟩
  | cons entry rest ih =>
    cases h with
    | step before next =>
      obtain ⟨rfl, hrest⟩ := ih before fun driver name capabilities hmem =>
        hnew driver name capabilities (List.mem_cons_of_mem entry hmem)
      cases next with
      | other calm about => exact ⟨rfl, List.forall_mem_cons.mpr ⟨about, hrest⟩⟩
      | added driver name capabilities => exact absurd List.mem_cons_self (hnew _ _ _)

theorem Course.of_removed {driver : DriverId}
    (h : Course handle (.removed driver handle :: calls) phase) : phase = .absent := by
  cases h with
  | step before next =>
    cases next with
    | other calm about => exact absurd rfl about
    | dropped | stopped | forgotten => rfl

end DriverHub
