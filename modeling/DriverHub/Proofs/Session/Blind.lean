import DriverHub.Proofs.Session.InStep

/-! Actions that do not look at the tables. With other tables they ask the collaborators for the same
things and leave those tables as they are, so they keep two sessions in step. -/
namespace DriverHub.SessionM

variable {σ τ γ ι H α β : Type}

/-- The action does the same whatever the tables are, and leaves them alone. -/
def Blind (x : SessionM σ τ γ ι H α) : Prop :=
  ∀ (s : Session σ τ γ ι H) (other : σ),
    InStep x x s other (fun a t b other' => b = a ∧ t.tables = s.tables ∧ other' = other) fun _ => True

section Rules

variable {x : SessionM σ τ γ ι H α} {s : Session σ τ γ ι H} {other : σ}

/-- Two sessions in step go on as they were before. -/
theorem inStep_blind {f : α → SessionM σ τ γ ι H β} {g : α → SessionM σ τ γ ι H β}
    {answers : β → Session σ τ γ ι H → β → σ → Prop} (h : Blind x)
    (hnext : ∀ a t, t.tables = s.tables → InStep (f a) (g a) t other answers fun _ => True) :
    InStep (x >>= f) (x >>= g) s other answers fun _ => True := by
  apply (h s other).bind
  rintro a t b other' ⟨rfl, htables, rfl⟩
  exact hnext b t htables

theorem Blind.bind {f : α → SessionM σ τ γ ι H β} (h : Blind x) (hf : ∀ a, Blind (f a)) :
    Blind (x >>= f) := by
  intro s other
  apply inStep_blind h
  intro a t htables
  apply (hf a t other).mono
  rintro b u c other' ⟨hb, htables', hother⟩
  exact ⟨hb, htables'.trans htables, hother⟩

end Rules

theorem blind_pure (a : α) : Blind (pure a : SessionM σ τ γ ι H α) :=
  fun _ other => ⟨a, other, rfl, rfl, rfl, rfl⟩

theorem blind_record (entry : Entry H) : Blind (record entry : SessionM σ τ γ ι H Unit) :=
  fun _ other => ⟨(), other, rfl, rfl, rfl, rfl⟩

theorem blind_note (notice : Notice) : Blind (note notice : SessionM σ τ γ ι H Unit) :=
  blind_record _

theorem blind_fail (fatal : Fatal) : Blind (fail fatal : SessionM σ τ γ ι H α) :=
  fun _ other => ⟨⟨other, rfl⟩, trivial⟩

/-- What a check says does not hang on the tables any more. -/
theorem blind_expect (outcome : Except Defect α) :
    Blind (expect outcome : SessionM σ τ γ ι H α) := by
  cases outcome with
  | error defect => exact blind_fail _
  | ok a => exact blind_pure a

theorem blind_recordPoll (answer : Except DiscoveryError (Option DriverEvent)) :
    Blind (recordPoll answer : SessionM σ τ γ ι H Unit) := blind_record _

theorem blind_lookUp {δ : Type} [Discovery δ] (source : δ) (label : Label) :
    Blind (lookUp source label : SessionM σ τ γ ι H Bool) :=
  fun _ other => ⟨_, other, rfl, rfl, rfl, rfl⟩

theorem blind_post [Transport τ] (driver : DriverId) (endpoint : Endpoint) (request : Request) :
    Blind (post driver endpoint request : SessionM σ τ γ ι H Unit) := by
  intro s other
  unfold InStep post Session.withTables
  dsimp only
  rcases Transport.send s.transport endpoint request with ⟨cause | ⟨⟩, transport⟩
  · exact ⟨⟨other, rfl⟩, trivial⟩
  · exact ⟨(), other, rfl, rfl, rfl, rfl⟩

section Grants

variable [GrantTable γ]

theorem blind_createGrants (endpoint : Endpoint) (access : Access) (segments : List Segment) :
    Blind (createGrants endpoint access segments : SessionM σ τ γ ι H (List GrantId × Bool)) := by
  induction segments with
  | nil => exact blind_pure _
  | cons segment rest ih =>
    have hfirst : Blind (createGrant ⟨endpoint, segment, access⟩ :
        SessionM σ τ γ ι H (Option GrantId)) := fun _ _ => inStep_createGrant _
    rw [createGrants]
    apply hfirst.bind
    intro answer
    cases answer with
    | none => exact blind_pure _
    | some grant => exact ih.bind fun _ => blind_pure _

theorem blind_revokeGrants (grants : List GrantId) :
    Blind (revokeGrants grants : SessionM σ τ γ ι H Unit) := by
  intro s other
  apply (inStep_revokeGrants grants fun _ _ => trivial).mono
  rintro a t b other' ⟨htables, hother⟩
  exact ⟨rfl, htables, hother⟩

end Grants

section Interface

variable [Interface ι H] (driver : DriverId) (handle : H)

theorem blind_addInterface (name : InterfaceName) (capabilities : Capabilities) :
    Blind (addInterface driver name capabilities : SessionM σ τ γ ι H (Option H)) :=
  fun _ other => ⟨_, other, rfl, rfl, rfl, rfl⟩

theorem blind_enableInterface (enablement : Enablement) :
    Blind (enableInterface driver handle enablement : SessionM σ τ γ ι H Bool) :=
  fun _ other => ⟨_, other, rfl, rfl, rfl, rfl⟩

theorem blind_disableInterface :
    Blind (disableInterface driver handle : SessionM σ τ γ ι H Unit) :=
  fun _ other => ⟨(), other, rfl, rfl, rfl, rfl⟩

theorem blind_removeInterface : Blind (removeInterface driver handle : SessionM σ τ γ ι H Unit) :=
  fun _ other => ⟨(), other, rfl, rfl, rfl, rfl⟩

theorem blind_reportFinished (kind : RequestKind) (result : Int32) :
    Blind (reportFinished driver kind handle result : SessionM σ τ γ ι H Unit) :=
  fun _ other => ⟨(), other, rfl, rfl, rfl, rfl⟩

theorem blind_reportStatus (report : StatusReport) :
    Blind (reportStatus driver handle report : SessionM σ τ γ ι H Unit) :=
  fun _ other => ⟨(), other, rfl, rfl, rfl, rfl⟩

end Interface
end DriverHub.SessionM
