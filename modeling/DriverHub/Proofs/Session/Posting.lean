import DriverHub.Proofs.Session.Outcome

/-! Statements about transport and journal alone. Only posting a request changes the transport, so such a
statement is kept by all actions of a session if it is kept by the posts among them and by entries of the
journal that are not about posts. -/
namespace DriverHub

variable {σ τ γ ι H α β : Type}

/-- What was handed to the transport and whether it took it, if the entry is about that. -/
def Entry.posted? : Entry H → Option ((Endpoint × Request) × Except TransportError Unit)
  | .posted _ endpoint request answer => some ((endpoint, request), answer)
  | _ => none

/-- `P` is kept while requests of a certain form are posted, and `Q` holds once a session has ended. -/
structure Posting [Transport τ] (allowed : Request → Prop) (P : τ → Journal H → Prop)
    (Q : Fatal → τ → Journal H → Prop) : Prop where
  entry {transport : τ} {journal : Journal H} {entry : Entry H} (other : entry.posted? = none)
    (h : P transport journal) : P transport (entry :: journal)
  sent {transport transport' : τ} {journal : Journal H} {driver : DriverId} {endpoint : Endpoint}
    {request : Request} (allows : allowed request) (h : P transport journal)
    (sent : Transport.send transport endpoint request = (.ok (), transport')) :
    P transport' (.posted driver endpoint request (.ok ()) :: journal)
  ended {transport : τ} {journal : Journal H} (fatal : Fatal) (h : P transport journal) :
    Q fatal transport (.noticed (.fatal fatal) :: journal)
  failed {transport transport' : τ} {journal : Journal H} {driver : DriverId} {endpoint : Endpoint}
    {request : Request} {cause : TransportError} (allows : allowed request) (h : P transport journal)
    (sent : Transport.send transport endpoint request = (.error cause, transport')) :
    Q (.delivery request.type endpoint cause) transport'
      (.noticed (.fatal (.delivery request.type endpoint cause)) ::
        .posted driver endpoint request (.error cause) :: journal)

namespace SessionM

/-- Where the statement holds, the action keeps it, or ends as it may end. -/
def Carries (P : τ → Journal H → Prop) (Q : Fatal → τ → Journal H → Prop)
    (action : SessionM σ τ γ ι H α) : Prop :=
  ∀ s : Session σ τ γ ι H, P s.transport s.journal →
    action.Leads s (fun _ t => P t.transport t.journal) fun fatal t => Q fatal t.transport t.journal

variable {P : τ → Journal H → Prop} {Q : Fatal → τ → Journal H → Prop} {allowed : Request → Prop}

theorem Carries.bind {action : SessionM σ τ γ ι H α} {next : α → SessionM σ τ γ ι H β}
    (h : Carries P Q action) (hnext : ∀ a, Carries P Q (next a)) : Carries P Q (action >>= next) := by
  intro s hs
  rw [leads_bind]
  apply (h s hs).mono
  · intro a t ht
    exact hnext a t ht
  · intro _ _ ht
    exact ht

theorem carries_pure (a : α) : Carries P Q (pure a : SessionM σ τ γ ι H α) := fun _ hs => hs

theorem carries_tables : Carries P Q (tables : SessionM σ τ γ ι H σ) := fun _ hs => hs

theorem carries_setTables (tables : σ) : Carries P Q (setTables tables : SessionM σ τ γ ι H Unit) :=
  fun _ hs => hs

end SessionM

namespace Posting

open SessionM

variable [Transport τ] {allowed : Request → Prop} {P : τ → Journal H → Prop}
variable {Q : Fatal → τ → Journal H → Prop} (h : Posting allowed P Q)
include h

theorem append {transport : τ} {news journal : Journal H} (others : ∀ entry ∈ news, entry.posted? = none)
    (hp : P transport journal) : P transport (news ++ journal) := by
  induction news with
  | nil => exact hp
  | cons entry rest ih =>
    rw [List.forall_mem_cons] at others
    exact h.entry others.1 (ih others.2)

theorem note (notice : Notice) : Carries P Q (note notice : SessionM σ τ γ ι H Unit) :=
  fun _ hs => h.entry rfl hs

theorem fail (fatal : Fatal) : Carries P Q (fail fatal : SessionM σ τ γ ι H α) :=
  fun _ hs => h.ended fatal hs

theorem expect (outcome : Except Defect α) :
    Carries P Q (expect outcome : SessionM σ τ γ ι H α) := by
  cases outcome with
  | error defect => exact h.fail (.defect defect)
  | ok a => exact carries_pure a

/-- What is done after a check may count on its outcome. -/
theorem expect_bind {outcome : Except Defect α} {next : α → SessionM σ τ γ ι H β}
    (hnext : ∀ a, outcome = .ok a → Carries P Q (next a)) :
    Carries P Q (SessionM.expect outcome >>= next) := by
  cases outcome with
  | error defect => exact h.fail (.defect defect)
  | ok a => exact hnext a rfl

theorem post {request : Request} (hallowed : allowed request) (driver : DriverId)
    (endpoint : Endpoint) : Carries P Q (post driver endpoint request : SessionM σ τ γ ι H Unit) := by
  intro s hs
  rcases hsend : Transport.send s.transport endpoint request with ⟨cause | ⟨⟩, transport⟩
  · simp only [Leads, SessionM.post, hsend]
    exact h.failed hallowed hs hsend
  · simp only [Leads, SessionM.post, hsend]
    exact h.sent hallowed hs hsend

theorem recordPoll (answer : Except DiscoveryError (Option DriverEvent)) :
    Carries P Q (recordPoll answer : SessionM σ τ γ ι H Unit) :=
  fun _ hs => h.entry rfl hs

theorem lookUp {δ : Type} [Discovery δ] (source : δ) (label : Label) :
    Carries P Q (lookUp source label : SessionM σ τ γ ι H Bool) :=
  fun _ hs => h.entry rfl hs

section Grants

variable [GrantTable γ]

theorem revokeGrants (grants : List GrantId) :
    Carries P Q (revokeGrants grants : SessionM σ τ γ ι H Unit) := by
  induction grants with
  | nil => exact carries_pure ()
  | cons grant rest ih =>
    apply Carries.bind _ fun _ => ih
    intro s hs
    rcases hrevoke : GrantTable.revoke s.grants grant with ⟨cause | ⟨⟩, g⟩
    · simp only [Leads, revokeGrant, hrevoke]
      exact h.ended _ (h.entry rfl hs)
    · simp only [Leads, revokeGrant, hrevoke]
      exact h.entry rfl hs

omit h [Transport τ] in
theorem posted?_of_creates {endpoint : Endpoint} {access : Access} {g g' : γ}
    {segments : List Segment} {grants : List GrantId} {complete : Bool} {journal : Journal H}
    (hcreates : Creates endpoint access g segments grants complete journal g') :
    ∀ entry ∈ journal, entry.posted? = none := by
  induction hcreates with
  | done => exact List.forall_mem_nil _
  | refused => exact List.forall_mem_singleton.mpr rfl
  | step _ _ ih => exact List.forall_mem_append.mpr ⟨ih, List.forall_mem_singleton.mpr rfl⟩

/-- What is done after grants were created may count on what they are. -/
theorem createGrants_bind {endpoint : Endpoint} {access : Access} {segments : List Segment}
    {next : List GrantId × Bool → SessionM σ τ γ ι H β}
    (hnext : ∀ g grants complete, ∀ journal : Journal H, ∀ g' : γ,
      Creates endpoint access g segments grants complete journal g' →
      Carries P Q (next (grants, complete))) :
    Carries P Q (createGrants endpoint access segments >>= next) := by
  intro s hs
  rw [leads_bind]
  apply leads_createGrants
  intro grants complete journal g hcreates
  have hcreated := h.append (posted?_of_creates hcreates) hs
  exact hnext _ _ _ _ _ hcreates { s with grants := g, journal := journal ++ s.journal } hcreated

end Grants

section Interface

variable [Interface ι H]

theorem addInterface (driver : DriverId) (name : InterfaceName) (capabilities : Capabilities) :
    Carries P Q (addInterface driver name capabilities : SessionM σ τ γ ι H (Option H)) :=
  fun _ hs => h.entry rfl hs

theorem enableInterface (driver : DriverId) (handle : H) (enablement : Enablement) :
    Carries P Q (enableInterface driver handle enablement : SessionM σ τ γ ι H Bool) :=
  fun _ hs => h.entry rfl hs

theorem disableInterface (driver : DriverId) (handle : H) :
    Carries P Q (disableInterface driver handle : SessionM σ τ γ ι H Unit) :=
  fun _ hs => h.entry rfl hs

theorem removeInterface (driver : DriverId) (handle : H) :
    Carries P Q (removeInterface driver handle : SessionM σ τ γ ι H Unit) :=
  fun _ hs => h.entry rfl hs

theorem reportFinished (driver : DriverId) (kind : RequestKind) (handle : H) (result : Int32) :
    Carries P Q (reportFinished driver kind handle result : SessionM σ τ γ ι H Unit) :=
  fun _ hs => h.entry rfl hs

theorem reportStatus (driver : DriverId) (handle : H) (report : StatusReport) :
    Carries P Q (reportStatus driver handle report : SessionM σ τ γ ι H Unit) :=
  fun _ hs => h.entry rfl hs

end Interface

end Posting
end DriverHub
