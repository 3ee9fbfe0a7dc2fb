import DriverHub.Session
import Mathlib

/-! How an action on a session comes out: what is so when it answers, and what when it ends the session
for good. Each thing an action can do has one rule here, so the actions of a hub are followed step
by step without opening the way they are put together. -/
namespace DriverHub

variable {σ τ γ ι H α β : Type}

theorem except_bind_eq_ok {ε : Type} {x : Except ε α} {f : α → Except ε β} {b : β} :
    x >>= f = .ok b ↔ ∃ a, x = .ok a ∧ f a = .ok b := by
  cases x with
  | error _ => simp [bind, Except.bind]
  | ok a => simp [bind, Except.bind]

theorem except_bind_ne_error {ε : Type} {x : Except ε α} {f : α → Except ε β} {e : ε}
    (hx : x ≠ .error e) (hf : ∀ a, f a ≠ .error e) : x >>= f ≠ .error e := by
  cases x with
  | error e' => exact fun heq => hx (by injection heq with heq; rw [heq])
  | ok a => exact hf a

/-- What the journal says of grants that were revoked one after the other. -/
def revocations (grants : List GrantId) : Journal H :=
  grants.reverse.map fun grant => .revoked grant (.ok ())

section Grants

variable [GrantTable γ]

/-- These grants are revoked one after the other without a failure. -/
inductive Revokes : γ → List GrantId → γ → Prop
  | done (g : γ) : Revokes g [] g
  | step {g g' g'' : γ} {grant : GrantId} {rest : List GrantId}
      (revoked : GrantTable.revoke g grant = (.ok (), g')) (others : Revokes g' rest g'') :
      Revokes g (grant :: rest) g''

/-- Of these grants, this one is the first that is not revoked, for this cause. -/
inductive RevokesUpTo (grant : GrantId) (cause : GrantError) : γ → List GrantId → Prop
  | now {g g' : γ} {rest : List GrantId} (failed : GrantTable.revoke g grant = (.error cause, g')) :
      RevokesUpTo grant cause g (grant :: rest)
  | later {g g' : γ} {first : GrantId} {rest : List GrantId}
      (revoked : GrantTable.revoke g first = (.ok (), g'))
      (others : RevokesUpTo grant cause g' rest) : RevokesUpTo grant cause g (first :: rest)

/-- Grants are created for these regions, up to the first refusal: the grants, whether none was
refused, and what the journal says of it. -/
inductive Creates (endpoint : Endpoint) (access : Access) :
    γ → List Segment → List GrantId → Bool → Journal H → γ → Prop
  | done (g : γ) : Creates endpoint access g [] [] true [] g
  | refused {g g' : γ} {segment : Segment} {rest : List Segment}
      (created : GrantTable.create g ⟨endpoint, segment, access⟩ = (none, g')) :
      Creates endpoint access g (segment :: rest) [] false
        [.granted ⟨endpoint, segment, access⟩ none] g'
  | step {g g' g'' : γ} {segment : Segment} {rest : List Segment} {grant : GrantId}
      {grants : List GrantId} {complete : Bool} {journal : Journal H}
      (created : GrantTable.create g ⟨endpoint, segment, access⟩ = (some grant, g'))
      (others : Creates endpoint access g' rest grants complete journal g'') :
      Creates endpoint access g (segment :: rest) (grant :: grants) complete
        (journal ++ [.granted ⟨endpoint, segment, access⟩ (some grant)]) g''

end Grants

/-- The entry is a call of the interface layer. -/
def Entry.isCall : Entry H → Bool
  | .added _ _ _ _ | .enabled _ _ _ _ | .disabled _ _ | .removed _ _ | .finished _ _ _ _
  | .reported _ _ _ => true
  | _ => false

/-- The calls of the interface layer, the latest first. -/
def calls (journal : Journal H) : Journal H := journal.filter Entry.isCall

theorem calls_append (entries journal : Journal H) :
    calls (entries ++ journal) = calls entries ++ calls journal := List.filter_append ..

theorem calls_revocations (grants : List GrantId) : calls (revocations grants : Journal H) = [] := by
  apply List.filter_eq_nil_iff.mpr
  intro entry hentry
  obtain ⟨grant, -, rfl⟩ := List.mem_map.mp hentry
  exact Bool.false_ne_true

theorem calls_creates [GrantTable γ] {endpoint : Endpoint} {access : Access} {g g' : γ}
    {segments : List Segment} {grants : List GrantId} {complete : Bool} {journal : Journal H}
    (h : Creates endpoint access g segments grants complete journal g') : calls journal = [] := by
  induction h with
  | done => rfl
  | refused => rfl
  | step _ _ ih =>
    rw [calls_append, ih]
    rfl

namespace SessionM

/-- From this session on, the action answers so that `answers`, or ends the session so that
`ends`. -/
def Leads (action : SessionM σ τ γ ι H α) (s : Session σ τ γ ι H)
    (answers : α → Session σ τ γ ι H → Prop) (ends : Fatal → Session σ τ γ ι H → Prop) : Prop :=
  match action s with
  | .ok a t => answers a t
  | .error fatal t => ends fatal t

/-- The same, if it does not matter how far the session came before it ended. -/
def Goes (action : SessionM σ τ γ ι H α) (s : Session σ τ γ ι H)
    (answers : α → Session σ τ γ ι H → Prop) (ends : Fatal → Prop) : Prop :=
  match action s with
  | .ok a t => answers a t
  | .error fatal _ => ends fatal

variable {s : Session σ τ γ ι H} {answers : α → Session σ τ γ ι H → Prop}

/-! Each rule is proved with the session that is left when the work ends, and used without it where it
is not asked for. -/

section Leads

variable {ends : Fatal → Session σ τ γ ι H → Prop}

theorem leads_bind {action : SessionM σ τ γ ι H α} {next : α → SessionM σ τ γ ι H β}
    {answers : β → Session σ τ γ ι H → Prop} :
    (action >>= next).Leads s answers ends ↔
      action.Leads s (fun a t => (next a).Leads t answers ends) ends := by
  change Leads (EStateM.bind action next) s answers ends ↔ _
  unfold Leads EStateM.bind
  cases action s <;> rfl

theorem Leads.mono {action : SessionM σ τ γ ι H α} {answers' : α → Session σ τ γ ι H → Prop}
    {ends' : Fatal → Session σ τ γ ι H → Prop} (h : action.Leads s answers ends)
    (ha : ∀ a t, answers a t → answers' a t) (he : ∀ fatal t, ends fatal t → ends' fatal t) :
    action.Leads s answers' ends' := by
  unfold Leads at *
  split at h
  · exact ha _ _ h
  · exact he _ _ h

@[simp] theorem leads_pure {a : α} :
    (pure a : SessionM σ τ γ ι H α).Leads s answers ends ↔ answers a s := Iff.rfl

@[simp] theorem leads_tables {answers : σ → Session σ τ γ ι H → Prop} :
    (tables : SessionM σ τ γ ι H σ).Leads s answers ends ↔ answers s.tables s := Iff.rfl

@[simp] theorem leads_setTables {answers : Unit → Session σ τ γ ι H → Prop} {tables : σ} :
    (setTables tables).Leads s answers ends ↔ answers () { s with tables } := Iff.rfl

@[simp] theorem leads_note {answers : Unit → Session σ τ γ ι H → Prop} {notice : Notice} :
    (note notice).Leads s answers ends ↔
      answers () { s with journal := .noticed notice :: s.journal } := Iff.rfl

theorem leads_fail {fatal : Fatal} :
    (fail fatal : SessionM σ τ γ ι H α).Leads s answers ends ↔
      ends fatal { s with journal := .noticed (.fatal fatal) :: s.journal } := Iff.rfl

theorem leads_expect {outcome : Except Defect α} (ha : ∀ a, outcome = .ok a → answers a s)
    (he : ∀ defect, outcome = .error defect → ends (.defect defect)
      { s with journal := .noticed (.fatal (.defect defect)) :: s.journal }) :
    (expect outcome).Leads s answers ends := by
  cases outcome with
  | error defect => exact he defect rfl
  | ok a => exact ha a rfl

theorem leads_expect_ok {a : α} : (expect (.ok a)).Leads s answers ends ↔ answers a s := Iff.rfl

section Grants

variable [GrantTable γ]

theorem leads_revokeGrants {answers : Unit → Session σ τ γ ι H → Prop} {grants : List GrantId}
    (ha : ∀ g, Revokes s.grants grants g →
      answers () { s with grants := g, journal := revocations grants ++ s.journal })
    (he : ∀ grant cause t, RevokesUpTo grant cause s.grants grants →
      calls t.journal = calls s.journal → ends (.revocation grant cause) t) :
    (revokeGrants grants).Leads s answers ends := by
  -- The session goes on from the table that the first revocation leaves.
  induction grants generalizing s with
  | nil => exact ha s.grants (.done _)
  | cons grant rest ih =>
    rw [revokeGrants, leads_bind]
    rcases hrevoke : GrantTable.revoke s.grants grant with ⟨cause | ⟨⟩, g⟩
    · simp only [Leads, revokeGrant, hrevoke]
      exact he grant cause _ (.now hrevoke) rfl
    · simp only [Leads, revokeGrant, hrevoke]
      refine ih (fun g' hg' => ?_) fun grant' cause t hg' ht =>
        he grant' cause t (.later hrevoke hg') ht
      have hanswer := ha g' (.step hrevoke hg')
      simpa [revocations] using hanswer

theorem leads_createGrants {answers : List GrantId × Bool → Session σ τ γ ι H → Prop}
    {endpoint : Endpoint} {access : Access} {segments : List Segment}
    (ha : ∀ grants complete journal g,
      Creates endpoint access s.grants segments grants complete journal g →
      answers (grants, complete) { s with grants := g, journal := journal ++ s.journal }) :
    (createGrants endpoint access segments).Leads s answers ends := by
  -- The later grants are added behind the first, so what the answer is for changes with the list.
  induction segments generalizing s answers with
  | nil => exact ha [] true [] s.grants (.done _)
  | cons segment rest ih =>
    rw [createGrants, leads_bind]
    rcases hcreate : GrantTable.create s.grants ⟨endpoint, segment, access⟩ with ⟨_ | grant, g⟩
    · simp only [Leads, createGrant, hcreate]
      exact ha [] false _ g (.refused hcreate)
    · simp only [Leads, createGrant, hcreate]
      change Leads (createGrants endpoint access rest >>= _) _ _ _
      rw [leads_bind]
      refine ih fun grants complete journal g' hg' => ?_
      have hanswer := ha _ _ _ g' (.step hcreate hg')
      simpa using hanswer

end Grants

theorem leads_post [Transport τ] {answers : Unit → Session σ τ γ ι H → Prop} {driver : DriverId}
    {endpoint : Endpoint} {request : Request}
    (ha : ∀ transport, Transport.send s.transport endpoint request = (.ok (), transport) →
      answers () { s with
        transport, journal := .posted driver endpoint request (.ok ()) :: s.journal })
    (he : ∀ cause transport t, Transport.send s.transport endpoint request =
      (.error cause, transport) → calls t.journal = calls s.journal →
      ends (.delivery request.type endpoint cause) t) :
    (post driver endpoint request).Leads s answers ends := by
  rcases hsend : Transport.send s.transport endpoint request with ⟨cause | ⟨⟩, transport⟩
  · simp only [Leads, post, hsend]
    exact he cause transport _ hsend rfl
  · simp only [Leads, post, hsend]
    exact ha transport hsend

section Interface

variable [Interface ι H] {driver : DriverId} {handle : H}

theorem leads_addInterface {answers : Option H → Session σ τ γ ι H → Prop} {name : InterfaceName}
    {capabilities : Capabilities}
    (ha : ∀ answer interface,
      Interface.add s.interface driver name capabilities = (answer, interface) →
      answers answer { s with
        interface, journal := .added driver name capabilities answer :: s.journal }) :
    (addInterface driver name capabilities).Leads s answers ends := by
  rcases hadd : Interface.add s.interface driver name capabilities with ⟨answer, interface⟩
  simp only [Leads, addInterface, hadd]
  exact ha answer interface hadd

theorem leads_enableInterface {answers : Bool → Session σ τ γ ι H → Prop}
    {enablement : Enablement}
    (ha : ∀ answer interface,
      Interface.enable s.interface handle enablement = (answer, interface) →
      answers answer { s with
        interface, journal := .enabled driver handle enablement answer :: s.journal }) :
    (enableInterface driver handle enablement).Leads s answers ends := by
  rcases henable : Interface.enable s.interface handle enablement with ⟨answer, interface⟩
  simp only [Leads, enableInterface, henable]
  exact ha answer interface henable

@[simp] theorem leads_disableInterface {answers : Unit → Session σ τ γ ι H → Prop} :
    (disableInterface driver handle).Leads s answers ends ↔ answers () { s with
      interface := Interface.disable s.interface handle
      journal := .disabled driver handle :: s.journal } := Iff.rfl

@[simp] theorem leads_removeInterface {answers : Unit → Session σ τ γ ι H → Prop} :
    (removeInterface driver handle).Leads s answers ends ↔ answers () { s with
      interface := Interface.remove s.interface handle
      journal := .removed driver handle :: s.journal } := Iff.rfl

@[simp] theorem leads_reportFinished {answers : Unit → Session σ τ γ ι H → Prop}
    {kind : RequestKind} {result : Int32} :
    (reportFinished driver kind handle result).Leads s answers ends ↔ answers () { s with
      interface := Interface.finished s.interface kind handle result
      journal := .finished driver kind handle result :: s.journal } := Iff.rfl

@[simp] theorem leads_reportStatus {answers : Unit → Session σ τ γ ι H → Prop}
    {report : StatusReport} :
    (reportStatus driver handle report).Leads s answers ends ↔ answers () { s with
      interface := Interface.status s.interface handle report
      journal := .reported driver handle report :: s.journal } := Iff.rfl

end Interface

@[simp] theorem leads_recordPoll {answers : Unit → Session σ τ γ ι H → Prop}
    {answer : Except DiscoveryError (Option DriverEvent)} :
    (recordPoll answer).Leads s answers ends ↔
      answers () { s with journal := .polled answer :: s.journal } := Iff.rfl

@[simp] theorem leads_lookUp {δ : Type} [Discovery δ] {source : δ} {label : Label}
    {answers : Bool → Session σ τ γ ι H → Prop} :
    (lookUp source label).Leads s answers ends ↔ answers (Discovery.isPresent source label)
      { s with journal := .lookedUp label (Discovery.isPresent source label) :: s.journal } :=
  Iff.rfl

end Leads

section Goes

variable {ends : Fatal → Prop}

theorem goes_bind {action : SessionM σ τ γ ι H α} {next : α → SessionM σ τ γ ι H β}
    {answers : β → Session σ τ γ ι H → Prop} :
    (action >>= next).Goes s answers ends ↔
      action.Goes s (fun a t => (next a).Goes t answers ends) ends := leads_bind

theorem Goes.mono {action : SessionM σ τ γ ι H α} {answers' : α → Session σ τ γ ι H → Prop}
    {ends' : Fatal → Prop} (h : action.Goes s answers ends)
    (ha : ∀ a t, answers a t → answers' a t) (he : ∀ fatal, ends fatal → ends' fatal) :
    action.Goes s answers' ends' := Leads.mono h ha fun fatal _ => he fatal

theorem Goes.and {action : SessionM σ τ γ ι H α} {answers' : α → Session σ τ γ ι H → Prop}
    {ends' : Fatal → Prop} (h : action.Goes s answers ends) (h' : action.Goes s answers' ends') :
    action.Goes s (fun a t => answers a t ∧ answers' a t) fun fatal => ends fatal ∧ ends' fatal := by
  unfold Goes at *
  split at h <;> simp_all

theorem goes_trivial (action : SessionM σ τ γ ι H α) :
    action.Goes s (fun _ _ => True) fun _ => True := by
  unfold Goes
  split <;> trivial

theorem Goes.of_ok {action : SessionM σ τ γ ι H α} (h : action.Goes s answers ends) {a : α}
    {t : Session σ τ γ ι H} (hrun : action s = .ok a t) : answers a t := by
  rw [Goes, hrun] at h
  exact h

theorem Goes.answers_of_not_ends {action : SessionM σ τ γ ι H α}
    (h : action.Goes s answers fun _ => False) : ∃ a t, action s = .ok a t ∧ answers a t := by
  unfold Goes at h
  split at h
  · exact ⟨_, _, ‹_›, h⟩
  · exact h.elim

theorem Goes.answers_of_never {action : SessionM σ τ γ ι H α} {ends : Fatal → Prop}
    (h : action.Goes s answers ends) (hnever : ∀ fatal, ¬ends fatal) :
    ∃ a t, action s = .ok a t ∧ answers a t :=
  (h.mono (fun _ _ ht => ht) hnever).answers_of_not_ends

theorem eq_ok_of_goes {action : SessionM σ τ γ ι H α} {a : α} {t : Session σ τ γ ι H}
    (h : action.Goes s (fun b u => b = a ∧ u = t) fun _ => False) : action s = .ok a t := by
  unfold Goes at h
  split at h
  · rename_i b u hrun
    rw [hrun, h.1, h.2]
  · exact h.elim

@[simp] theorem goes_pure {a : α} :
    (pure a : SessionM σ τ γ ι H α).Goes s answers ends ↔ answers a s := Iff.rfl

@[simp] theorem goes_tables {answers : σ → Session σ τ γ ι H → Prop} :
    (tables : SessionM σ τ γ ι H σ).Goes s answers ends ↔ answers s.tables s := Iff.rfl

@[simp] theorem goes_setTables {answers : Unit → Session σ τ γ ι H → Prop} {tables : σ} :
    (setTables tables).Goes s answers ends ↔ answers () { s with tables } := Iff.rfl

@[simp] theorem goes_note {answers : Unit → Session σ τ γ ι H → Prop} {notice : Notice} :
    (note notice).Goes s answers ends ↔
      answers () { s with journal := .noticed notice :: s.journal } := Iff.rfl

theorem goes_expect {a : α} :
    (expect (.ok a)).Goes s answers ends ↔ answers a s := Iff.rfl

section Grants

variable [GrantTable γ]

theorem goes_revokeGrants {answers : Unit → Session σ τ γ ι H → Prop} {grants : List GrantId}
    (ha : ∀ g, Revokes s.grants grants g →
      answers () { s with grants := g, journal := revocations grants ++ s.journal })
    (he : ∀ grant cause, RevokesUpTo grant cause s.grants grants →
      ends (.revocation grant cause)) :
    (revokeGrants grants).Goes s answers ends :=
  leads_revokeGrants ha fun grant cause _ hg _ => he grant cause hg

theorem goes_createGrants {answers : List GrantId × Bool → Session σ τ γ ι H → Prop}
    {endpoint : Endpoint} {access : Access} {segments : List Segment}
    (ha : ∀ grants complete journal g,
      Creates endpoint access s.grants segments grants complete journal g →
      answers (grants, complete) { s with grants := g, journal := journal ++ s.journal }) :
    (createGrants endpoint access segments).Goes s answers ends := leads_createGrants ha

end Grants

theorem goes_post [Transport τ] {answers : Unit → Session σ τ γ ι H → Prop} {driver : DriverId}
    {endpoint : Endpoint} {request : Request}
    (ha : ∀ transport, Transport.send s.transport endpoint request = (.ok (), transport) →
      answers () { s with
        transport, journal := .posted driver endpoint request (.ok ()) :: s.journal })
    (he : ∀ cause transport, Transport.send s.transport endpoint request =
      (.error cause, transport) → ends (.delivery request.type endpoint cause)) :
    (post driver endpoint request).Goes s answers ends :=
  leads_post ha fun cause transport _ hsent _ => he cause transport hsent

section Interface

variable [Interface ι H] {driver : DriverId} {handle : H}

theorem goes_addInterface {answers : Option H → Session σ τ γ ι H → Prop} {name : InterfaceName}
    {capabilities : Capabilities} {answer : Option H} {interface : ι}
    (h : Interface.add s.interface driver name capabilities = (answer, interface)) :
    (addInterface driver name capabilities).Goes s answers ends ↔ answers answer { s with
      interface, journal := .added driver name capabilities answer :: s.journal } := by
  simp only [Goes, addInterface, h]

theorem goes_enableInterface {answers : Bool → Session σ τ γ ι H → Prop}
    {enablement : Enablement} {answer : Bool} {interface : ι}
    (h : Interface.enable s.interface handle enablement = (answer, interface)) :
    (enableInterface driver handle enablement).Goes s answers ends ↔ answers answer { s with
      interface, journal := .enabled driver handle enablement answer :: s.journal } := by
  simp only [Goes, enableInterface, h]

@[simp] theorem goes_reportStatus {answers : Unit → Session σ τ γ ι H → Prop}
    {report : StatusReport} :
    (reportStatus driver handle report).Goes s answers ends ↔ answers () { s with
      interface := Interface.status s.interface handle report
      journal := .reported driver handle report :: s.journal } := Iff.rfl

end Interface

@[simp] theorem goes_recordPoll {answers : Unit → Session σ τ γ ι H → Prop}
    {answer : Except DiscoveryError (Option DriverEvent)} :
    (recordPoll answer).Goes s answers ends ↔
      answers () { s with journal := .polled answer :: s.journal } := Iff.rfl

@[simp] theorem goes_lookUp {δ : Type} [Discovery δ] {source : δ} {label : Label}
    {answers : Bool → Session σ τ γ ι H → Prop} :
    (lookUp source label).Goes s answers ends ↔ answers (Discovery.isPresent source label)
      { s with journal := .lookedUp label (Discovery.isPresent source label) :: s.journal } :=
  Iff.rfl

end Goes

end SessionM
end DriverHub
