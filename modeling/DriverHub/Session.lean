import DriverHub.Journal

/-!
A session: tables under control, the collaborators they are worked with, and the journal. An action
on a session either answers or ends it for good; in both cases the session shows how far it came.
-/
namespace DriverHub

/-- Tables `σ` with a transport, a grant table, an interface layer and the journal. -/
structure Session (σ τ γ ι H : Type) where
  tables : σ
  transport : τ
  grants : γ
  interface : ι
  -- The latest entry comes first.
  journal : Journal H := []

/-- Something done in a session. -/
abbrev SessionM (σ τ γ ι H : Type) := EStateM Fatal (Session σ τ γ ι H)

namespace SessionM

variable {σ τ γ ι H α : Type}

/-- Makes an entry in the journal. -/
def record (entry : Entry H) : SessionM σ τ γ ι H Unit := fun session =>
  .ok () { session with journal := entry :: session.journal }

/-- Makes a notice. -/
def note (notice : Notice) : SessionM σ τ γ ι H Unit := record (.noticed notice)

/-- Ends the session, with a notice of the reason. -/
def fail (fatal : Fatal) : SessionM σ τ γ ι H α := fun session =>
  .error fatal { session with journal := .noticed (.fatal fatal) :: session.journal }

/-- The tables. -/
def tables : SessionM σ τ γ ι H σ := fun session => .ok session.tables session

/-- Replaces the tables. -/
def setTables (tables : σ) : SessionM σ τ γ ι H Unit := fun session =>
  .ok () { session with tables }

/-- The outcome of a checked step; a failed check ends the session. -/
def expect (outcome : Except Defect α) : SessionM σ τ γ ι H α :=
  match outcome with
  | .ok a => pure a
  | .error defect => fail (.defect defect)

section Grants

variable [GrantTable γ]

/-- Creates a grant. -/
def createGrant (grant : Grant) : SessionM σ τ γ ι H (Option GrantId) := fun session =>
  let (answer, grants) := GrantTable.create session.grants grant
  .ok answer { session with grants, journal := .granted grant answer :: session.journal }

/-- Creates a grant for each region in order, up to the first refusal; answers the grants created,
and whether none was refused. -/
def createGrants (endpoint : Endpoint) (access : Access) :
    List Segment → SessionM σ τ γ ι H (List GrantId × Bool)
  | [] => pure ([], true)
  | segment :: rest => do
    match ← createGrant ⟨endpoint, segment, access⟩ with
    | none => pure ([], false)
    | some grant => do
      let (grants, complete) ← createGrants endpoint access rest
      pure (grant :: grants, complete)

/-- Revokes a grant. A failure is fatal: the grant table can no longer be trusted. -/
def revokeGrant (grant : GrantId) : SessionM σ τ γ ι H Unit := fun session =>
  let (answer, grants) := GrantTable.revoke session.grants grant
  let session := { session with grants, journal := .revoked grant answer :: session.journal }
  match answer with
  | .ok () => .ok () session
  | .error cause => fail (.revocation grant cause) session

/-- Revokes grants in order. -/
def revokeGrants : List GrantId → SessionM σ τ γ ι H Unit
  | [] => pure ()
  | grant :: rest => do
    revokeGrant grant
    revokeGrants rest

end Grants

/-- Hands a request for a driver to the transport. A failure is fatal: driver and queue would no
longer agree. -/
def post [Transport τ] (driver : DriverId) (endpoint : Endpoint) (request : Request) :
    SessionM σ τ γ ι H Unit := fun session =>
  let (answer, transport) := Transport.send session.transport endpoint request
  let session :=
    { session with transport, journal := .posted driver endpoint request answer :: session.journal }
  match answer with
  | .ok () => .ok () session
  | .error cause => fail (.delivery request.type endpoint cause) session

section Interface

variable [Interface ι H]

/-- Asks for an interface for a driver. -/
def addInterface (driver : DriverId) (name : InterfaceName) (capabilities : Capabilities) :
    SessionM σ τ γ ι H (Option H) := fun session =>
  let (answer, interface) := Interface.add session.interface driver name capabilities
  .ok answer { session with
    interface, journal := .added driver name capabilities answer :: session.journal }

/-- Asks for an interface to be enabled. -/
def enableInterface (driver : DriverId) (handle : H) (enablement : Enablement) :
    SessionM σ τ γ ι H Bool := fun session =>
  let (answer, interface) := Interface.enable session.interface handle enablement
  .ok answer { session with
    interface, journal := .enabled driver handle enablement answer :: session.journal }

/-- Tells an interface that its driver restarts. -/
def disableInterface (driver : DriverId) (handle : H) : SessionM σ τ γ ι H Unit := fun session =>
  .ok () { session with
    interface := Interface.disable session.interface handle
    journal := .disabled driver handle :: session.journal }

/-- Tells an interface that its driver is gone. -/
def removeInterface (driver : DriverId) (handle : H) : SessionM σ τ γ ι H Unit := fun session =>
  .ok () { session with
    interface := Interface.remove session.interface handle
    journal := .removed driver handle :: session.journal }

/-- Tells an interface that a request is finished. -/
def reportFinished (driver : DriverId) (kind : RequestKind) (handle : H) (result : Int32) :
    SessionM σ τ γ ι H Unit := fun session =>
  .ok () { session with
    interface := Interface.finished session.interface kind handle result
    journal := .finished driver kind handle result :: session.journal }

/-- Tells an interface the status of its driver. -/
def reportStatus (driver : DriverId) (handle : H) (report : StatusReport) :
    SessionM σ τ γ ι H Unit := fun session =>
  .ok () { session with
    interface := Interface.status session.interface handle report
    journal := .reported driver handle report :: session.journal }

end Interface

/-- Records what a discovery source answered when it was asked for the next change. -/
def recordPoll (answer : Except DiscoveryError (Option DriverEvent)) : SessionM σ τ γ ι H Unit :=
  record (.polled answer)

/-- Asks a discovery source whether a driver with this label exists. -/
def lookUp {δ : Type} [Discovery δ] (source : δ) (label : Label) : SessionM σ τ γ ι H Bool :=
  fun session =>
    let present := Discovery.isPresent source label
    .ok present { session with journal := .lookedUp label present :: session.journal }

end SessionM
end DriverHub
