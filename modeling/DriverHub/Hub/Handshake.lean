import DriverHub.Hub.Lifecycle

/-!
The handshake. A driver answers the request to start with what its device is. Only the answer to
the latest request counts. If it is well-formed and the interface layer agrees, the driver becomes
active; otherwise it is taken down.
-/
namespace DriverHub

/-- The interface name of an init reply, or what is wrong with the reply. -/
def InitReply.checked (reply : InitReply) : Except InitFault InterfaceName :=
  match BoundedName.ofTerminated? reply.name.toList with
  | none => .error .name
  | some name =>
    if reply.addressLength.toNat = 0 ∨ addressSize < reply.addressLength.toNat then
      .error (.addressLength reply.addressLength.toNat)
    else if reply.maxSend = 0 ∨ reply.maxReceive = 0 then .error .limits
    else .ok name

/-- What an interface is told of the device, with its name if it is new. Its address is zero behind
the bytes that the reply counts. -/
def InitReply.enablement (reply : InitReply) (name : Option InterfaceName) : Enablement where
  name := name
  address := reply.address.mapIdx fun i byte => if i < reply.addressLength.toNat then byte else 0
  addressLength := reply.addressLength.toNat
  capabilities := reply.capabilities
  link := reply.link
  media := reply.media

/-- What an interface is told of the device. As many bytes of the address are read as the reply
counts; there must be that many. -/
def InitReply.told (reply : InitReply) (name : Option InterfaceName) : Except Defect Enablement :=
  if addressSize < reply.addressLength.toNat then .error .outOfRange
  else .ok (reply.enablement name)

namespace Hub

open SessionM

variable {config : Config} {τ γ ι H : Type}
variable [Transport τ] [GrantTable γ] [Interface ι H]

/-- Opens the queues of a pending driver and has its interface enabled. The queues are open before,
since the interface layer may want to issue requests at once. -/
def enable (i : Fin config.drivers) (endpoint : Endpoint) (handle : H) (isNew : Bool)
    (name : InterfaceName) (reply : InitReply) : HubM config τ γ ι H Unit := do
  let hub ← tables
  setTables ((hub.setState i (.pending endpoint (some handle))).opened i reply.maxSend
    reply.maxReceive)
  let enablement ← expect (reply.told (if isNew then some name else none))
  if ← enableInterface ⟨i⟩ handle enablement then do
    let hub ← expect (← tables).settled
    setTables (hub.setState i (.active endpoint handle))
    note (.active ⟨i⟩ endpoint name)
  else do
    note (.enableRefused ⟨i⟩ name)
    takeDown i

/-- Takes the answer of a pending driver: adds an interface unless there is one, and enables it. -/
def accept (i : Fin config.drivers) (endpoint : Endpoint) (handle : Option H)
    (name : InterfaceName) (reply : InitReply) : HubM config τ γ ι H Unit := do
  match handle with
  | some handle => enable i endpoint handle false name reply
  | none => do
    match ← addInterface ⟨i⟩ name reply.capabilities with
    | some handle => enable i endpoint handle true name reply
    | none => do
      note (.addRefused ⟨i⟩ name)
      takeDown i

/-- An init reply came from the driver of an entry. -/
def initReply (i : Fin config.drivers) (reply : InitReply) : HubM config τ γ ι H Unit := do
  let hub ← tables
  match (hub.driver i).state with
  | .pending endpoint handle =>
    if reply.id ≠ (hub.driver i).send.head then note (.staleInit reply.id endpoint)
    else
      match reply.checked with
      | .ok name => accept i endpoint handle name reply
      | .error fault => do
        note (.malformedInit endpoint fault)
        takeDown i
  | _ => note (.unexpectedInit ⟨i⟩)

end Hub
end DriverHub
