import DriverHub.Discovery
import DriverHub.Interface
import DriverHub.Request.Pool
import DriverHub.Transport
import DriverHub.Wire.Frame

/-!
The journal: what was asked of the collaborators, what they answered, and the notices for whoever
looks after the hub. An entry is made when the answer is there.
-/
namespace DriverHub

/-- What ends the work for good. -/
inductive Fatal where
  | revocation (grant : GrantId) (cause : GrantError)
  | delivery (type : Wire.RequestType) (endpoint : Endpoint) (cause : TransportError)
  | defect (failed : Defect)
deriving DecidableEq

def Fatal.message : Fatal → String
  | .revocation grant cause =>
    s!"ndev: unable to revoke grant {grant.index}: " ++ cause.message
  | .delivery type endpoint cause =>
    "ndev: unable to send " ++ Bytes.hexMarked type.code.toNat ++ s!" to {endpoint}: " ++
      cause.message
  | .defect failed => failed.message

/-- What is wrong with an init reply. -/
inductive InitFault where
  | name
  | addressLength (length : Nat)
  | limits
deriving DecidableEq

/-- How much a notice matters. -/
inductive Level where
  | error
  | warn
  | info
  | debug
  | trace
deriving DecidableEq

def Level.label : Level → String
  | .error => "error"
  | .warn => "warn"
  | .info => "info"
  | .debug => "debug"
  | .trace => "trace"

/-- News for whoever looks after the hub. -/
inductive Notice where
  | started (config : Config)
  | fatal (reason : Fatal)
  | checkFailed (error : DiscoveryError)
  | malformedLabel (endpoint : Endpoint)
  | tableFull (label : Label)
  | up (driver : DriverId) (label : Label) (endpoint : Endpoint)
  | restarted (driver : DriverId) (endpoint : Endpoint)
  | gone (driver : DriverId) (endpoint : Endpoint)
  | active (driver : DriverId) (endpoint : Endpoint) (name : InterfaceName)
  | unexpectedInit (driver : DriverId)
  | staleInit (number : UInt32) (endpoint : Endpoint)
  | malformedInit (endpoint : Endpoint) (fault : InitFault)
  | addRefused (driver : DriverId) (name : InterfaceName)
  | enableRefused (driver : DriverId) (name : InterfaceName)
  | unknownEndpoint (type : Wire.ReplyType) (endpoint : Endpoint)
  | unknownType (code : UInt32) (endpoint : Endpoint)
  | malformedFrame (endpoint : Endpoint) (error : Wire.WireError)
  | inactiveReply (kind : RequestKind) (number : UInt32)
  | staleReply (kind : RequestKind) (number : UInt32)
  | inactiveStatus (number : UInt32)
deriving DecidableEq

namespace Notice

def level : Notice → Level
  | .fatal _ => .error
  | .checkFailed _ | .tableFull _ | .malformedInit _ _ => .warn
  | .up _ _ _ | .restarted _ _ | .gone _ _ | .active _ _ _ => .info
  | .started _ | .malformedLabel _ | .addRefused _ _ | .enableRefused _ _ | .unknownType _ _
  | .malformedFrame _ _ => .debug
  | .unexpectedInit _ | .staleInit _ _ | .unknownEndpoint _ _ | .inactiveReply _ _
  | .staleReply _ _ | .inactiveStatus _ => .trace

def message : Notice → String
  | .started config =>
    s!"ndev: {config.drivers} driver slots, {config.slots} request slots " ++
      s!"({config.spareRequests.toNat} spare)"
  | .fatal reason => reason.message
  | .checkFailed error => "ndev: driver discovery check failed: " ++ error.message
  | .malformedLabel endpoint => s!"ndev: ignoring driver at {endpoint} with malformed label"
  | .tableFull label => s!"ndev: not enough driver slots, ignoring driver {label}"
  | .up driver label endpoint => s!"ndev: driver {label} at {endpoint} is up ({driver})"
  | .restarted driver endpoint => s!"ndev: driver {driver} restarted at {endpoint}"
  | .gone driver endpoint => s!"ndev: driver {driver} at {endpoint} is gone"
  | .active driver endpoint name => s!"ndev: driver {driver} at {endpoint} is active as {name}"
  | .unexpectedInit driver => s!"ndev: init reply from active driver {driver}"
  | .staleInit number endpoint => s!"ndev: stale init reply {number.toNat} from {endpoint}"
  | .malformedInit endpoint fault =>
    s!"ndev: driver {endpoint} provided invalid " ++
      match fault with
      | .name => "name"
      | .addressLength length => s!"HW-addr length {length}"
      | .limits => "queue maximum"
  | .addRefused driver name => s!"ndev: interface layer rejected driver {driver} ({name})"
  | .enableRefused driver name =>
    s!"ndev: interface layer failed to enable driver {driver} ({name})"
  | .unknownEndpoint type endpoint =>
    "ndev: dropping " ++ Bytes.hexMarked type.code.toNat ++ s!" from unknown {endpoint}"
  | .unknownType code endpoint =>
    "ndev: ignoring message type " ++ Bytes.hexMarked code.toNat ++ s!" from {endpoint}"
  | .malformedFrame endpoint error =>
    s!"ndev: dropping frame from {endpoint}: " ++ error.message
  | .inactiveReply kind number =>
    "ndev: " ++ kind.label ++ s!" reply {number.toNat} for inactive driver"
  | .staleReply kind number => "ndev: dropping stale " ++ kind.label ++ s!" reply {number.toNat}"
  | .inactiveStatus number => s!"ndev: status {number.toNat} for inactive driver"

end Notice

/-- A call of a collaborator with its answer, or a notice. Calls on behalf of a driver say which. -/
inductive Entry (H : Type) where
  | posted (driver : DriverId) (endpoint : Endpoint) (request : Request)
      (answer : Except TransportError Unit)
  | granted (grant : Grant) (answer : Option GrantId)
  | revoked (grant : GrantId) (answer : Except GrantError Unit)
  | polled (answer : Except DiscoveryError (Option DriverEvent))
  | lookedUp (label : Label) (present : Bool)
  | added (driver : DriverId) (name : InterfaceName) (capabilities : Capabilities)
      (answer : Option H)
  | enabled (driver : DriverId) (handle : H) (enablement : Enablement) (answer : Bool)
  | disabled (driver : DriverId) (handle : H)
  | removed (driver : DriverId) (handle : H)
  | finished (driver : DriverId) (kind : RequestKind) (handle : H) (result : Int32)
  | reported (driver : DriverId) (handle : H) (report : StatusReport)
  | noticed (notice : Notice)

/-- The entries made so far, the latest first. -/
abbrev Journal (H : Type) := List (Entry H)

end DriverHub
