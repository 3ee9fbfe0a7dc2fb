import DriverHub.Name
import DriverHub.Endpoint

/-!
Discovery of drivers. A source reports drivers that came up or went down, and can tell whether a
driver with some label still exists.
-/
namespace DriverHub

/-- Size of the label field of a discovery event. -/
abbrev eventLabelSize : Nat := 32

/-- Which way a driver's state changed. -/
inductive DriverStatus where
  | up
  | down
deriving DecidableEq

/-- A change reported by discovery. Its label is raw bytes, valid or not. -/
structure DriverEvent where
  label : Vector UInt8 eventLabelSize
  endpoint : Option Endpoint
  status : DriverStatus
deriving DecidableEq

namespace DriverEvent

/-- An event with these label bytes, cut to the size of the field or followed by zeros. -/
def ofBytes (label : List UInt8) (endpoint : Option Endpoint) (status : DriverStatus) :
    DriverEvent where
  label := Vector.ofFn fun i => label.getD i 0
  endpoint := endpoint
  status := status

def up (label : List UInt8) (endpoint : Endpoint) : DriverEvent := ofBytes label (some endpoint) .up

def down (label : List UInt8) : DriverEvent := ofBytes label none .down

def label? (event : DriverEvent) : Option Label := BoundedName.ofTerminated? event.label.toList

end DriverEvent

/-- A failure to ask for changes. -/
structure DiscoveryError where
  code : Int
deriving DecidableEq

def DiscoveryError.message (error : DiscoveryError) : String :=
  s!"discovery check failed ({error.code})"

/-- A source of discovery events with state `δ`. -/
class Discovery (δ : Type) where
  -- The next change, or none once all have been reported.
  poll : δ → Except DiscoveryError (Option DriverEvent) × δ
  -- Whether a driver with this label exists, perhaps in the middle of a restart.
  isPresent : δ → Label → Bool
  -- A bound on the changes still to be reported.
  backlog : δ → Nat
  -- Every change reported is one fewer to be reported.
  backlog_poll : ∀ source event rest, poll source = (.ok (some event), rest) →
    backlog rest < backlog source

end DriverHub
