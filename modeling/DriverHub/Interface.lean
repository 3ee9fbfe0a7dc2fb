import DriverHub.Wire.Message

/-!
The layer of network interfaces above the hub. It has an interface object for every driver that
once became active, known by a handle, and is told what happens to the driver and its requests.
-/
namespace DriverHub

/-- What an interface is told when its driver becomes active. -/
structure Enablement where
  -- The interface's name, given only for an interface that was just added.
  name : Option InterfaceName
  address : HardwareAddress
  addressLength : Nat
  capabilities : Capabilities
  link : UInt32
  media : UInt32
deriving DecidableEq

/-- An interface layer with state `ι` and handles in `H`. -/
class Interface (ι : Type) (H : outParam Type) where
  -- Adds an interface for a driver, or refuses to.
  add : ι → DriverId → InterfaceName → Capabilities → Option H × ι
  -- Enables an interface, or refuses to.
  enable : ι → H → Enablement → Bool × ι
  -- The driver restarts; the interface stays.
  disable : ι → H → ι
  -- The driver is gone.
  remove : ι → H → ι
  -- A request of this kind is finished.
  finished : ι → RequestKind → H → Int32 → ι
  -- The driver reports its status.
  status : ι → H → StatusReport → ι

end DriverHub
