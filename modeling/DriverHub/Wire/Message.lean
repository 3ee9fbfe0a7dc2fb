import DriverHub.Config.Basic
import DriverHub.Name
import DriverHub.Grant
import DriverHub.Request.Kind

/-!
Messages between the hub and its drivers. Requests go to a driver, replies come from it. Every
queued request carries the sequence number that the driver's reply repeats.
-/
namespace DriverHub

/-- Capabilities of a device, one bit each; bits without a meaning are kept. -/
structure Capabilities where
  bits : UInt32
deriving DecidableEq, Inhabited

/-- Selects the parts of a configuration request that are to be applied; bits without a meaning
are kept. -/
structure ChangeSet where
  bits : UInt32
deriving DecidableEq, Inhabited

/-- How a device is to work; no bit means that it is down, and bits without a meaning are kept. -/
structure Mode where
  bits : UInt32
deriving DecidableEq, Inhabited

namespace ChangeSet

/-- Whether all bits of `part` are selected. -/
def contains (set part : ChangeSet) : Bool := set.bits &&& part.bits = part.bits

def mode : ChangeSet := ⟨1⟩
def capabilities : ChangeSet := ⟨2⟩
def flags : ChangeSet := ⟨4⟩
def media : ChangeSet := ⟨8⟩
def address : ChangeSet := ⟨16⟩

end ChangeSet

namespace Mode

/-- Whether all bits of `part` are on. -/
def contains (mode part : Mode) : Bool := mode.bits &&& part.bits = part.bits

/-- Frames sent to the addresses of a list are accepted. -/
def multicastList : Mode := ⟨4⟩

end Mode

/-- A hardware address, followed by zeros if it is short. -/
abbrev HardwareAddress := Vector UInt8 addressSize

def HardwareAddress.zero : HardwareAddress := Vector.replicate addressSize 0

/-- State of a device's link, and what it counted. -/
structure StatusReport where
  link : UInt32
  media : UInt32
  outErrors : UInt32
  collisions : UInt32
  inErrors : UInt32
  inDrops : UInt32
deriving DecidableEq

/-- A request to change how a device works. -/
structure Reconfiguration where
  id : UInt32
  set : ChangeSet
  mode : Mode
  capabilities : Capabilities
  flags : UInt32
  media : UInt32
  multicastGrant : Option GrantId
  multicastCount : UInt32
  address : HardwareAddress
deriving DecidableEq

/-- A request to send a packet, or to receive one, through granted memory. -/
structure Transfer where
  id : UInt32
  -- Number of segments, counted from the first.
  count : UInt8
  grants : Vector (Option GrantId) maxSegments
  lengths : Vector UInt16 maxSegments
deriving DecidableEq

/-- A message to a driver. -/
inductive Request where
  -- Start over, and report what the device is.
  | init (id : UInt32)
  | configure (change : Reconfiguration)
  | transfer (direction : Direction) (transfer : Transfer)
  -- A status report has been taken in.
  | acknowledge (id : UInt32)
deriving DecidableEq

/-- What a driver reports of its device when it starts. -/
structure InitReply where
  id : UInt32
  link : UInt32
  media : UInt32
  capabilities : Capabilities
  -- The field of the interface's name.
  name : Vector UInt8 interfaceNameSize
  address : HardwareAddress
  addressLength : UInt8
  maxSend : UInt8
  maxReceive : UInt8
deriving DecidableEq

/-- A message from a driver. -/
inductive Reply where
  | init (reply : InitReply)
  -- A queued request of this kind is finished.
  | finished (kind : RequestKind) (id : UInt32) (result : Int32)
  -- A report the driver was not asked for; it waits for an acknowledgement.
  | status (id : UInt32) (report : StatusReport)
deriving DecidableEq

end DriverHub
