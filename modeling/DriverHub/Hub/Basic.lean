import DriverHub.Hub.Driver
import DriverHub.Session

/-!
The hub's tables: the driver table, the request pool that all queues share, and the counters. Here
stand the steps that need no collaborator.
-/
namespace DriverHub

/-- Why a request was not issued. -/
inductive Refusal where
  -- The queue admits no request now; it will when a reply has come.
  | busy
  | noMemory
  | unknownDriver (id : DriverId)
  | notActive (id : DriverId)
  | tooManySegments
  | segmentTooLarge
  | missingMulticastList
deriving DecidableEq

def Refusal.message : Refusal → String
  | .busy => "queue full"
  | .noMemory => "out of grants"
  | .unknownDriver id => s!"unknown driver {id}"
  | .notActive id => s!"driver {id} is not active"
  | .tooManySegments => s!"more than {maxSegments} segments"
  | .segmentTooLarge => "segment longer than 65535 bytes"
  | .missingMulticastList => "multicast list mode without a list"

/-- The tables of a hub of this configuration, with interface handles in `H`. -/
structure Hub (config : Config) (H : Type) where
  pool : SlotPool config.slots
  drivers : Vector (Driver config.slots H) config.drivers
  -- One past the last entry in use.
  highWater : Nat
  -- Number of pending drivers.
  pending : Nat
  -- Drivers passed over because the table was full.
  dropped : Nat
  -- Whether it was reported that the table is full.
  fullReported : Bool

/-- Counters of a hub for whoever looks after it. -/
structure Statistics where
  pending : Nat
  active : Nat
  highWater : Nat
  spareAvailable : Nat
  spareTotal : Nat
  freeSlots : Nat
  totalSlots : Nat
  dropped : Nat
  fullReports : Nat
deriving DecidableEq

namespace Hub

variable {config : Config} {H : Type}

/-- First number of the send queue of an entry. The first numbers of any two queues are far
apart. -/
def sendStart (index : Nat) : UInt32 := UInt32.ofNat index <<< 21

/-- First number of the receive queue of an entry. -/
def receiveStart (index : Nat) : UInt32 := (2 * UInt32.ofNat index + 1) <<< 20

/-- An empty entry whose queues start at these numbers. -/
def freeDriver (config : Config) (send receive : UInt32) : Driver config.slots H where
  state := .free
  label := none
  send := Queue.new send config.sendDepth.toNat
  receive := Queue.new receive config.receiveDepth.toNat

/-- The tables without any driver. -/
def empty (config : Config) : Hub config H where
  pool := SlotPool.new config.slots config.spareRequests.toNat
  drivers := Vector.ofFn fun i => freeDriver config (sendStart i) (receiveStart i)
  highWater := 0
  pending := 0
  dropped := 0
  fullReported := false

/-- Replaces an entry by an empty one whose queues start at the given numbers. -/
def withStart (hub : Hub config H) (index : Nat) (send receive : UInt32) : Hub config H :=
  if h : index < config.drivers then
    { hub with drivers := hub.drivers.set index (freeDriver config send receive) }
  else hub

def driver (hub : Hub config H) (i : Fin config.drivers) : Driver config.slots H := hub.drivers[i]

/-- The entry of an identifier, if it lies in the table. -/
def driver? (hub : Hub config H) (id : DriverId) : Option (Driver config.slots H) :=
  hub.drivers[id.index]?

/-- The first entry below the mark that satisfies `p`. No driver has an entry above it. -/
def find? (hub : Hub config H) (p : Driver config.slots H → Bool) : Option (Fin config.drivers) :=
  (List.finRange config.drivers).find? fun i => i < hub.highWater && p (hub.driver i)

/-- The first entry whose driver takes its messages at this endpoint. -/
def findEndpoint (hub : Hub config H) (endpoint : Endpoint) : Option (Fin config.drivers) :=
  hub.find? fun driver => driver.state.endpoint? = some endpoint

/-- The entry of the driver with this label. -/
def findLabel (hub : Hub config H) (label : Label) : Option (Fin config.drivers) :=
  hub.find? fun driver => !driver.state.isFree && driver.label = some label

def findFree (hub : Hub config H) : Option (Fin config.drivers) :=
  match hub.find? fun driver => driver.state.isFree with
  | some i => some i
  | none => if h : hub.highWater < config.drivers then some ⟨hub.highWater, h⟩ else none

/-- The entry of the driver with this label, for callers. -/
def driverId? (hub : Hub config H) (label : Label) : Option DriverId :=
  (hub.findLabel label).map fun i => ⟨i⟩

def statistics (hub : Hub config H) : Statistics where
  pending := hub.pending
  active := (List.finRange config.drivers).countP fun i : Fin _ =>
    i < hub.highWater && (hub.driver i).state.isActive
  highWater := hub.highWater
  spareAvailable := hub.pool.spares
  spareTotal := hub.pool.spareTotal
  freeSlots := hub.pool.freeCount
  totalSlots := config.slots
  dropped := hub.dropped
  fullReports := hub.fullReported.toNat

/-- The table entry and endpoint of an active driver. -/
def active (hub : Hub config H) (id : DriverId) :
    Except Refusal (Fin config.drivers × Endpoint) :=
  if h : id.index < config.drivers then
    match hub.drivers[id.index].state with
    | .free => .error (.unknownDriver id)
    | .pending _ _ => .error (.notActive id)
    | .active endpoint _ => .ok (⟨id.index, h⟩, endpoint)
  else .error (.unknownDriver id)

/-- Whether the receive queue of a driver has room. -/
def canReceive (hub : Hub config H) (id : DriverId) : Bool :=
  match hub.active id with
  | .ok (i, _) => (hub.driver i).receive.hasRoom
  | .error _ => false

def modify (hub : Hub config H) (i : Fin config.drivers)
    (f : Driver config.slots H → Driver config.slots H) : Hub config H :=
  { hub with drivers := hub.drivers.set i (f (hub.driver i)) }

def setState (hub : Hub config H) (i : Fin config.drivers) (state : DriverState H) :
    Hub config H :=
  hub.modify i fun driver => { driver with state }

/-- Cancels every request of an entry, sends first; answers the grants that are to be revoked. -/
def cancelled (hub : Hub config H) (i : Fin config.drivers) :
    Except Defect (List GrantId × Hub config H) := do
  let sends ← (hub.driver i).send.cancelAll hub.pool
  let receives ← (hub.driver i).receive.cancelAll sends.pool
  return (sends.grants ++ receives.grants,
    { hub.modify i fun driver => { driver with send := sends.queue, receive := receives.queue } with
      pool := receives.pool })

/-- Makes the queues of an entry ready for a new start. -/
def begun (hub : Hub config H) (i : Fin config.drivers) : Except Defect (Hub config H) := do
  let send ← (hub.driver i).send.begin
  let receive ← (hub.driver i).receive.begin
  return hub.modify i fun driver => { driver with send, receive }

/-- Opens the queues of an entry as far as the driver's limits and the configuration allow. -/
def opened (hub : Hub config H) (i : Fin config.drivers) (maxSend maxReceive : UInt8) :
    Hub config H :=
  hub.modify i fun driver => { driver with
    send := driver.send.activate maxSend.toNat
    receive := driver.receive.activate (min maxReceive.toNat config.receiveDepth.toNat) }

/-- Counts one pending driver less. -/
def settled (hub : Hub config H) : Except Defect (Hub config H) :=
  if hub.pending = 0 then .error .pendingUnderflow
  else .ok { hub with pending := hub.pending - 1 }

/-- The highest mark not above `mark` that is zero or just past an entry in use. -/
def lowered (hub : Hub config H) : (mark : Nat) → Nat
  | 0 => 0
  | mark + 1 =>
    if (hub.drivers[mark]?.map fun driver => driver.state.isFree).getD true then lowered hub mark
    else mark + 1

/-- Frees an entry, and takes back the mark of the entries in use. -/
def freed (hub : Hub config H) (i : Fin config.drivers) : Hub config H :=
  let hub := hub.modify i fun driver => { driver with state := .free, label := none }
  { hub with highWater := hub.lowered hub.highWater }

/-- Puts a pending driver into a free entry. -/
def occupied (hub : Hub config H) (i : Fin config.drivers) (label : Label) (endpoint : Endpoint) :
    Hub config H :=
  { hub.modify i fun driver => { driver with state := .pending endpoint none, label := some label } with
    highWater := max hub.highWater (i + 1)
    pending := hub.pending + 1 }

/-- Puts the reserved request at the end of its queue. -/
def committed (hub : Hub config H) (i : Fin config.drivers) (ticket : Ticket config.slots) :
    Except Defect (Hub config H) := do
  let direction := ticket.kind.direction
  let (queue, pool) ← ((hub.driver i).queue direction).commit hub.pool ticket
  return { hub.modify i fun driver => driver.setQueue direction queue with pool }

end Hub

/-- A hub at work with its collaborators. -/
abbrev HubSession (config : Config) (τ γ ι H : Type) := Session (Hub config H) τ γ ι H

/-- Something done with a hub. -/
abbrev HubM (config : Config) (τ γ ι H : Type) := SessionM (Hub config H) τ γ ι H

/-- Why there is no hub of a configuration. -/
inductive BuildError where
  | refused (fault : CapacityFault)
  | overflow (overflow : Overflow)
  -- There is no memory for the request slots.
  | noMemory
deriving DecidableEq

/-- A hub without drivers, if its configuration is valid and there is memory for its request slots.
`memory` is the largest number of slots there is memory for. -/
def HubSession.new {τ γ ι H : Type} (config : Config) (memory : Nat) (transport : τ) (grants : γ)
    (interface : ι) : Except BuildError (HubSession config τ γ ι H) :=
  match config.fault? with
  | some fault => .error (.refused fault)
  | none =>
    match config.requestSlots with
    | .error overflow => .error (.overflow overflow)
    | .ok slots =>
      if memory < slots.toNat then .error .noMemory
      else .ok {
        tables := Hub.empty config
        transport, grants, interface
        journal := [.noticed (.started config)] }

end DriverHub
