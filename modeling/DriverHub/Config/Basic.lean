/-!
Capacities of a hub: how many drivers it serves, how deep their queues are, and how many request
slots they share. A configuration is checked once, before any table is built from it.
-/
namespace DriverHub

/-- Most segments, and so most grants, of one transfer. -/
abbrev maxSegments : Nat := 8

abbrev addressSize : Nat := 6

/-- The capacities of a hub. All counts are 64-bit words. -/
structure Config where
  -- Number of entries in the driver table.
  maxDrivers : UInt64 := 8
  -- Send and configuration requests each driver may always have in flight.
  sendDepth : UInt64 := 2
  -- Receive requests each driver may always, and at most, have in flight.
  receiveDepth : UInt64 := 2
  -- Send and configuration requests that all drivers together may have beyond `sendDepth`.
  spareRequests : UInt64 := 8
deriving DecidableEq, Inhabited

/-- A reason to refuse a configuration. -/
inductive CapacityFault where
  | noDrivers
  | tooManyDrivers
  | emptyQueue
  | deepQueue
deriving DecidableEq

def CapacityFault.message : CapacityFault → String
  | .noDrivers => "invalid ndev config: max_drivers must be at least 1"
  | .tooManyDrivers => "invalid ndev config: max_drivers exceeds 2048"
  | .emptyQueue => "invalid ndev config: queue depths must be at least 1"
  | .deepQueue => "invalid ndev config: queue depths must not exceed 255"

/-- A calculation whose result does not fit into a 64-bit word. -/
inductive Overflow where
  | sum
  | product
deriving DecidableEq

namespace Overflow

def message : Overflow → String
  | .sum => "attempt to add with overflow"
  | .product => "attempt to multiply with overflow"

def add (a b : UInt64) : Except Overflow UInt64 :=
  if a.toNat + b.toNat < UInt64.size then .ok (a + b) else .error .sum

def multiply (a b : UInt64) : Except Overflow UInt64 :=
  if a.toNat * b.toNat < UInt64.size then .ok (a * b) else .error .product

end Overflow

namespace Config

/-- Largest driver table: the first numbers of the queues are spread over 32 bits by table entry. -/
def driverLimit : UInt64 := 2048

/-- Deepest queue: drivers report their own limits in one byte. -/
def depthLimit : UInt64 := 255

/-- The first reason to refuse a configuration, if there is one. -/
def fault? (config : Config) : Option CapacityFault :=
  if config.maxDrivers = 0 then some .noDrivers
  else if driverLimit < config.maxDrivers then some .tooManyDrivers
  else if config.sendDepth = 0 ∨ config.receiveDepth = 0 then some .emptyQueue
  else if depthLimit < config.sendDepth ∨ depthLimit < config.receiveDepth then some .deepQueue
  else none

/-- A configuration from which a hub can be built. -/
def Valid (config : Config) : Prop := config.fault? = none

instance (config : Config) : Decidable config.Valid :=
  inferInstanceAs (Decidable (config.fault? = none))

/-- The configuration itself, or the first reason to refuse it. -/
def validated (config : Config) : Except CapacityFault Config :=
  match config.fault? with
  | some fault => .error fault
  | none => .ok config

abbrev drivers (config : Config) : Nat := config.maxDrivers.toNat

/-- Request slots for all drivers together. -/
abbrev slots (config : Config) : Nat :=
  (config.sendDepth.toNat + config.receiveDepth.toNat) * config.drivers +
    config.spareRequests.toNat

/-- The request slots, counted in a 64-bit word. -/
def requestSlots (config : Config) : Except Overflow UInt64 := do
  let depths ← Overflow.add config.sendDepth config.receiveDepth
  let guaranteed ← Overflow.multiply depths config.maxDrivers
  Overflow.add guaranteed config.spareRequests

end Config
end DriverHub
