import DriverHub.Discovery
import DriverHub.Request.Queue

/-!
Entries of the driver table. An entry is free, or belongs to a driver that has been asked to start
and has not answered, or to an active driver. A driver keeps its label and its interface while it
restarts.
-/
namespace DriverHub

/-- What an entry of the driver table is used for. `H` is the type of interface handles. -/
inductive DriverState (H : Type) where
  | free
  -- The driver was asked to start. It has an interface if it was active before.
  | pending (endpoint : Endpoint) (handle : Option H)
  | active (endpoint : Endpoint) (handle : H)
deriving DecidableEq

namespace DriverState

variable {H : Type}

def isFree : DriverState H → Bool
  | .free => true
  | _ => false

/-- Whether the entry's driver was asked to start and has not answered. -/
def isPending : DriverState H → Bool
  | .pending _ _ => true
  | _ => false

def isActive : DriverState H → Bool
  | .active _ _ => true
  | _ => false

/-- Where the driver takes its messages. -/
def endpoint? : DriverState H → Option Endpoint
  | .free => none
  | .pending endpoint _ | .active endpoint _ => some endpoint

def handle? : DriverState H → Option H
  | .free => none
  | .pending _ handle => handle
  | .active _ handle => some handle

end DriverState

/-- An entry of the driver table, with queues over a pool of `n` slots. -/
structure Driver (n : Nat) (H : Type) where
  state : DriverState H
  -- The label of the driver that has the entry.
  label : Option Label
  send : Queue n
  receive : Queue n

namespace Driver

variable {n : Nat} {H : Type}

def queue (driver : Driver n H) : Direction → Queue n
  | .send => driver.send
  | .receive => driver.receive

def setQueue (driver : Driver n H) (direction : Direction) (queue : Queue n) : Driver n H :=
  match direction with
  | .send => { driver with send := queue }
  | .receive => { driver with receive := queue }

end Driver
end DriverHub
