import DriverHub.Hub.Basic
import Mathlib

/-! Who has an entry of the driver table. The entry keeps the label of its driver beside its state. In sound
tables the two go together, so that an entry is free, or has a driver with a label, which is pending or
active. -/
namespace DriverHub

/-- Who has an entry. -/
inductive Occupant (H : Type) where
  | free
  | pending (label : Label) (endpoint : Endpoint) (handle : Option H)
  | active (label : Label) (endpoint : Endpoint) (handle : H)
deriving DecidableEq

namespace Occupant

variable {H : Type} {occupant : Occupant H} {label : Label}

def isFree : Occupant H → Bool
  | .free => true
  | _ => false

def isPending : Occupant H → Bool
  | .pending _ _ _ => true
  | _ => false

def isActive : Occupant H → Bool
  | .active _ _ _ => true
  | _ => false

def label? : Occupant H → Option Label
  | .free => none
  | .pending label _ _ | .active label _ _ => some label

def endpoint? : Occupant H → Option Endpoint
  | .free => none
  | .pending _ endpoint _ | .active _ endpoint _ => some endpoint

def handle? : Occupant H → Option H
  | .free => none
  | .pending _ _ handle => handle
  | .active _ _ handle => some handle

/-- The state of the entry. -/
def driverState : Occupant H → DriverState H
  | .free => .free
  | .pending _ endpoint handle => .pending endpoint handle
  | .active _ endpoint handle => .active endpoint handle

@[simp] theorem isFree_driverState (occupant : Occupant H) :
    occupant.driverState.isFree = occupant.isFree := by cases occupant <;> rfl

@[simp] theorem isActive_driverState (occupant : Occupant H) :
    occupant.driverState.isActive = occupant.isActive := by cases occupant <;> rfl

@[simp] theorem isPending_driverState (occupant : Occupant H) :
    occupant.driverState.isPending = occupant.isPending := by cases occupant <;> rfl

@[simp] theorem endpoint?_driverState (occupant : Occupant H) :
    occupant.driverState.endpoint? = occupant.endpoint? := by cases occupant <;> rfl

@[simp] theorem handle?_driverState (occupant : Occupant H) :
    occupant.driverState.handle? = occupant.handle? := by cases occupant <;> rfl

theorem pending_ne_free {endpoint : Endpoint} {handle : Option H} :
    Occupant.pending label endpoint handle ≠ .free := nofun

theorem ne_free_of_label (h : occupant.label? = some label) : occupant ≠ .free := by
  rintro rfl
  cases h

end Occupant

namespace Driver

variable {n : Nat} {H : Type} {driver : Driver n H}

/-- The entry has a label exactly if it is in use. -/
def Labelled (driver : Driver n H) : Prop := driver.label.isSome = !driver.state.isFree

def occupant (driver : Driver n H) : Occupant H :=
  match driver.label, driver.state with
  | some label, .pending endpoint handle => .pending label endpoint handle
  | some label, .active endpoint handle => .active label endpoint handle
  | _, _ => .free

/-- The entry with another occupant. -/
def seat (driver : Driver n H) (occupant : Occupant H) : Driver n H :=
  { driver with state := occupant.driverState, label := occupant.label? }

@[simp] theorem occupant_seat (driver : Driver n H) (occupant : Occupant H) :
    (driver.seat occupant).occupant = occupant := by cases occupant <;> rfl

theorem labelled_seat (driver : Driver n H) (occupant : Occupant H) :
    (driver.seat occupant).Labelled := by cases occupant <;> rfl

@[simp] theorem occupant_setQueue (driver : Driver n H) (direction : Direction) (queue : Queue n) :
    (driver.setQueue direction queue).occupant = driver.occupant := by cases direction <;> rfl

/-- Label and state of an entry are those of its occupant. -/
theorem Labelled.seat_occupant (h : driver.Labelled) : driver.seat driver.occupant = driver := by
  obtain ⟨state, label, send, receive⟩ := driver
  cases label <;> cases state <;> first | rfl | cases h

theorem Labelled.state_eq (h : driver.Labelled) : driver.state = driver.occupant.driverState :=
  (congrArg Driver.state h.seat_occupant).symm

theorem Labelled.label_eq (h : driver.Labelled) : driver.label = driver.occupant.label? :=
  (congrArg Driver.label h.seat_occupant).symm

end Driver
end DriverHub
