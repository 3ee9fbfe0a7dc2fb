import DriverHub.Interface

/-!
An interface layer that keeps the calls it accepted, and can be told to refuse. Handles are
numbered from one in the order of creation.
-/
namespace DriverHub

/-- A call that was accepted. -/
inductive Callback where
  | added (handle : Nat) (driver : DriverId) (name : InterfaceName) (capabilities : Capabilities)
  | enabled (handle : Nat) (enablement : Enablement)
  | disabled (handle : Nat)
  | removed (handle : Nat)
  | finished (kind : RequestKind) (handle : Nat) (result : Int32)
  | status (handle : Nat) (report : StatusReport)
deriving DecidableEq

/-- The calls accepted so far, in order. -/
structure CallbackLog where
  -- Number of interfaces added.
  count : Nat := 0
  callbacks : Array Callback := #[]
  refusesAdd : Bool := false
  refusesEnable : Bool := false

namespace CallbackLog

def keep (log : CallbackLog) (callback : Callback) : CallbackLog :=
  { log with callbacks := log.callbacks.push callback }

instance : Interface CallbackLog Nat where
  add log driver name capabilities :=
    if log.refusesAdd then (none, log)
    else
      let handle := log.count + 1
      (some handle, { log with count := handle }.keep (.added handle driver name capabilities))
  enable log handle enablement :=
    if log.refusesEnable then (false, log) else (true, log.keep (.enabled handle enablement))
  disable log handle := log.keep (.disabled handle)
  remove log handle := log.keep (.removed handle)
  finished log kind handle result := log.keep (.finished kind handle result)
  status log handle report := log.keep (.status handle report)

/-- Refuses every later interface, or none. -/
def setRefusesAdd (log : CallbackLog) (refuses : Bool) : CallbackLog :=
  { log with refusesAdd := refuses }

/-- Refuses to enable any interface from now on, or none. -/
def setRefusesEnable (log : CallbackLog) (refuses : Bool) : CallbackLog :=
  { log with refusesEnable := refuses }

def clear (log : CallbackLog) : CallbackLog := { log with callbacks := #[] }

end CallbackLog
end DriverHub
