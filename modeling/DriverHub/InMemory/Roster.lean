import DriverHub.Discovery

/-!
A discovery source under the control of its owner: the labels that are present, and the changes
that were not yet asked for.
-/
namespace DriverHub

/-- The drivers that are present, and the changes still to be reported. -/
structure Roster where
  -- Labels as bytes, each once.
  present : List (List UInt8) := []
  -- Changes, the oldest first.
  events : List DriverEvent := []
  -- The next time the source is asked, it fails with this code.
  failure : Option Int := none

namespace Roster

/-- Queues a change without touching which drivers are present. -/
def announce (roster : Roster) (event : DriverEvent) : Roster :=
  { roster with events := roster.events ++ [event] }

/-- A driver came up, for the first time or again. -/
def start (roster : Roster) (label : String) (endpoint : Endpoint) : Roster :=
  { roster with present := roster.present.insert (Bytes.ofText label) }.announce
    (.up (Bytes.ofText label ++ [0]) endpoint)

/-- A driver is gone. -/
def stop (roster : Roster) (label : String) : Roster :=
  { roster with present := roster.present.filter (· ≠ Bytes.ofText label) }.announce
    (.down (Bytes.ofText label ++ [0]))

/-- Makes the source fail the next time it is asked. -/
def failNext (roster : Roster) (code : Int) : Roster := { roster with failure := some code }

/-- The next change; a failure that is due comes first. -/
def poll (roster : Roster) : Except DiscoveryError (Option DriverEvent) × Roster :=
  match roster.failure, roster.events with
  | some code, _ => (.error ⟨code⟩, { roster with failure := none })
  | none, [] => (.ok none, roster)
  | none, event :: rest => (.ok (some event), { roster with events := rest })

instance : Discovery Roster where
  poll := poll
  isPresent roster label := label.bytes ∈ roster.present
  backlog roster := roster.events.length
  backlog_poll := by
    intro roster event rest polled
    unfold poll at polled
    split at polled
    · simp at polled
    · simp at polled
    · rename_i queued
      simp only [Prod.mk.injEq] at polled
      simp [← polled.2, queued]

end Roster
end DriverHub
