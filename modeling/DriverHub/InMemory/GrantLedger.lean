import DriverHub.Grant

/-!
A grant table that shares no memory but keeps account of its grants. Numbers are given out in order
and never twice. It can be told to run out of grants, and to fail to revoke them.
-/
namespace DriverHub

/-- Which grants are live, and which were revoked. -/
structure GrantLedger where
  -- Number of the next grant.
  next : Nat := 0
  -- The live grants, the latest first.
  live : List (GrantId × Grant) := []
  -- The revoked grants in the order of their revocation.
  revoked : Array GrantId := #[]
  -- How many more grants may be created, if that is limited.
  budget : Option Nat := none
  -- Whether every revocation fails.
  corrupted : Bool := false

namespace GrantLedger

/-- The live grant of this number. -/
def grant? (ledger : GrantLedger) (id : GrantId) : Option Grant :=
  (ledger.live.find? (·.1 = id)).map (·.2)

def isLive (ledger : GrantLedger) (id : GrantId) : Bool := (ledger.grant? id).isSome

def liveCount (ledger : GrantLedger) : Nat := ledger.live.length

/-- Lets only so many more grants be created, or any number. -/
def limit (ledger : GrantLedger) (budget : Option Nat) : GrantLedger := { ledger with budget }

/-- Makes every later revocation fail, or none. -/
def failRevokes (ledger : GrantLedger) (corrupted : Bool) : GrantLedger :=
  { ledger with corrupted }

/-- Creates a grant, unless the budget or the numbers are used up. A grant counts against the
budget even if there is no number left for it. -/
def create (ledger : GrantLedger) (grant : Grant) : Option GrantId × GrantLedger :=
  if ledger.budget = some 0 then (none, ledger)
  else
    let ledger := { ledger with budget := ledger.budget.map (· - 1) }
    match GrantId.ofNat? ledger.next with
    | none => (none, ledger)
    | some id =>
      (some id, { ledger with next := ledger.next + 1, live := (id, grant) :: ledger.live })

def revoke (ledger : GrantLedger) (id : GrantId) : Except GrantError Unit × GrantLedger :=
  if ledger.corrupted then (.error .corrupted, ledger)
  else if ledger.isLive id then
    (.ok (), { ledger with
      live := ledger.live.filter (·.1 ≠ id)
      revoked := ledger.revoked.push id })
  else (.error (.notLive id), ledger)

instance : GrantTable GrantLedger := ⟨create, revoke⟩

end GrantLedger
end DriverHub
