import DriverHub.Request.Bank
import DriverHub.Proofs.Hub.Lanes
import DriverHub.Proofs.Session.InStep

/-! A bank is a stack of free slots and a list for each queue. A shelf is that and nothing else, and what
is done with a bank and with a shelf comes out the same: the same answers, and the same calls of the grant
table in the same order. -/
namespace DriverHub

open Function SessionM

variable {n m : Nat} {γ : Type}

/-- The grants of a slot that come before its first empty entry, in order. -/
def SlotGrants.upToGap (grants : SlotGrants) : List GrantId :=
  (grants.toList.takeWhile Option.isSome).reduceOption

/-- A stack of free slots, the top first, and `m` lists of requests. -/
structure Shelf (n m : Nat) where
  free : List (Fin n)
  lane : Fin m → Lane n
  -- Length up to which the requests of a lane need no spare.
  guaranteed : Fin m → Nat
  spares : Nat
  spareTotal : Nat

abbrev ShelfM (n m : Nat) (γ α : Type) := SessionM (Shelf n m) Unit γ Unit Empty α

namespace Shelf

/-- All slots on the stack in order, and empty lanes. -/
def new (n spares : Nat) (queues : List (UInt32 × Nat)) : Shelf n queues.length where
  free := List.finRange n
  lane i := ⟨(queues.get i).1, 0, []⟩
  guaranteed i := (queues.get i).2
  spares := spares
  spareTotal := spares

def depth (shelf : Shelf n m) (i : Fin m) : Nat := (shelf.lane i).bookings.length

/-- Whether one more request of this kind would need a spare: receives never do. -/
def needsSpare (shelf : Shelf n m) (i : Fin m) (kind : RequestKind) : Prop :=
  kind ≠ .receive ∧ shelf.guaranteed i ≤ shelf.depth i

instance (shelf : Shelf n m) (i : Fin m) (kind : RequestKind) : Decidable (shelf.needsSpare i kind) :=
  inferInstanceAs (Decidable (_ ∧ _))

/-- The ticket for a request: the slot on top of the stack, and the number behind those of the lane. -/
def ticket? (shelf : Shelf n m) (i : Fin m) (kind : RequestKind) : Option (Ticket n) :=
  if (shelf.lane i).limit ≤ shelf.depth i ∨ (shelf.needsSpare i kind ∧ shelf.spares = 0) then none
  else shelf.free.head?.map fun slot =>
    ⟨slot, (shelf.lane i).head + UInt32.ofNat (shelf.depth i), kind⟩

def setLane (shelf : Shelf n m) (i : Fin m) (lane : Lane n) : Shelf n m :=
  { shelf with lane := update shelf.lane i lane }

/-- The slot on top of the stack goes to the end of a lane. -/
def push (shelf : Shelf n m) (i : Fin m) (b : Booking n) : Shelf n m where
  free := shelf.free.tail
  lane := update shelf.lane i ((shelf.lane i).push b)
  guaranteed := shelf.guaranteed
  spares := shelf.spares - if shelf.needsSpare i b.kind then 1 else 0
  spareTotal := shelf.spareTotal

/-- The first slot of a lane goes to the top of the stack. -/
def pop (shelf : Shelf n m) (i : Fin m) : Except Defect (Shelf n m) :=
  match (shelf.lane i).bookings with
  | [] => .error .missingFirst
  | b :: _ =>
    let spares := shelf.spares +
      if b.kind ≠ .receive ∧ shelf.guaranteed i < shelf.depth i then 1 else 0
    if shelf.spareTotal < spares then .error .spareOverflow
    else .ok { shelf with
      free := b.slot :: shelf.free
      lane := update shelf.lane i (shelf.lane i).pop
      spares }

/-- The first slots of a lane go to the top of the stack, one after the other. -/
def popMany (shelf : Shelf n m) (i : Fin m) : (count : Nat) → Except Defect (Shelf n m)
  | 0 => .ok shelf
  | count + 1 => do (← shelf.pop i).popMany i count

variable [GrantTable γ]

def begin (i : Fin m) : ShelfM n m γ Unit := do
  let shelf ← tables
  if shelf.depth i = 0 then setTables (shelf.setLane i (shelf.lane i).begin)
  else fail (.defect .beginOnPending)

def activate (i : Fin m) (limit : Nat) : ShelfM n m γ Unit := do
  let shelf ← tables
  setTables (shelf.setLane i ((shelf.lane i).activate limit))

/-- All slots of a lane leave it, the first one first; it is closed and their grants are revoked. -/
def cancelAll (i : Fin m) : ShelfM n m γ Unit := do
  let shelf ← tables
  let popped ← expect (shelf.popMany i (shelf.depth i))
  setTables (popped.setLane i { popped.lane i with limit := 0 })
  revokeGrants ((shelf.lane i).bookings.flatMap fun b => b.grants.upToGap)

/-- Makes grants for these positions; what was recorded before stays where none could be made. -/
def grantPositions (grants : SlotGrants) (grant : Grant) :
    List (Fin maxSegments) → ShelfM n m γ SlotGrants
  | [] => pure grants
  | position :: rest => do
    match ← createGrant grant with
    | none => grantPositions grants grant rest
    | some id => grantPositions (grants.set position (some id) position.isLt) grant rest

def request (i : Fin m) (kind : RequestKind) (grant : Grant) (continuation : Continuation) :
    ShelfM n m γ (Option (Ticket n)) := do
  let shelf ← tables
  match shelf.ticket? i kind with
  | none => pure none
  | some ticket =>
    match continuation with
    | .drop => pure (some ticket)
    | .commit positions => do
      let grants ← grantPositions .none grant positions
      setTables (shelf.push i ⟨ticket.slot, kind, grants⟩)
      pure (some ticket)
    | .abandon positions => do
      let grants ← grantPositions .none grant positions
      revokeGrants grants.upToGap
      pure (some ticket)

def complete (i : Fin m) (kind : RequestKind) (number : UInt32) : ShelfM n m γ Bool := do
  let shelf ← tables
  match (shelf.lane i).bookings with
  | [] => pure false
  | b :: _ =>
    if (shelf.lane i).head = number ∧ b.kind = kind then do
      setTables (← expect (shelf.pop i))
      revokeGrants b.grants.upToGap
      pure true
    else pure false

end Shelf

/-! What can be asked, and what is seen of it. -/

inductive BankOperation (m : Nat) where
  | begin (i : Fin m)
  | activate (i : Fin m) (limit : Nat)
  | cancelAll (i : Fin m)
  | request (i : Fin m) (kind : RequestKind) (grant : Grant) (continuation : Continuation)
  | complete (i : Fin m) (kind : RequestKind) (number : UInt32)

inductive BankAnswer (n : Nat) where
  | done
  | ticket (ticket? : Option (Ticket n))
  | completed (was : Bool)

/-- What can be read: how many slots are free, how many spares are left, and of each queue its head, its
depth and its limit. -/
structure BankReading (m : Nat) where
  free : Nat
  spares : Nat
  queue : Fin m → UInt32 × Nat × Nat

def Bank.reading (bank : Bank n m) : BankReading m where
  free := bank.pool.freeCount
  spares := bank.pool.spares
  queue i := ((bank.queue i).head, (bank.queue i).depth, (bank.queue i).limit)

def Shelf.reading (shelf : Shelf n m) : BankReading m where
  free := shelf.free.length
  spares := shelf.spares
  queue i := ((shelf.lane i).head, shelf.depth i, (shelf.lane i).limit)

variable [GrantTable γ]

def Bank.perform : BankOperation m → BankM n m γ (BankAnswer n)
  | .begin i => do
    Bank.begin i
    pure .done
  | .activate i limit => do
    Bank.activate i limit
    pure .done
  | .cancelAll i => do
    Bank.cancelAll i
    pure .done
  | .request i kind grant continuation => return .ticket (← Bank.request i kind grant continuation)
  | .complete i kind number => return .completed (← Bank.complete i kind number)

def Shelf.perform : BankOperation m → ShelfM n m γ (BankAnswer n)
  | .begin i => do
    Shelf.begin i
    pure .done
  | .activate i limit => do
    Shelf.activate i limit
    pure .done
  | .cancelAll i => do
    Shelf.cancelAll i
    pure .done
  | .request i kind grant continuation => return .ticket (← Shelf.request i kind grant continuation)
  | .complete i kind number => return .completed (← Shelf.complete i kind number)

/-- Performs operations in order, and answers with what is read after each. -/
def Bank.performAll : List (BankOperation m) → BankM n m γ (List (BankAnswer n × BankReading m))
  | [] => pure []
  | operation :: rest => do
    let answer ← Bank.perform operation
    let bank ← tables
    let answers ← Bank.performAll rest
    pure ((answer, bank.reading) :: answers)

def Shelf.performAll : List (BankOperation m) → ShelfM n m γ (List (BankAnswer n × BankReading m))
  | [] => pure []
  | operation :: rest => do
    let answer ← Shelf.perform operation
    let shelf ← tables
    let answers ← Shelf.performAll rest
    pure ((answer, shelf.reading) :: answers)

end DriverHub
