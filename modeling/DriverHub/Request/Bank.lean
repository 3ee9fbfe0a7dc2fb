import DriverHub.Request.Queue
import DriverHub.Session

/-!
A bank: any number of queues over one pool of request slots and one grant table.
-/
namespace DriverHub

/-- A pool of `n` slots and `m` queues over it. -/
structure Bank (n m : Nat) where
  pool : SlotPool n
  queues : Vector (Queue n) m

/-- Something done with a bank and its grant table. -/
abbrev BankM (n m : Nat) (γ α : Type) := SessionM (Bank n m) Unit γ Unit Empty α

/-- What becomes of a request for which a slot was reserved. -/
inductive Continuation where
  -- Nothing more is done.
  | drop
  -- Grants are made for these positions, and the request enters the queue.
  | commit (positions : List (Fin maxSegments))
  -- Grants are made for these positions and revoked again.
  | abandon (positions : List (Fin maxSegments))

namespace Bank

open SessionM

variable {n m : Nat}

/-- A bank with every slot free; each queue is given by its first number and its guarantee. -/
def new (n spares : Nat) (queues : List (UInt32 × Nat)) : Bank n queues.length where
  pool := SlotPool.new n spares
  queues := Vector.ofFn fun i => Queue.new queues[i].1 queues[i].2

def queue (bank : Bank n m) (i : Fin m) : Queue n := bank.queues.get i

/-- Replaces a queue and the pool. -/
def settle (bank : Bank n m) (i : Fin m) (queue : Queue n) (pool : SlotPool n) : Bank n m where
  pool := pool
  queues := bank.queues.set i queue i.isLt

variable {γ : Type} [GrantTable γ]

/-- Makes a queue ready for a new start. -/
def begin (i : Fin m) : BankM n m γ Unit := do
  let bank ← tables
  let queue ← expect (bank.queue i).begin
  setTables (bank.settle i queue bank.pool)

def activate (i : Fin m) (limit : Nat) : BankM n m γ Unit := do
  let bank ← tables
  setTables (bank.settle i ((bank.queue i).activate limit) bank.pool)

/-- Cancels every request of a queue and revokes their grants. -/
def cancelAll (i : Fin m) : BankM n m γ Unit := do
  let bank ← tables
  let gone ← expect ((bank.queue i).cancelAll bank.pool)
  setTables (bank.settle i gone.queue gone.pool)
  revokeGrants gone.grants

/-- Makes grants of the same region for the given positions of a slot; a position for which none
could be made stays as it is. -/
def grantPositions (slot : Fin n) (grant : Grant) : List (Fin maxSegments) → BankM n m γ Unit
  | [] => pure ()
  | position :: rest => do
    match ← createGrant grant with
    | none => pure ()
    | some id => do
      let bank ← tables
      setTables { bank with pool := bank.pool.setGrant slot position id }
    grantPositions slot grant rest

/-- Reserves a slot for a request of this kind and goes on with it; answers the ticket unless the
queue refuses. -/
def request (i : Fin m) (kind : RequestKind) (grant : Grant) (continuation : Continuation) :
    BankM n m γ (Option (Ticket n)) := do
  let bank ← tables
  match (bank.queue i).reserve bank.pool kind with
  | none => pure none
  | some (ticket, pool) => do
    setTables { bank with pool }
    match continuation with
    | .drop => pure (some ticket)
    | .commit positions => do
      grantPositions ticket.slot grant positions
      let bank ← tables
      let (queue, pool) ← expect ((bank.queue i).commit bank.pool ticket)
      setTables (bank.settle i queue pool)
      pure (some ticket)
    | .abandon positions => do
      grantPositions ticket.slot grant positions
      let bank ← tables
      let (grants, pool) := bank.pool.clearGrants ticket.slot
      setTables { bank with pool }
      revokeGrants grants
      pure (some ticket)

/-- Takes the request in front out of a queue if it has this kind and number, and revokes its
grants; answers whether it had. -/
def complete (i : Fin m) (kind : RequestKind) (number : UInt32) : BankM n m γ Bool := do
  let bank ← tables
  match ← expect ((bank.queue i).complete? bank.pool kind number) with
  | none => pure false
  | some gone => do
    setTables (bank.settle i gone.queue gone.pool)
    revokeGrants gone.grants
    pure true

end Bank
end DriverHub
