import DriverHub.Request.Pool

/-!
A queue of requests in flight. The request at its front carries the queue's head number, and each
behind it the next one, so a reply is matched by its number with the front alone. Numbers are
32-bit words that only move forward and wrap around.
-/
namespace DriverHub

/-- A queue over a pool of `n` slots. -/
structure Queue (n : Nat) where
  -- Number of the request in front, or of the next one if the queue is empty.
  head : UInt32
  -- Requests in flight.
  depth : Nat
  -- Most requests that may be in flight; zero while the driver is not active.
  limit : Nat
  -- Depth up to which no spare is needed.
  guaranteed : Nat
  first : Option (Fin n)
  last : Option (Fin n)
deriving DecidableEq

/-- A slot reserved for a request that is not yet in its queue. -/
structure Ticket (n : Nat) where
  slot : Fin n
  -- The number the request will have.
  number : UInt32
  kind : RequestKind

/-- Queue and pool after requests left the queue, with the grants of these requests. -/
structure Released (n : Nat) where
  queue : Queue n
  pool : SlotPool n
  grants : List GrantId

namespace Queue

variable {n : Nat}

/-- An empty queue that admits nothing yet. -/
def new (head : UInt32) (guaranteed : Nat) : Queue n where
  head := head
  depth := 0
  limit := 0
  guaranteed := guaranteed
  first := none
  last := none

/-- Whether the queue is not at its limit. -/
def hasRoom (queue : Queue n) : Bool := queue.depth < queue.limit

/-- Makes an empty queue ready for a new start of its driver, at a fresh number. -/
def begin (queue : Queue n) : Except Defect (Queue n) :=
  if queue.depth ≠ 0 then .error .beginOnPending
  else .ok { queue with head := queue.head + 1, depth := 0, limit := 0, first := none, last := none }

/-- Opens the queue for up to `limit` requests, at a fresh number. -/
def activate (queue : Queue n) (limit : Nat) : Queue n :=
  { queue with limit, head := queue.head + 1 }

/-- Whether one more request of this kind would need a spare. -/
def needsSpare (queue : Queue n) (kind : RequestKind) : Bool :=
  kind.usesSpares && queue.guaranteed ≤ queue.depth

/-- Whether a request of this kind is refused, however many slots are free. -/
def refuses (queue : Queue n) (pool : SlotPool n) (kind : RequestKind) : Bool :=
  queue.limit ≤ queue.depth || (queue.needsSpare kind && pool.spares = 0)

/-- Reserves the first free slot for a request of this kind, if the queue admits one. -/
def reserve (queue : Queue n) (pool : SlotPool n) (kind : RequestKind) :
    Option (Ticket n × SlotPool n) :=
  if queue.refuses pool kind then none
  else (pool.prime kind).map fun (slot, pool) =>
    (⟨slot, queue.head + UInt32.ofNat queue.depth, kind⟩, pool)

/-- Puts a slot behind the last one of the queue. -/
def append (queue : Queue n) (pool : SlotPool n) (slot : Fin n) : Queue n × SlotPool n :=
  match queue.last with
  | some last =>
    ({ queue with last := some slot, depth := queue.depth + 1 }, pool.link last (some slot))
  | none => ({ queue with first := some slot, last := some slot, depth := queue.depth + 1 }, pool)

/-- Puts the reserved request at the end of the queue. -/
def commit (queue : Queue n) (pool : SlotPool n) (ticket : Ticket n) :
    Except Defect (Queue n × SlotPool n) := do
  let pool ← if queue.needsSpare ticket.kind then pool.takeSpare else .ok pool
  let pool ← pool.take ticket.slot
  return queue.append pool ticket.slot

/-- Takes the request in front out of the queue, and gives back its slot and the spare it leaves. -/
def advance (queue : Queue n) (pool : SlotPool n) : Except Defect (Released n) :=
  match queue.first with
  | none => .error .missingFirst
  | some slot => do
    let ⟨next, kind, _⟩ := pool.slot slot
    let pool ← if kind.usesSpares && queue.guaranteed < queue.depth then pool.returnSpare
      else .ok pool
    let (grants, pool) := pool.release slot
    let last := if next.isNone then none else queue.last
    return {
      queue := { queue with head := queue.head + 1, depth := queue.depth - 1, first := next, last }
      pool
      grants }

/-- Takes the request in front out of the queue if it has this kind and number. Nothing changes
otherwise. -/
def complete? (queue : Queue n) (pool : SlotPool n) (kind : RequestKind) (number : UInt32) :
    Except Defect (Option (Released n)) :=
  if queue.depth = 0 ∨ queue.head ≠ number then .ok none
  else
    match queue.first with
    | none => .ok none
    | some slot =>
      if (pool.slot slot).kind = kind then (queue.advance pool).map some else .ok none

/-- Takes `count` requests out of the queue, the one in front first. -/
def drain (queue : Queue n) (pool : SlotPool n) : (count : Nat) → Except Defect (Released n)
  | 0 => .ok ⟨queue, pool, []⟩
  | count + 1 => do
    let gone ← queue.advance pool
    let rest ← drain gone.queue gone.pool count
    return { rest with grants := gone.grants ++ rest.grants }

/-- Cancels every request and closes the queue until it is activated again. -/
def cancelAll (queue : Queue n) (pool : SlotPool n) : Except Defect (Released n) := do
  let rest ← queue.drain pool queue.depth
  return { rest with queue := { rest.queue with limit := 0 } }

end Queue
end DriverHub
