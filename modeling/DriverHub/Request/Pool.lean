import DriverHub.Config.Basic
import DriverHub.Defect
import DriverHub.Grant
import DriverHub.Request.Kind

/-!
The request slots that all queues share. Slots form linked lists through one `next` field: the free
list, and one list for each queue. A slot on the free list can be prepared for a request without
being taken off, so that giving up the request needs nothing undone.
-/
namespace DriverHub

/-- The grants of one request, by segment. -/
abbrev SlotGrants := Vector (Option GrantId) maxSegments

def SlotGrants.none : SlotGrants := Vector.replicate maxSegments Option.none

/-- The grants of a list, from the first position on. -/
def SlotGrants.ofList (grants : List GrantId) : SlotGrants := Vector.ofFn fun i => grants[i.val]?

/-- Puts the grants of a list into the positions from the first on; there must be that many. -/
def SlotGrants.place (grants : List GrantId) : Except Defect SlotGrants :=
  if maxSegments < grants.length then .error .outOfRange else .ok (.ofList grants)

/-- The values before the first gap. -/
def leading {α : Type} : List (Option α) → List α
  | some a :: rest => a :: leading rest
  | _ => []

/-- The grants in use: those before the first empty position. -/
def SlotGrants.recorded (grants : SlotGrants) : List GrantId := leading grants.toList

/-- A request slot of a pool of `n`. -/
structure Slot (n : Nat) where
  next : Option (Fin n)
  kind : RequestKind
  grants : SlotGrants
deriving DecidableEq

/-- A pool of `n` request slots. -/
structure SlotPool (n : Nat) where
  slots : Vector (Slot n) n
  freeFirst : Option (Fin n)
  freeCount : Nat
  spares : Nat
  spareTotal : Nat

namespace SlotPool

variable {n : Nat}

/-- The slot of this index, if the pool is that large. -/
def slotAt? (n index : Nat) : Option (Fin n) := if h : index < n then some ⟨index, h⟩ else none

/-- A pool with every slot free, the lowest first, and this many spares. -/
def new (n spares : Nat) : SlotPool n where
  slots := Vector.ofFn fun i => ⟨slotAt? n (i.val + 1), .send, SlotGrants.none⟩
  freeFirst := slotAt? n 0
  freeCount := n
  spares := spares
  spareTotal := spares

def slot (pool : SlotPool n) (i : Fin n) : Slot n := pool.slots[i]

def modify (pool : SlotPool n) (i : Fin n) (f : Slot n → Slot n) : SlotPool n :=
  { pool with slots := pool.slots.set i (f (pool.slot i)) }

/-- Records the grants of a request. -/
def setGrants (pool : SlotPool n) (i : Fin n) (grants : SlotGrants) : SlotPool n :=
  pool.modify i fun slot => { slot with grants }

/-- Records one grant of a request. -/
def setGrant (pool : SlotPool n) (i : Fin n) (position : Fin maxSegments) (grant : GrantId) :
    SlotPool n :=
  pool.setGrants i ((pool.slot i).grants.set position (some grant))

/-- Links a slot to the one behind it. -/
def link (pool : SlotPool n) (i : Fin n) (next : Option (Fin n)) : SlotPool n :=
  pool.modify i fun slot => { slot with next }

/-- The first free slot, prepared for a request of this kind; it stays free. -/
def prime (pool : SlotPool n) (kind : RequestKind) : Option (Fin n × SlotPool n) :=
  match pool.freeFirst with
  | none => none
  | some i => some (i, pool.modify i fun slot => { slot with kind, grants := SlotGrants.none })

/-- Takes the slot `i`, which must be the first free one, off the free list. -/
def take (pool : SlotPool n) (i : Fin n) : Except Defect (SlotPool n) :=
  if pool.freeFirst ≠ some i then .error .staleTicket
  else if pool.freeCount = 0 then .error .freeUnderflow
  else
    .ok { pool.link i none with
      freeFirst := (pool.slot i).next
      freeCount := pool.freeCount - 1 }

/-- Puts a slot in front of the free list and forgets its grants; answers those it had in use. -/
def release (pool : SlotPool n) (i : Fin n) : List GrantId × SlotPool n :=
  ((pool.slot i).grants.recorded,
    { (pool.setGrants i SlotGrants.none).link i pool.freeFirst with
      freeFirst := some i
      freeCount := pool.freeCount + 1 })

/-- Forgets the grants of a slot; answers those it had in use. -/
def clearGrants (pool : SlotPool n) (i : Fin n) : List GrantId × SlotPool n :=
  ((pool.slot i).grants.recorded, pool.setGrants i SlotGrants.none)

def takeSpare (pool : SlotPool n) : Except Defect (SlotPool n) :=
  if pool.spares = 0 then .error .spareUnderflow
  else .ok { pool with spares := pool.spares - 1 }

def returnSpare (pool : SlotPool n) : Except Defect (SlotPool n) :=
  if pool.spareTotal ≤ pool.spares then .error .spareOverflow
  else .ok { pool with spares := pool.spares + 1 }

end SlotPool
end DriverHub
