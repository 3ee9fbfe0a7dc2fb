/-!
Checks that should never fail. Each is an outcome of its own, so that it can be proved that it does
not come about.
-/
namespace DriverHub

/-- A check that failed: of the hub's own bookkeeping, or of the bounds of an array. -/
inductive Defect where
  -- A queue was begun while requests were in it.
  | beginOnPending
  -- A reserved slot was no longer the first free one.
  | staleTicket
  -- A queue had a depth and no first slot.
  | missingFirst
  -- The count of free slots fell below zero.
  | freeUnderflow
  -- A spare was taken and there was none.
  | spareUnderflow
  -- A spare was given back and none was out.
  | spareOverflow
  -- An entry without a driver was restarted or taken down.
  | freeEntry
  -- The count of pending drivers fell below zero.
  | pendingUnderflow
  -- More was read from an array, or written into it, than it holds.
  | outOfRange
deriving DecidableEq

def Defect.message : Defect → String
  | .beginOnPending => "queue begun with pending requests"
  | .staleTicket => "ticket no longer heads the free list"
  | .missingFirst => "queue depth without requests"
  | .freeUnderflow => "free slot count underflow"
  | .spareUnderflow => "spare pool underflow"
  | .spareOverflow => "spare pool overflow"
  | .freeEntry => "free driver entry in use"
  | .pendingUnderflow => "pending driver count underflow"
  | .outOfRange => "index out of range"

end DriverHub
