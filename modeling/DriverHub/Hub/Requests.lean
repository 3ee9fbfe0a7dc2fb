import DriverHub.Hub.Basic

/-!
Requests to active drivers. A request is checked, a slot is reserved for it, the memory it needs is
granted, its frame is posted, and then it stands at the end of its queue. If any of the first three
fails, nothing stays behind.
-/
namespace DriverHub

/-- Where a list of multicast addresses lies, and how many there are. -/
structure MulticastList where
  address : UInt64
  count : UInt32
deriving DecidableEq

/-- A change of how a device works. Only the parts selected in `set` are sent. -/
structure Change where
  set : ChangeSet
  mode : Mode
  -- Needed if the mode asks for a list.
  multicast : Option MulticastList
  capabilities : Capabilities
  flags : UInt32
  media : UInt32
  address : HardwareAddress
deriving DecidableEq

namespace Change

/-- Whether the change turns on reception for a list of multicast addresses. -/
def needsList (change : Change) : Bool :=
  change.set.contains .mode && change.mode.contains .multicastList

/-- The multicast list to send with the change. -/
def list? (change : Change) : Except Refusal (Option MulticastList) :=
  if change.needsList then
    match change.multicast with
    | some list => if list.count = 0 then .error .missingMulticastList else .ok (some list)
    | none => .error .missingMulticastList
  else .ok none

/-- The memory a multicast list takes. -/
def region (list : MulticastList) : Segment :=
  ⟨list.address, UInt64.ofNat (list.count.toNat * addressSize)⟩

/-- The request for a change: parts that are not selected are zero. -/
def request (change : Change) (number : UInt32) (grant : Option GrantId)
    (list : Option MulticastList) : Reconfiguration where
  id := number
  set := change.set
  mode := if change.set.contains .mode then change.mode else ⟨0⟩
  capabilities := if change.set.contains .capabilities then change.capabilities else ⟨0⟩
  flags := if change.set.contains .flags then change.flags else 0
  media := if change.set.contains .media then change.media else 0
  multicastGrant := grant
  multicastCount := (list.map (·.count)).getD 0
  address := if change.set.contains .address then change.address else HardwareAddress.zero

end Change

/-- What the driver may do with the memory of a transfer. -/
def Direction.access : Direction → Access
  | .send => .read
  | .receive => .write

/-- The lengths of the segments of a transfer, if there are not too many and none is too long. -/
def segmentLengths (segments : List Segment) : Except Refusal (Vector UInt16 maxSegments) :=
  if maxSegments < segments.length then .error .tooManySegments
  else if segments.any fun segment => 65535 < segment.length then .error .segmentTooLarge
  else .ok (Vector.ofFn fun i => (segments[i.val]?.map fun s => s.length.toUInt16).getD 0)

/-- A request that was admitted: its driver, its ticket, and the tables with its slot prepared. -/
structure Admission (config : Config) (H : Type) where
  driver : Fin config.drivers
  endpoint : Endpoint
  ticket : Ticket config.slots
  tables : Hub config H

namespace Hub

open SessionM

variable {config : Config} {τ γ ι H : Type}

/-- Reserves a slot for a request of an active driver. -/
def reserve (hub : Hub config H) (i : Fin config.drivers) (endpoint : Endpoint)
    (kind : RequestKind) : Except Refusal (Admission config H) :=
  match ((hub.driver i).queue kind.direction).reserve hub.pool kind with
  | none => .error .busy
  | some (ticket, pool) => .ok ⟨i, endpoint, ticket, { hub with pool }⟩

/-- Checks a transfer and reserves a slot for it; answers the lengths of its segments too. -/
def admitTransfer (hub : Hub config H) (direction : Direction) (id : DriverId)
    (segments : List Segment) :
    Except Refusal (Admission config H × Vector UInt16 maxSegments) := do
  let (i, endpoint) ← hub.active id
  let lengths ← segmentLengths segments
  let admission ← hub.reserve i endpoint direction.kind
  return (admission, lengths)

/-- Checks a change and reserves a slot for it; answers the multicast list to send too. -/
def admitChange (hub : Hub config H) (id : DriverId) (change : Change) :
    Except Refusal (Admission config H × Option MulticastList) := do
  let (i, endpoint) ← hub.active id
  let list ← change.list?
  let admission ← hub.reserve i endpoint .configure
  return (admission, list)

variable [Transport τ] [GrantTable γ]

/-- Issues an admitted request: grants its memory, posts it and puts it into its queue; answers its
number. If the memory cannot be granted, the grants made for it are revoked. -/
def issue (admission : Admission config H) (access : Access) (segments : List Segment)
    (request : SlotGrants → Request) : HubM config τ γ ι H (Except Refusal UInt32) := do
  -- From here on the slot is prepared, but it is still the first free one.
  setTables admission.tables
  let (grants, complete) ← createGrants admission.endpoint access segments
  if complete then do
    let grants ← expect (SlotGrants.place grants)
    let hub := admission.tables
    setTables { hub with pool := hub.pool.setGrants admission.ticket.slot grants }
    -- The driver may answer at once, but its answer is taken only after this action.
    post ⟨admission.driver⟩ admission.endpoint (request grants)
    let hub ← expect ((← tables).committed admission.driver admission.ticket)
    setTables hub
    pure (.ok admission.ticket.number)
  else do
    -- The slot was never taken, so the grants are all there is to undo.
    revokeGrants grants
    pure (.error .noMemory)

/-- Asks a driver to transfer a packet held in memory, or into memory, in this direction. -/
def transfer (direction : Direction) (id : DriverId) (segments : List Segment) :
    HubM config τ γ ι H (Except Refusal UInt32) := do
  match (← tables).admitTransfer direction id segments with
  | .error refusal => pure (.error refusal)
  | .ok (admission, lengths) =>
    issue admission direction.access segments fun grants =>
      .transfer direction {
        id := admission.ticket.number
        count := UInt8.ofNat segments.length
        grants, lengths }

/-- Asks a driver to send the packet in the segments. They must stay as they are until the request
is finished. -/
def send (id : DriverId) (segments : List Segment) :
    HubM config τ γ ι H (Except Refusal UInt32) := transfer .send id segments

/-- Gives a driver memory to receive the next packet into. -/
def receive (id : DriverId) (segments : List Segment) :
    HubM config τ γ ι H (Except Refusal UInt32) := transfer .receive id segments

/-- Asks a driver to change how its device works. Nothing needs to be selected: the driver then
just confirms. -/
def configure (id : DriverId) (change : Change) :
    HubM config τ γ ι H (Except Refusal UInt32) := do
  match (← tables).admitChange id change with
  | .error refusal => pure (.error refusal)
  | .ok (admission, list) =>
    issue admission .read (list.map Change.region).toList fun grants =>
      .configure (change.request admission.ticket.number grants[0] list)

end Hub
end DriverHub
