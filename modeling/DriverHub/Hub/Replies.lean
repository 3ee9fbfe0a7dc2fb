import DriverHub.Hub.Handshake

/-!
Replies of drivers. A reply goes to the first entry whose driver is at its endpoint. It finishes
the request in front of its queue if it has that request's kind and number, and is dropped
otherwise.
-/
namespace DriverHub.Hub

open SessionM

variable {config : Config} {τ γ ι H : Type}
variable [Transport τ] [GrantTable γ] [Interface ι H]

/-- Takes the request in front out of a queue of an entry, if it has this kind and number. -/
def completed? (hub : Hub config H) (i : Fin config.drivers) (kind : RequestKind)
    (number : UInt32) : Except Defect (Option (List GrantId × Hub config H)) := do
  match ← ((hub.driver i).queue kind.direction).complete? hub.pool kind number with
  | none => return none
  | some gone =>
    return some (gone.grants,
      { hub.modify i fun driver => driver.setQueue kind.direction gone.queue with
        pool := gone.pool })

/-- The driver of an entry finished a request. -/
def finish (i : Fin config.drivers) (kind : RequestKind) (number : UInt32) (result : Int32) :
    HubM config τ γ ι H Unit := do
  let hub ← tables
  match (hub.driver i).state with
  | .active _ handle => do
    match ← expect (hub.completed? i kind number) with
    | none => note (.staleReply kind number)
    | some (grants, hub) => do
      setTables hub
      revokeGrants grants
      reportFinished ⟨i⟩ kind handle result
  | _ => note (.inactiveReply kind number)

/-- The driver of an entry reported its status. It sends no further report before this one is
acknowledged. -/
def takeStatus (i : Fin config.drivers) (number : UInt32) (report : StatusReport) :
    HubM config τ γ ι H Unit := do
  let hub ← tables
  match (hub.driver i).state with
  | .active endpoint handle => do
    reportStatus ⟨i⟩ handle report
    post ⟨i⟩ endpoint (.acknowledge number)
  | _ => note (.inactiveStatus number)

/-- A reply came from an endpoint. -/
def process (endpoint : Endpoint) (reply : Reply) : HubM config τ γ ι H Unit := do
  match (← tables).findEndpoint endpoint with
  | none => note (.unknownEndpoint reply.type endpoint)
  | some i =>
    match reply with
    | .init reply => initReply i reply
    | .finished kind number result => finish i kind number result
    | .status number report => takeStatus i number report

/-- Bytes came from an endpoint. -/
def processFrame (endpoint : Endpoint) (bytes : List UInt8) : HubM config τ γ ι H Unit := do
  match ← expect (Reply.decode bytes) with
  | .ok reply => process endpoint reply
  | .error (.unknownType code) => note (.unknownType code endpoint)
  | .error error => note (.malformedFrame endpoint error)

end DriverHub.Hub
