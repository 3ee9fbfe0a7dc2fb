import DriverHub.Hub.Basic

/-!
How drivers come and go. Discovery reports drivers that came up: a new one gets a free entry, a
known one is restarted in its entry. A driver whose label has vanished is taken down. Whenever a
driver starts, its queues move to fresh numbers, so that answers meant for its last life match
nothing.
-/
namespace DriverHub.Hub

open SessionM

variable {config : Config} {τ γ ι H δ : Type}
variable [Transport τ] [GrantTable γ] [Interface ι H] [Discovery δ]

/-- Cancels every request of an entry and revokes their grants. -/
def cancelRequests (i : Fin config.drivers) : HubM config τ γ ι H Unit := do
  let (grants, hub) ← expect ((← tables).cancelled i)
  setTables hub
  revokeGrants grants

/-- Asks the driver of an entry to start; the number is that of its send queue. -/
def postInit (i : Fin config.drivers) (endpoint : Endpoint) : HubM config τ γ ι H Unit := do
  let hub ← tables
  post ⟨i⟩ endpoint (.init (hub.driver i).send.head)

/-- A known driver came up again, perhaps at another endpoint. -/
def restart (i : Fin config.drivers) (endpoint : Endpoint) : HubM config τ γ ι H Unit := do
  cancelRequests i
  let hub ← expect ((← tables).begun i)
  match (hub.driver i).state with
  | .free => fail (.defect .freeEntry)
  | .pending _ handle => setTables (hub.setState i (.pending endpoint handle))
  | .active _ handle => do
    -- The interface stays with the entry until the driver is active again or gone.
    disableInterface ⟨i⟩ handle
    setTables { hub.setState i (.pending endpoint (some handle)) with
      pending := hub.pending + 1 }
  note (.restarted ⟨i⟩ endpoint)
  postInit i endpoint

/-- A driver is gone: its requests are cancelled and its interface, if any, is removed. -/
def takeDown (i : Fin config.drivers) : HubM config τ γ ι H Unit := do
  cancelRequests i
  let hub ← tables
  match (hub.driver i).state with
  | .free => fail (.defect .freeEntry)
  | .pending endpoint handle => do
    let hub ← expect hub.settled
    match handle with
    | some handle => removeInterface ⟨i⟩ handle
    | none => pure ()
    note (.gone ⟨i⟩ endpoint)
    setTables (hub.freed i)
  | .active endpoint handle => do
    removeInterface ⟨i⟩ handle
    note (.gone ⟨i⟩ endpoint)
    setTables (hub.freed i)

/-- A driver came up. If it is new and the table is full, it is passed over; the first time this
happens it is reported. -/
def bringUp (label : Label) (endpoint : Endpoint) : HubM config τ γ ι H Unit := do
  let hub ← tables
  match hub.findLabel label with
  | some i => restart i endpoint
  | none =>
    match hub.findFree with
    | none => do
      setTables { hub with dropped := hub.dropped + 1, fullReported := true }
      if hub.fullReported then pure () else note (.tableFull label)
    | some i => do
      let hub ← expect ((hub.occupied i label endpoint).begun i)
      setTables hub
      note (.up ⟨i⟩ label endpoint)
      postInit i endpoint

/-- Acts on a change reported by discovery. Only a driver that came up at a known endpoint with a
valid label matters; drivers that went down are found by their labels. -/
def apply (event : DriverEvent) : HubM config τ γ ι H Unit :=
  match event.status, event.endpoint with
  | .up, some endpoint =>
    match event.label? with
    | some label => bringUp label endpoint
    | none => note (.malformedLabel endpoint)
  | _, _ => pure ()

/-- Acts on every change that discovery has to report, up to the first failure to ask. -/
def takeEvents (source : δ) : HubM config τ γ ι H δ :=
  match _polled : Discovery.poll source with
  | (.ok (some event), rest) => do
    recordPoll (.ok (some event))
    apply event
    takeEvents rest
  | (.ok none, rest) => do
    recordPoll (.ok none)
    pure rest
  | (.error error, rest) => do
    recordPoll (.error error)
    note (.checkFailed error)
    pure rest
termination_by Discovery.backlog source
decreasing_by exact Discovery.backlog_poll _ _ _ _polled

/-- Takes down the driver of an entry if its label has vanished. -/
def sweepEntry (source : δ) (i : Fin config.drivers) : HubM config τ γ ι H Unit := do
  let hub ← tables
  match (hub.driver i).state.isFree, (hub.driver i).label with
  | false, some label =>
    if i < hub.highWater then do
      if ← lookUp source label then pure () else takeDown i
    else pure ()
  | _, _ => pure ()

/-- Takes down the drivers of the given entries whose labels have vanished. -/
def sweep (source : δ) : List (Fin config.drivers) → HubM config τ γ ι H Unit
  | [] => pure ()
  | i :: rest => do
    sweepEntry source i
    sweep source rest

/-- Brings the driver table in line with discovery: first drivers that came up are started, then
those that vanished are taken down. -/
def reconcile (source : δ) : HubM config τ γ ι H δ := do
  let source ← takeEvents source
  -- A driver keeps its label but not its endpoint while it restarts, so labels alone count here.
  sweep source (List.finRange config.drivers)
  pure source

end DriverHub.Hub
