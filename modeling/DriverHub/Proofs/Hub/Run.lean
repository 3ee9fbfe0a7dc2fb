import DriverHub.InMemory.CallbackLog
import DriverHub.InMemory.GrantLedger
import DriverHub.InMemory.Outbox
import DriverHub.InMemory.Roster
import DriverHub.Proofs.Hub.Issuing
import DriverHub.Proofs.Hub.Reaction

/-! Runs of a hub: any operations in any order, while between them the collaborators may change on
their own. What holds of a new hub and is kept by every move holds of every hub that can be reached. -/
namespace DriverHub

open Function

variable {config : Config} {τ γ ι H : Type}

/-- An operation of a hub with its arguments. -/
inductive Operation (config : Config) : Type 1 where
  | reconcile {δ : Type} [Discovery δ] (source : δ)
  | send (id : DriverId) (segments : List Segment)
  | receive (id : DriverId) (segments : List Segment)
  | configure (id : DriverId) (change : Change)
  | process (endpoint : Endpoint) (reply : Reply)
  | processFrame (endpoint : Endpoint) (bytes : List UInt8)

/-- The operation. It answers what a request answers; what a discovery source comes to is left out. -/
def Operation.run [Transport τ] [GrantTable γ] [Interface ι H] :
    Operation config → HubM config τ γ ι H (Option (Except Refusal UInt32))
  | @reconcile _ _ _ source => do
    let _ ← Hub.reconcile source
    pure none
  | .send id segments => do pure (some (← Hub.send id segments))
  | .receive id segments => do pure (some (← Hub.receive id segments))
  | .configure id change => do pure (some (← Hub.configure id change))
  | .process endpoint reply => do
    Hub.process endpoint reply
    pure none
  | .processFrame endpoint bytes => do
    Hub.processFrame endpoint bytes
    pure none

section Operations

variable [Transport τ] [GrantTable γ] [Interface ι H] {s t : HubSession config τ γ ι H}

/-- A later session with sound tables, after an operation with this answer: it made some moves, or a
request was issued or given up. -/
def Session.Ran (s : HubSession config τ γ ι H) (answer : Option (Except Refusal UInt32))
    (t : HubSession config τ γ ι H) : Prop :=
  t.tables.Sound ∧ (View.Moves s.view t.view ∧ answer ≠ some (.error .noMemory) ∨
    ∃ outcome, answer = some outcome ∧ View.Issue s.view outcome t.view)

/-- An operation only adds to the journal. -/
theorem Session.Ran.suffix {answer : Option (Except Refusal UInt32)} (h : s.Ran answer t) :
    s.journal <:+ t.journal := by
  obtain ⟨-, ⟨hmoves, -⟩ | ⟨outcome, -, hissue⟩⟩ := h
  · exact hmoves.suffix
  · exact hissue.suffix

theorem Hub.Asked.ran {answer : Except Refusal UInt32} (h : Hub.Asked s answer t) :
    s.Ran (some answer) t := by
  obtain ⟨hsound, ⟨hview, refusal, rfl, hrefusal⟩ | hissue⟩ := h
  · rw [Session.Ran, hview]
    refine ⟨hsound, .inl ⟨.refl, fun heq => hrefusal ?_⟩⟩
    cases heq
    rfl
  · exact ⟨hsound, .inr ⟨answer, rfl, hissue⟩⟩

theorem Operation.goes (h : s.tables.Sound) (operation : Operation config) :
    operation.run.Goes s s.Ran (Hub.Ended s) := by
  -- An operation either plays some moves and answers nothing, or asks for a request.
  have hplayed {α : Type} {action : HubM config τ γ ι H α} (hplays : Hub.Plays action s) :
      (do let _ ← action; pure none : HubM config τ γ ι H _).Goes s s.Ran (Hub.Ended s) := by
    rw [SessionM.goes_bind]
    exact SessionM.Goes.mono hplays (fun _ _ ht => ⟨ht.1, .inl ⟨ht.2, nofun⟩⟩) fun _ hended => hended
  have hasked {action : HubM config τ γ ι H (Except Refusal UInt32)} (hasks : Hub.Asks action s) :
      (do pure (some (← action)) : HubM config τ γ ι H _).Goes s s.Ran (Hub.Ended s) := by
    rw [SessionM.goes_bind]
    exact SessionM.Goes.mono hasks (fun _ _ ht => ht.ran) fun _ hhalts => ⟨s.view, .refl, hhalts⟩
  cases operation with
  | reconcile source => exact hplayed (Hub.plays_reconcile h source)
  | send id segments => exact hasked (Hub.asks_transfer h .send id segments)
  | receive id segments => exact hasked (Hub.asks_transfer h .receive id segments)
  | configure id change => exact hasked (Hub.asks_configure h id change)
  | process endpoint reply => exact hplayed (Hub.plays_process h endpoint reply)
  | processFrame endpoint bytes => exact hplayed (Hub.plays_processFrame h endpoint bytes)

end Operations

namespace Hub

/-- The tables without any driver, with these first numbers. -/
def startingAt (config : Config) (heads : LaneId config → UInt32) : Hub config H :=
  { (empty config : Hub config H) with
    drivers := Vector.ofFn fun i => freeDriver config (heads (i, .send)) (heads (i, .receive)) }

theorem empty_eq_startingAt (config : Config) :
    (empty config : Hub config H) = startingAt config fun k =>
      match k.2 with
      | .send => sendStart k.1
      | .receive => receiveStart k.1 := rfl

theorem startingAt_driver (heads : LaneId config → UInt32) (i : Fin config.drivers) :
    (startingAt config heads : Hub config H).driver i =
      freeDriver config (heads (i, .send)) (heads (i, .receive)) := Vector.getElem_ofFn ..

theorem startingAt_queues (heads : LaneId config → UInt32) (k : LaneId config) :
    (startingAt config heads : Hub config H).queues k = Queue.new (heads k)
      (match k.2 with
        | .send => config.sendDepth.toNat
        | .receive => config.receiveDepth.toNat) := by
  obtain ⟨i, d⟩ := k
  rw [queues, startingAt_driver]
  cases d <;> rfl

theorem startingAt_describes (heads : LaneId config → UInt32) :
    (⟨List.finRange config.slots, fun _ => []⟩ : Layout (LaneId config) config.slots).Describes
      (startingAt config heads : Hub config H).pool
      (startingAt config heads : Hub config H).queues := by
  apply Layout.describes_new
  intro k
  rw [startingAt_queues]
  exact ⟨rfl, rfl, rfl⟩

theorem startingAt_state (config : Config) (heads : LaneId config → UInt32) :
    (startingAt config heads : Hub config H).state = fun _ => .free := by
  funext i
  rw [state, startingAt_driver]
  rfl

theorem startingAt_lane (config : Config) (heads : LaneId config → UInt32) :
    (startingAt config heads : Hub config H).lane = fun k => ⟨heads k, 0, []⟩ := by
  funext k
  rw [lane, bookings, startingAt_queues]
  rfl

theorem startingAt_sound (config : Config) (heads : LaneId config → UInt32) :
    (startingAt config heads : Hub config H).Sound := by
  have hnone (k : LaneId config) : (startingAt config heads : Hub config H).bookings k = [] :=
    congrArg Lane.bookings (congrFun (startingAt_lane config heads) k)
  refine ⟨⟨⟨_, startingAt_describes heads⟩, ?kinds, ?gapless, ?bounded, ?guaranteed, ?spares, rfl⟩,
    ⟨⟨?free, fun hpos => absurd rfl hpos⟩, ?labelled, ?pending, rfl⟩, ?closed⟩
  case kinds =>
    intro k b hb
    rw [hnone] at hb
    cases hb
  case gapless =>
    intro k b hb
    rw [hnone] at hb
    cases hb
  case bounded =>
    intro k
    rw [hnone]
    exact Nat.zero_le _
  case guaranteed =>
    intro i
    rw [startingAt_queues]
    rfl
  case spares =>
    simp only [borrowed, hnone, owed, List.take_nil, List.countP_nil, Finset.sum_const_zero]
    rfl
  case closed =>
    intro i _ d
    rw [startingAt_lane]
  case labelled =>
    intro i
    rw [startingAt_driver]
    rfl
  case pending =>
    rw [startingAt_state]
    simp only [Occupant.isPending, Bool.toNat_false, Finset.sum_const_zero]
    rfl
  case free =>
    intro i _
    rw [startingAt_state]

end Hub

/-- What is known of a grant table apart from the hub's own calls: how it is when the hub is built, and
how it may change on its own afterwards. -/
structure Custody (γ : Type) where
  initial : γ → Prop
  drift : γ → γ → Prop

/-- Nothing is known of the grant table. -/
def Custody.any (γ : Type) : Custody γ := ⟨fun _ => True, fun _ _ => True⟩

theorem HubSession.eq_of_new {memory : Nat} {transport : τ} {grants : γ} {interface : ι}
    {s : HubSession config τ γ ι H}
    (h : HubSession.new config memory transport grants interface = .ok s) :
    s = ⟨Hub.empty config, transport, grants, interface, [.noticed (.started config)]⟩ := by
  unfold HubSession.new at h
  split at h
  · cases h
  · split at h
    · cases h
    · split at h
      · cases h
      · cases h
        rfl

/-- A hub is built if nothing speaks against it. -/
theorem HubSession.new_eq_ok {memory : Nat} {slots : UInt64} (hvalid : config.Valid)
    (hslots : config.requestSlots = .ok slots) (hmemory : slots.toNat ≤ memory) (transport : τ)
    (grants : γ) (interface : ι) :
    (HubSession.new config memory transport grants interface :
        Except BuildError (HubSession config τ γ ι H)) =
      .ok ⟨Hub.empty config, transport, grants, interface, [.noticed (.started config)]⟩ := by
  unfold HubSession.new
  rw [hvalid, hslots]
  exact if_neg (Nat.not_lt.mpr hmemory)

/-- The hubs that a run can reach from empty tables with these first numbers. Between operations the
collaborators may change on their own; of the grant table this is said by the custody. -/
inductive Reachable [Transport τ] [GrantTable γ] [Interface ι H] (heads : LaneId config → UInt32)
    (custody : Custody γ) : HubSession config τ γ ι H → Prop
  | new {memory : Nat} {transport : τ} {grants : γ} {interface : ι} {s : HubSession config τ γ ι H}
      (built : HubSession.new config memory transport grants interface = .ok s)
      (initial : custody.initial grants) :
      Reachable heads custody { s with tables := Hub.startingAt config heads }
  | after {s t : HubSession config τ γ ι H} (reached : Reachable heads custody s)
      (operation : Operation config) {answer : Option (Except Refusal UInt32)}
      (answered : operation.run s = .ok answer t) :
      Reachable heads custody t
  | meanwhile {s : HubSession config τ γ ι H} (reached : Reachable heads custody s)
      (transport : τ) (grants : γ) (interface : ι) (drift : custody.drift s.grants grants) :
      Reachable heads custody { s with transport, grants, interface }

section Runs

variable [Transport τ] [GrantTable γ] [Interface ι H]
variable {heads : LaneId config → UInt32} {custody : Custody γ} {s t : HubSession config τ γ ι H}

theorem Reachable.sound (h : Reachable heads custody s) : s.tables.Sound := by
  induction h with
  | new built initial => exact Hub.startingAt_sound config heads
  | after _ operation answered ih => exact (SessionM.Goes.of_ok (operation.goes ih) answered).1
  | meanwhile _ _ _ _ _ ih => exact ih

/-- What an operation on a reachable hub does are moves, or one request is issued. -/
theorem Reachable.ran (h : Reachable heads custody s) {operation : Operation config}
    {answer : Option (Except Refusal UInt32)} (answered : operation.run s = .ok answer t) :
    View.Moves s.view t.view ∧ answer ≠ some (.error .noMemory) ∨
      ∃ outcome, answer = some outcome ∧ View.Issue s.view outcome t.view :=
  (SessionM.Goes.of_ok (operation.goes h.sound) answered).2

/-- No operation on a reachable hub fails a check of the hub's own bookkeeping. -/
theorem Reachable.no_defect (h : Reachable heads custody s) (operation : Operation config)
    (defect : Defect) (t : HubSession config τ γ ι H) :
    operation.run s ≠ .error (.defect defect) t := by
  intro hrun
  have hgoes := operation.goes h.sound
  rw [SessionM.Goes, hrun] at hgoes
  -- What ends the work is a delivery or a revocation that failed.
  obtain ⟨v, -, hhalts⟩ := hgoes
  cases hhalts

theorem View.Moves.keep {v w : View config τ γ ι H} (h : View.Moves v w)
    {P : View config τ γ ι H → Prop} (hmove : ∀ v w, P v → View.Move v w → P w) (hv : P v) :
    P w := by
  induction h with
  | refl => exact hv
  | tail _ hlast ih => exact hmove _ _ ih hlast

/-- What holds at first, and is kept by every move and by whatever happens in between, holds of every
hub that can be reached. -/
theorem Reachable.view_induction {P : View config τ γ ι H → Prop} (h : Reachable heads custody s)
    (hnew : ∀ transport grants interface, custody.initial grants →
      P ⟨fun _ => .free, fun k => ⟨heads k, 0, []⟩, transport, grants, interface,
        [.noticed (.started config)]⟩)
    (hmove : ∀ v w, P v → View.Move v w → P w)
    (hissue : ∀ v outcome w, P v → View.Issue v outcome w → P w)
    (hmeanwhile : ∀ v transport grants interface, P v → custody.drift v.grants grants →
      P { v with transport, grants, interface }) : P s.view := by
  induction h with
  | @new memory transport grants interface s built initial =>
    obtain rfl := HubSession.eq_of_new built
    -- Of the tables, the view sees states and lanes only, and these are those of a new hub.
    have hview := Session.view_eq (s := (⟨Hub.startingAt config heads, transport, grants, interface,
      [.noticed (.started config)]⟩ : HubSession config τ γ ι H))
      (Hub.startingAt_state config heads) (Hub.startingAt_lane config heads)
    have hfresh := hnew transport grants interface initial
    rw [← hview] at hfresh
    exact hfresh
  | after reached operation answered ih =>
    rcases reached.ran answered with ⟨hmoves, -⟩ | ⟨outcome, -, hissued⟩
    · exact hmoves.keep hmove ih
    · exact hissue _ outcome _ ih hissued
  | meanwhile _ transport grants interface drift ih =>
    exact hmeanwhile _ transport grants interface ih drift

/-- The session after these operations, up to the first that would end the work. -/
def Session.afterAll (s : HubSession config τ γ ι H) :
    List (Operation config) → HubSession config τ γ ι H
  | [] => s
  | operation :: rest =>
    match operation.run s with
    | .ok _ t => t.afterAll rest
    | .error _ _ => s

theorem Reachable.afterAll (h : Reachable heads custody s) (operations : List (Operation config)) :
    Reachable heads custody (s.afterAll operations) := by
  induction operations generalizing s with
  | nil => exact h
  | cons operation rest ih =>
    unfold Session.afterAll
    split
    · rename_i answered
      exact ih (h.after operation answered)
    · exact h

end Runs

/-! A short run. The only driver of a small hub comes up and becomes active, while its first number
wraps; then it gets two packets to send and room to receive one. -/
namespace Trial

def small : Config where
  maxDrivers := 1
  sendDepth := 2
  receiveDepth := 1
  spareRequests := 1

def heads (k : LaneId small) : UInt32 :=
  match k.2 with
  | .send => 0xFFFFFFFF
  | .receive => 7

/-- The only entry. -/
def entry : Fin small.drivers := ⟨0, by decide⟩

def label : Label := (BoundedName.ofTerminated? [110, 0]).get (by decide)

def roster : Roster where
  present := [label.bytes]
  events := [.up (label.bytes ++ [0]) ⟨5⟩]

def reply : InitReply where
  id := 0
  link := 0
  media := 0
  capabilities := ⟨0⟩
  name := Vector.ofFn fun i => if i = 0 then 110 else 0
  address := HardwareAddress.zero
  addressLength := 6
  maxSend := 3
  maxReceive := 1

def start : HubSession small Outbox GrantLedger CallbackLog Nat where
  tables := Hub.startingAt small heads
  transport := {}
  grants := {}
  interface := {}
  journal := [.noticed (.started small)]

def session : HubSession small Outbox GrantLedger CallbackLog Nat :=
  start.afterAll [.reconcile roster, .process ⟨5⟩ (.init reply),
    .send ⟨0⟩ [⟨0, 16⟩, ⟨16, 16⟩], .receive ⟨0⟩ [⟨64, 16⟩], .send ⟨0⟩ []]

theorem small_built :
    HubSession.new small 4 {} {} {} = .ok { start with tables := Hub.empty small } :=
  HubSession.new_eq_ok (by decide) (show small.requestSlots = .ok 4 from rfl) (by decide) _ _ _

theorem started {custody : Custody GrantLedger} (initial : custody.initial {}) :
    Reachable heads custody start := .new small_built initial

theorem reachable {custody : Custody GrantLedger} (initial : custody.initial {}) :
    Reachable heads custody session := (started initial).afterAll _

theorem reached : Reachable heads (.any GrantLedger) session := reachable trivial

set_option maxRecDepth 4000 in
theorem active : session.tables.state entry = .active label ⟨5⟩ 1 := by cbv

end Trial
end DriverHub
