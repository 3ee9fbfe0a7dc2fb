import DriverHub.Proofs.Hub.Moves

/-! The account of a lane, read off the journal alone: how often the lane moved on to another number and
why, which numbers were given out, and which requests are in flight. -/
namespace DriverHub

variable {config : Config} {H : Type}

/-- What a journal says of one lane. Numbers are unbounded here. -/
structure Account where
  -- Number at which the lane began.
  start : Nat
  completed : Nat
  cancelled : Nat
  inits : Nat
  activations : Nat
  -- Number of the init request that is not yet answered.
  awaited : Option Nat
  -- Every request posted that takes a number of the lane, with this number, the oldest first.
  issued : List (Nat × Request)
  -- The queued requests among these that were neither completed nor cancelled.
  inFlight : List (Nat × Request)
  -- The queued requests posted since the last activation.
  posted : List Request
  -- What interfaces were told of finished requests since the last activation.
  results : List (RequestKind × Int32)

namespace Account

/-- The lane's number: it grows by one for each completed and each cancelled request, each init and
each activation. -/
def number (a : Account) : Nat := a.start + a.completed + a.cancelled + a.inits + a.activations

/-- The requests that left the lane. -/
def left (a : Account) : Nat := a.completed + a.cancelled

/-- The requests posted since the last activation that were not completed. -/
def outstanding (a : Account) : List Request := a.posted.drop a.results.length

def new (start : Nat) : Account := ⟨start, 0, 0, 0, 0, none, [], [], [], []⟩

/-- The driver is asked to start. The number of its send lane goes into the request. -/
def begin (a : Account) (direction : Direction) (request : Request) : Account :=
  let a := { a with inits := a.inits + 1 }
  match direction with
  | .send => { a with awaited := some a.number, issued := a.issued ++ [(a.number, request)] }
  | .receive => a

/-- The driver answered, and the lane is opened. -/
def activate (a : Account) : Account :=
  { a with activations := a.activations + 1, awaited := none, posted := [], results := [] }

/-- A request is posted and queued. -/
def issue (a : Account) (request : Request) : Account :=
  { a with
    issued := a.issued ++ [(a.number + a.inFlight.length, request)]
    inFlight := a.inFlight ++ [(a.number + a.inFlight.length, request)]
    posted := a.posted ++ [request] }

/-- The oldest request in flight is completed. -/
def complete (a : Account) (kind : RequestKind) (result : Int32) : Account :=
  { a with
    completed := a.completed + 1
    inFlight := a.inFlight.tail
    results := a.results ++ [(kind, result)] }

/-- All requests in flight are cancelled. -/
def cancel (a : Account) : Account :=
  { a with cancelled := a.cancelled + a.inFlight.length, inFlight := [], awaited := none }

/-- What a request posted to the driver of a lane means for the lane. -/
def post (a : Account) (direction : Direction) (request : Request) : Account :=
  match request.kind? with
  | some kind => if kind.direction = direction then a.issue request else a
  | none =>
    match request with
    | .init _ => a.begin direction request
    | _ => a

/-- What an entry of the journal means for a lane. -/
def enter (k : LaneId config) (a : Account) : Entry H → Account
  | .posted driver _ request (.ok ()) => if driver = ⟨k.1⟩ then a.post k.2 request else a
  | .enabled driver _ _ _ => if driver = ⟨k.1⟩ then a.activate else a
  | .finished driver kind _ result =>
    if driver = ⟨k.1⟩ ∧ kind.direction = k.2 then a.complete kind result else a
  | .noticed (.restarted driver _) | .noticed (.gone driver _) =>
    if driver = ⟨k.1⟩ then a.cancel else a
  | _ => a

end Account

/-- The account of a lane that began at this number. The latest entry comes first in a journal. -/
def account (start : UInt32) (k : LaneId config) (journal : Journal H) : Account :=
  journal.foldr (fun entry a => a.enter k entry) (Account.new start.toNat)

/-- Entries of the journal that no lane has to do with. -/
def Entry.Silent (entry : Entry H) : Prop :=
  ∀ (config : Config) (k : LaneId config) (a : Account), a.enter k entry = a

namespace Entry

theorem Quiet.silent {entry : Entry H} (h : entry.Quiet) : entry.Silent := by
  intro config k a
  cases entry with
  | polled => rfl
  | lookedUp => rfl
  | noticed notice => cases notice <;> first | rfl | exact h.elim
  | _ => exact h.elim

theorem silent_revoked (grant : GrantId) (answer : Except GrantError Unit) :
    (.revoked grant answer : Entry H).Silent := fun _ _ _ => rfl

end Entry

variable {start : UInt32} {k : LaneId config} {journal : Journal H}

theorem account_cons (entry : Entry H) :
    account start k (entry :: journal) = (account start k journal).enter k entry := rfl

theorem account_silent {entries : Journal H} (h : ∀ entry ∈ entries, entry.Silent) :
    account start k (entries ++ journal) = account start k journal := by
  induction entries with
  | nil => rfl
  | cons entry rest ih =>
    rw [List.cons_append, account_cons, ih fun e he => h e (List.mem_cons_of_mem _ he)]
    exact h entry List.mem_cons_self config k _

theorem account_revocations (grants : List GrantId) :
    account start k (revocations grants ++ journal) = account start k journal := by
  refine account_silent fun entry hentry => ?_
  obtain ⟨grant, -, rfl⟩ := List.mem_map.mp hentry
  exact Entry.silent_revoked grant _

theorem account_creates {γ : Type} [GrantTable γ] {endpoint : Endpoint} {access : Access} {g g' : γ}
    {segments : List Segment} {grants : List GrantId} {complete : Bool} {entries : Journal H}
    (h : Creates endpoint access g segments grants complete entries g') :
    account start k (entries ++ journal) = account start k journal := by
  induction h generalizing journal with
  | done => rfl
  | refused => rfl
  | step _ _ ih =>
    rw [List.append_assoc, ih]
    rfl

theorem account_quieting (state : Occupant H) (driver : DriverId) :
    account start k (state.quieting driver ++ journal) = account start k journal := by
  cases state <;> rfl

theorem account_withdrawing (state : Occupant H) (driver : DriverId) :
    account start k (state.withdrawing driver ++ journal) = account start k journal := by
  unfold Occupant.withdrawing
  split <;> rfl

section Entries

variable {i : Fin config.drivers}

theorem driver_eq_iff {i j : Fin config.drivers} : (⟨i⟩ : DriverId) = ⟨j⟩ ↔ j = i := by
  rw [DriverId.mk.injEq, Fin.val_inj, eq_comm]

theorem account_posted (endpoint : Endpoint) (request : Request) :
    account start k (.posted ⟨i⟩ endpoint request (.ok ()) :: journal) =
      if k.1 = i then (account start k journal).post k.2 request else account start k journal := by
  simp only [account_cons, Account.enter, driver_eq_iff]

theorem account_enabled (handle : H) (enablement : Enablement) (answer : Bool) :
    account start k (.enabled ⟨i⟩ handle enablement answer :: journal) =
      if k.1 = i then (account start k journal).activate else account start k journal := by
  simp only [account_cons, Account.enter, driver_eq_iff]

theorem account_finished (kind : RequestKind) (handle : H) (result : Int32) :
    account start k (.finished ⟨i⟩ kind handle result :: journal) =
      if k = (i, kind.direction) then (account start k journal).complete kind result
      else account start k journal := by
  simp only [account_cons, Account.enter, driver_eq_iff, Prod.ext_iff, eq_comm]

theorem account_restarted (endpoint : Endpoint) :
    account start k (.noticed (.restarted ⟨i⟩ endpoint) :: journal) =
      if k.1 = i then (account start k journal).cancel else account start k journal := by
  simp only [account_cons, Account.enter, driver_eq_iff]

theorem account_gone (endpoint : Endpoint) :
    account start k (.noticed (.gone ⟨i⟩ endpoint) :: journal) =
      if k.1 = i then (account start k journal).cancel else account start k journal := by
  simp only [account_cons, Account.enter, driver_eq_iff]

theorem account_of_silent {entry : Entry H} (h : entry.Silent) :
    account start k (entry :: journal) = account start k journal := h config k _

end Entries

theorem account_hires {ι : Type} [Interface ι H] {driver : DriverId}
    {name : InterfaceName} {capabilities : Capabilities} {interface interface' : ι}
    {journal journal' : Journal H} {handle? : Option H} {handle : H} {isNew : Bool}
    (h : Hires driver name capabilities interface journal handle? handle isNew interface' journal') :
    account start k journal' = account start k journal := by
  cases h <;> rfl

theorem Occupant.isActive_of_isPending {state : Occupant H} (h : state.isPending = true) :
    state.isActive = false := by
  cases state with
  | pending => rfl
  | _ => cases h

/-- What a move comes to for one lane: the state of the entry, the account and the lane, before and
after. -/
inductive Turn {n : Nat} (direction : Direction) (state : Occupant H) (a : Account)
    (lane : Lane n) : Occupant H → Account → Lane n → Prop
  | kept : Turn direction state a lane state a lane
  | begun (request : Request) {state' : Occupant H} (free : state = .free)
      (pending : state'.isPending = true)
      (number : direction = .send → request.number = lane.begin.head) :
      Turn direction state a lane state' (a.begin direction request) lane.begin
  | begunAgain (request : Request) {state' : Occupant H} (pending : state'.isPending = true)
      (number : direction = .send → request.number = lane.clear.begin.head) :
      Turn direction state a lane state' (a.cancel.begin direction request) lane.clear.begin
  | closed : Turn direction state a lane .free a.cancel lane.clear
  | opened (limit : Nat) {state' : Occupant H} (pending : state.isPending = true) :
      Turn direction state a lane state' a.activate (lane.activate limit)
  | turnedDown (limit : Nat) (pending : state.isPending = true) :
      Turn direction state a lane .free a.activate.cancel (lane.activate limit).clear
  | popped {b : Booking n} {rest : List (Booking n)} (result : Int32)
      (active : state.isActive = true) (oldest : lane.bookings = b :: rest) :
      Turn direction state a lane state (a.complete b.kind result) lane.pop

open Function in
/-- For every lane, a move is one of these turns. -/
theorem View.Move.turns {τ γ ι : Type} [Transport τ] [GrantTable γ] [Interface ι H]
    {v w : View config τ γ ι H} (hmove : View.Move v w) (start : UInt32) (k : LaneId config) :
    Turn k.2 (v.state k.1) (account start k v.journal) (v.lane k) (w.state k.1)
      (account start k w.journal) (w.lane k) := by
  cases hmove with
  -- A move of an entry is a turn of both its lanes, and leaves all others as they are.
  | noted entry quiet =>
    dsimp only
    rw [account_of_silent quiet.silent]
    exact .kept
  | started i label endpoint free sent =>
    dsimp only
    rw [account_posted, account_of_silent fun _ _ _ => rfl, atEntry_apply, update_apply]
    by_cases hi : k.1 = i
    · subst hi
      rw [if_pos rfl, if_pos rfl, if_pos rfl]
      refine .begun _ free rfl fun hd => ?_
      rw [← hd]
      rfl
    · rw [if_neg hi, if_neg hi, if_neg hi]
      exact .kept
  | restarted i label endpoint known revoked sent =>
    dsimp only
    rw [account_posted, account_restarted, account_quieting, account_revocations, atEntry_apply,
      update_apply]
    by_cases hi : k.1 = i
    · subst hi
      rw [if_pos rfl, if_pos rfl, if_pos rfl, if_pos rfl]
      refine .begunAgain _ rfl fun hd => ?_
      rw [← hd]
      rfl
    · rw [if_neg hi, if_neg hi, if_neg hi, if_neg hi]
      exact .kept
  | gone i endpoint known revoked =>
    dsimp only
    rw [account_gone, account_withdrawing, account_revocations, atEntry_apply, update_apply]
    by_cases hi : k.1 = i
    · rw [if_pos hi, if_pos hi, if_pos hi]
      exact .closed
    · rw [if_neg hi, if_neg hi, if_neg hi]
      exact .kept
  | turnedAway i label endpoint name capabilities pending refused => exact .kept
  | activated i label endpoint reply name pending latest checked hires enabled =>
    dsimp only
    rw [account_of_silent fun _ _ _ => rfl, account_enabled, account_hires hires, atEntry_apply,
      update_apply]
    by_cases hi : k.1 = i
    · subst hi
      rw [if_pos rfl, if_pos rfl, if_pos rfl]
      exact .opened _ (by rw [pending]; rfl)
    · rw [if_neg hi, if_neg hi, if_neg hi]
      exact .kept
  | refused i label endpoint reply name pending latest checked hires refused =>
    dsimp only
    rw [account_gone, account_of_silent fun _ _ _ => rfl, account_of_silent fun _ _ _ => rfl,
      account_enabled, account_hires hires, atEntry_apply, update_apply]
    by_cases hi : k.1 = i
    · subst hi
      rw [if_pos rfl, if_pos rfl, if_pos rfl, if_pos rfl]
      exact .turnedDown _ (by rw [pending]; rfl)
    · rw [if_neg hi, if_neg hi, if_neg hi, if_neg hi]
      exact .kept
  | completed i label endpoint handle b rest result active oldest revoked =>
    dsimp only
    rw [account_finished, account_revocations, update_apply]
    by_cases hi : k = (i, b.kind.direction)
    · subst hi
      rw [if_pos rfl, if_pos rfl]
      exact .popped result (by rw [active]; rfl) oldest
    · rw [if_neg hi, if_neg hi]
      exact .kept
  | reported i label endpoint handle report active => exact .kept
  | acknowledged i label endpoint handle number active sent =>
    rw [account_posted]
    split <;> exact .kept

end DriverHub
