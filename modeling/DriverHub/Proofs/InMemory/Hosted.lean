import DriverHub.Proofs.Hub.Holding

/-! Hubs over collaborators in memory. Whoever owns the collaborators may change them between operations:
make them fail, use up or revoke grants, and forget what they have kept. -/
namespace DriverHub

variable {config : Config}

/-- A hub at work with collaborators in memory. -/
abbrev HostedSession (config : Config) := HubSession config Outbox GrantLedger CallbackLog Nat

/-- What the owner of the collaborators can do to them. -/
inductive Control where
  | failSends (failing : Bool)
  | clearFrames
  | limit (budget : Option Nat)
  | failRevokes (corrupted : Bool)
  | create (grant : Grant)
  | revoke (grant : GrantId)
  | setRefusesAdd (refuses : Bool)
  | setRefusesEnable (refuses : Bool)
  | clearCallbacks

namespace Control

def onOutbox : Control → Outbox → Outbox
  | .failSends failing, outbox => outbox.failSends failing
  | .clearFrames, outbox => outbox.clear
  | _, outbox => outbox

def onLedger : Control → GrantLedger → GrantLedger
  | .limit budget, ledger => ledger.limit budget
  | .failRevokes corrupted, ledger => ledger.failRevokes corrupted
  | .create grant, ledger => (ledger.create grant).2
  | .revoke grant, ledger => (ledger.revoke grant).2
  | _, ledger => ledger

def onCallbacks : Control → CallbackLog → CallbackLog
  | .setRefusesAdd refuses, log => log.setRefusesAdd refuses
  | .setRefusesEnable refuses, log => log.setRefusesEnable refuses
  | .clearCallbacks, log => log.clear
  | _, log => log

/-- What was done, done to all three of them. -/
def apply (control : Control) (s : HostedSession config) : HostedSession config :=
  { s with
    transport := control.onOutbox s.transport
    grants := control.onLedger s.grants
    interface := control.onCallbacks s.interface }

/-- Nothing that makes sends or revocations fail. -/
def Benign : Control → Prop
  | .failSends failing => failing = false
  | .failRevokes corrupted => corrupted = false
  | .revoke _ => False
  | _ => True

end Control

/-- The hubs over new collaborators in memory that a run can reach, while the owner of the collaborators
does what is allowed. -/
inductive Hosted (heads : LaneId config → UInt32) (allowed : Control → Prop) :
    HostedSession config → Prop
  | new {memory : Nat} {s : HostedSession config}
      (built : HubSession.new config memory {} {} {} = .ok s) :
      Hosted heads allowed { s with tables := Hub.startingAt config heads }
  | after {s t : HostedSession config} (reached : Hosted heads allowed s)
      (operation : Operation config) {answer : Option (Except Refusal UInt32)}
      (answered : operation.run s = .ok answer t) : Hosted heads allowed t
  | controlled {s : HostedSession config} (reached : Hosted heads allowed s) (control : Control)
      (permitted : allowed control) : Hosted heads allowed (control.apply s)

section Runs

variable {heads : LaneId config → UInt32} {allowed : Control → Prop} {s : HostedSession config}

/-- A hosted hub is a hub over collaborators that may change on their own. -/
theorem Hosted.reachable (h : Hosted heads allowed s) {custody : Custody GrantLedger}
    (hinitial : custody.initial {})
    (hdrift : ∀ control ledger, allowed control → custody.drift ledger (control.onLedger ledger)) :
    Reachable heads custody s := by
  induction h with
  | new built => exact .new built hinitial
  | after _ operation answered ih => exact ih.after operation answered
  | controlled _ control permitted ih =>
    exact ih.meanwhile _ _ _ (hdrift control _ permitted)

theorem Hosted.reachable_any (h : Hosted heads allowed s) :
    Reachable heads (.any GrantLedger) s := h.reachable trivial fun _ _ _ => trivial

theorem Hosted.afterAll (h : Hosted heads allowed s) (operations : List (Operation config)) :
    Hosted heads allowed (s.afterAll operations) := by
  induction operations generalizing s with
  | nil => exact h
  | cons operation rest ih =>
    unfold Session.afterAll
    split
    · rename_i answered
      exact ih (h.after operation answered)
    · exact h

/-- What holds of a new hub, and is kept by every move and by what the owner does, holds of every hub that
can be reached. -/
theorem Hosted.view_induction {P : View config Outbox GrantLedger CallbackLog Nat → Prop}
    (h : Hosted heads allowed s)
    (hnew : P ⟨fun _ => .free, fun k => ⟨heads k, 0, []⟩, {}, {}, {}, [.noticed (.started config)]⟩)
    (hmove : ∀ v w, P v → View.Move v w → P w)
    (hissue : ∀ v outcome w, P v → View.Issue v outcome w → P w)
    (hcontrol : ∀ v (control : Control), P v → allowed control → P { v with
      transport := control.onOutbox v.transport
      grants := control.onLedger v.grants
      interface := control.onCallbacks v.interface }) : P s.view := by
  induction h with
  | @new memory s built =>
    obtain rfl := HubSession.eq_of_new built
    have hview := Session.view_eq (s := (⟨Hub.startingAt config heads, {}, {}, {},
      [.noticed (.started config)]⟩ : HostedSession config))
      (Hub.startingAt_state config heads) (Hub.startingAt_lane config heads)
    rw [← hview] at hnew
    exact hnew
  | after reached operation answered ih =>
    rcases reached.reachable_any.ran answered with ⟨hmoves, -⟩ | ⟨outcome, -, hissued⟩
    · exact hmoves.keep hmove ih
    · exact hissue _ outcome _ ih hissued
  | controlled _ control permitted ih => exact hcontrol _ control ih permitted

end Runs

namespace Outbox

/-- A request is handed over exactly if the outbox was not told to fail, and joins the others. -/
theorem send_eq_ok_iff {outbox outbox' : Outbox} {endpoint : Endpoint} {request : Request} :
    Transport.send outbox endpoint request = (.ok (), outbox') ↔
      outbox.failing = false ∧
        outbox' = { outbox with frames := outbox.frames.push (endpoint, request.encode) } := by
  obtain ⟨frames, failing⟩ := outbox
  cases failing with
  | true =>
    change (Except.error (TransportError.unreachable endpoint), _) = _ ↔ _
    simp
  | false =>
    change (Except.ok (), (⟨frames.push (endpoint, request.encode), false⟩ : Outbox)) = _ ↔ _
    simp [eq_comm]

theorem failing_of_send {outbox outbox' : Outbox} {endpoint : Endpoint} {request : Request}
    (h : Transport.send outbox endpoint request = (.ok (), outbox')) :
    outbox'.failing = outbox.failing := by
  obtain ⟨-, rfl⟩ := send_eq_ok_iff.mp h
  rfl

theorem not_send_error {outbox outbox' : Outbox} {endpoint : Endpoint} {request : Request}
    {cause : TransportError} (h : outbox.failing = false) :
    Transport.send outbox endpoint request ≠ (.error cause, outbox') := by
  rw [send_eq_ok_iff.mpr ⟨h, rfl⟩]
  intro heq
  cases heq

end Outbox

/-! What every step of a kind keeps of a collaborator is kept by every move. -/

section Kept

variable {γ H : Type} [GrantTable γ] {Q : γ → Prop}

theorem Revokes.keep {g g' : γ} {grants : List GrantId} (h : Revokes g grants g')
    (hrevoke : ∀ g id g', Q g → GrantTable.revoke g id = (.ok (), g') → Q g') (hg : Q g) : Q g' := by
  induction h with
  | done => exact hg
  | step revoked _ ih => exact ih (hrevoke _ _ _ hg revoked)

theorem Creates.keep {endpoint : Endpoint} {access : Access} {g g' : γ} {segments : List Segment}
    {grants : List GrantId} {complete : Bool} {journal : Journal H}
    (h : Creates endpoint access g segments grants complete journal g')
    (hcreate : ∀ g grant answer g', Q g → GrantTable.create g grant = (answer, g') → Q g')
    (hg : Q g) : Q g' := by
  induction h with
  | done => exact hg
  | refused created => exact hcreate _ _ _ _ hg created
  | step created _ ih => exact ih (hcreate _ _ _ _ hg created)

end Kept

namespace View

variable {τ γ ι H : Type} [Transport τ] [GrantTable γ] [Interface ι H] {v w : View config τ γ ι H}

theorem Move.keep_grants {Q : γ → Prop} (hmove : Move v w)
    (hrevoke : ∀ g id g', Q g → GrantTable.revoke g id = (.ok (), g') → Q g')
    (hv : Q v.grants) : Q w.grants := by
  cases hmove with
  | restarted i label endpoint known revoked => exact revoked.keep hrevoke hv
  | gone i endpoint known revoked => exact revoked.keep hrevoke hv
  | completed i label endpoint handle b rest result active oldest revoked =>
    exact revoked.keep hrevoke hv
  | _ => exact hv

omit [Interface ι H] in
theorem Issue.keep_grants {Q : γ → Prop} {outcome : Except Refusal UInt32}
    (hissue : Issue v outcome w)
    (hcreate : ∀ g grant answer g', Q g → GrantTable.create g grant = (answer, g') → Q g')
    (hrevoke : ∀ g id g', Q g → GrantTable.revoke g id = (.ok (), g') → Q g')
    (hv : Q v.grants) : Q w.grants := by
  cases hissue with
  | issued i label endpoint handle slot kind segments request active created few carries sent =>
    exact created.keep hcreate hv
  | abandoned i label endpoint handle access segments active created revoked =>
    exact revoked.keep hrevoke (created.keep hcreate hv)

theorem Move.keep_transport {Q : τ → Prop} (hmove : Move v w)
    (hsend : ∀ transport endpoint request transport', Q transport →
      Transport.send transport endpoint request = (.ok (), transport') → Q transport')
    (hv : Q v.transport) : Q w.transport := by
  cases hmove with
  | started i label endpoint free sent => exact hsend _ _ _ _ hv sent
  | restarted i label endpoint known revoked sent => exact hsend _ _ _ _ hv sent
  | acknowledged i label endpoint handle number active sent => exact hsend _ _ _ _ hv sent
  | _ => exact hv

omit [Interface ι H] in
theorem Issue.keep_transport {Q : τ → Prop} {outcome : Except Refusal UInt32}
    (hissue : Issue v outcome w)
    (hsend : ∀ transport endpoint request transport', Q transport →
      Transport.send transport endpoint request = (.ok (), transport') → Q transport')
    (hv : Q v.transport) : Q w.transport := by
  cases hissue with
  | issued i label endpoint handle slot kind segments request active created few carries sent =>
    exact hsend _ _ _ _ hv sent
  | abandoned => exact hv

end View

end DriverHub
