import DriverHub.Proofs.Hub.Posting
import DriverHub.Proofs.InMemory.Hosted
import DriverHub.Proofs.Wire.RoundTrip

/-! Delivery. What a driver finds in its mail is what the hub has posted: every frame in the outbox is read
back as the request it was made of, so reading the frames again leaves none out. -/
namespace DriverHub

open SessionM

variable {config : Config} {γ ι H : Type}

/-- The request is found again in the frame that is made of it, as a whole: where a transfer has no grant,
none is read, and where it has one, this one is. -/
structure Request.Delivers (request : Request) : Prop where
  decoded : Request.decode request.encode.toList = .ok (.ok request)
  compact : request.Compact

theorem Request.Compact.delivers {request : Request} (h : request.Compact) : request.Delivers := by
  refine ⟨?_, h⟩
  have hfew : request.segmentCount.toNat ≤ maxSegments := by
    cases request with
    | transfer direction t => exact h.1
    | _ => exact Nat.zero_le _
  have hdecode := request.decode_encodeInto (Vector.replicate frameSize 0) []
  rw [if_neg (Nat.not_lt.mpr hfew), List.append_nil] at hdecode
  exact hdecode

/-- What was handed to the transport, the oldest first, whether it was taken or not. -/
def handed (journal : Journal H) : List (Endpoint × Request) :=
  (journal.filterMap fun entry => entry.posted?.map Prod.fst).reverse

theorem handed_cons_other {entry : Entry H} {journal : Journal H} (h : entry.posted? = none) :
    handed (entry :: journal) = handed journal := by
  simp [handed, h]

theorem handed_cons_posted (driver : DriverId) (endpoint : Endpoint) (request : Request)
    (answer : Except TransportError Unit) (journal : Journal H) :
    handed (.posted driver endpoint request answer :: journal) =
      handed journal ++ [(endpoint, request)] := List.reverse_cons

namespace Outbox

theorem failing_of_send_error {outbox outbox' : Outbox} {endpoint : Endpoint} {request : Request}
    {cause : TransportError} (h : Transport.send outbox endpoint request = (.error cause, outbox')) :
    outbox'.failing = true ∧ outbox = outbox' := by
  obtain ⟨frames, failing⟩ := outbox
  cases failing with
  | true =>
    cases h
    exact ⟨rfl, rfl⟩
  | false => cases h

variable {older journal : Journal H} {outbox : Outbox}

theorem sent_push {request : Request} (h : request.Delivers) (outbox : Outbox) (endpoint : Endpoint) :
    sent { outbox with frames := outbox.frames.push (endpoint, request.encode) } =
      outbox.sent ++ [(endpoint, request)] := by
  simp [sent, h.decoded]

/-- Behind the older entries the journal tells of exactly the requests that are found in the outbox. -/
def Shows (older : Journal H) (outbox : Outbox) (journal : Journal H) : Prop :=
  ∃ newer, journal = newer ++ older ∧ outbox.sent = handed newer ∧ ∀ p ∈ handed newer, p.2.Delivers

/-- The same of a session that has ended, but for a last request that the outbox did not take. -/
def ShowsUpTo (older : Journal H) (fatal : Fatal) (outbox : Outbox) (journal : Journal H) : Prop :=
  ∃ newer refused, journal = newer ++ older ∧ outbox.sent ++ refused = handed newer ∧
    (∀ p ∈ handed newer, p.2.Delivers) ∧
    (refused = [] ∨ ∃ endpoint request cause, refused = [(endpoint, request)] ∧
      outbox.failing = true ∧ fatal = .delivery request.type endpoint cause)

theorem Shows.entry {entry : Entry H} (h : outbox.Shows older journal) (other : entry.posted? = none) :
    outbox.Shows older (entry :: journal) := by
  obtain ⟨newer, rfl, hsent, hdelivers⟩ := h
  refine ⟨entry :: newer, rfl, ?_, ?_⟩
  · rw [handed_cons_other other, hsent]
  · rw [handed_cons_other other]
    exact hdelivers

theorem posting_shows (older : Journal H) :
    Posting Request.Compact (Shows older) (ShowsUpTo older) where
  entry other h := Shows.entry h other
  sent {outbox _ _ driver endpoint request} allows h sent := by
    obtain ⟨newer, rfl, hsent, hdelivers⟩ := h
    obtain ⟨-, rfl⟩ := send_eq_ok_iff.mp sent
    have hrequest := allows.delivers
    refine ⟨.posted driver endpoint request (.ok ()) :: newer, rfl, ?_, ?_⟩
    · rw [handed_cons_posted, sent_push hrequest, hsent]
    · rw [handed_cons_posted]
      exact List.forall_mem_append.mpr ⟨hdelivers, List.forall_mem_singleton.mpr hrequest⟩
  ended fatal h := by
    obtain ⟨newer, rfl, hsent, hdelivers⟩ := h
    exact ⟨.noticed (.fatal fatal) :: newer, [], rfl, (List.append_nil _).trans hsent, hdelivers, .inl rfl⟩
  failed {outbox _ _ driver endpoint request cause} allows h sent := by
    obtain ⟨newer, rfl, hsent, hdelivers⟩ := h
    obtain ⟨hfailing, rfl⟩ := failing_of_send_error sent
    -- The notice of the end stands before the post that led to it.
    refine ⟨_ :: .posted driver endpoint request (.error cause) :: newer, [(endpoint, request)], rfl,
      ?_, ?_, .inr ⟨endpoint, request, cause, rfl, hfailing, rfl⟩⟩
    · rw [handed_cons_other rfl, handed_cons_posted, hsent]
    · rw [handed_cons_other rfl, handed_cons_posted]
      exact List.forall_mem_append.mpr ⟨hdelivers, List.forall_mem_singleton.mpr allows.delivers⟩

end Outbox

section Runs

variable [GrantTable γ] [Interface ι H]
variable {heads : LaneId config → UInt32} {older : Journal H}
variable {s t : HubSession config Outbox γ ι H}

/-- A run over an outbox, with the journal as it was when the outbox was last empty by its owner's doing.
The other collaborators, and whether sends fail, may change between operations. -/
inductive Mailing (heads : LaneId config → UInt32) :
    Journal H → HubSession config Outbox γ ι H → Prop
  | new {memory : Nat} {outbox : Outbox} {grants : γ} {interface : ι}
      {s : HubSession config Outbox γ ι H}
      (built : HubSession.new config memory outbox grants interface = .ok s) (unused : outbox.frames = #[]) :
      Mailing heads [] { s with tables := Hub.startingAt config heads }
  | after {older : Journal H} {s t : HubSession config Outbox γ ι H} (mailing : Mailing heads older s)
      (operation : Operation config) {answer : Option (Except Refusal UInt32)}
      (answered : operation.run s = .ok answer t) : Mailing heads older t
  | cleared {older : Journal H} {s : HubSession config Outbox γ ι H} (mailing : Mailing heads older s) :
      Mailing heads s.journal { s with transport := s.transport.clear }
  | meanwhile {older : Journal H} {s : HubSession config Outbox γ ι H}
      (mailing : Mailing heads older s) (failing : Bool) (grants : γ) (interface : ι) :
      Mailing heads older { s with transport := s.transport.failSends failing, grants, interface }

theorem Mailing.afterAll (h : Mailing heads older s) (operations : List (Operation config)) :
    Mailing heads older (s.afterAll operations) := by
  induction operations generalizing s with
  | nil => exact h
  | cons operation rest ih =>
    unfold Session.afterAll
    split
    · rename_i answered
      exact ih (h.after operation answered)
    · exact h

theorem Mailing.shows (h : Mailing heads older s) : s.transport.Shows older s.journal := by
  induction h with
  | @new memory outbox grants interface s built unused =>
    obtain rfl := HubSession.eq_of_new built
    refine ⟨[.noticed (.started config)], rfl, ?_, ?_⟩
    · change List.filterMap _ outbox.frames.toList = []
      rw [unused]
      rfl
    · exact List.forall_mem_nil _
  | @after older s t mailing operation answer answered ih =>
    have hleads := operation.carries_run (Outbox.posting_shows older) s ih
    rw [Leads, answered] at hleads
    exact hleads
  | cleared => exact ⟨[], rfl, rfl, List.forall_mem_nil _⟩
  | meanwhile _ _ _ _ ih => exact ih

/-- What is read from the outbox is exactly what was handed to it since it was last empty, in order, as
long as the hub is at work; if an operation ends the work, it may be for a request that was not taken and
that is the only one not to be found. Each request that was ever handed over is one that is found again in
its frame, with a grant for each of its segments from the first on and none behind them. -/
theorem Mailing.sent_eq_handed (h : Mailing heads older s) :
    s.transport.Shows older s.journal ∧
      ∀ (operation : Operation config) (fatal : Fatal) (t : HubSession config Outbox γ ι H),
        operation.run s = .error fatal t → t.transport.ShowsUpTo older fatal t.journal := by
  refine ⟨h.shows, ?_⟩
  intro operation fatal t ended
  have hleads := operation.carries_run (Outbox.posting_shows older) s h.shows
  rw [Leads, ended] at hleads
  exact hleads

end Runs

namespace Trial

/-- The short run, once its outbox was cleared: one more packet goes out, and a report is acknowledged. -/
def mailed : HubSession small Outbox GrantLedger CallbackLog Nat :=
  { session with transport := session.transport.clear }.afterAll
    [.send ⟨0⟩ [⟨0, 16⟩, ⟨32, 16⟩], .process ⟨5⟩ (.status 9 ⟨0, 0, 0, 0, 0, 0⟩)]

/-- One more report comes when the driver cannot be reached any more. -/
def unreachable : HubSession small Outbox GrantLedger CallbackLog Nat :=
  { mailed with transport := mailed.transport.failSends true }

theorem mail_read :
    (∃ newer, mailed.journal = newer ++ session.journal ∧ mailed.transport.sent = handed newer ∧
      (handed newer).map (fun p => (p.1, p.2.type)) = [(⟨5⟩, .transfer .send), (⟨5⟩, .acknowledge)] ∧
      ∀ p ∈ handed newer, p.2.Delivers) ∧
    ∃ t, (Operation.process ⟨5⟩ (.status 10 ⟨0, 0, 0, 0, 0, 0⟩)).run unreachable =
        .error (.delivery .acknowledge ⟨5⟩ (.unreachable ⟨5⟩)) t ∧
      t.transport.ShowsUpTo session.journal (.delivery .acknowledge ⟨5⟩ (.unreachable ⟨5⟩)) t.journal := by
  have hstart : Mailing heads [] start :=
    .new (s := { start with tables := Hub.empty small }) small_built rfl
  have hmailed : Mailing heads session.journal mailed := (hstart.afterAll _).cleared.afterAll _
  have hunreachable : Mailing heads session.journal unreachable := hmailed.meanwhile _ _ _
  constructor
  · obtain ⟨newer, hjournal, hsent, hdelivers⟩ := hmailed.sent_eq_handed.1
    refine ⟨newer, hjournal, hsent, ?_, hdelivers⟩
    rw [← hsent]
    decide +kernel
  · have hends : (match (Operation.process ⟨5⟩ (.status 10 ⟨0, 0, 0, 0, 0, 0⟩)).run unreachable with
        | .ok _ _ => false
        | .error fatal _ => decide (fatal = .delivery .acknowledge ⟨5⟩ (.unreachable ⟨5⟩))) = true := by
      decide +kernel
    split at hends
    · cases hends
    · rename_i fatal t hrun
      rw [of_decide_eq_true hends] at hrun
      exact ⟨t, hrun, hunreachable.sent_eq_handed.2 _ _ _ hrun⟩

end Trial
end DriverHub
