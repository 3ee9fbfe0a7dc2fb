import DriverHub.Proofs.Hub.Reconcile

/-! What each operation comes to, by what it is: a request is refused or answered, a reply is taken to one
entry or to none, and reconciling changes the register. -/
namespace DriverHub

open SessionM

variable {config : Config} {τ γ ι H : Type}

namespace Operation

/-- The operation brings the driver table in line with discovery. -/
def IsReconcile : Operation config → Prop
  | @reconcile _ _ _ _ => True
  | _ => False

/-- Sender and reply, if the operation is that a reply came which can be read. -/
def message? : Operation config → Option (Endpoint × Reply)
  | .process endpoint reply => some (endpoint, reply)
  | .processFrame endpoint bytes =>
    match Reply.decode bytes with
    | .ok (.ok reply) => some (endpoint, reply)
    | _ => none
  | _ => none

/-- Driver and plan, if the operation is a request. -/
def petition? : Operation config → Option (DriverId × Except Refusal Plan)
  | .send id segments => some (id, transferPlan .send segments)
  | .receive id segments => some (id, transferPlan .receive segments)
  | .configure id change => some (id, changePlan change)
  | _ => none

theorem planned_of_petition {operation : Operation config} {id : DriverId}
    {plan : Except Refusal Plan} (h : operation.petition? = some (id, plan)) : Planned plan := by
  cases operation with
  | send id segments =>
    cases h
    exact planned_transfer .send segments
  | receive id segments =>
    cases h
    exact planned_transfer .receive segments
  | configure id change =>
    cases h
    exact planned_change change
  | _ => cases h

variable [Transport τ] [GrantTable γ] [Interface ι H] {s : HubSession config τ γ ι H}

theorem run_of_petition {operation : Operation config} {id : DriverId} {plan : Except Refusal Plan}
    (h : operation.petition? = some (id, plan)) :
    operation.run = (do pure (some (← Hub.ask id plan)) : HubM config τ γ ι H _) := by
  cases operation with
  | send id segments =>
    cases h
    rw [← Hub.transfer_eq_ask]
    rfl
  | receive id segments =>
    cases h
    rw [← Hub.transfer_eq_ask]
    rfl
  | configure id change =>
    cases h
    rw [← Hub.configure_eq_ask]
    rfl
  | _ => cases h

theorem run_of_message {operation : Operation config} {sender : Endpoint} {reply : Reply}
    (h : operation.message? = some (sender, reply)) :
    operation.run = (do Hub.process sender reply; pure none : HubM config τ γ ι H _) := by
  cases operation with
  | process endpoint reply =>
    cases h
    rfl
  | processFrame endpoint bytes =>
    unfold message? at h
    dsimp only at h
    split at h
    · rename_i reply hdecoded
      cases h
      simp only [run, Hub.processFrame_of_reply hdecoded]
    · cases h
  | _ => cases h

/-- What the operation comes to, and its answer. -/
inductive Effect (s : HubSession config τ γ ι H) : Operation config →
    Option (Except Refusal UInt32) → HubSession config τ γ ι H → Prop
  | reconciled {δ : Type} [Discovery δ] (source : δ) {t : HubSession config τ γ ι H}
      (events : List DriverEvent) (present : Label → Bool) (moves : View.Moves s.view t.view)
      (kept : Hub.Kept s ((events.foldl Register.take s.register).retain present) t) :
      Effect s (.reconcile source) none t
  | refused {operation : Operation config} (id : DriverId) (plan : Except Refusal Plan)
      (refusal : Refusal) (petition : operation.petition? = some (id, plan))
      (refused : s.tables.admitted id plan = .error refusal) :
      Effect s operation (some (.error refusal)) s
  | answered {operation : Operation config} (id : DriverId) (i : Fin config.drivers) (p : Plan)
      {answer : Except Refusal UInt32} {t : HubSession config τ γ ι H}
      (petition : operation.petition? = some (id, .ok p)) (entry : (i : Nat) = id.index)
      (answered : Hub.Answered s i p answer t) : Effect s operation (some answer) t
  | reacted {operation : Operation config} (sender : Endpoint) (reply : Reply)
      (i : Fin config.drivers) {t : HubSession config τ γ ι H}
      (message : operation.message? = some (sender, reply))
      (found : s.tables.findEndpoint sender = some i) (reacted : Hub.Reacted s i reply t) :
      Effect s operation none t
  | noted {operation : Operation config} (notice : Notice)
      (quiet : (Entry.noticed notice : Entry H).Quiet) (petition : operation.petition? = none)
      (message : ∀ sender reply, operation.message? = some (sender, reply) →
        s.tables.findEndpoint sender = none) :
      Effect s operation none { s with journal := .noticed notice :: s.journal }

/-- A request that is not admitted leaves no trace. -/
theorem run_refused {operation : Operation config} {id : DriverId} {plan : Except Refusal Plan}
    {refusal : Refusal} (hpetition : operation.petition? = some (id, plan))
    (hadmitted : s.tables.admitted id plan = .error refusal) :
    operation.run s = .ok (some (.error refusal)) s := by
  apply eq_ok_of_goes
  rw [run_of_petition hpetition, goes_bind, Goes, Hub.ask_refused hadmitted]
  exact ⟨rfl, rfl⟩

theorem goes_of_admitted (h : s.tables.Sound) {operation : Operation config} {id : DriverId}
    {plan : Except Refusal Plan} (hpetition : operation.petition? = some (id, plan))
    {admission : Admission config H} {p : Plan}
    (hadmitted : s.tables.admitted id plan = .ok (admission, p)) :
    operation.run.Goes s
      (fun outcome t => ∃ answer, outcome = some answer ∧
        Hub.Answered s admission.driver p answer t)
      (View.Fails s.view admission.driver p) := by
  rw [run_of_petition hpetition, goes_bind]
  exact Goes.mono (Hub.goes_ask h (planned_of_petition hpetition) hadmitted)
    (fun answer _ ht => ⟨answer, rfl, ht⟩) fun _ hfails => hfails

theorem goes_of_routed (h : s.tables.Sound) {operation : Operation config} {sender : Endpoint}
    {reply : Reply} {i : Fin config.drivers}
    (hmessage : operation.message? = some (sender, reply))
    (hfound : s.tables.findEndpoint sender = some i) :
    operation.run.Goes s (fun outcome t => outcome = none ∧ Hub.Reacted s i reply t)
      (View.Stops s.view i reply) := by
  rw [run_of_message hmessage, goes_bind]
  exact Goes.mono (Hub.goes_process h hfound reply) (fun _ _ ht => ⟨rfl, ht⟩) fun _ hstops => hstops

theorem run_unknown {operation : Operation config} {sender : Endpoint} {reply : Reply}
    (hmessage : operation.message? = some (sender, reply))
    (hfound : s.tables.findEndpoint sender = none) :
    operation.run s = .ok none
      { s with journal := .noticed (.unknownEndpoint reply.type sender) :: s.journal } := by
  apply eq_ok_of_goes
  rw [run_of_message hmessage, goes_bind, Goes, Hub.process_unknown hfound]
  exact ⟨rfl, rfl⟩

/-- Bytes that cannot be read are only noted. -/
theorem run_unreadable {operation : Operation config} (hpetition : operation.petition? = none)
    (hmessage : operation.message? = none) (hother : ¬operation.IsReconcile) :
    ∃ notice : Notice, (Entry.noticed notice : Entry H).Quiet ∧
      operation.run s = .ok none { s with journal := .noticed notice :: s.journal } := by
  cases operation with
  | reconcile => exact (hother trivial).elim
  | processFrame endpoint bytes =>
    have hunreadable : ∃ error, Reply.decode bytes = .ok (.error error) := by
      obtain ⟨decoded, hdecoded⟩ := Reply.exists_decode bytes
      cases decoded with
      | ok reply =>
        simp only [message?, hdecoded] at hmessage
        cases hmessage
      | error error => exact ⟨error, hdecoded⟩
    obtain ⟨error, hdecoded⟩ := hunreadable
    refine ⟨Hub.unreadable endpoint error, Hub.unreadable_quiet endpoint error, eq_ok_of_goes ?_⟩
    change Goes (do Hub.processFrame endpoint bytes; pure none) _ _ _
    rw [Hub.processFrame_of_error hdecoded, goes_bind, goes_note]
    exact ⟨rfl, rfl⟩
  | send | receive | configure => cases hpetition
  | process => cases hmessage

/-- An operation on sound tables that answers has its effect. -/
theorem goes_effect (h : s.tables.Sound) (operation : Operation config) :
    operation.run.Goes s (operation.Effect s) fun _ => True := by
  cases hpetition : operation.petition? with
  | some petition =>
    obtain ⟨id, plan⟩ := petition
    cases hadmitted : s.tables.admitted id plan with
    | error refusal =>
      rw [Goes, run_refused hpetition hadmitted]
      exact .refused id plan refusal hpetition hadmitted
    | ok admitted =>
      obtain ⟨admission, p⟩ := admitted
      obtain ⟨i, endpoint, hactive, rfl, hreserve⟩ := Hub.admitted_eq_ok hadmitted
      obtain ⟨ticket, primed, hticket, rfl⟩ := Hub.reserve_eq_ok hreserve
      refine Goes.mono (goes_of_admitted h hpetition hadmitted) (fun outcome t ht => ?_)
        fun _ _ => trivial
      obtain ⟨answer, rfl, hanswered⟩ := ht
      exact .answered id i p hpetition (Hub.index_of_active hactive) hanswered
  | none =>
    cases hmessage : operation.message? with
    | some message =>
      obtain ⟨sender, reply⟩ := message
      cases hfound : s.tables.findEndpoint sender with
      | some i =>
        refine Goes.mono (goes_of_routed h hmessage hfound) (fun outcome t ht => ?_)
          fun _ _ => trivial
        obtain ⟨rfl, hreacted⟩ := ht
        exact .reacted sender reply i hmessage hfound hreacted
      | none =>
        rw [Goes, run_unknown hmessage hfound]
        refine .noted _ trivial hpetition fun sender' reply' hmessage' => ?_
        rw [hmessage] at hmessage'
        cases hmessage'
        exact hfound
    | none =>
      cases operation with
      | reconcile source =>
        change Goes (do let _ ← Hub.reconcile source; pure none) _ _ _
        rw [goes_bind]
        refine Goes.mono ((Hub.kept_reconcile h source).and (Hub.plays_reconcile h source))
          (fun rest t ht => ?_) fun _ _ => trivial
        obtain ⟨⟨events, -, hkept⟩, -, hmoves⟩ := ht
        exact .reconciled source events _ hmoves hkept
      | processFrame =>
        obtain ⟨notice, hquiet, hrun⟩ := run_unreadable (s := s) hpetition hmessage fun h => h
        rw [Goes, hrun]
        refine .noted notice hquiet hpetition fun sender reply hmessage' => ?_
        rw [hmessage] at hmessage'
        cases hmessage'
      | send | receive | configure => cases hpetition
      | process => cases hmessage

/-- Drivers are dropped only while reconciling. -/
theorem Effect.dropped {operation : Operation config} {outcome : Option (Except Refusal UInt32)}
    {t : HubSession config τ γ ι H} (h : operation.Effect s outcome t)
    (hother : ¬operation.IsReconcile) : t.tables.dropped = s.tables.dropped := by
  cases h with
  | reconciled => exact (hother trivial).elim
  | refused => rfl
  | answered id i p petition entry answered => exact answered.dropped
  | reacted sender reply i message found reacted => exact reacted.dropped
  | noted => rfl

end Operation
end DriverHub
