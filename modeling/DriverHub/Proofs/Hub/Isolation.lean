import DriverHub.Proofs.Hub.Effects

/-! Whom an operation concerns. A request concerns the entry of its driver and a reply the entry that it
is routed to, and every other entry stays as it is. -/
namespace DriverHub

open Function

variable {config : Config} {τ γ ι H : Type}

/-- The entry that an operation concerns, if it is one. -/
def Operation.concerned (hub : Hub config H) (operation : Operation config) :
    Option (Fin config.drivers) :=
  match operation.petition?, operation.message? with
  | some (id, _), _ => if h : id.index < config.drivers then some ⟨id.index, h⟩ else none
  | none, some (sender, _) => hub.findEndpoint sender
  | none, none => none

namespace Operation

variable {hub : Hub config H} {operation : Operation config}

theorem petition_of_message {sender : Endpoint} {reply : Reply}
    (h : operation.message? = some (sender, reply)) : operation.petition? = none := by
  cases operation with
  | process | processFrame => rfl
  | _ => cases h

theorem concerned_of_petition {id : DriverId} {plan : Except Refusal Plan}
    (h : operation.petition? = some (id, plan)) :
    operation.concerned hub =
      if h : id.index < config.drivers then some ⟨id.index, h⟩ else none := by
  unfold concerned
  rw [h]

theorem concerned_of_message {sender : Endpoint} {reply : Reply}
    (h : operation.message? = some (sender, reply)) :
    operation.concerned hub = hub.findEndpoint sender := by
  unfold concerned
  rw [petition_of_message h, h]

end Operation

section Steps

variable [Transport τ] [GrantTable γ] [Interface ι H]

omit [Interface ι H] in
/-- A request leaves all entries but that of its driver as they are. -/
theorem View.Serves.elsewhere {v w : View config τ γ ι H} {i j : Fin config.drivers} {plan : Plan}
    {answer : Except Refusal UInt32} (h : View.Serves v i plan answer w) (hj : j ≠ i) :
    w.state j = v.state j ∧ ∀ d, w.lane (j, d) = v.lane (j, d) := by
  cases h with
  | issued => exact ⟨rfl, fun d => update_of_ne (fun heq => hj (congrArg Prod.fst heq)) ..⟩
  | abandoned => exact ⟨rfl, fun _ => rfl⟩

namespace View

variable {v w : View config τ γ ι H} {i : Fin config.drivers} {reply : Reply}

/-- A reply of an active driver is not heeded, finishes its oldest request of a kind, or is a report. -/
theorem Reacts.of_active (h : Reacts v i reply w) {label : Label} {endpoint : Endpoint} {handle : H}
    (hactive : v.state i = .active label endpoint handle) :
    (¬v.Heeds i reply ∧ ∃ notice, w = { v with journal := .noticed notice :: v.journal }) ∨
    v.Heeds i reply ∧ ((∃ b rest number result g, reply = .finished b.kind number result ∧
      (v.lane (i, b.kind.direction)).bookings = b :: rest ∧ Revokes v.grants b.grants.present g ∧
      w = v.completedAt i handle b result g) ∨
    ∃ number report transport, reply = .status number report ∧
      Transport.send v.transport endpoint (.acknowledge number) = (.ok (), transport) ∧
      w = v.reportedAt i endpoint handle number report transport) := by
  have hi : (v.state i).isActive = true := by
    rw [hactive]
    rfl
  have hpending {label' : Label} {endpoint' : Endpoint} {handle' : Option H}
      (hstate : v.state i = .pending label' endpoint' handle') : False := by
    rw [hactive] at hstate
    cases hstate
  cases h with
  | ignored notice trace unheeded => exact .inl ⟨unheeded, notice, rfl⟩
  | malformed label endpoint handle reply fault pending => exact (hpending pending).elim
  | turnedAway label endpoint reply name pending => exact (hpending pending).elim
  | activated label endpoint reply name pending => exact (hpending pending).elim
  | refused label endpoint reply name pending => exact (hpending pending).elim
  | finished label endpoint handle b rest number result active oldest head revoked =>
    cases hactive.symm.trans active
    refine .inr ⟨⟨hi, head, ?_⟩, .inl ⟨b, rest, number, result, _, rfl, oldest, revoked, rfl⟩⟩
    rw [oldest]
    rfl
  | reported label endpoint handle number report active sent =>
    cases hactive.symm.trans active
    exact .inr ⟨hi, .inr ⟨number, report, _, rfl, sent, rfl⟩⟩

/-- A reply leaves every driver where it is, unless the driver goes. -/
theorem Reacts.endpoints (h : Reacts v i reply w) {j : Fin config.drivers} {endpoint : Endpoint}
    (hj : (w.state j).endpoint? = some endpoint) : (v.state j).endpoint? = some endpoint := by
  have hplaced {state : Occupant H}
      (hstate : state.endpoint? = some endpoint → (v.state i).endpoint? = some endpoint)
      (hj : ((update v.state i state) j).endpoint? = some endpoint) :
      (v.state j).endpoint? = some endpoint := by
    rw [update_apply] at hj
    split at hj
    · rename_i heq
      exact heq ▸ hstate hj
    · exact hj
  have hgone (hj : ((update v.state i .free) j).endpoint? = some endpoint) :
      (v.state j).endpoint? = some endpoint := by
    refine hplaced (fun hfree => ?_) hj
    cases hfree
  cases h with
  | ignored => exact hj
  | malformed => exact hgone hj
  | turnedAway => exact hgone hj
  | activated label endpoint reply name pending =>
    refine hplaced (fun hstate => ?_) hj
    rw [pending]
    exact hstate
  | refused => exact hgone hj
  | finished => exact hj
  | reported => exact hj

/-- A reply of a driver without requests leaves grants and requests as they are. -/
theorem Reacts.of_idle (h : Reacts v i reply w) (hidle : ∀ d, (v.lane (i, d)).bookings = []) :
    w.grants = v.grants ∧ ∀ k, (w.lane k).bookings = (v.lane k).bookings := by
  have hcleared {f : Direction → Lane config.slots → Lane config.slots}
      (hf : ∀ d lane, lane.bookings = [] → (f d lane).bookings = []) (k : LaneId config) :
      (atEntry v.lane i f k).bookings = (v.lane k).bookings := by
    obtain ⟨j, d⟩ := k
    unfold atEntry
    split
    · rename_i hj
      obtain rfl : j = i := hj
      rw [hidle d, hf d _ (hidle d)]
    · rfl
  cases h with
  | ignored => exact ⟨rfl, fun _ => rfl⟩
  | malformed => exact ⟨rfl, hcleared fun _ _ _ => rfl⟩
  | turnedAway => exact ⟨rfl, hcleared fun _ _ _ => rfl⟩
  | activated => exact ⟨rfl, hcleared fun _ _ hlane => hlane⟩
  | refused => exact ⟨rfl, hcleared fun _ _ _ => rfl⟩
  | finished label endpoint handle b rest number result active oldest =>
    rw [hidle] at oldest
    cases oldest
  | reported => exact ⟨rfl, fun _ => rfl⟩

end View

variable {s t : HubSession config τ γ ι H} {operation : Operation config}

theorem Operation.Effect.elsewhere {outcome : Option (Except Refusal UInt32)}
    (h : operation.Effect s outcome t) (hother : ¬operation.IsReconcile) {j : Fin config.drivers}
    (hj : operation.concerned s.tables ≠ some j) :
    t.tables.state j = s.tables.state j ∧ ∀ d, t.tables.lane (j, d) = s.tables.lane (j, d) := by
  cases h with
  | reconciled => exact (hother trivial).elim
  | refused => exact ⟨rfl, fun _ => rfl⟩
  | answered id i p petition entry answered =>
    refine answered.serves.elsewhere fun heq => hj ?_
    rw [concerned_of_petition petition, dif_pos (entry ▸ i.isLt), heq]
    exact congrArg some (Fin.ext entry.symm)
  | reacted sender reply i message found reacted =>
    refine reacted.reacts.elsewhere fun heq => hj ?_
    rw [concerned_of_message message, found, heq]
  | noted => exact ⟨rfl, fun _ => rfl⟩

theorem Operation.Effect.endpoints {outcome : Option (Except Refusal UInt32)}
    (h : operation.Effect s outcome t) (hother : ¬operation.IsReconcile) {j : Fin config.drivers}
    {endpoint : Endpoint} (hj : (t.tables.state j).endpoint? = some endpoint) :
    (s.tables.state j).endpoint? = some endpoint := by
  cases h with
  | reconciled => exact (hother trivial).elim
  | refused => exact hj
  | answered id i p petition entry answered =>
    exact (congrArg Occupant.endpoint? (congrFun answered.serves.state_eq j)).symm.trans hj
  | reacted sender reply i message found reacted => exact reacted.reacts.endpoints hj
  | noted => exact hj

variable {heads : LaneId config → UInt32} {custody : Custody γ}

/-- An operation leaves every entry that it does not concern as it is. -/
theorem Reachable.elsewhere (h : Reachable heads custody s) (hother : ¬operation.IsReconcile)
    {answer : Option (Except Refusal UInt32)} (answered : operation.run s = .ok answer t)
    {j : Fin config.drivers} (hj : operation.concerned s.tables ≠ some j) :
    t.tables.state j = s.tables.state j ∧ ∀ d, t.tables.lane (j, d) = s.tables.lane (j, d) ∧
      (t.tables.queues (j, d)).depth = (s.tables.queues (j, d)).depth := by
  obtain ⟨hstate, hlane⟩ := ((operation.goes_effect h.sound).of_ok answered).elsewhere hother hj
  refine ⟨hstate, fun d => ⟨hlane d, ?_⟩⟩
  rw [← (h.after operation answered).sound.length_bookings, ← h.sound.length_bookings]
  exact congrArg (fun lane => lane.bookings.length) (hlane d)

end Steps

/-- An operation in a run, with its answer. -/
structure Step (config : Config) (τ γ ι H : Type) where
  before : HubSession config τ γ ι H
  operation : Operation config
  answer : Option (Except Refusal UInt32)
  after : HubSession config τ γ ι H

/-- The steps that these operations make, unless one of them ends the work. -/
def Session.trace [Transport τ] [GrantTable γ] [Interface ι H] (s : HubSession config τ γ ι H) :
    List (Operation config) → Except Fatal (List (Step config τ γ ι H))
  | [] => .ok []
  | operation :: rest =>
    match operation.run s with
    | .ok answer t => (t.trace rest).map (⟨s, operation, answer, t⟩ :: ·)
    | .error fatal _ => .error fatal

/-- The operation concerns no entry but this one. -/
def Operation.own (hub : Hub config H) (i : Fin config.drivers) (operation : Operation config) :
    Bool := (operation.concerned hub).all (· = i)

theorem Operation.own_eq_true_iff {hub : Hub config H} {i : Fin config.drivers}
    {operation : Operation config} :
    operation.own hub i = true ↔ ∀ j, operation.concerned hub = some j → j = i := by
  unfold own
  rw [Option.all_eq_true]
  exact ⟨fun h j hj => of_decide_eq_true (h j hj), fun h j hj => decide_eq_true (h j hj)⟩

theorem Operation.own_of_petition {hub : Hub config H} (hub' : Hub config H) {i : Fin config.drivers}
    {operation : Operation config} {id : DriverId} {plan : Except Refusal Plan}
    (h : operation.petition? = some (id, plan)) : operation.own hub i = operation.own hub' i := by
  unfold own
  rw [concerned_of_petition h, concerned_of_petition h]

/-- A reply of another driver than that at this endpoint. -/
def Operation.Foreign (hub : Hub config H) (endpoint : Endpoint) (operation : Operation config) :
    Prop :=
  ∃ sender reply, operation.message? = some (sender, reply) ∧ sender ≠ endpoint ∧
    ∃ j, (hub.state j).endpoint? = some sender

/-! What concerns an entry can be told before a run without reconciling, if nobody else is at the endpoint
of its driver. -/

section Beforehand

variable {hub hub' : Hub config H} {i : Fin config.drivers} {endpoint sender : Endpoint}
variable {operation : Operation config} {reply : Reply}

theorem Operation.own_of_message (h : hub.Sound) (hi : (hub.state i).endpoint? = some endpoint)
    (halone : ∀ j, j ≠ i → (hub.state j).endpoint? ≠ some endpoint)
    (hmessage : operation.message? = some (sender, reply)) :
    operation.own hub i = true ↔ ∀ j, (hub.state j).endpoint? = some sender → j = i := by
  rw [own_eq_true_iff, concerned_of_message hmessage]
  refine ⟨fun hown j hj => ?_, fun hown j hj =>
    hown j (Hub.endpoint_of_findEndpoint h.labelled hj)⟩
  cases hfound : hub.findEndpoint sender with
  | none => exact absurd hj ((Hub.findEndpoint_eq_none_iff h).mp hfound j)
  | some k =>
    obtain rfl := hown k hfound
    cases hi.symm.trans (Hub.endpoint_of_findEndpoint h.labelled hfound)
    by_contra hne
    exact halone j hne hj

variable (hless : ∀ j endpoint, (hub'.state j).endpoint? = some endpoint →
  (hub.state j).endpoint? = some endpoint)

include hless

theorem Operation.own_later (h : hub.Sound) (hlabelled : hub'.Labelled)
    (hi : (hub.state i).endpoint? = some endpoint)
    (halone : ∀ j, j ≠ i → (hub.state j).endpoint? ≠ some endpoint)
    (hown : operation.own hub i = true) : operation.own hub' i = true := by
  cases hpetition : operation.petition? with
  | some petition => rwa [own_of_petition hub hpetition]
  | none =>
    cases hmessage : operation.message? with
    | some message =>
      rw [own_of_message h hi halone hmessage] at hown
      rw [own_eq_true_iff, concerned_of_message hmessage]
      exact fun j hj => hown j (hless j _ (Hub.endpoint_of_findEndpoint hlabelled hj))
    | none =>
      rw [own_eq_true_iff, concerned, hpetition, hmessage]
      exact nofun

theorem Operation.own_of_concerned_later (h : hub.Sound) (hlabelled : hub'.Labelled)
    (hi : (hub.state i).endpoint? = some endpoint)
    (halone : ∀ j, j ≠ i → (hub.state j).endpoint? ≠ some endpoint)
    (hconcerned : operation.concerned hub' = some i) : operation.own hub i = true := by
  cases hpetition : operation.petition? with
  | some petition =>
    rw [own_of_petition hub' hpetition, own_eq_true_iff, hconcerned]
    exact fun j hj => (Option.some.inj hj).symm
  | none =>
    cases hmessage : operation.message? with
    | some message =>
      rw [concerned_of_message hmessage] at hconcerned
      cases hi.symm.trans (hless i _ (Hub.endpoint_of_findEndpoint hlabelled hconcerned))
      rw [own_of_message h hi halone hmessage]
      intro j hj
      by_contra hne
      exact halone j hne hj
    | none =>
      rw [own_eq_true_iff, concerned, hpetition, hmessage]
      exact nofun

end Beforehand

theorem Operation.not_foreign_of_own {hub : Hub config H} {i : Fin config.drivers}
    {endpoint : Endpoint} {operation : Operation config} (h : hub.Sound)
    (hi : (hub.state i).endpoint? = some endpoint)
    (halone : ∀ j, j ≠ i → (hub.state j).endpoint? ≠ some endpoint)
    (hown : operation.own hub i = true) : ¬operation.Foreign hub endpoint := by
  rintro ⟨sender, reply, hmessage, hsender, j, hj⟩
  rw [own_of_message h hi halone hmessage] at hown
  obtain rfl := hown j hj
  exact hsender (Option.some.inj (hj.symm.trans hi))

/-- The entry that the step concerns, if it is one. -/
def Step.concerned (step : Step config τ γ ι H) : Option (Fin config.drivers) :=
  step.operation.concerned step.before.tables

/-- The step concerns no entry but this one. -/
def Step.own (i : Fin config.drivers) (step : Step config τ γ ι H) : Bool :=
  step.operation.own step.before.tables i

section Traces

variable [Transport τ] [GrantTable γ] [Interface ι H]
variable {s : HubSession config τ γ ι H} {operation : Operation config}
variable {rest operations : List (Operation config)} {steps : List (Step config τ γ ι H)}

theorem Session.trace_cons {t : HubSession config τ γ ι H} {answer : Option (Except Refusal UInt32)}
    (answered : operation.run s = .ok answer t) :
    s.trace (operation :: rest) = (t.trace rest).map (⟨s, operation, answer, t⟩ :: ·) := by
  rw [trace, answered]

theorem Session.trace_cons_eq_ok (h : s.trace (operation :: rest) = .ok steps) :
    ∃ answer t others, operation.run s = .ok answer t ∧ t.trace rest = .ok others ∧
      steps = ⟨s, operation, answer, t⟩ :: others := by
  unfold trace at h
  split at h
  · rename_i answer t answered
    cases hothers : t.trace rest with
    | error fatal =>
      rw [hothers] at h
      cases h
    | ok others =>
      rw [hothers] at h
      exact ⟨answer, t, others, answered, hothers, (Except.ok.inj h).symm⟩
  · cases h

variable {heads : LaneId config → UInt32} {custody : Custody γ}

/-- A run ends only where the collaborators fail. -/
theorem Reachable.trace_ok (h : Reachable heads custody s) (operations : List (Operation config))
    (hdelivered : ∀ type receiver cause,
      s.trace operations ≠ .error (.delivery type receiver cause))
    (hrevoked : ∀ grant cause, s.trace operations ≠ .error (.revocation grant cause)) :
    ∃ steps, s.trace operations = .ok steps := by
  induction operations generalizing s with
  | nil => exact ⟨[], rfl⟩
  | cons operation rest ih =>
    cases hrun : operation.run s with
    | error fatal t =>
      have htrace : s.trace (operation :: rest) = .error fatal := by rw [Session.trace, hrun]
      rw [htrace] at hdelivered hrevoked
      cases fatal with
      | delivery type receiver cause => exact absurd rfl (hdelivered type receiver cause)
      | revocation grant cause => exact absurd rfl (hrevoked grant cause)
      | defect failed => exact absurd hrun (h.no_defect operation failed t)
    | ok answer t =>
      rw [Session.trace_cons hrun] at hdelivered hrevoked ⊢
      obtain ⟨steps, hsteps⟩ := ih (h.after operation hrun)
        (fun type receiver cause hfailed => hdelivered type receiver cause (by rw [hfailed]; rfl))
        (fun grant cause hfailed => hrevoked grant cause (by rw [hfailed]; rfl))
      exact ⟨_, by rw [hsteps]; rfl⟩

/-- Every step of a run is made by a hub that can be reached. -/
theorem Reachable.before_of_trace (h : Reachable heads custody s)
    (htrace : s.trace operations = .ok steps) {step : Step config τ γ ι H} (hstep : step ∈ steps) :
    Reachable heads custody step.before := by
  induction operations generalizing s steps with
  | nil =>
    cases htrace
    cases hstep
  | cons operation rest ih =>
    obtain ⟨answer, t, others, answered, hothers, rfl⟩ := Session.trace_cons_eq_ok htrace
    rcases List.mem_cons.mp hstep with rfl | hstep
    · exact h
    · exact ih (h.after operation answered) hothers hstep

/-- Nobody comes up in a run without reconciling. -/
theorem Reachable.endpoints_of_trace (h : Reachable heads custody s)
    (hother : ∀ operation ∈ operations, ¬operation.IsReconcile)
    (htrace : s.trace operations = .ok steps) {step : Step config τ γ ι H} (hstep : step ∈ steps)
    {j : Fin config.drivers} {endpoint : Endpoint}
    (hj : (step.before.tables.state j).endpoint? = some endpoint) :
    (s.tables.state j).endpoint? = some endpoint := by
  induction operations generalizing s steps with
  | nil =>
    cases htrace
    cases hstep
  | cons operation rest ih =>
    rw [List.forall_mem_cons] at hother
    obtain ⟨answer, t, others, answered, hothers, rfl⟩ := Session.trace_cons_eq_ok htrace
    rcases List.mem_cons.mp hstep with rfl | hstep
    · exact hj
    · have hlater := ih (h.after operation answered) hother.2 hothers hstep
      exact ((operation.goes_effect h.sound).of_ok answered).endpoints hother.1 hlater

end Traces
end DriverHub
