import DriverHub.Proofs.Hub.Effects
import DriverHub.Proofs.Hub.Numbers

/-! The handshake. A pending driver was last sent an init request with the number in front of its send
lane, and becomes active by the answer to that one only; whatever else a driver is sent, it is active. -/
namespace DriverHub

open Function SessionM

variable {config : Config} {τ γ ι H : Type}

/-- The latest request handed to the transport for a driver, and the endpoint it was for. -/
def lastPosted (driver : DriverId) : Journal H → Option (Endpoint × Request)
  | [] => none
  | .posted driver' endpoint request _ :: journal =>
    if driver' = driver then some (endpoint, request) else lastPosted driver journal
  | _ :: journal => lastPosted driver journal

section Posted

variable {driver : DriverId} {journal : Journal H}

theorem lastPosted_append {newer : Journal H} (h : frames newer = []) :
    lastPosted driver (newer ++ journal) = lastPosted driver journal := by
  induction newer with
  | nil => rfl
  | cons entry newer ih =>
    rw [frames, List.reverse_eq_nil_iff, List.filterMap_eq_nil_iff] at h
    have hnewer : frames newer = [] := by
      rw [frames, List.reverse_eq_nil_iff, List.filterMap_eq_nil_iff]
      exact fun e he => h e (List.mem_cons_of_mem entry he)
    have hentry := h entry List.mem_cons_self
    rw [List.cons_append]
    cases entry with
    | posted => cases hentry
    | _ => exact ih hnewer

theorem lastPosted_posted (endpoint : Endpoint) (request : Request)
    (answer : Except TransportError Unit) :
    lastPosted driver (.posted driver endpoint request answer :: journal) =
      some (endpoint, request) := if_pos rfl

theorem lastPosted_posted_other {i j : Fin config.drivers} (h : j ≠ i) (endpoint : Endpoint)
    (request : Request) (answer : Except TransportError Unit) :
    lastPosted ⟨j⟩ (.posted ⟨i⟩ endpoint request answer :: journal) = lastPosted ⟨j⟩ journal :=
  if_neg fun heq => h (driver_eq_iff.mp heq)

theorem frames_creates {γ : Type} [GrantTable γ] {endpoint : Endpoint} {access : Access} {g g' : γ}
    {segments : List Segment} {grants : List GrantId} {complete : Bool}
    (h : Creates endpoint access g segments grants complete journal g') : frames journal = [] := by
  induction h with
  | done => rfl
  | refused => rfl
  | step _ _ ih =>
    rw [frames_append, ih]
    rfl

theorem Entry.Quiet.frames_eq_nil {entry : Entry H} (h : entry.Quiet) : frames [entry] = [] := by
  cases entry with
  | posted => exact h.elim
  | _ => rfl

theorem lastPosted_hires {ι : Type} [Interface ι H] {driver' : DriverId} {name : InterfaceName}
    {capabilities : Capabilities} {interface interface' : ι} {journal' : Journal H}
    {handle? : Option H} {handle : H} {isNew : Bool}
    (h : Hires driver' name capabilities interface journal handle? handle isNew interface' journal') :
    lastPosted driver journal' = lastPosted driver journal := by
  cases h <;> rfl

theorem frames_hires {ι : Type} [Interface ι H] {name : InterfaceName}
    {capabilities : Capabilities} {interface interface' : ι} {journal' : Journal H}
    {handle? : Option H} {handle : H} {isNew : Bool}
    (h : Hires driver name capabilities interface journal handle? handle isNew interface' journal') :
    frames journal' = frames journal := by
  cases h <;> rfl

end Posted

namespace View

/-- If the driver of an entry is pending, the latest request handed over for it is an init request to
its endpoint, with the number in front of its send lane. -/
def Greets (v : View config τ γ ι H) (i : Fin config.drivers) : Prop :=
  ∀ label endpoint handle, v.state i = .pending label endpoint handle →
    lastPosted ⟨i⟩ v.journal = some (endpoint, .init (v.lane (i, .send)).head)

variable {v w : View config τ γ ι H} {i : Fin config.drivers}

theorem Greets.of_eq (h : v.Greets i) (hstate : w.state i = v.state i)
    (hlane : w.lane (i, .send) = v.lane (i, .send))
    (hposted : lastPosted ⟨i⟩ w.journal = lastPosted ⟨i⟩ v.journal) : w.Greets i := by
  intro label endpoint handle hpending
  rw [hstate] at hpending
  rw [hposted, hlane]
  exact h label endpoint handle hpending

theorem greets_of_not_pending (h : (v.state i).isPending = false) : v.Greets i := by
  intro label endpoint handle hpending
  rw [hpending] at h
  cases h

variable [Transport τ] [GrantTable γ] [Interface ι H]

theorem Move.greets (h : v.Greets i) (hmove : Move v w) : w.Greets i := by
  cases hmove with
  | noted entry quiet => exact h.of_eq rfl rfl (lastPosted_append quiet.frames_eq_nil)
  | started j label endpoint free sent fresh announced =>
    by_cases hj : i = j
    · subst hj
      intro label' endpoint' handle' hpending
      dsimp only at hpending ⊢
      rw [update_self] at hpending
      cases hpending
      rw [lastPosted_posted, atEntry_apply, if_pos rfl]
    · exact h.of_eq (update_of_ne hj ..) (if_neg hj) (lastPosted_posted_other hj ..)
  | restarted j label endpoint known revoked sent announced =>
    by_cases hj : i = j
    · subst hj
      intro label' endpoint' handle' hpending
      dsimp only at hpending ⊢
      rw [update_self] at hpending
      cases hpending
      rw [lastPosted_posted, atEntry_apply, if_pos rfl]
    · refine h.of_eq (update_of_ne hj ..) (if_neg hj) ?_
      refine (lastPosted_posted_other hj ..).trans ?_
      exact (lastPosted_append (frames_quieting (v.state j) ⟨j⟩)).trans
        (lastPosted_append (frames_revocations _))
  | gone j endpoint known revoked =>
    by_cases hj : i = j
    · subst hj
      apply greets_of_not_pending
      dsimp only
      rw [update_self]
      rfl
    · refine h.of_eq (update_of_ne hj ..) (if_neg hj) ?_
      exact (lastPosted_append (frames_withdrawing (v.state j) ⟨j⟩)).trans
        (lastPosted_append (frames_revocations _))
  | turnedAway => exact h.of_eq rfl rfl rfl
  | activated j label endpoint reply name pending latest checked hires enabled =>
    by_cases hj : i = j
    · subst hj
      apply greets_of_not_pending
      dsimp only
      rw [update_self]
      rfl
    · have hposted : lastPosted ⟨i⟩ _ = lastPosted ⟨i⟩ v.journal := lastPosted_hires hires
      exact h.of_eq (update_of_ne hj ..) (if_neg hj) hposted
  | refused j label endpoint reply name pending latest checked hires refused =>
    by_cases hj : i = j
    · subst hj
      apply greets_of_not_pending
      dsimp only
      rw [update_self]
      rfl
    · have hposted : lastPosted ⟨i⟩ _ = lastPosted ⟨i⟩ v.journal := lastPosted_hires hires
      exact h.of_eq (update_of_ne hj ..) (if_neg hj) hposted
  | completed j label endpoint handle b rest result active oldest revoked =>
    by_cases hj : i = j
    · subst hj
      apply greets_of_not_pending
      dsimp only
      rw [active]
      rfl
    · refine h.of_eq rfl (update_of_ne (fun heq => hj (congrArg Prod.fst heq)) ..) ?_
      exact lastPosted_append (frames_revocations _)
  | reported => exact h.of_eq rfl rfl rfl
  | acknowledged j label endpoint handle number active sent =>
    by_cases hj : i = j
    · subst hj
      apply greets_of_not_pending
      dsimp only
      rw [active]
      rfl
    · exact h.of_eq rfl rfl (lastPosted_posted_other hj ..)

omit [Interface ι H] in
theorem Issue.greets {outcome : Except Refusal UInt32} (h : v.Greets i)
    (hissue : Issue v outcome w) : w.Greets i := by
  cases hissue with
  | issued j label endpoint handle slot kind segments request active created few carries sent =>
    by_cases hj : i = j
    · subst hj
      apply greets_of_not_pending
      dsimp only
      rw [active]
      rfl
    · refine h.of_eq rfl (update_of_ne (fun heq => hj (congrArg Prod.fst heq)) ..) ?_
      exact (lastPosted_posted_other hj ..).trans (lastPosted_append (frames_creates created))
  | abandoned j label endpoint handle access segments active created revoked =>
    refine h.of_eq rfl rfl ?_
    exact (lastPosted_append (frames_revocations _)).trans (lastPosted_append (frames_creates created))

/-- Whoever is active after a reply was active before in the same way, or was pending and has just
given the answer that was awaited. -/
theorem Reacts.active {reply : Reply} {j : Fin config.drivers} (h : Reacts v i reply w)
    (hactive : (w.state j).isActive = true) : w.state j = v.state j ∨
      j = i ∧ (v.state i).isPending = true ∧
        ∃ answer, reply = .init answer ∧ answer.id = (v.lane (i, .send)).head := by
  have hfreed {states : Fin config.drivers → Occupant H} (hstates : w.state = update states i .free)
      : w.state j = states j := by
    rw [hstates] at hactive ⊢
    by_cases hj : j = i
    · subst hj
      rw [update_self] at hactive
      cases hactive
    · rw [update_of_ne hj]
  cases h with
  | ignored => exact .inl rfl
  | malformed => exact .inl (hfreed rfl)
  | turnedAway => exact .inl (hfreed rfl)
  | activated label endpoint reply name pending latest checked hires enabled =>
    by_cases hj : j = i
    · exact .inr ⟨hj, by rw [pending]; rfl, reply, rfl, latest⟩
    · exact .inl (update_of_ne hj ..)
  | refused => exact .inl (hfreed rfl)
  | finished => exact .inl rfl
  | reported => exact .inl rfl

/-- The answer that was awaited makes its driver active, or ends its stay. -/
theorem Reacts.answered {answer : InitReply} {label : Label} {endpoint : Endpoint}
    {handle? : Option H} (h : Reacts v i (.init answer) w)
    (hpending : v.state i = .pending label endpoint handle?)
    (hlatest : answer.id = (v.lane (i, .send)).head) :
    (∃ handle, w.state i = .active label endpoint handle) ∨ w.state i = .free := by
  cases h with
  | ignored notice trace unheeded => exact absurd ⟨by rw [hpending]; rfl, hlatest⟩ unheeded
  | malformed => exact .inr (update_self ..)
  | turnedAway => exact .inr (update_self ..)
  | activated label' endpoint' answer name pending latest checked hires enabled =>
    rw [hpending] at pending
    cases pending
    exact .inl ⟨_, update_self ..⟩
  | refused => exact .inr (update_self ..)

/-- Besides init requests, what was handed over is for active drivers at their endpoints, and then the
driver table is as it was. -/
def Addresses (v w : View config τ γ ι H) : Prop :=
  ∃ added, frames w.journal = frames v.journal ++ added ∧ ∀ frame ∈ added,
    frame.2.2 = .init ∨ w.state = v.state ∧ ∃ (i : Fin config.drivers) (label : Label) (handle : H),
      frame.1 = ⟨i⟩ ∧ v.state i = .active label frame.2.1 handle

omit [Transport τ] [GrantTable γ] [Interface ι H] in
theorem addresses_of_frames_eq (h : frames w.journal = frames v.journal) : v.Addresses w :=
  ⟨[], by rw [h, List.append_nil], nofun⟩

omit [Transport τ] [GrantTable γ] [Interface ι H] in
theorem addresses_of_active {label : Label} {endpoint : Endpoint} {handle : H}
    {type : Wire.RequestType} (hactive : v.state i = .active label endpoint handle)
    (hstate : w.state = v.state)
    (hframes : frames w.journal = frames v.journal ++ [(⟨i⟩, endpoint, type)]) : v.Addresses w := by
  refine ⟨_, hframes, fun frame hframe => .inr ⟨hstate, i, label, handle, ?_⟩⟩
  rw [List.mem_singleton.mp hframe]
  exact ⟨rfl, hactive⟩

omit [Interface ι H] in
theorem Serves.addresses {plan : Plan} {answer : Except Refusal UInt32}
    (h : Serves v i plan answer w) : v.Addresses w := by
  cases h with
  | @issued label endpoint handle slot grants journal g transport active created sent =>
    have hframes (request : Request) :
        frames (.posted ⟨i⟩ endpoint request (.ok ()) :: (journal ++ v.journal)) =
          frames v.journal ++ [(⟨i⟩, endpoint, request.type)] := by
      rw [frames_posted, frames_append, frames_creates created, List.append_nil]
    exact addresses_of_active active rfl (hframes _)
  | abandoned label endpoint handle active created revoked =>
    apply addresses_of_frames_eq
    rw [frames_append, frames_append, frames_creates created, frames_revocations, List.append_nil,
      List.append_nil]

omit [Transport τ] [GrantTable γ] in
theorem frames_goneAt (v : View config τ γ ι H) (i : Fin config.drivers) (endpoint : Endpoint)
    (grants : γ) : frames (v.goneAt i endpoint grants).journal = frames v.journal := by
  unfold goneAt
  rw [frames_cons_noticed, frames_append, frames_append, frames_withdrawing, frames_revocations,
    List.append_nil, List.append_nil]

theorem Reacts.addresses {reply : Reply} (h : Reacts v i reply w) : v.Addresses w := by
  cases h with
  | ignored => exact addresses_of_frames_eq rfl
  | malformed => exact addresses_of_frames_eq (frames_goneAt ..)
  | turnedAway => exact addresses_of_frames_eq (frames_goneAt ..)
  | activated label endpoint reply name pending latest checked hires enabled =>
    have hframes : frames _ = frames v.journal := frames_hires hires
    exact addresses_of_frames_eq hframes
  | refused label endpoint reply name pending latest checked hires refused =>
    have hframes : frames _ = frames v.journal := frames_hires hires
    exact addresses_of_frames_eq hframes
  | finished label endpoint handle b rest number result active oldest head revoked =>
    apply addresses_of_frames_eq
    change frames (revocations _ ++ v.journal) = _
    rw [frames_append, frames_revocations, List.append_nil]
  | reported label endpoint handle number report active sent =>
    exact addresses_of_active active rfl (frames_posted ..)

end View

namespace Operation

variable [Transport τ] [GrantTable γ] [Interface ι H] {s t : HubSession config τ γ ι H}
variable {operation : Operation config} {i : Fin config.drivers}

/-- Whoever is active after an operation was active before in the same way, or was pending and has just
given the answer that was awaited. -/
theorem Effect.active {outcome : Option (Except Refusal UInt32)} (h : operation.Effect s outcome t)
    (hactive : (t.tables.state i).isActive = true) : t.tables.state i = s.tables.state i ∨
      ∃ sender answer, operation.message? = some (sender, .init answer) ∧
        s.tables.findEndpoint sender = some i ∧ (s.tables.state i).isPending = true ∧
        answer.id = (s.tables.queues (i, .send)).head := by
  cases h with
  | reconciled source events present moves kept => exact .inl (kept.active i hactive)
  | refused => exact .inl rfl
  | answered id j p petition entry answered => exact .inl (congrFun answered.serves.state_eq i)
  | reacted sender reply j message found reacted =>
    rcases reacted.reacts.active hactive with hsame | ⟨rfl, hpending, answer, rfl, hlatest⟩
    · exact .inl hsame
    · exact .inr ⟨sender, answer, message, found, hpending, hlatest⟩
  | noted => exact .inl rfl

theorem Effect.addresses {outcome : Option (Except Refusal UInt32)}
    (h : operation.Effect s outcome t) : s.view.Addresses t.view := by
  cases h with
  | reconciled source events present moves kept =>
    obtain ⟨added, hadded, hinits⟩ := Register.frames_foldl_take s.register events
    have hframes : frames t.journal = _ := congrArg Register.frames kept.register
    exact ⟨added, hframes.trans hadded, fun frame hframe => .inl (hinits frame hframe)⟩
  | refused => exact View.addresses_of_frames_eq rfl
  | answered id j p petition entry answered => exact answered.serves.addresses
  | reacted sender reply j message found reacted => exact reacted.reacts.addresses
  | noted => exact View.addresses_of_frames_eq rfl

/-- An init reply never ends the work. -/
theorem run_init (h : s.tables.Sound) {sender : Endpoint} {answer : InitReply}
    (hmessage : operation.message? = some (sender, .init answer))
    (hfound : s.tables.findEndpoint sender = some i) :
    ∃ t, operation.run s = .ok none t ∧ View.Reacts s.view i (.init answer) t.view := by
  have hgoes : operation.run.Goes s
      (fun outcome t => outcome = none ∧ View.Reacts s.view i (.init answer) t.view)
      fun _ => False := by
    rw [run_of_message hmessage, goes_bind]
    exact Goes.mono (Hub.goes_process h hfound (.init answer)) (fun _ _ ht => ⟨rfl, ht.reacts⟩)
      fun _ hstops => nomatch hstops
  obtain ⟨outcome, t, hrun, rfl, hreacts⟩ := hgoes.answers_of_not_ends
  exact ⟨t, hrun, hreacts⟩

/-- A reply that is not heeded is only noted, without a warning. -/
theorem run_ignored (h : s.tables.Sound) {sender : Endpoint} {reply : Reply}
    (hmessage : operation.message? = some (sender, reply))
    (hfound : s.tables.findEndpoint sender = some i) (hunheeded : ¬s.view.Heeds i reply) :
    ∃ notice : Notice, notice.level = .trace ∧
      operation.run s = .ok none { s with journal := .noticed notice :: s.journal } := by
  obtain ⟨notice, hlevel, hrun⟩ := Hub.process_ignored h hfound hunheeded
  refine ⟨notice, hlevel, eq_ok_of_goes ?_⟩
  rw [run_of_message hmessage, goes_bind, Goes, hrun]
  exact ⟨rfl, rfl⟩

end Operation

section Runs

variable [Transport τ] [GrantTable γ] [Interface ι H]
variable {heads : LaneId config → UInt32} {custody : Custody γ} {s : HubSession config τ γ ι H}

theorem Reachable.greets (h : Reachable heads custody s) (i : Fin config.drivers) :
    s.view.Greets i := by
  refine h.view_induction (fun transport grants interface _ => ?_)
    (fun v w hv hmove => hmove.greets hv) (fun v _ w hv hissue => hissue.greets hv)
    fun v transport grants interface hv _ => hv
  exact View.greets_of_not_pending rfl

/-- An init reply to a request that is not the latest one of an entry is not heeded there. -/
theorem Reachable.unheeded_of_superseded (h : Reachable heads custody s) {i : Fin config.drivers}
    {answer : InitReply} {number : Nat}
    (hissued : (number, .init answer.id) ∈ (account (heads (i, .send)) (i, .send) s.journal).issued)
    (hsuperseded : (account (heads (i, .send)) (i, .send) s.journal).awaited ≠ some number)
    (hnear : (account (heads (i, .send)) (i, .send) s.journal).number - number < 2 ^ 32) :
    ¬s.view.Heeds i (.init answer) := by
  rintro ⟨hpending, hlatest⟩
  have hfits : (account (heads (i, .send)) (i, .send) s.journal).Fits (s.tables.state i)
    (s.tables.lane (i, .send)) := h.agrees (i, .send)
  change (s.tables.state i).isPending = true at hpending
  -- A pending driver has nothing in flight, so only the awaited number is as high as the lane's.
  have hwaits : ¬(account (heads (i, .send)) (i, .send) s.journal).Waits number := by
    rintro (hawaited | hflight)
    · exact hsuperseded hawaited
    · rw [hfits.inFlight_eq_nil (Occupant.isActive_of_isPending hpending)] at hflight
      cases hflight
  have hused : s.tables.state i ≠ .free := by
    intro hfree
    rw [hfree] at hpending
    cases hpending
  apply ofNat_ne_of_lt (hfits.lt_number hused hissued hwaits) hnear
  rw [← hfits.head]
  exact hlatest.symm.trans (hfits.ids _ hissued)

/-- The handshake agrees. A pending driver was last handed an init request, to its endpoint and with the
number in front of its send lane, and nothing after it. A driver becomes active only by an init reply
that is routed to its entry and carries this number; such a reply is never ignored. An init reply
to an earlier init request, or to an active driver, is only noted. Whatever else is handed over is for
an active driver, at its endpoint. -/
theorem Reachable.handshake_agrees (h : Reachable heads custody s) (i : Fin config.drivers) :
    let a := account (heads (i, .send)) (i, .send) s.journal
    (∀ label endpoint handle, s.tables.state i = .pending label endpoint handle →
      lastPosted ⟨i⟩ s.journal = some (endpoint, .init (s.tables.queues (i, .send)).head)) ∧
    (∀ (operation : Operation config) outcome t, operation.run s = .ok outcome t →
      (t.tables.state i).isActive = true → t.tables.state i = s.tables.state i ∨
        ∃ sender answer, operation.message? = some (sender, .init answer) ∧
          s.tables.findEndpoint sender = some i ∧ (s.tables.state i).isPending = true ∧
          answer.id = (s.tables.queues (i, .send)).head) ∧
    (∀ label endpoint handle?, s.tables.state i = .pending label endpoint handle? →
      (∀ j < i, (s.tables.state j).endpoint? ≠ some endpoint) →
      ∀ (operation : Operation config) answer,
        operation.message? = some (endpoint, .init answer) →
        answer.id = (s.tables.queues (i, .send)).head →
        ∃ t, operation.run s = .ok none t ∧
          ((∃ handle, t.tables.state i = .active label endpoint handle) ∨
            t.tables.state i = .free)) ∧
    (∀ (operation : Operation config) sender answer number,
      operation.message? = some (sender, .init answer) →
      (number, .init answer.id) ∈ a.issued → a.awaited ≠ some number → a.number - number < 2 ^ 32 →
      (∃ notice : Notice, notice.level = .trace ∧
        operation.run s = .ok none { s with journal := .noticed notice :: s.journal }) ∨
      ∃ j t, j ≠ i ∧ s.tables.findEndpoint sender = some j ∧ operation.run s = .ok none t ∧
        t.tables.state i = s.tables.state i ∧ ∀ d, t.tables.lane (i, d) = s.tables.lane (i, d)) ∧
    (∀ (operation : Operation config) sender answer,
      operation.message? = some (sender, .init answer) → s.tables.findEndpoint sender = some i →
      (s.tables.state i).isActive = true →
      ∃ notice : Notice, notice.level = .trace ∧
        operation.run s = .ok none { s with journal := .noticed notice :: s.journal }) ∧
    ∀ (operation : Operation config) outcome t, operation.run s = .ok outcome t →
      s.view.Addresses t.view := by
  intro a
  refine ⟨h.greets i, ?becomes, ?awaited, ?superseded, ?established, ?addressed⟩
  case becomes =>
    intro operation outcome t hrun hactive
    exact ((operation.goes_effect h.sound).of_ok hrun).active hactive
  case awaited =>
    intro label endpoint handle? hpending hfirst operation answer hmessage hlatest
    have hendpoint : (s.tables.state i).endpoint? = some endpoint := by
      rw [hpending]
      rfl
    have hfound := Hub.findEndpoint_eq_some h.sound hendpoint hfirst
    obtain ⟨t, hrun, hreacts⟩ := Operation.run_init h.sound hmessage hfound
    exact ⟨t, hrun, hreacts.answered hpending hlatest⟩
  case superseded =>
    intro operation sender answer number hmessage hissued hsuperseded hnear
    cases hfound : s.tables.findEndpoint sender with
    | none => exact .inl ⟨_, rfl, Operation.run_unknown hmessage hfound⟩
    | some j =>
      by_cases hj : j = i
      · subst hj
        exact .inl (Operation.run_ignored h.sound hmessage hfound
          (h.unheeded_of_superseded hissued hsuperseded hnear))
      · obtain ⟨t, hrun, hreacts⟩ := Operation.run_init h.sound hmessage hfound
        obtain ⟨hstate, hlane⟩ := hreacts.elsewhere (Ne.symm hj)
        exact .inr ⟨j, t, hj, rfl, hrun, hstate, hlane⟩
  case established =>
    intro operation sender answer hmessage hfound hactive
    refine Operation.run_ignored h.sound hmessage hfound fun hheeds => ?_
    have hpending : (s.tables.state i).isPending = true := hheeds.1
    rw [Occupant.isActive_of_isPending hpending] at hactive
    cases hactive
  case addressed =>
    intro operation outcome t hrun
    exact ((operation.goes_effect h.sound).of_ok hrun).addresses

end Runs

namespace Trial

/-- Of the two drivers of the crowd, one is active and its answer is not taken again; the other was asked
to start, and its answer is taken. -/
theorem greeting_answered :
    lastPosted ⟨1⟩ crowded.journal = some (⟨6⟩, .init 1) ∧
    (∃ t, (Operation.process ⟨6⟩ (.init { reply with id := 1 })).run crowded = .ok none t ∧
      t.tables.state ⟨1, by decide⟩ ≠ crowded.tables.state ⟨1, by decide⟩) ∧
    ∃ notice : Notice, notice.level = .trace ∧
      (Operation.process ⟨5⟩ (.init { reply with id := 1 })).run crowded =
        .ok none { crowded with journal := .noticed notice :: crowded.journal } := by
  have hcrowded : Reachable (fun _ => 0) (.any GrantLedger) crowded :=
    (Reachable.new pair_built trivial).afterAll _
  obtain ⟨second, hpending⟩ : ∃ second, crowded.tables.state ⟨1, by decide⟩ =
      .pending second ⟨6⟩ none := ⟨_, by cbv⟩
  obtain ⟨hposted, -, hawaited, -⟩ := Reachable.handshake_agrees hcrowded ⟨1, by decide⟩
  obtain ⟨-, -, -, -, hestablished, -⟩ := Reachable.handshake_agrees hcrowded ⟨0, by decide⟩
  have hhead : (crowded.tables.queues (⟨1, by decide⟩, .send)).head = 1 := by decide +kernel
  refine ⟨?_, ?_, hestablished (.process ⟨5⟩ _) ⟨5⟩ _ rfl (by decide +kernel) (by decide +kernel)⟩
  · rw [hposted _ _ _ hpending, hhead]
  · have hfirst : ∀ j < (⟨1, by decide⟩ : Fin pair.drivers),
        (crowded.tables.state j).endpoint? ≠ some ⟨6⟩ := by decide +kernel
    obtain ⟨t, hrun, hstate⟩ := hawaited _ _ _ hpending hfirst (.process ⟨6⟩ _)
      { reply with id := 1 } rfl hhead.symm
    refine ⟨t, hrun, ?_⟩
    rw [hpending]
    rcases hstate with ⟨handle, hactive⟩ | hfree
    · rw [hactive]
      intro hsame
      cases hsame
    · rw [hfree]
      intro hsame
      cases hsame

end Trial
end DriverHub
