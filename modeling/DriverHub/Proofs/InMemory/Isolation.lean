import DriverHub.Proofs.InMemory.Twins

/-! Drivers do not notice each other. Whatever is done for other drivers may be left out of a run, and a
driver that keeps to its guaranteed sends cannot tell. -/
namespace DriverHub

open Function SessionM

variable {config : Config}

namespace Hub

variable {H : Type} {hub hub' : Hub config H} {i : Fin config.drivers}

/-- A queue that is not opened beyond its guarantee is full only at its limit. -/
theorem Stored.full_iff_of_narrow (h : hub.Stored)
    (hnarrow : (hub.queues (i, .send)).limit ≤ config.sendDepth.toNat) (kind : RequestKind) :
    hub.Full i kind ↔
      (hub.queues (i, kind.direction)).depth = (hub.queues (i, kind.direction)).limit := by
  refine or_iff_left_of_imp ?_
  rintro ⟨hsend, hdepth, -⟩
  have hle := h.depth_le_limit (i, .send)
  rw [hsend]
  omega

theorem Ready.reserve_eq_ok (h : hub.Ready) (endpoint : Endpoint)
    {kind : RequestKind} (hadmits : ¬hub.Full i kind) :
    ∃ admission, hub.reserve i endpoint kind = .ok admission ∧ admission.driver = i := by
  have hbusy : hub.reserve i endpoint kind = .error .busy ↔ hub.Full i kind :=
    h.sound.reserve_busy_iff endpoint (h.free_of_not_full)
  unfold reserve at hbusy ⊢
  split at hbusy
  · exact absurd (hbusy.mp rfl) hadmits
  · exact ⟨_, rfl, rfl⟩

/-- Of two hubs in which the same driver is active and has the same room, both take in a request or both
refuse it for the same reason. -/
theorem Ready.admitted_alike (h : hub.Ready) (h' : hub'.Ready) {label : Label}
    {endpoint : Endpoint} {handle : H} (hstate : hub.state i = .active label endpoint handle)
    (hstate' : hub'.state i = .active label endpoint handle)
    (hfull : ∀ kind, hub'.Full i kind ↔ hub.Full i kind) (plan : Except Refusal Plan) :
    (∃ refusal, hub.admitted ⟨i⟩ plan = .error refusal ∧ hub'.admitted ⟨i⟩ plan = .error refusal) ∨
    ∃ p admission admission', plan = .ok p ∧ hub.admitted ⟨i⟩ plan = .ok (admission, p) ∧
      hub'.admitted ⟨i⟩ plan = .ok (admission', p) ∧ admission.driver = i ∧ admission'.driver = i := by
  have hactive : hub.active ⟨i⟩ = .ok (i, endpoint) :=
    (active_eq_ok_iff h.sound.labelled).mpr ⟨rfl, label, handle, hstate⟩
  have hactive' : hub'.active ⟨i⟩ = .ok (i, endpoint) :=
    (active_eq_ok_iff h'.sound.labelled).mpr ⟨rfl, label, handle, hstate'⟩
  unfold admitted
  rw [hactive, hactive']
  cases plan with
  | error refusal => exact .inl ⟨refusal, rfl, rfl⟩
  | ok p =>
    by_cases hroom : hub.Full i p.kind
    · have hbusy := (h.sound.reserve_busy_iff endpoint (h.free_of_not_full)).mpr hroom
      have hbusy' := (h'.sound.reserve_busy_iff endpoint (h'.free_of_not_full)).mpr
        ((hfull p.kind).mpr hroom)
      refine .inl ⟨.busy, ?_, ?_⟩ <;> simp [bind, Except.bind, hbusy, hbusy']
    · obtain ⟨admission, hreserve, hdriver⟩ := h.reserve_eq_ok endpoint hroom
      obtain ⟨admission', hreserve', hdriver'⟩ := h'.reserve_eq_ok endpoint
        (mt (hfull p.kind).mp hroom)
      refine .inr ⟨p, admission, admission', rfl, ?_, ?_, hdriver, hdriver'⟩ <;>
        simp [bind, Except.bind, hreserve, hreserve', pure, Except.pure]

theorem admitted_unknown (hub : Hub config H) {id : DriverId} (h : config.drivers ≤ id.index)
    (plan : Except Refusal Plan) : hub.admitted id plan = .error (.unknownDriver id) := by
  unfold admitted active
  rw [dif_neg (Nat.not_lt.mpr h)]
  rfl

end Hub

/-- The driver of an entry is active with no more sends than it is guaranteed, and has its endpoint for
itself. -/
structure Hub.Secluded (hub : Hub config Nat) (i : Fin config.drivers) (label : Label)
    (endpoint : Endpoint) (handle : Nat) : Prop where
  active : hub.state i = .active label endpoint handle
  narrow : (hub.queues (i, .send)).limit ≤ config.sendDepth.toNat
  alone : ∀ j, j ≠ i → (hub.state j).endpoint? ≠ some endpoint

section Runs

variable {heads : LaneId config → UInt32} {allowed : Control → Prop}
variable {i : Fin config.drivers} {label : Label} {endpoint : Endpoint} {handle : Nat}
variable {s s' t t' : HostedSession config} {operation : Operation config}
variable {answer : Option (Except Refusal UInt32)}

/-- Two hubs that can be reached and look the same to the driver of an entry. -/
structure Session.Twins (heads : LaneId config → UInt32) (allowed : Control → Prop)
    (i : Fin config.drivers) (label : Label) (endpoint : Endpoint) (handle : Nat)
    (s t : HostedSession config) : Prop where
  first : Hosted heads allowed s
  second : Hosted heads allowed t
  views : View.Twins i label endpoint handle s.view t.view

namespace Session.Twins

theorem below (h : s.Twins heads allowed i label endpoint handle t) :
    GrantLedger.holdings.intact t.view.grants := h.second.counted.below

theorem depth_eq (h : s.Twins heads allowed i label endpoint handle t) (d : Direction) :
    (t.tables.queues (i, d)).depth = (s.tables.queues (i, d)).depth := by
  rw [← h.first.reachable_any.sound.length_bookings, ← h.second.reachable_any.sound.length_bookings]
  exact (h.views.lanes d).length_eq

theorem full_iff (h : s.Twins heads allowed i label endpoint handle t) (kind : RequestKind) :
    t.tables.Full i kind ↔ s.tables.Full i kind := by
  have hnarrow : (s.tables.queues (i, .send)).limit ≤ config.sendDepth.toNat := h.views.narrow
  have hlimit (d : Direction) :
      (t.tables.queues (i, d)).limit = (s.tables.queues (i, d)).limit := (h.views.lanes d).limit
  rw [h.first.reachable_any.sound.full_iff_of_narrow hnarrow,
    h.second.reachable_any.sound.full_iff_of_narrow (hlimit .send ▸ hnarrow), h.depth_eq, hlimit]

/-- A request of the driver itself. -/
theorem request (h : s.Twins heads allowed i label endpoint handle t)
    {plan : Except Refusal Plan} (hpetition : operation.petition? = some (⟨i⟩, plan))
    (hrun : operation.run s = .ok answer s') (hgranted : answer ≠ some (.error .noMemory)) :
    ∃ t', operation.run t = .ok answer t' ∧ s'.Twins heads allowed i label endpoint handle t' := by
  rcases h.first.reachable_any.ready.admitted_alike h.second.reachable_any.ready h.views.first
      h.views.second h.full_iff plan with
    ⟨refusal, hrefused, hrefused'⟩ | ⟨p, admission, admission', rfl, hadmitted, hadmitted', rfl, hdriver'⟩
  · rw [Operation.run_refused hpetition hrefused] at hrun
    cases hrun
    exact ⟨t, Operation.run_refused hpetition hrefused', h⟩
  · have hproper := (Operation.planned_of_petition hpetition).proper p rfl
    have hgoes := Operation.goes_of_admitted h.first.reachable_any.sound hpetition hadmitted
    obtain ⟨number, rfl, hanswered⟩ := hgoes.of_ok hrun
    have hnumber : number ≠ .error .noMemory := fun hnone => hgranted (congrArg some hnone)
    have hgoes' := Operation.goes_of_admitted h.second.reachable_any.sound hpetition hadmitted'
    rw [hdriver', Goes] at hgoes'
    split at hgoes'
    · rename_i answer' t' hrun'
      obtain ⟨number', rfl, hanswered'⟩ := hgoes'
      obtain ⟨rfl, hviews⟩ := h.views.serves hproper.few
        (fun number _ _ => Operation.ungranted_request hpetition number) h.first.held h.below
        hanswered.serves hnumber hanswered'.serves
      exact ⟨t', hrun', h.first.after operation hrun, h.second.after operation hrun', hviews⟩
    · exact absurd hgoes' (h.views.not_fails hanswered.serves hnumber _)

/-- A reply of the driver itself. -/
theorem reply (h : s.Twins heads allowed i label endpoint handle t) {reply : Reply}
    (hmessage : operation.message? = some (endpoint, reply))
    (hfound : s.tables.findEndpoint endpoint = some i) (hrun : operation.run s = .ok answer s') :
    ∃ t', operation.run t = .ok answer t' ∧ s'.Twins heads allowed i label endpoint handle t' := by
  have hsound := h.second.reachable_any.sound
  have hfound' : t.tables.findEndpoint endpoint = some i :=
    Hub.findEndpoint_eq_some hsound (congrArg Occupant.endpoint? h.views.second) fun j hj =>
      h.views.alone' j hj.ne
  have hgoes := Operation.goes_of_routed h.first.reachable_any.sound hmessage hfound
  obtain ⟨rfl, hreacted⟩ := hgoes.of_ok hrun
  have hgoes' := Operation.goes_of_routed hsound hmessage hfound'
  rw [Goes] at hgoes'
  split at hgoes'
  · rename_i answer' t' hrun'
    obtain ⟨rfl, hreacted'⟩ := hgoes'
    have hviews :=
      h.views.reacts h.first.held h.second.held h.below hreacted.reacts hreacted'.reacts
    exact ⟨t', hrun', h.first.after operation hrun, h.second.after operation hrun', hviews⟩
  · exact absurd hgoes'
      (h.views.not_stops h.first.held h.second.held h.below hreacted.reacts _)

/-- A reply that the first hub knows no sender of. The second one may know a driver there that has gone
from the first. -/
theorem stray (h : s.Twins heads allowed i label endpoint handle t) {sender : Endpoint}
    {reply : Reply} (hmessage : operation.message? = some (sender, reply))
    (hnone : s.tables.findEndpoint sender = none)
    (hreliable : t.transport.failing = false ∨ ¬operation.Foreign t.tables endpoint)
    (hrun : operation.run s = .ok answer s') :
    ∃ t', operation.run t = .ok answer t' ∧ s'.Twins heads allowed i label endpoint handle t' := by
  have hs' := h.first.after operation hrun
  have hsound := h.second.reachable_any.sound
  have hnowhere := (Hub.findEndpoint_eq_none_iff h.first.reachable_any.sound).mp hnone
  rw [Operation.run_unknown hmessage hnone] at hrun
  cases hrun
  cases hfound : t.tables.findEndpoint sender with
  | none =>
    have hrun' := Operation.run_unknown hmessage hfound
    exact ⟨_, hrun', hs', h.second.after operation hrun', h.views.of_journal _ _⟩
  | some j =>
    have hj := Hub.endpoint_of_findEndpoint hsound.labelled hfound
    have hsender : sender ≠ endpoint := by
      rintro rfl
      exact hnowhere i (congrArg Occupant.endpoint? h.views.first)
    have hne : j ≠ i := by
      rintro rfl
      have hi : (t.tables.state j).endpoint? = some endpoint :=
        congrArg Occupant.endpoint? h.views.second
      exact hsender (Option.some.inj (hj.symm.trans hi))
    -- Whoever has requests in the second hub is still active in the first one.
    have hidle (d : Direction) : (t.view.lane (j, d)).bookings = [] := by
      by_contra hbookings
      exact hnowhere j ((h.views.served j hne d hbookings).2.trans hj)
    have hgoes' := Operation.goes_of_routed hsound hmessage hfound
    rw [Goes] at hgoes'
    split at hgoes'
    · rename_i answer' t' hrun'
      obtain ⟨rfl, hreacted'⟩ := hgoes'
      have hviews := h.views.right hreacted'.reacts hne hidle h.second.handled
      exact ⟨t', hrun', hs', h.second.after operation hrun', hviews.of_journal _ _⟩
    · cases hgoes' with
      | revocation _ _ _ b rest _ _ _ oldest =>
        rw [hidle] at oldest
        cases oldest
      | delivery _ _ _ _ _ _ failed =>
        have hfault := hreliable.resolve_right fun hforeign =>
          hforeign ⟨sender, _, hmessage, hsender, j, hj⟩
        exact absurd failed (Outbox.not_send_error hfault)

/-- What concerns no other entry is done in both hubs. -/
theorem own (h : s.Twins heads allowed i label endpoint handle t)
    (hother : ¬operation.IsReconcile) (hown : operation.own s.tables i = true)
    (hreliable : t.transport.failing = false ∨ ¬operation.Foreign t.tables endpoint)
    (hrun : operation.run s = .ok answer s') (hgranted : answer ≠ some (.error .noMemory)) :
    ∃ t', operation.run t = .ok answer t' ∧ s'.Twins heads allowed i label endpoint handle t' := by
  rw [Operation.own_eq_true_iff] at hown
  cases hpetition : operation.petition? with
  | some petition =>
    obtain ⟨id, plan⟩ := petition
    rw [Operation.concerned_of_petition hpetition] at hown
    by_cases hid : id.index < config.drivers
    · rw [dif_pos hid] at hown
      obtain rfl : id = ⟨i⟩ := by
        rw [← hown _ rfl]
      exact h.request hpetition hrun hgranted
    · have hunknown := s.tables.admitted_unknown (Nat.le_of_not_lt hid) plan
      have hunknown' := t.tables.admitted_unknown (Nat.le_of_not_lt hid) plan
      rw [Operation.run_refused hpetition hunknown] at hrun
      cases hrun
      exact ⟨t, Operation.run_refused hpetition hunknown', h⟩
  | none =>
    cases hmessage : operation.message? with
    | some message =>
      obtain ⟨sender, reply⟩ := message
      rw [Operation.concerned_of_message hmessage] at hown
      cases hfound : s.tables.findEndpoint sender with
      | none => exact h.stray hmessage hfound hreliable hrun
      | some j =>
        obtain rfl := hown j hfound
        have hsender := Hub.endpoint_of_findEndpoint h.first.reachable_any.sound.labelled hfound
        have hstate : s.tables.state j = .active label endpoint handle := h.views.first
        rw [hstate] at hsender
        cases hsender
        exact h.reply hmessage hfound hrun
    | none =>
      have hs' := h.first.after operation hrun
      obtain ⟨notice, -, hrun₁⟩ := Operation.run_unreadable (s := s) hpetition hmessage hother
      obtain ⟨notice', -, hrun₂⟩ := Operation.run_unreadable (s := t) hpetition hmessage hother
      rw [hrun₁] at hrun
      cases hrun
      exact ⟨_, hrun₂, hs', h.second.after operation hrun₂, h.views.of_journal _ _⟩

/-- What does not concern the driver may be left out. -/
theorem others (h : s.Twins heads allowed i label endpoint handle t)
    (hother : ¬operation.IsReconcile) (hconcerned : operation.concerned s.tables ≠ some i)
    (hrun : operation.run s = .ok answer s') : s'.Twins heads allowed i label endpoint handle t := by
  refine ⟨h.first.after operation hrun, h.second, ?_⟩
  have heffect := (operation.goes_effect h.first.reachable_any.sound).of_ok hrun
  have hhandle : (s.view.state i).handle? = some handle := by
    rw [h.views.first]
    rfl
  cases heffect with
  | reconciled => exact (hother trivial).elim
  | refused => exact h.views
  | answered id j p petition entry answered =>
    have hj : j ≠ i := by
      rintro rfl
      rw [Operation.concerned_of_petition petition, dif_pos (entry ▸ j.isLt)] at hconcerned
      exact hconcerned (congrArg some (Fin.ext entry.symm))
    exact h.views.left (answered.serves.aside hj (h.views.alone j hj)) answered.serves.since
      h.first.held
  | reacted sender reply j message found reacted =>
    have hj : j ≠ i := by
      rintro rfl
      rw [Operation.concerned_of_message message] at hconcerned
      exact hconcerned found
    have haside := reacted.reacts.aside h.first.handled hj (h.views.alone j hj) hhandle
    exact h.views.left haside reacted.reacts.since h.first.held
  | noted => exact h.views.of_journal _ _

end Session.Twins

/-- Two steps that come to the same for the driver of an entry, which is at this endpoint and has this
interface. -/
structure Step.Alike (i : Fin config.drivers) (endpoint : Endpoint) (handle : Nat)
    (step step' : Step config Outbox GrantLedger CallbackLog Nat) : Prop where
  operation : step'.operation = step.operation
  answer : step'.answer = step.answer
  queues : ∀ d,
    (step'.after.tables.queues (i, d)).head = (step.after.tables.queues (i, d)).head ∧
    (step'.after.tables.queues (i, d)).depth = (step.after.tables.queues (i, d)).depth ∧
    (step'.after.tables.queues (i, d)).limit = (step.after.tables.queues (i, d)).limit
  calls : step'.after.interface.callsOn handle = step.after.interface.callsOn handle
  frames : List.Forall₂ Frame.Alike (step.after.transport.framesTo endpoint)
    (step'.after.transport.framesTo endpoint)

theorem Session.Twins.alike (h : s'.Twins heads allowed i label endpoint handle t') :
    Step.Alike i endpoint handle ⟨s, operation, answer, s'⟩ ⟨t, operation, answer, t'⟩ where
  operation := rfl
  answer := rfl
  queues d := ⟨(h.views.lanes d).head, h.depth_eq d, (h.views.lanes d).limit⟩
  calls := h.views.calls
  frames := h.views.frames

/-- After an operation, sends of the second hub are not made to fail either, and nobody has come up. -/
theorem Hosted.still_reliable (h : Hosted heads allowed t) (hother : ¬operation.IsReconcile)
    (hrun : operation.run t = .ok answer t') {other : Operation config}
    (hreliable : t.transport.failing = false ∨ ¬other.Foreign t.tables endpoint) :
    t'.transport.failing = false ∨ ¬other.Foreign t'.tables endpoint := by
  have hsend (outbox : Outbox) (receiver : Endpoint) (request : Request) (outbox' : Outbox)
      (hfault : outbox.failing = false)
      (hsent : Transport.send outbox receiver request = (.ok (), outbox')) : outbox'.failing = false :=
    (Outbox.failing_of_send hsent).trans hfault
  refine hreliable.imp (fun hfault => ?_) (mt ?_)
  · rcases h.reachable_any.ran hrun with ⟨hmoves, -⟩ | ⟨outcome, -, hissue⟩
    · exact hmoves.keep (P := fun v => v.transport.failing = false)
        (fun v w hv hmove => hmove.keep_transport hsend hv) hfault
    · exact hissue.keep_transport hsend hfault
  · rintro ⟨sender, reply, hmessage, hsender, j, hj⟩
    have heffect := (operation.goes_effect h.reachable_any.sound).of_ok hrun
    exact ⟨sender, reply, hmessage, hsender, j, heffect.endpoints hother hj⟩

/-- By induction on the operations: the first hub does them all, the second one those that are kept. -/
theorem Session.Twins.trace (h : s.Twins heads allowed i label endpoint handle t)
    {operations : List (Operation config)}
    (hother : ∀ operation ∈ operations, ¬operation.IsReconcile)
    {steps : List (Step config Outbox GrantLedger CallbackLog Nat)}
    (htrace : s.trace operations = .ok steps)
    (hgranted : ∀ step ∈ steps, step.answer ≠ some (.error .noMemory))
    {kept : Step config Outbox GrantLedger CallbackLog Nat → Bool}
    (hown : ∀ step ∈ steps, kept step = true → step.own i = true)
    (hleft : ∀ step ∈ steps, ¬kept step = true → step.concerned ≠ some i)
    (hreliable : ∀ step ∈ steps, kept step = true →
      t.transport.failing = false ∨ ¬step.operation.Foreign t.tables endpoint) :
    ∃ alone, t.trace ((steps.filter kept).map Step.operation) = .ok alone ∧
      List.Forall₂ (Step.Alike i endpoint handle) (steps.filter kept) alone := by
  induction operations generalizing s t steps with
  | nil =>
    cases htrace
    exact ⟨[], rfl, .nil⟩
  | cons operation rest ih =>
    obtain ⟨answer, s', others, hrun, hothers, rfl⟩ := Session.trace_cons_eq_ok htrace
    rw [List.forall_mem_cons] at hother hgranted hown hleft hreliable
    -- A step that is kept is made in both hubs, and one that is left out in the first one only.
    by_cases hkept : kept ⟨s, operation, answer, s'⟩ = true
    · obtain ⟨t', hrun', htwins⟩ :=
        h.own hother.1 (hown.1 hkept) (hreliable.1 hkept) hrun hgranted.1
      obtain ⟨alone, halone, halike⟩ := ih htwins hother.2 hothers hgranted.2 hown.2 hleft.2
        fun step hstep hkept =>
          h.second.still_reliable hother.1 hrun' (hreliable.2 step hstep hkept)
      refine ⟨⟨t, operation, answer, t'⟩ :: alone, ?_, ?_⟩
      · rw [List.filter_cons_of_pos hkept, List.map_cons, Session.trace_cons hrun', halone]
        rfl
      · rw [List.filter_cons_of_pos hkept]
        exact .cons htwins.alike halike
    · rw [List.filter_cons_of_neg hkept]
      exact ih (h.others hother.1 (hleft.1 hkept) hrun) hother.2 hothers hgranted.2 hown.2 hleft.2
        hreliable.2

theorem Hosted.encoded (h : Hosted heads allowed s) :
    ∀ posted ∈ s.transport.frames.toList, ∃ request : Request, posted.2 = request.encode := by
  let Encoded (outbox : Outbox) : Prop :=
    ∀ posted ∈ outbox.frames.toList, ∃ request : Request, posted.2 = request.encode
  have hsend (outbox : Outbox) (endpoint : Endpoint) (request : Request) (outbox' : Outbox)
      (hencoded : Encoded outbox)
      (hsent : Transport.send outbox endpoint request = (.ok (), outbox')) : Encoded outbox' := by
    obtain ⟨-, rfl⟩ := Outbox.send_eq_ok_iff.mp hsent
    intro posted hposted
    rw [Array.toList_push, List.mem_append, List.mem_singleton] at hposted
    rcases hposted with hposted | rfl
    · exact hencoded posted hposted
    · exact ⟨request, rfl⟩
  refine h.view_induction (P := fun v => Encoded v.transport) nofun
    (fun v w hv hmove => hmove.keep_transport hsend hv)
    (fun v _ w hv hissue => hissue.keep_transport hsend hv) ?_
  intro v control hv _
  cases control with
  | clearFrames => exact nofun
  | _ => exact hv

/-- A hub looks the same as itself. -/
theorem Hosted.twins (h : Hosted heads allowed s)
    (hsecluded : s.tables.Secluded i label endpoint handle) :
    s.Twins heads allowed i label endpoint handle s where
  first := h
  second := h
  views :=
    { first := hsecluded.active
      second := hsecluded.active
      lanes := fun d =>
        ⟨rfl, rfl, List.forall₂_same.mpr fun _ _ => ⟨rfl, rfl, fun hlive => hlive⟩⟩
      narrow := hsecluded.narrow
      spent := .refl s.grants
      alone := hsecluded.alone
      alone' := hsecluded.alone
      served := fun j _ d hbookings => by
        by_contra hidle
        apply hbookings
        refine h.reachable_any.sound.bookings_eq_nil (i := j) ?_ d
        by_contra hactive
        exact hidle ⟨Bool.eq_true_of_not_eq_false hactive, rfl⟩
      calls := rfl
      frames := List.forall₂_same.mpr fun frame hframe => by
        obtain ⟨posted, hposted, rfl⟩ := List.mem_map.mp hframe
        obtain ⟨request, hrequest⟩ := h.encoded posted (List.mem_of_mem_filter hposted)
        exact ⟨request, request, hrequest, hrequest, rfl⟩
      failing := rfl }

/-- These steps of a run can be made without the others, and come to the same for the driver. -/
def Session.Separable (i : Fin config.drivers) (endpoint : Endpoint) (handle : Nat)
    (s : HostedSession config) (kept : List (Step config Outbox GrantLedger CallbackLog Nat)) :
    Prop :=
  ∃ alone, s.trace (kept.map Step.operation) = .ok alone ∧
    List.Forall₂ (Step.Alike i endpoint handle) kept alone

/-- What concerns other entries when the run starts may be left out of it. -/
theorem Hosted.separable (h : Hosted heads allowed s)
    (hsecluded : s.tables.Secluded i label endpoint handle) {operations : List (Operation config)}
    (hother : ∀ operation ∈ operations, ¬operation.IsReconcile)
    {steps : List (Step config Outbox GrantLedger CallbackLog Nat)}
    (htrace : s.trace operations = .ok steps)
    (hgranted : ∀ step ∈ steps, step.answer ≠ some (.error .noMemory)) :
    s.Separable i endpoint handle (steps.filter fun step => step.operation.own s.tables i) := by
  have hsound := h.reachable_any.sound
  have hi : (s.tables.state i).endpoint? = some endpoint :=
    congrArg Occupant.endpoint? hsecluded.active
  have hlabelled {step : Step config Outbox GrantLedger CallbackLog Nat} (hstep : step ∈ steps) :
      step.before.tables.Labelled :=
    (h.reachable_any.before_of_trace htrace hstep).sound.labelled
  refine (h.twins hsecluded).trace hother htrace hgranted (fun step hstep hown => ?_)
    (fun step hstep => mt fun hconcerned => ?_) fun step _ hown => .inr ?_
  · exact Operation.own_later
      (fun _ _ => h.reachable_any.endpoints_of_trace hother htrace hstep) hsound (hlabelled hstep) hi
      hsecluded.alone hown
  · exact Operation.own_of_concerned_later
      (fun _ _ => h.reachable_any.endpoints_of_trace hother htrace hstep) hsound (hlabelled hstep) hi
      hsecluded.alone hconcerned
  · exact Operation.not_foreign_of_own hsound hi hsecluded.alone hown

/-- What concerns other entries when it is done may be left out, if sends are not made to fail. -/
theorem Hosted.separable_of_reliable (h : Hosted heads allowed s)
    (hsecluded : s.tables.Secluded i label endpoint handle) {operations : List (Operation config)}
    (hother : ∀ operation ∈ operations, ¬operation.IsReconcile)
    {steps : List (Step config Outbox GrantLedger CallbackLog Nat)}
    (htrace : s.trace operations = .ok steps)
    (hgranted : ∀ step ∈ steps, step.answer ≠ some (.error .noMemory))
    (hreliable : s.transport.failing = false) :
    s.Separable i endpoint handle (steps.filter (Step.own i)) := by
  refine (h.twins hsecluded).trace hother htrace hgranted (fun _ _ hown => hown)
    (fun step _ hown hconcerned => hown ?_) fun _ _ _ => .inl hreliable
  refine Operation.own_eq_true_iff.mpr fun j hj => ?_
  exact Option.some.inj (hj.symm.trans hconcerned)

/-- Drivers do not notice each other. An operation leaves every entry that it does not concern as it is:
its state, and head, limit, depth and requests of its lanes. And if an active driver has no more sends
than it is guaranteed and its endpoint for itself, a run without failing sends, creations and
revocations can do without what concerns other entries, be it told when the run starts or, if sends are
not made to fail, when an operation comes up: the rest is answered as before and comes to the same for
this driver. -/
theorem drivers_isolated :
    (∀ {τ γ ι H : Type} [Transport τ] [GrantTable γ] [Interface ι H]
      {heads : LaneId config → UInt32} {custody : Custody γ} {s t : HubSession config τ γ ι H}
      {operation : Operation config} {answer : Option (Except Refusal UInt32)},
      Reachable heads custody s → ¬operation.IsReconcile → operation.run s = .ok answer t →
      ∀ j, operation.concerned s.tables ≠ some j →
        t.tables.state j = s.tables.state j ∧ ∀ d, t.tables.lane (j, d) = s.tables.lane (j, d) ∧
          (t.tables.queues (j, d)).depth = (s.tables.queues (j, d)).depth) ∧
    ∀ {heads : LaneId config → UInt32} {allowed : Control → Prop} {s : HostedSession config}
      {i : Fin config.drivers} {label : Label} {endpoint : Endpoint} {handle : Nat}
      {operations : List (Operation config)},
      Hosted heads allowed s → s.tables.Secluded i label endpoint handle →
      (∀ operation ∈ operations, ¬operation.IsReconcile) →
      (∀ type receiver cause, s.trace operations ≠ .error (.delivery type receiver cause)) →
      (∀ grant cause, s.trace operations ≠ .error (.revocation grant cause)) →
      ∃ steps, s.trace operations = .ok steps ∧
        ((∀ step ∈ steps, step.answer ≠ some (.error .noMemory)) →
          s.Separable i endpoint handle (steps.filter fun step => step.operation.own s.tables i) ∧
          (s.transport.failing = false → s.Separable i endpoint handle (steps.filter (Step.own i)))) := by
  refine ⟨fun hreachable hother hrun j hj => hreachable.elsewhere hother hrun hj,
    fun hhosted hsecluded hother hdelivered hrevoked => ?_⟩
  obtain ⟨steps, htrace⟩ := hhosted.reachable_any.trace_ok _ hdelivered hrevoked
  refine ⟨steps, htrace, fun hgranted => ⟨?_, fun hreliable => ?_⟩⟩
  · exact hhosted.separable hsecluded hother htrace hgranted
  · exact hhosted.separable_of_reliable hsecluded hother htrace hgranted hreliable

end Runs

namespace Trial

/-- Of the crowd, the first driver is active and the second one was asked to start. -/
def secluded : HostedSession pair :=
  atRest.afterAll [.reconcile crowd, .process ⟨5⟩ (.init { reply with id := 1, maxSend := 2 })]

/-- The second driver becomes active, both get packets to send, and the first one has sent one. -/
def traffic : List (Operation pair) :=
  [.process ⟨6⟩ (.init { reply with id := 1 }), .send ⟨0⟩ [⟨0, 16⟩], .send ⟨1⟩ [⟨64, 16⟩],
    .send ⟨0⟩ [⟨16, 16⟩], .process ⟨5⟩ (.finished .send 2 0)]

theorem traffic_separable :
    (∃ t, (Operation.process ⟨6⟩ (.init { reply with id := 1 })).run secluded = .ok none t ∧
      t.tables.state first = secluded.tables.state first) ∧
    secluded.tables.Secluded first label ⟨5⟩ 1 ∧
    ∃ steps, secluded.trace traffic = .ok steps ∧ (steps.filter (Step.own first)).length = 3 ∧
      secluded.Separable first ⟨5⟩ 1
        (steps.filter fun step => step.operation.own secluded.tables first) ∧
      secluded.Separable first ⟨5⟩ 1 (steps.filter (Step.own first)) := by
  have hstart : Hosted (fun _ => 0) Control.Benign atRest :=
    .new (s := { atRest with tables := Hub.empty pair }) pair_built
  have hhosted : Hosted (fun _ => 0) Control.Benign secluded := hstart.afterAll _
  have hsecluded : secluded.tables.Secluded first label ⟨5⟩ 1 :=
    ⟨by cbv, by decide +kernel, by decide +kernel⟩
  have hother : ∀ operation ∈ traffic, ¬operation.IsReconcile := by
    simp [traffic, Operation.IsReconcile]
  have htrace : (secluded.trace traffic).toOption.map (fun steps =>
      (steps.map Step.answer, (steps.filter (Step.own first)).length)) =
        some ([none, some (.ok 2), some (.ok 2), some (.ok 3), none], 3) := by
    decide +kernel
  obtain ⟨helsewhere, hseparable⟩ := @drivers_isolated pair
  obtain ⟨steps, hsteps, hkept⟩ := hseparable hhosted hsecluded hother
    (fun type receiver cause hfailed => by rw [hfailed] at htrace; cases htrace)
    (fun grant cause hfailed => by rw [hfailed] at htrace; cases htrace)
  rw [hsteps] at htrace
  obtain ⟨hanswers, hlength⟩ := Prod.mk.inj (Option.some.inj htrace)
  refine ⟨?elsewhere, hsecluded, steps, hsteps, hlength, ?separable⟩
  case elsewhere =>
    obtain ⟨answer, t, others, hrun, -, rfl⟩ := Session.trace_cons_eq_ok hsteps
    obtain rfl : answer = none := (List.cons.inj hanswers).1
    obtain ⟨hstate, -⟩ := helsewhere hhosted.reachable_any (hother _ List.mem_cons_self) hrun first
      (by decide +kernel)
    exact ⟨t, hrun, hstate⟩
  case separable =>
    have hgranted : ∀ step ∈ steps, step.answer ≠ some (.error .noMemory) := by
      intro step hstep hnone
      have hanswer := List.mem_map_of_mem (f := Step.answer) hstep
      rw [hanswers, hnone] at hanswer
      simp at hanswer
    obtain ⟨hbeforehand, hreliable⟩ := hkept hgranted
    exact ⟨hbeforehand, hreliable (by decide +kernel)⟩

end Trial
end DriverHub
