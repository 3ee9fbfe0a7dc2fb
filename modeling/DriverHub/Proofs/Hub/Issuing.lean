import DriverHub.Proofs.Hub.Moves
import DriverHub.Proofs.Hub.Sound

/-! Requests to a driver come to nothing, to one request issued, or to one request given up. No check of
the hub's own bookkeeping ever fails on the way. -/
namespace DriverHub
variable {config : Config} {τ γ ι H α : Type}

/-- What a request asks for: its kind, the memory that it passes on, and the request itself once its
number and the grants for that memory are known. -/
structure Plan where
  kind : RequestKind
  segments : List Segment
  request : UInt32 → SlotGrants → Request

/-- The plan passes on no more memory than a slot has grants for, and all of it. -/
structure Plan.Proper (plan : Plan) : Prop where
  few : plan.segments.length ≤ maxSegments
  carries : ∀ number grants, grants.length = plan.segments.length →
    (plan.request number (.ofList grants)).Carries plan.kind number grants

/-- The plan of a transfer, if its segments pass. -/
def transferPlan (direction : Direction) (segments : List Segment) : Except Refusal Plan :=
  (segmentLengths segments).map fun lengths => {
    kind := direction.kind
    segments
    request := fun number grants => .transfer direction {
      id := number, count := UInt8.ofNat segments.length, grants, lengths } }

/-- The plan of a change, if its multicast list passes. -/
def changePlan (change : Change) : Except Refusal Plan :=
  change.list?.map fun list => {
    kind := .configure
    segments := (list.map Change.region).toList
    request := fun number grants => .configure (change.request number grants.head list) }

/-- The request is a proper plan, or refused for a reason of its own. -/
structure Planned (plan : Except Refusal Plan) : Prop where
  proper : ∀ p, plan = .ok p → p.Proper
  memory : plan ≠ .error .noMemory

theorem planned_transfer (direction : Direction) (segments : List Segment) :
    Planned (transferPlan direction segments) := by
  unfold transferPlan segmentLengths
  split
  · exact ⟨nofun, nofun⟩
  · rename_i hfew
    split
    · exact ⟨nofun, nofun⟩
    · refine ⟨?_, nofun⟩
      intro p hp
      cases hp
      refine ⟨Nat.le_of_not_lt hfew, fun number grants hlen => ⟨rfl, rfl, ?_⟩⟩
      change grants.length = segments.length at hlen
      exact SlotGrants.present_ofList (hlen ▸ Nat.le_of_not_lt hfew)

theorem planned_change (change : Change) : Planned (changePlan change) := by
  constructor
  · intro p hp
    unfold changePlan at hp
    cases hlist : change.list? with
    | error refusal =>
      rw [hlist] at hp
      cases hp
    | ok list =>
      rw [hlist] at hp
      cases hp
      refine ⟨?_, fun number grants hlen => ⟨rfl, rfl, ?_⟩⟩
      · cases list with
        | none => exact Nat.zero_le _
        | some list => exact Nat.le_add_left 1 7
      · have hfirst : (SlotGrants.ofList grants).head = grants[0]? := by
          simp only [SlotGrants.ofList, Vector.head, Vector.getElem_ofFn]
        change (SlotGrants.ofList grants).head.toList = grants
        rw [hfirst]
        cases list with
        | none =>
          rw [List.length_eq_zero_iff.mp hlen]
          rfl
        | some list =>
          obtain ⟨grant, rfl⟩ := List.length_eq_one_iff.mp hlen
          rfl
  · unfold changePlan Change.list?
    intro hnone
    split at hnone
    · split at hnone
      · split at hnone <;> cases hnone
      · cases hnone
    · cases hnone

/-- If no grant is refused there is one for each region, and in any case there are no more. -/
theorem length_of_creates [GrantTable γ] {endpoint : Endpoint} {access : Access} {g g' : γ}
    {segments : List Segment} {grants : List GrantId} {complete : Bool} {journal : Journal H}
    (h : Creates endpoint access g segments grants complete journal g') :
    (complete = true → grants.length = segments.length) ∧ grants.length ≤ segments.length := by
  induction h with
  | done => exact ⟨fun _ => rfl, Nat.le_refl _⟩
  | refused => exact ⟨nofun, Nat.zero_le _⟩
  | step _ _ ih =>
    exact ⟨fun hcomplete => congrArg (· + 1) (ih.1 hcomplete), Nat.succ_le_succ ih.2⟩

namespace View

/-- The number of the next request of a lane. -/
def next (v : View config τ γ ι H) (k : LaneId config) : UInt32 :=
  (v.lane k).head + UInt32.ofNat (v.lane k).bookings.length

variable [Transport τ] [GrantTable γ]

/-- What a request of an active driver comes to that was admitted, with the answer to it. -/
inductive Serves (v : View config τ γ ι H) (i : Fin config.drivers) (plan : Plan) :
    Except Refusal UInt32 → View config τ γ ι H → Prop
  | issued (label : Label) (endpoint : Endpoint) (handle : H) (slot : Fin config.slots)
      {grants : List GrantId} {journal : Journal H} {g : γ} {transport : τ}
      (active : v.state i = .active label endpoint handle)
      (created : Creates endpoint plan.kind.direction.access v.grants plan.segments grants true
        journal g)
      (sent : Transport.send v.transport endpoint
        (plan.request (v.next (i, plan.kind.direction)) (.ofList grants)) = (.ok (), transport)) :
      Serves v i plan (.ok (v.next (i, plan.kind.direction))) { v with
        lane := Function.update v.lane (i, plan.kind.direction)
          ((v.lane (i, plan.kind.direction)).push ⟨slot, plan.kind, .ofList grants⟩)
        transport
        grants := g
        journal := .posted ⟨i⟩ endpoint
          (plan.request (v.next (i, plan.kind.direction)) (.ofList grants)) (.ok ()) ::
            (journal ++ v.journal) }
  | abandoned (label : Label) (endpoint : Endpoint) (handle : H) {grants : List GrantId}
      {journal : Journal H} {g g' : γ} (active : v.state i = .active label endpoint handle)
      (created : Creates endpoint plan.kind.direction.access v.grants plan.segments grants false
        journal g)
      (revoked : Revokes g grants g') :
      Serves v i plan (.error .noMemory) { v with
        grants := g'
        journal := revocations grants ++ (journal ++ v.journal) }

/-- What can end the work while a request that was admitted is served. -/
inductive Fails (v : View config τ γ ι H) (i : Fin config.drivers) (plan : Plan) : Fatal → Prop
  | delivery (label : Label) (endpoint : Endpoint) (handle : H) (request : Request)
      {cause : TransportError} {transport : τ} (active : v.state i = .active label endpoint handle)
      (sent : Transport.send v.transport endpoint request = (.error cause, transport)) :
      Fails v i plan (.delivery request.type endpoint cause)
  | abandoning (label : Label) (endpoint : Endpoint) (handle : H) {grants : List GrantId}
      {journal : Journal H} {g : γ} {grant : GrantId} {cause : GrantError}
      (active : v.state i = .active label endpoint handle)
      (created : Creates endpoint plan.kind.direction.access v.grants plan.segments grants false
        journal g)
      (revoked : RevokesUpTo grant cause g grants) : Fails v i plan (.revocation grant cause)

variable {v w : View config τ γ ι H} {i : Fin config.drivers} {plan : Plan}
variable {answer : Except Refusal UInt32}

theorem Fails.halts {fatal : Fatal} (h : Fails v i plan fatal) : Halts v fatal := by
  cases h with
  | delivery label endpoint handle request active sent => exact .delivery endpoint request sent
  | abandoning label endpoint handle active created revoked =>
    exact .abandoning endpoint plan.kind.direction.access plan.segments created revoked

theorem Serves.state_eq (h : Serves v i plan answer w) : w.state = v.state := by
  cases h <;> rfl

theorem Serves.issue (h : Serves v i plan answer w) (hproper : plan.Proper) :
    Issue v answer w := by
  cases h with
  | @issued label endpoint handle slot grants journal g transport active created sent =>
    obtain ⟨hlength, hle⟩ := length_of_creates created
    have hcarries := hproper.carries (v.next (i, plan.kind.direction)) grants (hlength rfl)
    have hissued := Issue.issued i label endpoint handle slot plan.kind plan.segments _ active created
      (hle.trans hproper.few) hcarries sent
    rw [hcarries.number] at hissued
    exact hissued
  | abandoned label endpoint handle active created revoked =>
    exact .abandoned i label endpoint handle _ plan.segments active created revoked

end View

namespace Hub

open SessionM View

variable [Transport τ] [GrantTable γ]
variable {s : HubSession config τ γ ι H} {i : Fin config.drivers}

/-- A later session with sound tables, after a request with this answer. The request was turned down at
once, or it came to be issued or given up. -/
def Asked (s : HubSession config τ γ ι H) (answer : Except Refusal UInt32)
    (t : HubSession config τ γ ι H) : Prop :=
  t.tables.Sound ∧ (t.view = s.view ∧ (∃ refusal, answer = .error refusal ∧ refusal ≠ .noMemory) ∨
    Issue s.view answer t.view)

/-- The action is one request, if it answers. -/
def Asks (action : HubM config τ γ ι H (Except Refusal UInt32)) (s : HubSession config τ γ ι H) :
    Prop :=
  action.Goes s (Asked s) (Halts s.view)

/-- A later session with sound tables, after an admitted request with this answer. -/
structure Answered (s : HubSession config τ γ ι H) (i : Fin config.drivers) (plan : Plan)
    (answer : Except Refusal UInt32) (t : HubSession config τ γ ι H) : Prop where
  sound : t.tables.Sound
  dropped : t.tables.dropped = s.tables.dropped
  serves : Serves s.view i plan answer t.view

theorem Answered.of_view {t : HubSession config τ γ ι H} {v : View config τ γ ι H} {plan : Plan}
    {answer : Except Refusal UInt32} (h : t.tables.Sound)
    (hdropped : t.tables.dropped = s.tables.dropped) (hview : t.view = v)
    (hserves : Serves s.view i plan answer v) : Answered s i plan answer t := by
  rw [← hview] at hserves
  exact ⟨h, hdropped, hserves⟩

/-- A request for which a slot was reserved is issued, or given up. -/
theorem goes_issue (h : s.tables.Sound) {plan : Plan} (hfew : plan.segments.length ≤ maxSegments)
    {label : Label} {endpoint : Endpoint} {handle : H} {ticket : Ticket config.slots}
    {primed : SlotPool config.slots} (hactive : s.view.state i = .active label endpoint handle)
    (hreserve : (s.tables.queues (i, plan.kind.direction)).reserve s.tables.pool plan.kind =
      some (ticket, primed)) :
    (issue ⟨i, endpoint, ticket, { s.tables with pool := primed }⟩ plan.kind.direction.access
      plan.segments (plan.request ticket.number) :
        HubM config τ γ ι H (Except Refusal UInt32)).Goes s (Answered s i plan)
      (Fails s.view i plan) := by
  obtain ⟨hprimed, hlane⟩ := h.reserved hreserve
  have hnumber : ticket.number = s.view.next (i, plan.kind.direction) := by
    obtain ⟨-, -, hnumber, -⟩ := Queue.reserve_eq_some.mp hreserve
    rw [hnumber, ← h.length_bookings]
    rfl
  unfold issue
  rw [goes_bind, goes_setTables, goes_bind]
  refine goes_createGrants fun grants complete journal g hg => ?_
  dsimp only
  cases complete with
  -- All memory was granted: the request is posted and enters its lane.
  | true =>
    obtain ⟨hub, hcommitted, hsound, hdropped, hstate, hlane'⟩ :=
      h.issued (SlotGrants.gapless_ofList grants) hreserve
    have hplaced := SlotGrants.place_eq_ok ((length_of_creates hg).2.trans hfew)
    rw [if_pos rfl, goes_bind, hplaced, goes_expect, goes_bind, goes_setTables, goes_bind]
    refine goes_post (fun transport hsent => ?_) fun cause transport hsent =>
      .delivery label endpoint handle _ hactive hsent
    rw [goes_bind, goes_tables, hcommitted, goes_bind, goes_expect, goes_bind, goes_setTables,
      goes_pure]
    rw [hnumber] at hsent ⊢
    exact .of_view hsound hdropped (Session.view_eq hstate hlane')
      (.issued label endpoint handle ticket.slot hactive hg hsent)
  -- The table ran out of grants: those that were created are revoked.
  | false =>
    rw [if_neg Bool.false_ne_true, goes_bind]
    refine goes_revokeGrants (fun g' hg' => ?_) fun grant cause hg' =>
      .abandoning label endpoint handle hactive hg hg'
    exact .of_view hprimed rfl (Session.view_eq rfl hlane)
      (.abandoned label endpoint handle hactive hg hg')

omit [Transport τ] [GrantTable γ] in
theorem Labelled.state_of_active {hub : Hub config H} (h : hub.Labelled) {id : DriverId}
    {endpoint : Endpoint} (hactive : hub.active id = .ok (i, endpoint)) :
    ∃ label handle, hub.state i = .active label endpoint handle := by
  obtain ⟨handle, hdriver⟩ : ∃ handle, (hub.driver i).state = .active endpoint handle := by
    unfold Hub.active at hactive
    split at hactive
    · split at hactive
      · cases hactive
      · cases hactive
      · rename_i endpoint' handle hstate
        cases hactive
        exact ⟨handle, hstate⟩
    · cases hactive
  have hstate := (h.driver_eq i).1
  rw [hdriver] at hstate
  cases hoccupant : hub.state i with
  | free =>
    rw [hoccupant] at hstate
    cases hstate
  | pending label endpoint' handle' =>
    rw [hoccupant] at hstate
    cases hstate
  | active label endpoint' handle' =>
    rw [hoccupant] at hstate
    cases hstate
    exact ⟨label, handle, rfl⟩

omit [Transport τ] [GrantTable γ] in
theorem reserve_eq_ok {hub : Hub config H} {kind : RequestKind} {endpoint : Endpoint}
    {admission : Admission config H} (hreserve : hub.reserve i endpoint kind = .ok admission) :
    ∃ ticket primed, (hub.queues (i, kind.direction)).reserve hub.pool kind = some (ticket, primed) ∧
      admission = ⟨i, endpoint, ticket, { hub with pool := primed }⟩ := by
  unfold Hub.reserve at hreserve
  split at hreserve
  · cases hreserve
  · rename_i ticket primed hticket
    cases hreserve
    exact ⟨ticket, primed, hticket, rfl⟩

omit [Transport τ] [GrantTable γ] in
theorem admitTransfer_eq_ok {hub : Hub config H} {direction : Direction} {id : DriverId}
    {segments : List Segment} {admission : Admission config H} {lengths : Vector UInt16 maxSegments}
    (h : hub.admitTransfer direction id segments = .ok (admission, lengths)) :
    ∃ i endpoint, hub.active id = .ok (i, endpoint) ∧ segmentLengths segments = .ok lengths ∧
      hub.reserve i endpoint direction.kind = .ok admission := by
  obtain ⟨⟨i, endpoint⟩, hactive, h⟩ := except_bind_eq_ok.mp h
  obtain ⟨lengths', hlengths, h⟩ := except_bind_eq_ok.mp h
  obtain ⟨admission', hreserve, h⟩ := except_bind_eq_ok.mp h
  cases h
  exact ⟨i, endpoint, hactive, hlengths, hreserve⟩

omit [Transport τ] [GrantTable γ] in
theorem admitChange_eq_ok {hub : Hub config H} {id : DriverId} {change : Change}
    {admission : Admission config H} {list : Option MulticastList}
    (h : hub.admitChange id change = .ok (admission, list)) :
    ∃ i endpoint, hub.active id = .ok (i, endpoint) ∧ change.list? = .ok list ∧
      hub.reserve i endpoint .configure = .ok admission := by
  obtain ⟨⟨i, endpoint⟩, hactive, h⟩ := except_bind_eq_ok.mp h
  obtain ⟨list', hlist, h⟩ := except_bind_eq_ok.mp h
  obtain ⟨admission', hreserve, h⟩ := except_bind_eq_ok.mp h
  cases h
  exact ⟨i, endpoint, hactive, hlist, hreserve⟩

section Queues

/-! A request changes no queue but the one it is for. -/

omit [Transport τ] [GrantTable γ] in
theorem index_of_active {hub : Hub config H} {id : DriverId} {endpoint : Endpoint}
    (hactive : hub.active id = .ok (i, endpoint)) : (i : Nat) = id.index := by
  unfold Hub.active at hactive
  split at hactive
  · split at hactive
    · cases hactive
    · cases hactive
    · cases hactive
      rfl
  · cases hactive

omit [Transport τ] [GrantTable γ] in
theorem queues_of_committed {hub hub' : Hub config H} {ticket : Ticket config.slots}
    (hcommitted : hub.committed i ticket = .ok hub') {k : LaneId config}
    (hk : k ≠ (i, ticket.kind.direction)) : hub'.queues k = hub.queues k := by
  obtain ⟨⟨queue, pool⟩, -, hcommitted⟩ := except_bind_eq_ok.mp hcommitted
  cases hcommitted
  change (hub.withQueue (i, ticket.kind.direction) queue pool).queues k = hub.queues k
  rw [withQueue_queues, Function.update_of_ne hk]

/-- An admitted request is issued, or its memory is refused. -/
def Settled (answer : Except Refusal UInt32) : Prop :=
  answer = .error .noMemory ∨ ∃ number, answer = .ok number

theorem goes_issue_queues (admission : Admission config H) (access : Access)
    (segments : List Segment) (request : SlotGrants → Request) :
    (issue admission access segments request :
      HubM config τ γ ι H (Except Refusal UInt32)).Goes s
      (fun answer t => Settled answer ∧
        ∀ k, k ≠ (admission.driver, admission.ticket.kind.direction) →
          t.tables.queues k = admission.tables.queues k) fun _ => True := by
  unfold issue
  rw [goes_bind, goes_setTables, goes_bind]
  apply goes_createGrants
  intro grants complete journal g hg
  dsimp only
  cases complete with
  | true =>
    rw [if_pos rfl, goes_bind]
    cases hplaced : SlotGrants.place grants with
    | error defect => trivial
    | ok placed =>
      rw [goes_expect, goes_bind, goes_setTables, goes_bind]
      refine goes_post (fun transport hsent => ?_) fun _ _ _ => trivial
      rw [goes_bind, goes_tables, goes_bind]
      dsimp only
      cases hcommitted : Hub.committed _ admission.driver admission.ticket with
      | error defect => trivial
      | ok hub =>
        rw [goes_expect, goes_bind, goes_setTables, goes_pure]
        exact ⟨.inr ⟨_, rfl⟩, fun k hk => queues_of_committed hcommitted hk⟩
  | false =>
    rw [if_neg Bool.false_ne_true, goes_bind]
    exact goes_revokeGrants (fun g' hg' => ⟨.inl rfl, fun k hk => rfl⟩) fun _ _ _ => trivial

theorem goes_admitted_queues {id : DriverId} {kind : RequestKind} {endpoint : Endpoint}
    {admission : Admission config H} (hactive : s.tables.active id = .ok (i, endpoint))
    (hreserve : s.tables.reserve i endpoint kind = .ok admission) (access : Access)
    (segments : List Segment) (request : SlotGrants → Request) :
    (issue admission access segments request :
      HubM config τ γ ι H (Except Refusal UInt32)).Goes s
      (fun answer t => Settled answer ∧ ∀ k, (k.1 : Nat) ≠ id.index ∨ k.2 ≠ kind.direction →
        t.tables.queues k = s.tables.queues k) fun _ => True := by
  obtain ⟨ticket, primed, hticket, rfl⟩ := reserve_eq_ok hreserve
  obtain ⟨-, -, -, hkind, -⟩ := Queue.reserve_eq_some.mp hticket
  refine Goes.mono (goes_issue_queues _ access segments request)
    (fun _ t ht => ⟨ht.1, fun k hk => ht.2 k ?_⟩) fun _ _ => trivial
  rintro rfl
  rcases hk with hindex | hdirection
  · exact hindex (index_of_active hactive)
  · rw [hkind] at hdirection
    exact hdirection rfl

theorem goes_transfer_queues (direction : Direction) (id : DriverId) (segments : List Segment) :
    (transfer direction id segments : HubM config τ γ ι H (Except Refusal UInt32)).Goes s
      (fun _ t => ∀ k, k.2 ≠ direction → t.tables.queues k = s.tables.queues k) fun _ => True := by
  unfold transfer
  rw [goes_bind, goes_tables]
  cases hadmitted : s.tables.admitTransfer direction id segments with
  | error refusal =>
    intro k hk
    rfl
  | ok admitted =>
    obtain ⟨admission, lengths⟩ := admitted
    obtain ⟨i, endpoint, hactive, -, hreserve⟩ := admitTransfer_eq_ok hadmitted
    refine Goes.mono (goes_admitted_queues hactive hreserve _ _ _) (fun _ t ht k hk => ht.2 k ?_)
      fun _ _ => trivial
    rw [direction.direction_kind]
    exact .inr hk

end Queues

/-- Checks a plan and reserves a slot for it. -/
def admitted (hub : Hub config H) (id : DriverId) (plan : Except Refusal Plan) :
    Except Refusal (Admission config H × Plan) := do
  let (i, endpoint) ← hub.active id
  let plan ← plan
  let admission ← hub.reserve i endpoint plan.kind
  return (admission, plan)

/-- Requests of all kinds are this action. -/
def ask (id : DriverId) (plan : Except Refusal Plan) :
    HubM config τ γ ι H (Except Refusal UInt32) := do
  match (← tables).admitted id plan with
  | .error refusal => pure (.error refusal)
  | .ok (admission, plan) =>
    issue admission plan.kind.direction.access plan.segments (plan.request admission.ticket.number)

theorem transfer_eq_ask (direction : Direction) (id : DriverId) (segments : List Segment) :
    (transfer direction id segments : HubM config τ γ ι H (Except Refusal UInt32)) =
      ask id (transferPlan direction segments) := by
  unfold transfer ask
  congr 1
  funext hub
  unfold admitTransfer admitted transferPlan
  cases hub.active id with
  | error refusal => rfl
  | ok found =>
    obtain ⟨i, endpoint⟩ := found
    cases segmentLengths segments with
    | error refusal => rfl
    | ok lengths =>
      cases hreserve : hub.reserve i endpoint direction.kind with
      | error refusal => simp [bind, Except.bind, Except.map, hreserve]
      | ok admission =>
        simp [bind, Except.bind, Except.map, hreserve, pure, Except.pure, direction.direction_kind]

theorem configure_eq_ask (id : DriverId) (change : Change) :
    (configure id change : HubM config τ γ ι H (Except Refusal UInt32)) =
      ask id (changePlan change) := by
  unfold configure ask
  congr 1
  funext hub
  unfold admitChange admitted changePlan
  cases hub.active id with
  | error refusal => rfl
  | ok found =>
    obtain ⟨i, endpoint⟩ := found
    cases change.list? with
    | error refusal => rfl
    | ok list =>
      cases hreserve : hub.reserve i endpoint .configure with
      | error refusal => simp [bind, Except.bind, Except.map, hreserve]
      | ok admission => simp [bind, Except.bind, Except.map, hreserve, pure, Except.pure]; rfl

omit [Transport τ] [GrantTable γ] in
theorem admitted_eq_ok {hub : Hub config H} {id : DriverId} {plan : Except Refusal Plan}
    {admission : Admission config H} {p : Plan} (h : hub.admitted id plan = .ok (admission, p)) :
    ∃ i endpoint, hub.active id = .ok (i, endpoint) ∧ plan = .ok p ∧
      hub.reserve i endpoint p.kind = .ok admission := by
  obtain ⟨⟨i, endpoint⟩, hactive, h⟩ := except_bind_eq_ok.mp h
  obtain ⟨p', hplan, h⟩ := except_bind_eq_ok.mp h
  obtain ⟨admission', hreserve, h⟩ := except_bind_eq_ok.mp h
  cases h
  exact ⟨i, endpoint, hactive, hplan, hreserve⟩

/-- A request is not turned down for want of memory, since none is asked for before it is admitted. -/
theorem admitted_ne_noMemory (hub : Hub config H) (id : DriverId) {plan : Except Refusal Plan}
    (hplanned : Planned plan) : hub.admitted id plan ≠ .error .noMemory := by
  have hactive : hub.active id ≠ .error .noMemory := by
    unfold Hub.active
    split
    · split <;> nofun
    · nofun
  have hreserve (i : Fin config.drivers) (endpoint : Endpoint) (kind : RequestKind) :
      hub.reserve i endpoint kind ≠ .error .noMemory := by
    unfold Hub.reserve
    split <;> nofun
  apply except_bind_ne_error hactive
  intro found
  apply except_bind_ne_error hplanned.memory
  intro p
  apply except_bind_ne_error (hreserve found.1 found.2 p.kind)
  intro admission
  nofun

theorem ask_refused {id : DriverId} {plan : Except Refusal Plan} {refusal : Refusal}
    (h : s.tables.admitted id plan = .error refusal) :
    (ask id plan : HubM config τ γ ι H (Except Refusal UInt32)) s = .ok (.error refusal) s := by
  apply eq_ok_of_goes
  unfold ask
  rw [goes_bind, goes_tables, h]
  exact ⟨rfl, rfl⟩

theorem goes_ask (h : s.tables.Sound) {id : DriverId} {plan : Except Refusal Plan}
    (hplanned : Planned plan)
    {admission : Admission config H} {p : Plan}
    (hadmitted : s.tables.admitted id plan = .ok (admission, p)) :
    (ask id plan : HubM config τ γ ι H (Except Refusal UInt32)).Goes s
      (Answered s admission.driver p) (Fails s.view admission.driver p) := by
  obtain ⟨i, endpoint, hactive, hplan, hreserve⟩ := admitted_eq_ok hadmitted
  obtain ⟨label, handle, hstate⟩ := h.labelled.state_of_active hactive
  obtain ⟨ticket, primed, hticket, rfl⟩ := reserve_eq_ok hreserve
  unfold ask
  rw [goes_bind, goes_tables, hadmitted]
  exact goes_issue h (hplanned.proper p hplan).few hstate hticket

theorem asks_ask (h : s.tables.Sound) (id : DriverId) {plan : Except Refusal Plan}
    (hplanned : Planned plan) :
    Asks (ask id plan : HubM config τ γ ι H (Except Refusal UInt32)) s := by
  cases hadmitted : s.tables.admitted id plan with
  | error refusal =>
    rw [Asks, Goes, ask_refused hadmitted]
    refine ⟨h, .inl ⟨rfl, refusal, rfl, ?_⟩⟩
    intro hmemory
    subst hmemory
    exact admitted_ne_noMemory s.tables id hplanned hadmitted
  | ok admitted =>
    obtain ⟨admission, p⟩ := admitted
    obtain ⟨-, -, -, hplan, -⟩ := admitted_eq_ok hadmitted
    exact Goes.mono (goes_ask h hplanned hadmitted)
      (fun _ _ ht => ⟨ht.sound, .inr (ht.serves.issue (hplanned.proper p hplan))⟩)
      fun _ hfails => hfails.halts

theorem asks_transfer (h : s.tables.Sound) (direction : Direction) (id : DriverId)
    (segments : List Segment) :
    Asks (transfer direction id segments : HubM config τ γ ι H (Except Refusal UInt32)) s := by
  rw [transfer_eq_ask]
  exact asks_ask h id (planned_transfer direction segments)

theorem asks_configure (h : s.tables.Sound) (id : DriverId) (change : Change) :
    Asks (configure id change : HubM config τ γ ι H (Except Refusal UInt32)) s := by
  rw [configure_eq_ask]
  exact asks_ask h id (planned_change change)

end Hub
end DriverHub
