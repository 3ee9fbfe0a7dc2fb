import DriverHub.Proofs.Hub.Admission

/-! Requests that go out. An admitted request of whatever kind creates its grants in order, posts one frame
and stands at the end of its queue, or gives back what it was granted. Transfers are followed to the last
field of their frames. -/
namespace DriverHub

open Function SessionM

variable {config : Config} {τ γ ι H : Type}

section Creating

variable [GrantTable γ] {endpoint : Endpoint} {access : Access}

theorem exists_creates (endpoint : Endpoint) (access : Access) (g : γ) (segments : List Segment) :
    ∃ grants complete, ∃ journal : Journal H, ∃ g',
      Creates endpoint access g segments grants complete journal g' := by
  induction segments generalizing g with
  | nil => exact ⟨[], true, [], g, .done g⟩
  | cons segment rest ih =>
    rcases hcreate : GrantTable.create g ⟨endpoint, segment, access⟩ with ⟨_ | grant, g'⟩
    · exact ⟨[], false, _, g', .refused hcreate⟩
    · obtain ⟨grants, complete, journal, g'', hrest⟩ := ih g'
      exact ⟨grant :: grants, complete, _, g'', .step hcreate hrest⟩

/-- What creating grants in order comes to is fixed by the table. -/
theorem Creates.unique {g g₁ g₂ : γ} {segments : List Segment} {grants grants' : List GrantId}
    {complete complete' : Bool} {journal journal' : Journal H}
    (h : Creates endpoint access g segments grants complete journal g₁)
    (h' : Creates endpoint access g segments grants' complete' journal' g₂) :
    grants = grants' ∧ complete = complete' ∧ journal = journal' ∧ g₁ = g₂ := by
  induction h generalizing grants' complete' journal' with
  | done =>
    cases h'
    exact ⟨rfl, rfl, rfl, rfl⟩
  | refused created =>
    cases h' with
    | refused created' =>
      cases created.symm.trans created'
      exact ⟨rfl, rfl, rfl, rfl⟩
    | step created' others' => cases created.symm.trans created'
  | step created others ih =>
    cases h' with
    | refused created' => cases created.symm.trans created'
    | step created' others' =>
      cases created.symm.trans created'
      obtain ⟨rfl, rfl, rfl, rfl⟩ := ih others'
      exact ⟨rfl, rfl, rfl, rfl⟩

/-- What the journal says of grants that were created for these regions, one for each. -/
def creations (endpoint : Endpoint) (access : Access) (segments : List Segment)
    (grants : List GrantId) : Journal H :=
  (List.zipWith (fun segment grant => .granted ⟨endpoint, segment, access⟩ (some grant)) segments
    grants).reverse

theorem Creates.journal_of_complete {g g' : γ} {segments : List Segment} {grants : List GrantId}
    {complete : Bool} {journal : Journal H}
    (h : Creates endpoint access g segments grants complete journal g') (hcomplete : complete = true) :
    journal = creations endpoint access segments grants := by
  induction h with
  | done => rfl
  | refused => cases hcomplete
  | step _ _ ih =>
    rw [ih hcomplete, creations, creations, List.zipWith_cons_cons, List.reverse_cons]

/-- Creating grants in order comes out as it is bound to. -/
theorem goes_createGrants_of {σ : Type} {s : Session σ τ γ ι H}
    {answers : List GrantId × Bool → Session σ τ γ ι H → Prop} {ends : Fatal → Prop}
    {segments : List Segment} {grants : List GrantId} {complete : Bool} {journal : Journal H} {g : γ}
    (h : Creates endpoint access s.grants segments grants complete journal g)
    (ha : answers (grants, complete) { s with grants := g, journal := journal ++ s.journal }) :
    (createGrants endpoint access segments).Goes s answers ends := by
  refine goes_createGrants fun grants' complete' journal' g' h' => ?_
  obtain ⟨rfl, rfl, rfl, rfl⟩ := h.unique h'
  exact ha

end Creating

namespace Hub

/-- A request entered a queue behind the others: it took the first free slot, and one of a send queue
beyond the guarantee took a spare. Nothing else has changed. -/
structure Enqueued (hub : Hub config H) (k : LaneId config) (b : Booking config.slots)
    (hub' : Hub config H) : Prop where
  entries : hub.SameEntries hub'
  latest : hub'.bookings k = hub.bookings k ++ [b]
  queue : (hub.queues k).Lengthened (hub'.queues k)
  queues : ∀ k', k' ≠ k → hub'.queues k' = hub.queues k'
  bookings : ∀ k', k' ≠ k → hub'.bookings k' = hub.bookings k'
  free : hub.pool.free = b.slot :: hub'.pool.free
  freeCount : hub.pool.freeCount = hub'.pool.freeCount + 1
  spares : hub.pool.spares = hub'.pool.spares +
    if k.2 = .send ∧ config.sendDepth.toNat ≤ (hub.queues k).depth then 1 else 0
  spareTotal : hub'.pool.spareTotal = hub.pool.spareTotal

/-- A queue and the pool are put back after a request has entered the queue. -/
theorem enqueued_withQueue {hub : Hub config H} {layout : Layout (LaneId config) config.slots}
    (hl : layout.Describes hub.pool hub.queues) {k : LaneId config} {b : Booking config.slots}
    {rest : List (Fin config.slots)} (hfree : layout.free = b.slot :: rest)
    {queue : Queue config.slots} {pool : SlotPool config.slots}
    (hlong : (hub.queues k).Lengthened queue)
    (hspares : hub.pool.spares = pool.spares +
      if k.2 = .send ∧ config.sendDepth.toNat ≤ (hub.queues k).depth then 1 else 0)
    (htotal : pool.spareTotal = hub.pool.spareTotal)
    (hdesc : (layout.push k b).Describes pool (update hub.queues k queue)) :
    hub.Enqueued k b (hub.withQueue k queue pool) := by
  have hqueue (k' : LaneId config) :
      (hub.withQueue k queue pool).queues k' = update hub.queues k queue k' := by
    rw [withQueue_queues]
  have hdesc' : (layout.push k b).Describes (hub.withQueue k queue pool).pool
      (hub.withQueue k queue pool).queues := by
    rw [withQueue_queues]
    exact hdesc
  have hrest : (layout.push k b).free = rest := by simp [Layout.push, hfree]
  constructor
  case entries => exact withQueue_sameEntries ..
  case latest =>
    rw [← Stored.held_eq hdesc', ← Stored.held_eq hl]
    simp [Layout.push]
  case queue =>
    rw [hqueue, update_self]
    exact hlong
  case queues =>
    intro k' hk
    rw [hqueue, update_of_ne hk]
  case bookings =>
    intro k' hk
    rw [← Stored.held_eq hdesc', ← Stored.held_eq hl]
    simp [Layout.push, hk]
  case free => rw [← hdesc'.free_eq, hrest, ← hl.free_eq, hfree]
  case freeCount => rw [← hdesc'.free_count, hrest, ← hl.free_count, hfree, List.length_cons]
  case spares => exact hspares
  case spareTotal => exact htotal

/-- A reserved request with its grants enters its queue. -/
theorem Stored.enqueued {hub : Hub config H} (h : hub.Stored) {i : Fin config.drivers}
    {kind : RequestKind} {ticket : Ticket config.slots} {primed : SlotPool config.slots}
    (grants : SlotGrants)
    (hreserve : (hub.queues (i, kind.direction)).reserve hub.pool kind = some (ticket, primed)) :
    ∃ hub', ({ hub with pool := primed.setGrants ticket.slot grants } : Hub config H).committed i
        ticket = .ok hub' ∧ hub.Enqueued (i, kind.direction) ⟨ticket.slot, kind, grants⟩ hub' := by
  obtain ⟨layout, rest, hfree, hl, -, hl', hbooking⟩ := h.reserved grants hreserve
  obtain ⟨hrefuses, -, -, rfl, rfl⟩ := Queue.reserve_eq_some.mp hreserve
  simp only [Queue.refuses, Bool.or_eq_false_iff, Bool.and_eq_false_imp, decide_eq_false_iff_not,
    Nat.not_le] at hrefuses
  obtain ⟨queue, pool, hcommit, hlong, hspares, htotal, hdesc⟩ :=
    hl'.commit (i, ticket.kind.direction) hfree fun hneeds => Nat.pos_of_ne_zero (hrefuses.2 hneeds)
  rw [hbooking] at hdesc
  have hspare : (hub.queues (i, ticket.kind.direction)).needsSpare ticket.kind = true ↔
      ticket.kind.direction = .send ∧
        config.sendDepth.toNat ≤ (hub.queues (i, ticket.kind.direction)).depth := by
    rw [Queue.needsSpare, usesSpares_eq, Bool.and_eq_true, decide_eq_true_eq, decide_eq_true_eq]
    apply and_congr_right
    intro hsend
    rw [hsend, h.guaranteed]
  have htaken : hub.pool.spares = pool.spares +
      if ticket.kind.direction = .send ∧
        config.sendDepth.toNat ≤ (hub.queues (i, ticket.kind.direction)).depth then 1 else 0 := by
    rw [← if_congr hspare rfl rfl]
    exact hspares.symm
  refine ⟨_, ?_, enqueued_withQueue (b := ⟨ticket.slot, ticket.kind, grants⟩) hl hfree hlong htaken
    htotal hdesc⟩
  have hcommit' : ((hub.driver i).queue ticket.kind.direction).commit _ ticket =
      .ok (queue, pool) := hcommit
  unfold Hub.committed
  simp only [driver] at hcommit'
  simp only [bind, Except.bind, driver, hcommit']
  rfl

/-- The number that the next request of a queue gets. -/
def nextNumber (hub : Hub config H) (k : LaneId config) : UInt32 :=
  (hub.queues k).head + UInt32.ofNat (hub.queues k).depth

variable [Transport τ] [GrantTable γ]

/-- The memory of a request was granted, one frame was posted that passes these grants on, and the request
entered its queue. -/
structure Issued (s : HubSession config τ γ ι H) (i : Fin config.drivers) (endpoint : Endpoint)
    (plan : Plan) (grants : List GrantId) (t : HubSession config τ γ ι H) : Prop where
  created : Creates endpoint plan.kind.direction.access s.grants plan.segments grants true
    (creations endpoint plan.kind.direction.access plan.segments grants : Journal H) t.grants
  sent : Transport.send s.transport endpoint
    (plan.request (s.tables.nextNumber (i, plan.kind.direction)) (.ofList grants)) =
      (.ok (), t.transport)
  interface : t.interface = s.interface
  journal : t.journal = .posted ⟨i⟩ endpoint
    (plan.request (s.tables.nextNumber (i, plan.kind.direction)) (.ofList grants)) (.ok ()) ::
      (creations endpoint plan.kind.direction.access plan.segments grants ++ s.journal)
  enqueued : ∃ slot,
    s.tables.Enqueued (i, plan.kind.direction) ⟨slot, plan.kind, .ofList grants⟩ t.tables

/-- The memory of a request was not granted, and the grants made for it are revoked. Of the tables, only
the slot that was prepared remembers the request. -/
structure Abandoned (s : HubSession config τ γ ι H) (i : Fin config.drivers) (endpoint : Endpoint)
    (plan : Plan) (grants : List GrantId) (t : HubSession config τ γ ι H) : Prop where
  tables : ∃ ticket primed, (s.tables.queues (i, plan.kind.direction)).reserve s.tables.pool plan.kind =
    some (ticket, primed) ∧ t.tables = { s.tables with pool := primed }
  transport : t.transport = s.transport
  interface : t.interface = s.interface
  undone : ∃ journal g,
    Creates endpoint plan.kind.direction.access s.grants plan.segments grants false journal g ∧
    Revokes g grants t.grants ∧ t.journal = revocations grants ++ (journal ++ s.journal)

variable {s t : HubSession config τ γ ι H} {i : Fin config.drivers} {endpoint : Endpoint} {plan : Plan}
variable {ticket : Ticket config.slots} {primed : SlotPool config.slots} {grants : List GrantId}
variable {journal : Journal H} {g : γ}

theorem goes_issue_granted (h : s.tables.Sound) (hfew : plan.segments.length ≤ maxSegments)
    (hreserve : (s.tables.queues (i, plan.kind.direction)).reserve s.tables.pool plan.kind =
      some (ticket, primed))
    (hcreates : Creates endpoint plan.kind.direction.access s.grants plan.segments grants true
      journal g) :
    (issue ⟨i, endpoint, ticket, { s.tables with pool := primed }⟩ plan.kind.direction.access
      plan.segments (plan.request ticket.number) :
        HubM config τ γ ι H (Except Refusal UInt32)).Goes s
      (fun answer t => answer = .ok (s.tables.nextNumber (i, plan.kind.direction)) ∧
        Issued s i endpoint plan grants t)
      fun fatal => ∃ cause transport,
        Transport.send s.transport endpoint (plan.request
          (s.tables.nextNumber (i, plan.kind.direction)) (.ofList grants)) = (.error cause, transport) ∧
        fatal = .delivery (plan.request (s.tables.nextNumber (i, plan.kind.direction))
          (.ofList grants)).type endpoint cause := by
  have hnumber : ticket.number = s.tables.nextNumber (i, plan.kind.direction) :=
    (Queue.reserve_eq_some.mp hreserve).2.2.1
  obtain ⟨hub, hcommitted, henqueued⟩ := h.enqueued (.ofList grants) hreserve
  obtain rfl := hcreates.journal_of_complete rfl
  have hplaced := SlotGrants.place_eq_ok ((length_of_creates hcreates).2.trans hfew)
  unfold issue
  rw [goes_bind, goes_setTables, goes_bind]
  refine goes_createGrants_of hcreates ?_
  dsimp only
  rw [if_pos rfl, goes_bind, hplaced, goes_expect, goes_bind, goes_setTables, goes_bind, hnumber]
  refine goes_post (fun transport hsent => ?_) fun cause transport hsent =>
    ⟨cause, transport, hsent, rfl⟩
  rw [goes_bind, goes_tables, hcommitted, goes_bind, goes_expect, goes_bind, goes_setTables,
    goes_pure]
  exact ⟨rfl, hcreates, hsent, rfl, rfl, _, henqueued⟩

theorem goes_issue_denied
    (hreserve : (s.tables.queues (i, plan.kind.direction)).reserve s.tables.pool plan.kind =
      some (ticket, primed))
    (hcreates : Creates endpoint plan.kind.direction.access s.grants plan.segments grants false
      journal g) :
    (issue ⟨i, endpoint, ticket, { s.tables with pool := primed }⟩ plan.kind.direction.access
      plan.segments (plan.request ticket.number) :
        HubM config τ γ ι H (Except Refusal UInt32)).Goes s
      (fun answer t => answer = .error .noMemory ∧ Abandoned s i endpoint plan grants t)
      fun fatal => ∃ grant cause, RevokesUpTo grant cause g grants ∧
        fatal = .revocation grant cause := by
  unfold issue
  rw [goes_bind, goes_setTables, goes_bind]
  refine goes_createGrants_of hcreates ?_
  dsimp only
  rw [if_neg Bool.false_ne_true, goes_bind]
  refine goes_revokeGrants (fun g' hrevoked => ?_) fun grant cause hrevoked =>
    ⟨grant, cause, hrevoked, rfl⟩
  exact ⟨rfl, ⟨ticket, primed, hreserve, rfl⟩, rfl, rfl, journal, g, hcreates, hrevoked, rfl⟩

omit [Transport τ] [GrantTable γ] in
theorem active_eq {hub : Hub config H} (h : hub.Labelled) (i : Fin config.drivers) :
    hub.active ⟨i⟩ =
      match hub.state i with
      | .free => .error (.unknownDriver ⟨i⟩)
      | .pending _ _ _ => .error (.notActive ⟨i⟩)
      | .active _ endpoint _ => .ok (i, endpoint) := by
  have hdriver : hub.drivers[(i : Nat)].state = (hub.state i).driverState := (h.driver_eq i).1
  unfold Hub.active
  rw [dif_pos i.isLt, hdriver]
  cases hub.state i <;> rfl

/-- A slot is reserved for a request exactly if its queue is not full and there is a free slot. -/
theorem Stored.reserve_ok_or_busy {hub : Hub config H} (h : hub.Stored) (i : Fin config.drivers)
    (endpoint : Endpoint) (kind : RequestKind) :
    (hub.Full i kind ∨ hub.statistics.freeSlots = 0) ∧ hub.reserve i endpoint kind = .error .busy ∨
    ¬(hub.Full i kind ∨ hub.statistics.freeSlots = 0) ∧ ∃ ticket primed,
      (hub.queues (i, kind.direction)).reserve hub.pool kind = some (ticket, primed) ∧
      hub.reserve i endpoint kind = .ok ⟨i, endpoint, ticket, { hub with pool := primed }⟩ := by
  have hslots : hub.statistics.freeSlots = hub.pool.freeCount := rfl
  rw [← h.refuses_iff, hslots]
  cases hreserve : (hub.queues (i, kind.direction)).reserve hub.pool kind with
  | none =>
    left
    refine ⟨?_, reserve_of_none hreserve endpoint⟩
    unfold Queue.reserve at hreserve
    split at hreserve
    · exact .inl ‹_›
    · right
      by_contra hfree
      obtain ⟨slot, hslot⟩ := Option.ne_none_iff_exists'.mp
        (h.freeFirst_ne_none (Nat.pos_of_ne_zero hfree))
      simp [SlotPool.prime, hslot] at hreserve
  | some reserved =>
    obtain ⟨ticket, primed⟩ := reserved
    right
    refine ⟨?_, ticket, primed, rfl, reserve_of_some hreserve endpoint⟩
    obtain ⟨hrefuses, hfirst, -⟩ := Queue.reserve_eq_some.mp hreserve
    obtain ⟨layout, hl⟩ := h.described
    rintro (hfull | hnone)
    · rw [hrefuses] at hfull
      cases hfull
    · rw [← hl.free_count, List.length_eq_zero_iff] at hnone
      rw [hl.free_chain.start_eq, hnone] at hfirst
      cases hfirst

section Admitted

variable {hub : Hub config H} {id : DriverId}

omit [Transport τ] [GrantTable γ] in
theorem active_outside (hout : config.drivers ≤ id.index) :
    hub.active id = .error (.unknownDriver id) := by
  unfold Hub.active
  rw [dif_neg (Nat.not_lt.mpr hout)]

omit [Transport τ] [GrantTable γ] in
theorem admitted_of_inactive {refusal : Refusal} (hactive : hub.active id = .error refusal)
    (plan : Except Refusal Plan) : hub.admitted id plan = .error refusal := by
  unfold admitted
  rw [hactive]
  rfl

omit [Transport τ] [GrantTable γ] in
theorem admitted_of_unplanned (hactive : hub.active id = .ok (i, endpoint)) (refusal : Refusal) :
    hub.admitted id (.error refusal) = .error refusal := by
  unfold admitted
  rw [hactive]
  rfl

omit [Transport τ] [GrantTable γ] in
theorem admitted_of_reserve (hactive : hub.active id = .ok (i, endpoint)) (plan : Plan) :
    hub.admitted id (.ok plan) =
      (hub.reserve i endpoint plan.kind).map fun admission => (admission, plan) := by
  unfold admitted
  rw [hactive]
  rfl

end Admitted

/-- A planned request of an active driver is answered that its queue is busy if that is full or no slot is
free. Otherwise it is issued if its memory is granted, and given up if some of it is refused, as far as
transport and grant table do their part. -/
theorem ask_exact (h : s.tables.Sound) {id : DriverId} (hactive : s.tables.active id = .ok (i, endpoint))
    (plan : Plan) (hfew : plan.segments.length ≤ maxSegments) :
    let asked : HubM config τ γ ι H (Except Refusal UInt32) := ask id (.ok plan)
    (s.tables.Full i plan.kind ∨ s.tables.statistics.freeSlots = 0 →
      asked s = .ok (.error .busy) s) ∧
    (¬(s.tables.Full i plan.kind ∨ s.tables.statistics.freeSlots = 0) →
      ∃ grants complete, ∃ journal : Journal H, ∃ g,
        Creates endpoint plan.kind.direction.access s.grants plan.segments grants complete journal g ∧
        (complete = false → asked.Goes s
          (fun answer t => answer = .error .noMemory ∧ Abandoned s i endpoint plan grants t)
          fun fatal => ∃ grant cause, RevokesUpTo grant cause g grants ∧
            fatal = .revocation grant cause) ∧
        (complete = true → asked.Goes s
          (fun answer t => answer = .ok (s.tables.nextNumber (i, plan.kind.direction)) ∧
            Issued s i endpoint plan grants t)
          fun fatal => ∃ cause transport,
            Transport.send s.transport endpoint (plan.request
              (s.tables.nextNumber (i, plan.kind.direction)) (.ofList grants)) =
                (.error cause, transport) ∧
            fatal = .delivery (plan.request (s.tables.nextNumber (i, plan.kind.direction))
              (.ofList grants)).type endpoint cause)) := by
  intro asked
  have hadmitted := admitted_of_reserve hactive plan
  rcases h.reserve_ok_or_busy i endpoint plan.kind with
    ⟨hfull, hbusy⟩ | ⟨hroom, ticket, primed, hreserve, hok⟩
  · refine ⟨fun _ => ask_refused ?_, fun hnot => absurd hfull hnot⟩
    rw [hadmitted, hbusy]
    rfl
  · refine ⟨fun hfull => absurd hfull hroom, fun _ => ?_⟩
    rw [hok] at hadmitted
    obtain ⟨grants, complete, journal, g, hcreates⟩ :=
      exists_creates (H := H) endpoint plan.kind.direction.access s.grants plan.segments
    refine ⟨grants, complete, journal, g, hcreates, ?_, ?_⟩
    · rintro rfl
      unfold asked ask
      rw [goes_bind, goes_tables, hadmitted]
      exact goes_issue_denied hreserve hcreates
    · rintro rfl
      unfold asked ask
      rw [goes_bind, goes_tables, hadmitted]
      exact goes_issue_granted h hfew hreserve hcreates

/-- These segments were granted to the driver of an entry, one frame was posted to it that says so, and the
request entered the queue of the direction. -/
structure Transferred (s : HubSession config τ γ ι H) (i : Fin config.drivers)
    (direction : Direction) (endpoint : Endpoint) (segments : List Segment) (grants : List GrantId)
    (frame : Transfer) (t : HubSession config τ γ ι H) : Prop where
  id : frame.id = s.tables.nextNumber (i, direction)
  count : frame.count.toNat = segments.length
  -- Behind the last segment there is no grant and no length.
  grantAt : ∀ j : Fin maxSegments, frame.grants[j] = grants[j]?
  lengthAt : ∀ j : Fin maxSegments,
    frame.lengths[j].toNat = (segments[j]?.map fun segment => segment.length.toNat).getD 0
  each : grants.length = segments.length
  -- A driver reads what it is to send, and writes what it receives.
  created : Creates endpoint (if direction = .send then .read else .write) s.grants segments grants
    true (creations endpoint (if direction = .send then .read else .write) segments grants : Journal H)
    t.grants
  sent : Transport.send s.transport endpoint (.transfer direction frame) = (.ok (), t.transport)
  interface : t.interface = s.interface
  journal : t.journal = .posted ⟨i⟩ endpoint (.transfer direction frame) (.ok ()) ::
    (creations endpoint (if direction = .send then .read else .write) segments grants ++ s.journal)
  enqueued : ∃ slot, s.tables.Enqueued (i, direction) ⟨slot, direction.kind, .ofList grants⟩ t.tables

omit [Transport τ] [GrantTable γ] in
theorem segmentLengths_eq (segments : List Segment) :
    (maxSegments < segments.length → segmentLengths segments = .error .tooManySegments) ∧
    (segments.length ≤ maxSegments →
      ((∃ segment ∈ segments, 65535 < segment.length) →
        segmentLengths segments = .error .segmentTooLarge) ∧
      ((∀ segment ∈ segments, segment.length ≤ 65535) → ∃ lengths : Vector UInt16 maxSegments,
        segmentLengths segments = .ok lengths ∧ ∀ j : Fin maxSegments, (lengths.get j).toNat =
          (segments[j]?.map fun segment => segment.length.toNat).getD 0)) := by
  unfold segmentLengths
  refine ⟨fun hmany => if_pos hmany, fun hfew => ?_⟩
  rw [if_neg (Nat.not_lt.mpr hfew)]
  constructor
  · rintro ⟨segment, hmem, hlong⟩
    rw [if_pos (List.any_eq_true.mpr ⟨segment, hmem, decide_eq_true hlong⟩)]
  · intro hshort
    have hnone : ¬(segments.any fun segment => 65535 < segment.length) = true := by
      intro hany
      obtain ⟨segment, hmem, hlong⟩ := List.any_eq_true.mp hany
      exact UInt64.not_lt.mpr (hshort segment hmem) (of_decide_eq_true hlong)
    rw [if_neg hnone]
    refine ⟨_, rfl, fun j => ?_⟩
    rw [Vector.get_eq_getElem, Vector.getElem_ofFn]
    -- A length that passed the check is the same in 16 bits.
    cases hsegment : segments[j.val]? with
    | none => simp
    | some segment =>
      have hle : segment.length.toNat ≤ 65535 :=
        UInt64.le_iff_toNat_le.mp (hshort segment (List.mem_of_getElem? hsegment))
      simp only [Option.map_some, Option.getD_some, UInt64.toNat_toUInt16]
      omega

/-- An issued transfer is the one that was asked for. -/
theorem Issued.transferred {direction : Direction} {segments : List Segment}
    (hplan : transferPlan direction segments = .ok plan) (h : Issued s i endpoint plan grants t) :
    ∃ frame, s.tables.nextNumber (i, plan.kind.direction) = frame.id ∧
      Transferred s i direction endpoint segments grants frame t := by
  unfold transferPlan at hplan
  cases hlengths : segmentLengths segments with
  | error refusal =>
    rw [hlengths] at hplan
    cases hplan
  | ok lengths =>
    rw [hlengths] at hplan
    cases hplan
    obtain ⟨hfew, hshort⟩ := exists_segmentLengths.mp ⟨lengths, hlengths⟩
    obtain ⟨lengths', hlengths', hlengthAt⟩ := ((segmentLengths_eq segments).2 hfew).2 hshort
    cases hlengths.symm.trans hlengths'
    obtain ⟨created, sent, interface, journal, slot, enqueued⟩ := h
    dsimp only at created sent journal enqueued ⊢
    rw [direction.direction_kind] at created sent journal enqueued ⊢
    rw [direction.access_eq] at created journal
    refine ⟨_, rfl, ⟨rfl, ?count, ?grantAt, hlengthAt, (length_of_creates created).1 rfl,
      created, sent, interface, journal, slot, enqueued⟩⟩
    case count => exact Nat.mod_eq_of_lt (Nat.lt_of_le_of_lt hfew (by decide))
    case grantAt => exact fun j => by simp [SlotGrants.ofList]

end Hub

section Runs

variable [Transport τ] [GrantTable γ] [Interface ι H]
variable {heads : LaneId config → UInt32} {custody : Custody γ} {s : HubSession config τ γ ι H}

open Hub in
/-- A send or a receive is answered for the first reason in this order: the driver is not known, it is not
active, the segments are too many, one of them is too long, the queue is busy, or the grant for a segment
is refused. Otherwise it is answered with its number, and the transfer is exactly the one asked for. -/
theorem Reachable.transfer_exact (h : Reachable heads custody s) (direction : Direction)
    (id : DriverId) (segments : List Segment) :
    let transfer : HubM config τ γ ι H (Except Refusal UInt32) := transfer direction id segments
    (config.drivers ≤ id.index → transfer s = .ok (.error (.unknownDriver id)) s) ∧
    ∀ i : Fin config.drivers, id = ⟨i⟩ →
      (s.tables.state i = .free → transfer s = .ok (.error (.unknownDriver id)) s) ∧
      (∀ label endpoint handle, s.tables.state i = .pending label endpoint handle →
        transfer s = .ok (.error (.notActive id)) s) ∧
      ∀ label endpoint handle, s.tables.state i = .active label endpoint handle →
        (maxSegments < segments.length → transfer s = .ok (.error .tooManySegments) s) ∧
        (segments.length ≤ maxSegments →
          ((∃ segment ∈ segments, 65535 < segment.length) →
            transfer s = .ok (.error .segmentTooLarge) s) ∧
          ((∀ segment ∈ segments, segment.length ≤ 65535) →
            (s.tables.Full i direction.kind ∨ s.tables.statistics.freeSlots = 0 →
              transfer s = .ok (.error .busy) s) ∧
            (¬(s.tables.Full i direction.kind ∨ s.tables.statistics.freeSlots = 0) →
              ∃ grants complete, ∃ journal : Journal H, ∃ g,
                Creates endpoint (if direction = .send then .read else .write) s.grants segments grants
                  complete journal g ∧
                (complete = false → transfer.Goes s (fun answer _ => answer = .error .noMemory)
                  fun fatal => ∃ grant cause, RevokesUpTo grant cause g grants ∧
                    fatal = .revocation grant cause) ∧
                (complete = true → transfer.Goes s
                  (fun answer t => ∃ frame, answer = .ok frame.id ∧
                    Transferred s i direction endpoint segments grants frame t)
                  fun fatal => ∃ request cause transport,
                    Transport.send s.transport endpoint request = (.error cause, transport) ∧
                    fatal = .delivery request.type endpoint cause)))) := by
  intro transfer
  have hsound := h.sound
  have hask : transfer = ask id (transferPlan direction segments) := transfer_eq_ask ..
  have hrefused {refusal : Refusal}
      (hadmitted : s.tables.admitted id (transferPlan direction segments) = .error refusal) :
      transfer s = .ok (.error refusal) s := by
    rw [hask]
    exact ask_refused hadmitted
  refine ⟨fun hout => hrefused (admitted_of_inactive (active_outside hout) _), ?_⟩
  rintro i rfl
  have hactive := Hub.active_eq hsound.labelled i
  refine ⟨fun hfree => ?free, fun label endpoint handle hpending => ?pending,
    fun label endpoint handle hstate => ?active⟩
  case free =>
    rw [hfree] at hactive
    exact hrefused (admitted_of_inactive hactive _)
  case pending =>
    rw [hpending] at hactive
    exact hrefused (admitted_of_inactive hactive _)
  case active =>
    rw [hstate] at hactive
    obtain ⟨hmany, hlengths⟩ := segmentLengths_eq segments
    refine ⟨fun htoo => hrefused ?_, fun hfew => ⟨fun hlong => hrefused ?_, fun hshort => ?_⟩⟩
    · unfold transferPlan
      rw [hmany htoo]
      exact admitted_of_unplanned hactive _
    · unfold transferPlan
      rw [(hlengths hfew).1 hlong]
      exact admitted_of_unplanned hactive _
    obtain ⟨lengths, hok, -⟩ := (hlengths hfew).2 hshort
    obtain ⟨plan, hplan, hkind, hsegments⟩ : ∃ plan, transferPlan direction segments = .ok plan ∧
        plan.kind = direction.kind ∧ plan.segments = segments := by
      unfold transferPlan
      rw [hok]
      exact ⟨_, rfl, rfl, rfl⟩
    obtain ⟨hbusy, hserved⟩ := ask_exact hsound hactive plan (hsegments ▸ hfew)
    rw [hkind] at hbusy hserved
    rw [hask, hplan]
    refine ⟨hbusy, fun hroom => ?_⟩
    obtain ⟨grants, complete, journal, g, hcreates, hdenied, hgranted⟩ := hserved hroom
    rw [direction.direction_kind, hsegments, direction.access_eq] at hcreates
    refine ⟨grants, complete, journal, g, hcreates, fun hcomplete => ?_, fun hcomplete => ?_⟩
    · exact (hdenied hcomplete).mono (fun _ _ ht => ht.1) fun _ hends => hends
    · refine (hgranted hcomplete).mono (fun answer t ht => ?_) fun _ hends => ⟨_, hends⟩
      obtain ⟨frame, hnumber, htransferred⟩ := ht.2.transferred hplan
      rw [hkind] at hnumber
      exact ⟨frame, ht.1.trans (congrArg Except.ok hnumber), htransferred⟩

end Runs

namespace Trial

def pieces : List Segment := [⟨0, 16⟩, ⟨16, 9⟩]

/-- In the short run, a packet of two segments is sent under the first number of the active driver. -/
theorem packet_transferred : ∃ grants frame t,
    (Hub.send ⟨0⟩ pieces : HubM small Outbox GrantLedger CallbackLog Nat _) opened =
      .ok (.ok 1) t ∧
    frame.id = 1 ∧ Hub.Transferred opened entry .send ⟨5⟩ pieces grants frame t := by
  have hopened : Reachable heads (.any GrantLedger) opened := (started trivial).afterAll _
  have hrun : ∃ t, (Hub.transfer .send ⟨0⟩ pieces :
      HubM small Outbox GrantLedger CallbackLog Nat _) opened = .ok (.ok 1) t := by
    have hanswers : (match (Hub.transfer .send ⟨0⟩ pieces :
          HubM small Outbox GrantLedger CallbackLog Nat _) opened with
        | .ok answer _ => decide (answer = .ok 1)
        | .error _ _ => false) = true := by decide +kernel
    split at hanswers
    · rename_i answer t hrun
      exact ⟨t, by rw [hrun, of_decide_eq_true hanswers]⟩
    · cases hanswers
  obtain ⟨t, hrun⟩ := hrun
  have hactive : opened.tables.state entry = .active label ⟨5⟩ 1 := by cbv
  have hroom : ¬(opened.tables.Full entry .send ∨ opened.tables.statistics.freeSlots = 0) := by
    unfold Hub.Full
    decide +kernel
  obtain ⟨-, hentry⟩ := Reachable.transfer_exact hopened .send ⟨0⟩ pieces
  obtain ⟨-, -, hserved⟩ := hentry entry rfl
  obtain ⟨-, hfits⟩ := hserved label ⟨5⟩ 1 hactive
  obtain ⟨grants, complete, journal, g, -, hdenied, hgranted⟩ :=
    ((hfits (by decide)).2 (by decide)).2 hroom
  cases complete with
  | false => cases (hdenied rfl).of_ok hrun
  | true =>
    obtain ⟨frame, hnumber, htransferred⟩ := (hgranted rfl).of_ok hrun
    exact ⟨grants, frame, t, hrun, (Except.ok.inj hnumber).symm, htransferred⟩

end Trial
end DriverHub
