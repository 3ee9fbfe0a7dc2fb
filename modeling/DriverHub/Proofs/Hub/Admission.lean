import DriverHub.Proofs.Hub.Slots
import DriverHub.Proofs.Hub.Spares
import DriverHub.Proofs.Hub.Table

/-! Who is admitted. The pool has slots for every combination of queues that can occur, so a request
may have to wait for its own queue or for a spare, but never for a slot. -/
namespace DriverHub

open Function Finset SessionM

variable {config : Config} {τ γ ι H : Type}

namespace Hub

variable {hub : Hub config H} {i : Fin config.drivers} {kind : RequestKind}

/-- The queue for requests of this kind admits none: it is at its limit, or one more would need a spare
and there is none. -/
def Full (hub : Hub config H) (i : Fin config.drivers) (kind : RequestKind) : Prop :=
  (hub.queues (i, kind.direction)).depth = (hub.queues (i, kind.direction)).limit ∨
    kind.direction = .send ∧ config.sendDepth.toNat ≤ (hub.queues (i, .send)).depth ∧
      hub.statistics.spareAvailable = 0

theorem Stored.depth_le_limit (h : hub.Stored) (k : LaneId config) :
    (hub.queues k).depth ≤ (hub.queues k).limit := by
  rw [← h.length_bookings]
  exact h.bounded k

theorem Stored.refuses_iff (h : hub.Stored) (i : Fin config.drivers) (kind : RequestKind) :
    (hub.queues (i, kind.direction)).refuses hub.pool kind = true ↔ hub.Full i kind := by
  have hle := h.depth_le_limit (i, kind.direction)
  have hlimit : (hub.queues (i, kind.direction)).limit ≤ (hub.queues (i, kind.direction)).depth ↔
      (hub.queues (i, kind.direction)).depth = (hub.queues (i, kind.direction)).limit := by omega
  simp only [Queue.refuses, Queue.needsSpare, Bool.or_eq_true, Bool.and_eq_true, decide_eq_true_eq,
    usesSpares_eq, Full, hlimit, and_assoc, statistics]
  -- The guarantee matters for sends only, and theirs is the one of the configuration.
  apply or_congr_right
  apply and_congr_right
  intro hsend
  rw [hsend, h.guaranteed]

/-- The queues hold what the free list does not. -/
theorem Stored.free_add_depths (h : hub.Stored) :
    hub.pool.freeCount + (∑ i, (hub.queues (i, .send)).depth + ∑ i, (hub.queues (i, .receive)).depth) =
      config.slots := by
  obtain ⟨layout, hl⟩ := h.described
  have hsum : ∑ k, (hub.queues k).depth =
      ∑ i, (hub.queues (i, .send)).depth + ∑ i, (hub.queues (i, .receive)).depth := by
    rw [Fintype.sum_prod_type, ← sum_add_distrib]
    apply sum_congr rfl
    intro i _
    exact sum_direction fun d => (hub.queues (i, d)).depth
  rw [← hsum]
  exact hl.length_add

theorem sum_const_drivers (count : Nat) : ∑ _i : Fin config.drivers, count = count * config.drivers := by
  rw [sum_const, card_univ, Fintype.card_fin, smul_eq_mul, Nat.mul_comm]

theorem sends_le (hub : Hub config H) :
    ∑ i, (hub.queues (i, .send)).depth ≤
      config.sendDepth.toNat * config.drivers + ∑ i, hub.excess i := by
  calc ∑ i, (hub.queues (i, .send)).depth
      ≤ ∑ i, (config.sendDepth.toNat + hub.excess i) := by
        apply sum_le_sum
        intro i _
        unfold excess
        omega
    _ = config.sendDepth.toNat * config.drivers + ∑ i, hub.excess i := by
        rw [sum_add_distrib, sum_const_drivers]

/-- While one queue is below its guarantee, not all that the guarantees allow is in flight. -/
theorem sends_lt (hbelow : (hub.queues (i, .send)).depth < config.sendDepth.toNat) :
    ∑ i, (hub.queues (i, .send)).depth <
      config.sendDepth.toNat * config.drivers + ∑ i, hub.excess i := by
  calc ∑ i, (hub.queues (i, .send)).depth
      < ∑ i, (config.sendDepth.toNat + hub.excess i) := by
        apply sum_lt_sum
        · intro j _
          unfold excess
          omega
        · refine ⟨i, mem_univ i, ?_⟩
          omega
    _ = config.sendDepth.toNat * config.drivers + ∑ i, hub.excess i := by
        rw [sum_add_distrib, sum_const_drivers]

theorem receives_le (hbounded : ∀ j, (hub.queues (j, .receive)).depth ≤ config.receiveDepth.toNat) :
    ∑ i, (hub.queues (i, .receive)).depth ≤ config.receiveDepth.toNat * config.drivers := by
  rw [← sum_const_drivers]
  exact sum_le_sum fun j _ => hbounded j

theorem receives_lt (hbounded : ∀ j, (hub.queues (j, .receive)).depth ≤ config.receiveDepth.toNat)
    (hbelow : (hub.queues (i, .receive)).depth < config.receiveDepth.toNat) :
    ∑ i, (hub.queues (i, .receive)).depth < config.receiveDepth.toNat * config.drivers := by
  rw [← sum_const_drivers]
  exact sum_lt_sum (fun j _ => hbounded j) ⟨i, mem_univ i, hbelow⟩

/-- Where a queue admits a request there is a slot for it. -/
theorem Stored.free_of_not_full (h : hub.Stored)
    (hreceives : ∀ j, (hub.queues (j, .receive)).limit ≤ config.receiveDepth.toNat)
    (hadmits : ¬hub.Full i kind) : 0 < hub.pool.freeCount := by
  have hslots := h.free_add_depths
  have hspares := h.spares_add_excess
  have hbounded (j : Fin config.drivers) :
      (hub.queues (j, .receive)).depth ≤ config.receiveDepth.toNat :=
    (h.depth_le_limit (j, .receive)).trans (hreceives j)
  have hle := hub.sends_le
  have hle' := receives_le hbounded
  have hsize : config.slots = (config.sendDepth.toNat + config.receiveDepth.toNat) * config.drivers +
      config.spareRequests.toNat := rfl
  rw [Nat.add_mul] at hsize
  simp only [Full, not_or, not_and] at hadmits
  obtain ⟨hlimit, hspare⟩ := hadmits
  cases hd : kind.direction with
  | send =>
    by_cases hbelow : (hub.queues (i, .send)).depth < config.sendDepth.toNat
    · have hlt := sends_lt hbelow
      omega
    · -- Beyond the guarantee there is a spare, so the others do not have them all.
      have hpos : ¬hub.pool.spares = 0 := hspare hd (Nat.le_of_not_lt hbelow)
      omega
  | receive =>
    rw [hd] at hlimit
    have hdepth := h.depth_le_limit (i, .receive)
    have hlimits := hreceives i
    have hlt := receives_lt hbounded (i := i) (by omega)
    omega

theorem Stored.freeFirst_ne_none (h : hub.Stored) (hfree : 0 < hub.pool.freeCount) :
    hub.pool.freeFirst ≠ none := by
  obtain ⟨layout, hl⟩ := h.described
  rw [hl.free_chain.start_eq, ne_eq, List.head?_eq_none_iff]
  intro hnil
  have hcount := hl.free_count
  rw [hnil, List.length_nil] at hcount
  omega

/-- A reservation fails exactly if the queue is full. -/
theorem Stored.reserve_busy_iff (h : hub.Stored) (endpoint : Endpoint)
    (hfree : ¬hub.Full i kind → 0 < hub.pool.freeCount) :
    hub.reserve i endpoint kind = .error .busy ↔ hub.Full i kind := by
  rw [← h.refuses_iff] at hfree ⊢
  have hqueue : (hub.driver i).queue kind.direction = hub.queues (i, kind.direction) := rfl
  cases hrefuses : (hub.queues (i, kind.direction)).refuses hub.pool kind with
  | true => simp [reserve, hqueue, Queue.reserve, hrefuses]
  | false =>
    rw [hrefuses] at hfree
    obtain ⟨slot, hslot⟩ := Option.ne_none_iff_exists'.mp (h.freeFirst_ne_none (hfree Bool.false_ne_true))
    simp [reserve, hqueue, Queue.reserve, hrefuses, SlotPool.prime, hslot]

end Hub

/-! What a request must be like to get as far as its queue. -/

theorem exists_segmentLengths {segments : List Segment} :
    (∃ lengths, segmentLengths segments = .ok lengths) ↔
      segments.length ≤ maxSegments ∧ ∀ segment ∈ segments, segment.length ≤ 65535 := by
  unfold segmentLengths
  split
  · rename_i hmany
    simp only [reduceCtorEq, exists_false, false_iff, not_and]
    omega
  · rename_i hfew
    split
    · rename_i hlong
      obtain ⟨segment, hsegment, hlength⟩ := List.any_eq_true.mp hlong
      simp only [reduceCtorEq, exists_false, false_iff, not_and]
      intro _ hshort
      exact UInt64.not_le.mpr (of_decide_eq_true hlength) (hshort segment hsegment)
    · rename_i hshort
      refine ⟨fun _ => ⟨Nat.le_of_not_lt hfew, fun segment hsegment => ?_⟩, fun _ => ⟨_, rfl⟩⟩
      apply UInt64.not_lt.mp
      intro hlong
      exact hshort (List.any_eq_true.mpr ⟨segment, hsegment, decide_eq_true hlong⟩)

theorem Change.exists_list? {change : Change} :
    (∃ list, change.list? = .ok list) ↔
      (change.needsList = true → ∃ list, change.multicast = some list ∧ list.count ≠ 0) := by
  unfold Change.list?
  split
  · rename_i hneeds
    cases change.multicast with
    | none => simp [hneeds]
    | some list => by_cases hcount : list.count = 0 <;> simp [hneeds, hcount]
  · rename_i hneeds
    simp [hneeds]

/-- A request of this kind to this driver that passes its own checks. -/
inductive Operation.Asks : Operation config → DriverId → RequestKind → Prop
  | send {id : DriverId} {segments : List Segment} (few : segments.length ≤ maxSegments)
      (short : ∀ segment ∈ segments, segment.length ≤ 65535) : Asks (.send id segments) id .send
  | receive {id : DriverId} {segments : List Segment} (few : segments.length ≤ maxSegments)
      (short : ∀ segment ∈ segments, segment.length ≤ 65535) :
      Asks (.receive id segments) id .receive
  | configure {id : DriverId} {change : Change}
      (listed : change.needsList = true → ∃ list, change.multicast = some list ∧ list.count ≠ 0) :
      Asks (.configure id change) id .configure

/-- The queue that the operation puts a request into. -/
def Operation.direction? : Operation config → Option Direction
  | .send _ _ | .configure _ _ => some .send
  | .receive _ _ => some .receive
  | _ => none

namespace Hub

section Admit

variable (hub : Hub config H) (id : DriverId)

/-- What comes of a request that passed its own checks. -/
def reserveFor (kind : RequestKind) : Except Refusal (Admission config H) := do
  let (i, endpoint) ← hub.active id
  hub.reserve i endpoint kind

variable {hub id}

theorem reserve_of_none {i : Fin config.drivers} {kind : RequestKind}
    (hnone : (hub.queues (i, kind.direction)).reserve hub.pool kind = none) (endpoint : Endpoint) :
    hub.reserve i endpoint kind = .error .busy := by
  have hqueue : (hub.driver i).queue kind.direction = hub.queues (i, kind.direction) := rfl
  rw [reserve, hqueue, hnone]

theorem reserve_of_some {i : Fin config.drivers} {kind : RequestKind} {ticket : Ticket config.slots}
    {primed : SlotPool config.slots}
    (hsome : (hub.queues (i, kind.direction)).reserve hub.pool kind = some (ticket, primed))
    (endpoint : Endpoint) :
    hub.reserve i endpoint kind = .ok ⟨i, endpoint, ticket, { hub with pool := primed }⟩ := by
  have hqueue : (hub.driver i).queue kind.direction = hub.queues (i, kind.direction) := rfl
  rw [reserve, hqueue, hsome]

theorem active_ne_busy : hub.active id ≠ .error .busy := by
  unfold Hub.active
  split
  · split <;> nofun
  · nofun

theorem admitTransfer_eq {direction : Direction} {segments : List Segment}
    {lengths : Vector UInt16 maxSegments} (hlengths : segmentLengths segments = .ok lengths) :
    hub.admitTransfer direction id segments =
      (hub.reserveFor id direction.kind).map fun admission => (admission, lengths) := by
  unfold admitTransfer reserveFor
  rw [hlengths]
  cases hub.active id <;> rfl

theorem admitChange_eq {change : Change} {list : Option MulticastList}
    (hlist : change.list? = .ok list) :
    hub.admitChange id change =
      (hub.reserveFor id .configure).map fun admission => (admission, list) := by
  unfold admitChange reserveFor
  rw [hlist]
  cases hub.active id <;> rfl

/-- A request that fails its own checks does not get as far as the queue. -/
theorem exists_refusal (hub : Hub config H) (id : DriverId) {α β : Type} {check : Except Refusal α}
    (hfails : ¬∃ a, check = .ok a) (hne : check ≠ .error .busy)
    (rest : Fin config.drivers × Endpoint → α → Except Refusal β) :
    ∃ refusal, (do let found ← hub.active id; let a ← check; rest found a) = .error refusal ∧
      refusal ≠ .busy := by
  cases hactive : hub.active id with
  | error refusal =>
    refine ⟨refusal, rfl, ?_⟩
    rintro rfl
    exact active_ne_busy hactive
  | ok found =>
    cases check with
    | ok a => exact absurd ⟨a, rfl⟩ hfails
    | error fault =>
      refine ⟨fault, rfl, ?_⟩
      rintro rfl
      exact hne rfl

theorem admitTransfer_ne_busy (hub : Hub config H) (id : DriverId) (direction : Direction)
    {segments : List Segment} (hlengths : ¬∃ lengths, segmentLengths segments = .ok lengths) :
    ∃ refusal, hub.admitTransfer direction id segments = .error refusal ∧ refusal ≠ .busy := by
  apply exists_refusal hub id hlengths
  unfold segmentLengths
  split
  · nofun
  · split <;> nofun

theorem admitChange_ne_busy (hub : Hub config H) (id : DriverId) {change : Change}
    (hlist : ¬∃ list, change.list? = .ok list) :
    ∃ refusal, hub.admitChange id change = .error refusal ∧ refusal ≠ .busy := by
  apply exists_refusal hub id hlist
  unfold Change.list?
  split
  · split
    · split <;> nofun
    · nofun
  · nofun

end Admit

variable [Transport τ] [GrantTable γ] [Interface ι H] {s t : HubSession config τ γ ι H}

omit [Interface ι H] in
theorem goes_transfer_refused {direction : Direction} {id : DriverId} {segments : List Segment}
    {refusal : Refusal} (h : s.tables.admitTransfer direction id segments = .error refusal) :
    (transfer direction id segments : HubM config τ γ ι H (Except Refusal UInt32)).Goes s
      (fun answer t => answer = .error refusal ∧ t = s) fun _ => False := by
  unfold transfer
  rw [goes_bind, goes_tables, h]
  exact ⟨rfl, rfl⟩

omit [Interface ι H] in
theorem goes_configure_refused {id : DriverId} {change : Change} {refusal : Refusal}
    (h : s.tables.admitChange id change = .error refusal) :
    (configure id change : HubM config τ γ ι H (Except Refusal UInt32)).Goes s
      (fun answer t => answer = .error refusal ∧ t = s) fun _ => False := by
  unfold configure
  rw [goes_bind, goes_tables, h]
  exact ⟨rfl, rfl⟩

/-- What an admitted request comes to: it is issued, or its memory is refused, and no queue changes
but its own. -/
structure Served (s : HubSession config τ γ ι H) (id : DriverId) (kind : RequestKind)
    (answer : Except Refusal UInt32) (t : HubSession config τ γ ι H) : Prop where
  settled : Settled answer
  asked : Asked s answer t
  others : ∀ k : LaneId config, (k.1 : Nat) ≠ id.index ∨ k.2 ≠ kind.direction →
    t.tables.queues k = s.tables.queues k

omit [Interface ι H] in
theorem goes_transfer_served (h : s.tables.Sound) {direction : Direction} {id : DriverId}
    {segments : List Segment} {lengths : Vector UInt16 maxSegments}
    {admission : Admission config H} (hlengths : segmentLengths segments = .ok lengths)
    (hadmitted : s.tables.reserveFor id direction.kind = .ok admission) :
    (transfer direction id segments : HubM config τ γ ι H (Except Refusal UInt32)).Goes s
      (Served s id direction.kind) (View.Halts s.view) := by
  have hentered : s.tables.admitTransfer direction id segments = .ok (admission, lengths) := by
    rw [admitTransfer_eq hlengths, hadmitted]
    rfl
  obtain ⟨i, endpoint, hactive, -, hreserve⟩ := admitTransfer_eq_ok hentered
  have hissue : (transfer direction id segments : HubM config τ γ ι H _).Goes s
      (fun answer t => Settled answer ∧ ∀ k : LaneId config, (k.1 : Nat) ≠ id.index ∨
        k.2 ≠ direction.kind.direction → t.tables.queues k = s.tables.queues k) fun _ => True := by
    unfold transfer
    rw [goes_bind, goes_tables, hentered]
    exact goes_admitted_queues hactive hreserve _ _ _
  exact Goes.mono (hissue.and (asks_transfer h direction id segments))
    (fun _ t ht => ⟨ht.1.1, ht.2, ht.1.2⟩) fun _ hfatal => hfatal.2

omit [Interface ι H] in
theorem goes_configure_served (h : s.tables.Sound) {id : DriverId} {change : Change}
    {list : Option MulticastList} {admission : Admission config H} (hlist : change.list? = .ok list)
    (hadmitted : s.tables.reserveFor id .configure = .ok admission) :
    (configure id change : HubM config τ γ ι H (Except Refusal UInt32)).Goes s
      (Served s id .configure) (View.Halts s.view) := by
  have hentered : s.tables.admitChange id change = .ok (admission, list) := by
    rw [admitChange_eq hlist, hadmitted]
    rfl
  obtain ⟨i, endpoint, hactive, -, hreserve⟩ := admitChange_eq_ok hentered
  have hissue : (configure id change : HubM config τ γ ι H _).Goes s
      (fun answer t => Settled answer ∧ ∀ k : LaneId config, (k.1 : Nat) ≠ id.index ∨
        k.2 ≠ RequestKind.direction .configure → t.tables.queues k = s.tables.queues k)
      fun _ => True := by
    unfold configure
    rw [goes_bind, goes_tables, hentered]
    exact goes_admitted_queues hactive hreserve _ _ _
  exact Goes.mono (hissue.and (asks_configure h id change))
    (fun _ t ht => ⟨ht.1.1, ht.2, ht.1.2⟩) fun _ hfatal => hfatal.2

end Hub

section Requests

variable [Transport τ] [GrantTable γ] [Interface ι H] {s t : HubSession config τ γ ι H}
variable {operation : Operation config} {id : DriverId} {kind : RequestKind}

/-- A request that passes its own checks is one action: turned down for the reason that its reservation
gives, or served. -/
theorem Operation.Asks.request (h : operation.Asks id kind) :
    ∃ action : HubM config τ γ ι H (Except Refusal UInt32),
      operation.run = (do pure (some (← action))) ∧
      (∀ s refusal, s.tables.reserveFor id kind = .error refusal →
        action.Goes s (fun answer t => answer = .error refusal ∧ t = s) fun _ => False) ∧
      ∀ s admission, s.tables.Sound → s.tables.reserveFor id kind = .ok admission →
        action.Goes s (Hub.Served s id kind) (View.Halts s.view) := by
  have htransfer (direction : Direction) {segments : List Segment}
      {lengths : Vector UInt16 maxSegments} (hlengths : segmentLengths segments = .ok lengths)
      (s : HubSession config τ γ ι H) (refusal : Refusal)
      (hrefused : s.tables.reserveFor id direction.kind = .error refusal) :
      (Hub.transfer direction id segments : HubM config τ γ ι H _).Goes s
        (fun answer t => answer = .error refusal ∧ t = s) fun _ => False := by
    apply Hub.goes_transfer_refused
    rw [Hub.admitTransfer_eq hlengths, hrefused]
    rfl
  cases h with
  | send few short =>
    obtain ⟨lengths, hlengths⟩ := exists_segmentLengths.mpr ⟨few, short⟩
    exact ⟨Hub.transfer .send id _, rfl, htransfer .send hlengths, fun s admission hsound hadmitted =>
      Hub.goes_transfer_served hsound hlengths hadmitted⟩
  | receive few short =>
    obtain ⟨lengths, hlengths⟩ := exists_segmentLengths.mpr ⟨few, short⟩
    exact ⟨Hub.transfer .receive id _, rfl, htransfer .receive hlengths,
      fun s admission hsound hadmitted => Hub.goes_transfer_served hsound hlengths hadmitted⟩
  | configure listed =>
    obtain ⟨list, hlist⟩ := Change.exists_list?.mpr listed
    refine ⟨Hub.configure id _, rfl, fun s refusal hrefused => ?_, fun s admission hsound hadmitted =>
      Hub.goes_configure_served hsound hlist hadmitted⟩
    apply Hub.goes_configure_refused
    rw [Hub.admitChange_eq hlist, hrefused]
    rfl

theorem Operation.Asks.run_refused (h : operation.Asks id kind) {refusal : Refusal}
    (hrefused : s.tables.reserveFor id kind = .error refusal) :
    operation.run s = .ok (some (.error refusal)) s := by
  obtain ⟨action, haction, hgoes, -⟩ := h.request (τ := τ) (γ := γ) (ι := ι) (H := H)
  apply eq_ok_of_goes
  rw [haction, goes_bind]
  refine Goes.mono (hgoes s refusal hrefused) (fun answer t ht => ?_) fun _ hfalse => hfalse
  rw [ht.1, ht.2]
  exact ⟨rfl, rfl⟩

theorem Operation.Asks.goes_served (h : operation.Asks id kind) (hsound : s.tables.Sound)
    {admission : Admission config H} (hadmitted : s.tables.reserveFor id kind = .ok admission) :
    operation.run.Goes s (fun answer t => ∃ outcome, answer = some outcome ∧
      Hub.Served s id kind outcome t) (View.Halts s.view) := by
  obtain ⟨action, haction, -, hgoes⟩ := h.request (τ := τ) (γ := γ) (ι := ι) (H := H)
  rw [haction, goes_bind]
  exact Goes.mono (hgoes s admission hsound hadmitted) (fun outcome _ ht => ⟨outcome, rfl, ht⟩)
    fun _ hhalts => hhalts

/-- Only a request that passes its own checks is answered that its queue is full. -/
theorem Operation.asks_of_busy (hrun : operation.run s = .ok (some (.error .busy)) t) :
    ∃ id kind, operation.Asks id kind := by
  -- An operation that is no request answers nothing.
  have hsilent {α : Type} (action : HubM config τ γ ι H α) :
      (do let _ ← action; pure none : HubM config τ γ ι H (Option (Except Refusal UInt32))) s ≠
        .ok (some (.error .busy)) t := by
    intro hrun
    have hgoes : (do let _ ← action; pure none : HubM config τ γ ι H
        (Option (Except Refusal UInt32))).Goes s (fun answer _ => answer = none) fun _ => True := by
      rw [goes_bind]
      exact Goes.mono (goes_trivial action) (fun _ _ _ => rfl) fun _ _ => trivial
    cases hgoes.of_ok hrun
  have hrefused {action : HubM config τ γ ι H (Except Refusal UInt32)} {refusal : Refusal}
      (hgoes : action.Goes s (fun answer t => answer = .error refusal ∧ t = s) fun _ => False)
      (hne : refusal ≠ .busy) :
      (do pure (some (← action)) : HubM config τ γ ι H _) s ≠ .ok (some (.error .busy)) t := by
    intro hrun
    have hanswer : (do pure (some (← action)) : HubM config τ γ ι H _).Goes s
        (fun answer _ => answer = some (.error refusal)) fun _ => False := by
      rw [goes_bind]
      exact Goes.mono hgoes (fun _ _ ht => congrArg some ht.1) fun _ hfalse => hfalse
    have heq := hanswer.of_ok hrun
    cases heq
    exact hne rfl
  cases operation with
  | reconcile source => exact absurd hrun (hsilent _)
  | process endpoint reply => exact absurd hrun (hsilent _)
  | processFrame endpoint bytes => exact absurd hrun (hsilent _)
  | send id segments =>
    by_cases hlengths : ∃ lengths, segmentLengths segments = .ok lengths
    · obtain ⟨few, short⟩ := exists_segmentLengths.mp hlengths
      exact ⟨id, .send, .send few short⟩
    · obtain ⟨refusal, hadmitted, hne⟩ := Hub.admitTransfer_ne_busy s.tables id .send hlengths
      exact absurd hrun (hrefused (Hub.goes_transfer_refused hadmitted) hne)
  | receive id segments =>
    by_cases hlengths : ∃ lengths, segmentLengths segments = .ok lengths
    · obtain ⟨few, short⟩ := exists_segmentLengths.mp hlengths
      exact ⟨id, .receive, .receive few short⟩
    · obtain ⟨refusal, hadmitted, hne⟩ := Hub.admitTransfer_ne_busy s.tables id .receive hlengths
      exact absurd hrun (hrefused (Hub.goes_transfer_refused hadmitted) hne)
  | configure id change =>
    by_cases hlist : ∃ list, change.list? = .ok list
    · exact ⟨id, .configure, .configure (Change.exists_list?.mp hlist)⟩
    · obtain ⟨refusal, hadmitted, hne⟩ := Hub.admitChange_ne_busy s.tables id hlist
      exact absurd hrun (hrefused (Hub.goes_configure_refused hadmitted) hne)

namespace Hub

/-- The entry and the endpoint that an active driver is found with. -/
theorem active_eq_ok_iff {hub : Hub config H} (h : hub.Labelled) {id : DriverId} {i : Fin config.drivers}
    {endpoint : Endpoint} :
    hub.active id = .ok (i, endpoint) ↔
      id = ⟨i⟩ ∧ ∃ label handle, hub.state i = .active label endpoint handle := by
  constructor
  · intro hfound
    exact ⟨congrArg DriverId.mk (index_of_active hfound).symm, h.state_of_active hfound⟩
  · rintro ⟨rfl, label, handle, hstate⟩
    have hdriver := (h.driver_eq i).1
    rw [hstate] at hdriver
    change hub.drivers[(i : Nat)].state = .active endpoint handle at hdriver
    unfold Hub.active
    rw [dif_pos i.isLt, hdriver]

theorem exists_active {hub : Hub config H} (h : hub.Labelled) {i : Fin config.drivers}
    (hactive : (hub.state i).isActive = true) : ∃ endpoint, hub.active ⟨i⟩ = .ok (i, endpoint) := by
  cases hs : hub.state i with
  | active label endpoint handle => exact ⟨endpoint, (active_eq_ok_iff h).mpr ⟨rfl, label, handle, hs⟩⟩
  | _ =>
    rw [hs] at hactive
    cases hactive

/-- Tables from which a request is served unless its queue is full. -/
structure Ready (hub : Hub config H) : Prop where
  sound : hub.Sound
  receives : ∀ i, (hub.queues (i, .receive)).limit ≤ config.receiveDepth.toNat

variable {hub : Hub config H} {i : Fin config.drivers} {kind : RequestKind}

theorem Ready.free_of_not_full (h : hub.Ready) (hadmits : ¬hub.Full i kind) :
    0 < hub.pool.freeCount := h.sound.free_of_not_full h.receives hadmits

theorem Ready.reserveFor_busy_iff (h : hub.Ready) {id : DriverId} :
    hub.reserveFor id kind = .error .busy ↔
      ∃ i : Fin config.drivers, id = ⟨i⟩ ∧ (hub.state i).isActive = true ∧ hub.Full i kind := by
  have hbusy (i : Fin config.drivers) (endpoint : Endpoint) :
      hub.reserve i endpoint kind = .error .busy ↔ hub.Full i kind :=
    h.sound.reserve_busy_iff endpoint (h.free_of_not_full)
  constructor
  · intro hreserve
    unfold reserveFor at hreserve
    cases hactive : hub.active id with
    | error refusal =>
      rw [hactive] at hreserve
      cases hreserve
      exact absurd hactive active_ne_busy
    | ok found =>
      obtain ⟨i, endpoint⟩ := found
      rw [hactive] at hreserve
      obtain ⟨rfl, label, handle, hstate⟩ := (active_eq_ok_iff h.sound.labelled).mp hactive
      refine ⟨i, rfl, ?_, (hbusy i endpoint).mp hreserve⟩
      rw [hstate]
      rfl
  · rintro ⟨i, rfl, hactive, hfull⟩
    obtain ⟨endpoint, hfound⟩ := exists_active h.sound.labelled hactive
    unfold reserveFor
    rw [hfound]
    exact (hbusy i endpoint).mpr hfull

/-- What a request for an active driver can always count on: the guarantee of its queue. -/
def assured (hub : Hub config H) (i : Fin config.drivers) : Direction → Nat
  | .send => min (hub.queues (i, .send)).limit config.sendDepth.toNat
  | .receive => (hub.queues (i, .receive)).limit

theorem not_full_of_lt (hroom : (hub.queues (i, kind.direction)).depth <
    hub.assured i kind.direction) : ¬hub.Full i kind := by
  unfold Full
  cases hd : kind.direction with
  | send =>
    rw [hd] at hroom
    simp only [assured] at hroom
    simp only [true_and]
    omega
  | receive =>
    rw [hd] at hroom
    simp only [assured] at hroom
    simp only [reduceCtorEq, false_and, or_false]
    omega

theorem reserveFor_refusal {id : DriverId} {refusal : Refusal}
    (hrefused : hub.reserveFor id kind = .error refusal) :
    refusal ∈ [Refusal.unknownDriver id, .notActive id, .busy] := by
  unfold reserveFor at hrefused
  cases hactive : hub.active id with
  | error refusal' =>
    rw [hactive] at hrefused
    cases hrefused
    unfold Hub.active at hactive
    split at hactive
    · split at hactive <;> cases hactive <;> simp
    · cases hactive
      simp
  | ok found =>
    rw [hactive] at hrefused
    change hub.reserve found.1 found.2 kind = _ at hrefused
    unfold reserve at hrefused
    split at hrefused
    · cases hrefused
      simp
    · cases hrefused

/-- A request for an active driver is admitted unless its queue is full. -/
theorem Ready.reserveFor_ok_iff (h : hub.Ready) {id : DriverId} :
    (∃ admission, hub.reserveFor id kind = .ok admission) ↔
      ∃ i : Fin config.drivers, id = ⟨i⟩ ∧ (hub.state i).isActive = true ∧ ¬hub.Full i kind := by
  have hbusy : hub.reserveFor id kind = .error .busy ↔ _ := h.reserveFor_busy_iff
  constructor
  · rintro ⟨admission, hadmitted⟩
    have hfound : ∃ i endpoint, hub.active id = .ok (i, endpoint) := by
      unfold reserveFor at hadmitted
      obtain ⟨⟨i, endpoint⟩, hactive, -⟩ := except_bind_eq_ok.mp hadmitted
      exact ⟨i, endpoint, hactive⟩
    obtain ⟨i, endpoint, hactive⟩ := hfound
    obtain ⟨rfl, label, handle, hstate⟩ := (active_eq_ok_iff h.sound.labelled).mp hactive
    have hi : (hub.state i).isActive = true := by
      rw [hstate]
      rfl
    refine ⟨i, rfl, hi, fun hfull => ?_⟩
    have hrefused := hbusy.mpr ⟨i, rfl, hi, hfull⟩
    rw [hadmitted] at hrefused
    cases hrefused
  · rintro ⟨i, rfl, hactive, hadmits⟩
    cases hreserve : hub.reserveFor ⟨i⟩ kind with
    | ok admission => exact ⟨admission, rfl⟩
    | error refusal =>
      -- The driver is known and active, so the only reason left is a full queue.
      obtain ⟨endpoint, hfound⟩ := exists_active h.sound.labelled hactive
      have hfull : refusal = .busy := by
        unfold reserveFor at hreserve
        rw [hfound] at hreserve
        change hub.reserve i endpoint kind = _ at hreserve
        unfold reserve at hreserve
        split at hreserve <;> cases hreserve
        rfl
      subst hfull
      obtain ⟨j, hj, -, hfull⟩ := hbusy.mp hreserve
      rw [driver_eq_iff.mp hj] at hfull
      exact absurd hfull hadmits

theorem Ready.of_limits {hub' : Hub config H} (h : hub.Ready) (hsound : hub'.Sound)
    (hlimit : ∀ k, (hub'.queues k).limit = (hub.queues k).limit) : hub'.Ready := by
  refine ⟨hsound, fun j => ?_⟩
  rw [hlimit]
  exact h.receives j

omit [Interface ι H] in
/-- A request that is served enters its queue, or its memory is refused; nobody's entry changes, and no
other queue does. -/
theorem Served.depths {answer : Except Refusal UInt32} (h : Served s ⟨i⟩ kind answer t)
    (hsound : s.tables.Sound) :
    t.tables.state = s.tables.state ∧
      (∀ k, (t.tables.queues k).limit = (s.tables.queues k).limit) ∧
      ∀ k, (t.tables.queues k).depth = (s.tables.queues k).depth +
        if k = (i, kind.direction) ∧ answer ≠ .error .noMemory then 1 else 0 := by
  obtain ⟨hsound', hasked⟩ := h.asked
  have hdepth (k : LaneId config) : (t.tables.queues k).depth =
      (t.view.lane k).bookings.length := (hsound'.length_bookings k).symm
  have hdepth' (k : LaneId config) : (s.tables.queues k).depth =
      (s.view.lane k).bookings.length := (hsound.length_bookings k).symm
  rcases hasked with ⟨-, refusal, rfl, hne⟩ | hissue
  · -- A request that is served is not turned down.
    rcases h.settled with hnoMemory | ⟨number, hok⟩
    · cases hnoMemory
      exact absurd rfl hne
    · cases hok
  · obtain ⟨hstate, ⟨rfl, hlane⟩ | ⟨number, k', b, rfl, hlane⟩⟩ := hissue.lanes
    · refine ⟨hstate, fun k => congrArg Lane.limit (congrFun hlane k), fun k => ?_⟩
      rw [hdepth, hdepth', hlane, if_neg (fun hk => hk.2 rfl), Nat.add_zero]
    · -- The lane that grew is the one of the request, since the others stay.
      have hk' : k' = (i, kind.direction) := by
        by_contra hne
        have hother : (k'.1 : Nat) ≠ i ∨ k'.2 ≠ kind.direction := by
          by_contra hsame
          simp only [not_or, not_not] at hsame
          exact hne (Prod.ext (Fin.ext hsame.1) hsame.2)
        have hqueue := congrArg Queue.depth (h.others k' hother)
        rw [hdepth, hdepth', hlane, update_self, Lane.push, List.length_append] at hqueue
        exact absurd hqueue (Nat.succ_ne_self _)
      subst hk'
      have hpushed : ((s.view.lane (i, kind.direction)).push b).limit =
          (s.view.lane (i, kind.direction)).limit := rfl
      refine ⟨hstate, fun k => ?_, fun k => ?_⟩
      · exact (congrArg Lane.limit (congrFun hlane k)).trans (limit_update hpushed k)
      · rw [hdepth, hdepth', hlane, update_apply]
        by_cases hk : k = (i, kind.direction)
        · subst hk
          have hserved : (Except.ok number : Except Refusal UInt32) ≠ .error .noMemory := by
            intro hnoMemory
            cases hnoMemory
          rw [if_pos rfl, if_pos ⟨rfl, hserved⟩, Lane.push, List.length_append, List.length_singleton]
        · rw [if_neg hk, if_neg fun hboth => hk hboth.1, Nat.add_zero]

omit [Transport τ] [GrantTable γ] [Interface ι H] in
theorem direction?_of_asks (h : operation.Asks id kind) :
    operation.direction? = some kind.direction := by
  cases h <;> rfl

/-- Requests for one driver within the guarantees of its queues are all served, one after the other. -/
theorem Ready.goes_all (h : s.tables.Ready)
    (hactive : (s.tables.state i).isActive = true) {operations : List (Operation config)}
    (hasks : ∀ operation ∈ operations, ∃ kind, operation.Asks ⟨i⟩ kind)
    (hroom : ∀ d, operations.countP (fun operation => operation.direction? = some d) ≤
      s.tables.assured i d - (s.tables.queues (i, d)).depth) :
    (operations.mapM Operation.run : HubM config τ γ ι H _).Goes s
      (fun answers t => (∀ answer ∈ answers, ∃ outcome, answer = some outcome ∧ Settled outcome) ∧
        ((∀ answer ∈ answers, answer ≠ some (.error .noMemory)) → ∀ d,
          (t.tables.queues (i, d)).depth = (s.tables.queues (i, d)).depth +
            operations.countP fun operation => operation.direction? = some d))
      fun fatal => ∀ defect, fatal ≠ .defect defect := by
  -- By induction on the requests; each leaves room for those behind it.
  induction operations generalizing s with
  | nil =>
    refine ⟨nofun, fun _ d => ?_⟩
    rw [List.countP_nil, Nat.add_zero]
  | cons operation rest ih =>
    obtain ⟨kind, hkind⟩ := hasks operation List.mem_cons_self
    have hdirection := direction?_of_asks hkind
    have hcount (d : Direction) : (operation :: rest).countP
        (fun operation => operation.direction? = some d) =
        rest.countP (fun operation => operation.direction? = some d) +
          if kind.direction = d then 1 else 0 := by
      rw [List.countP_cons, hdirection]
      simp
    have hadmits : ¬s.tables.Full i kind := by
      apply not_full_of_lt
      have hfirst := hroom kind.direction
      rw [hcount, if_pos rfl] at hfirst
      omega
    obtain ⟨admission, hadmitted⟩ := (h.reserveFor_ok_iff).mpr ⟨i, rfl, hactive, hadmits⟩
    rw [List.mapM_cons, goes_bind]
    refine Goes.mono (hkind.goes_served h.sound hadmitted) (fun answer t ht => ?_)
      fun fatal hhalts defect => ?_
    · obtain ⟨outcome, rfl, hserved⟩ := ht
      obtain ⟨hstate, hlimit, hdepth⟩ := hserved.depths h.sound
      have hassured (d : Direction) : t.tables.assured i d = s.tables.assured i d := by
        cases d <;> simp only [assured, hlimit]
      have hactive' : (t.tables.state i).isActive = true := by rwa [hstate]
      have hgrown (d : Direction) : (t.tables.queues (i, d)).depth =
          (s.tables.queues (i, d)).depth +
            if kind.direction = d ∧ outcome ≠ .error .noMemory then 1 else 0 := by
        rw [hdepth]
        simp only [Prod.mk.injEq, true_and, eq_comm]
      rw [goes_bind]
      refine Goes.mono (ih (h.of_limits hserved.asked.1 hlimit) hactive'
        (fun operation ho => hasks operation (List.mem_cons_of_mem _ ho)) fun d => ?_)
        (fun answers u hu => ?_) fun _ hends => hends
      · have hbefore := hroom d
        rw [hcount] at hbefore
        have hone : (if kind.direction = d ∧ outcome ≠ .error .noMemory then 1 else 0) ≤
            if kind.direction = d then 1 else 0 := by
          by_cases hd : kind.direction = d
          · rw [if_pos hd]
            split <;> omega
          · rw [if_neg hd, if_neg fun hboth => hd hboth.1]
        rw [hassured, hgrown]
        omega
      · refine ⟨fun answer hanswer => ?_, fun hmemory d => ?_⟩
        · rcases List.mem_cons.mp hanswer with rfl | hanswer
          · exact ⟨outcome, rfl, hserved.settled⟩
          · exact hu.1 answer hanswer
        · have hlater := hu.2 (fun answer ha => hmemory answer (List.mem_cons_of_mem _ ha)) d
          have hfirst : outcome ≠ .error .noMemory := fun heq =>
            hmemory _ List.mem_cons_self (congrArg some heq)
          rw [hlater, hgrown, hcount]
          simp only [hfirst, ne_eq, not_false_eq_true, and_true]
          omega
    · rintro rfl
      cases hhalts

end Hub

end Requests

section Runs

variable [Transport τ] [GrantTable γ] [Interface ι H]
variable {heads : LaneId config → UInt32} {custody : Custody γ} {s : HubSession config τ γ ι H}

omit [Transport τ] [GrantTable γ] [Interface ι H] in
theorem View.Ordered.ready (h : s.view.Ordered) (hsound : s.tables.Sound) : s.tables.Ready := by
  refine ⟨hsound, fun i => ?_⟩
  cases hactive : (s.tables.state i).isActive with
  | true => exact (h.lanes i hactive .receive).2
  | false =>
    rw [show (s.tables.queues (i, .receive)).limit = 0 from hsound.closed i hactive .receive]
    exact Nat.zero_le _

theorem Reachable.ready (h : Reachable heads custody s) : s.tables.Ready :=
  h.ordered.ready h.sound

/-- The driver can be asked for a receive exactly if its receive queue is not full. -/
theorem Hub.canReceive_eq_true_iff {hub : Hub config H} (h : hub.Ready) {id : DriverId} :
    hub.canReceive id = true ↔
      ∃ i : Fin config.drivers, id = ⟨i⟩ ∧ (hub.state i).isActive = true ∧ ¬hub.Full i .receive := by
  have hroom (i : Fin config.drivers) : (hub.driver i).receive.hasRoom = true ↔
      ¬hub.Full i .receive := by
    have hle := h.sound.depth_le_limit (i, .receive)
    have hqueue : (hub.driver i).receive = hub.queues (i, .receive) := rfl
    simp only [Hub.Full, RequestKind.direction, reduceCtorEq, false_and, or_false, hqueue,
      Queue.hasRoom, decide_eq_true_eq]
    omega
  unfold Hub.canReceive
  cases hactive : hub.active id with
  | error refusal =>
    constructor
    · intro hroom
      cases hroom
    · rintro ⟨i, rfl, hi, -⟩
      obtain ⟨endpoint, hfound⟩ := Hub.exists_active h.sound.labelled hi
      rw [hfound] at hactive
      cases hactive
  | ok found =>
    obtain ⟨i, endpoint⟩ := found
    obtain ⟨rfl, label, handle, hstate⟩ := (Hub.active_eq_ok_iff h.sound.labelled).mp hactive
    dsimp only
    rw [hroom]
    constructor
    · intro hadmits
      refine ⟨i, rfl, ?_, hadmits⟩
      rw [hstate]
      rfl
    · rintro ⟨j, hij, -, hadmits⟩
      have hj : j = i := (driver_eq_iff.mp hij)
      rwa [hj] at hadmits

/-- A request is answered that its queue is full exactly if it is at its limit or needs a spare that is not
there; slots never run out. So whatever the others do, an active driver is served within its guarantees,
and it can be told whether it is for receives. -/
theorem Reachable.admission_assured (h : Reachable heads custody s) :
    (∀ i kind, ¬s.tables.Full i kind → 0 < s.tables.statistics.freeSlots) ∧
    (∀ (operation : Operation config) t, operation.run s = .ok (some (.error .busy)) t ↔
      t = s ∧ ∃ i kind, (s.tables.state i).isActive = true ∧ operation.Asks ⟨i⟩ kind ∧
        s.tables.Full i kind) ∧
    (∀ i, (s.tables.state i).isActive = true → ∀ operations : List (Operation config),
      (∀ operation ∈ operations, ∃ kind, operation.Asks ⟨i⟩ kind) →
      (∀ d, operations.countP (fun operation => operation.direction? = some d) ≤
        s.tables.assured i d - (s.tables.queues (i, d)).depth) →
      (operations.mapM Operation.run : HubM config τ γ ι H _).Goes s
        (fun answers t =>
          (∀ answer ∈ answers, ∃ outcome, answer = some outcome ∧ Hub.Settled outcome) ∧
          ((∀ answer ∈ answers, answer ≠ some (.error .noMemory)) → ∀ d,
            (t.tables.queues (i, d)).depth = (s.tables.queues (i, d)).depth +
              operations.countP fun operation => operation.direction? = some d))
        fun fatal => ∀ defect, fatal ≠ .defect defect) ∧
    ∀ id segments, segments.length ≤ maxSegments → (∀ segment ∈ segments, segment.length ≤ 65535) →
      (s.tables.canReceive id = true ↔
        ∀ refusal ∈ [Refusal.unknownDriver id, .notActive id, .busy], ∀ t,
          (.receive id segments : Operation config).run s ≠ .ok (some (.error refusal)) t) := by
  have hready := h.ready
  refine ⟨fun i kind hadmits => hready.free_of_not_full hadmits, ?busy,
    fun i hactive operations hasks hroom => hready.goes_all hactive hasks hroom, ?receive⟩
  case busy =>
    intro operation t
    constructor
    · intro hrun
      obtain ⟨id, kind, hasks⟩ := Operation.asks_of_busy hrun
      cases hreserve : s.tables.reserveFor id kind with
      | error refusal =>
        rw [hasks.run_refused hreserve] at hrun
        cases hrun
        obtain ⟨i, rfl, hactive, hfull⟩ := (hready.reserveFor_busy_iff).mp hreserve
        exact ⟨rfl, i, kind, hactive, hasks, hfull⟩
      | ok admission =>
        -- A request that is admitted is not answered so.
        obtain ⟨outcome, houtcome, hserved⟩ := (hasks.goes_served hready.sound hreserve).of_ok hrun
        cases houtcome
        rcases hserved.settled with hnoMemory | ⟨number, hok⟩
        · cases hnoMemory
        · cases hok
    · rintro ⟨rfl, i, kind, hactive, hasks, hfull⟩
      exact hasks.run_refused ((hready.reserveFor_busy_iff).mpr ⟨i, rfl, hactive, hfull⟩)
  case receive =>
    intro id segments few short
    have hasks : (.receive id segments : Operation config).Asks id .receive := .receive few short
    rw [Hub.canReceive_eq_true_iff hready, ← hready.reserveFor_ok_iff]
    constructor
    · rintro ⟨admission, hadmitted⟩ refusal hrefusal t hrun
      obtain ⟨outcome, houtcome, hserved⟩ := (hasks.goes_served hready.sound hadmitted).of_ok hrun
      cases houtcome
      rcases hserved.settled with hnoMemory | ⟨number, hok⟩
      · cases hnoMemory
        simp at hrefusal
      · cases hok
    · intro hnever
      cases hreserve : s.tables.reserveFor id .receive with
      | ok admission => exact ⟨admission, rfl⟩
      | error refusal =>
        exact absurd (hasks.run_refused hreserve)
          (hnever refusal (Hub.reserveFor_refusal hreserve) s)

end Runs

/-! The driver of the short run, when it has just become active, is served two sends and a receive. Then
its receive queue is full. -/
namespace Trial

def opened : HubSession small Outbox GrantLedger CallbackLog Nat :=
  start.afterAll [.reconcile roster, .process ⟨5⟩ (.init reply)]

def requests : List (Operation small) :=
  [.send ⟨0⟩ [⟨0, 16⟩], .configure ⟨0⟩ ⟨⟨0⟩, ⟨0⟩, none, ⟨0⟩, 0, 0, HardwareAddress.zero⟩,
    .receive ⟨0⟩ [⟨64, 16⟩]]

theorem served_then_busy :
    (requests.mapM Operation.run : HubM small Outbox GrantLedger CallbackLog Nat _).Goes opened
      (fun answers _ => ∀ answer ∈ answers, ∃ outcome, answer = some outcome ∧ Hub.Settled outcome)
      (fun fatal => ∀ defect, fatal ≠ .defect defect) ∧
    (.receive ⟨0⟩ [] : Operation small).run session = .ok (some (.error .busy)) session ∧
    session.tables.canReceive ⟨0⟩ = false := by
  have hopened : Reachable heads (.any GrantLedger) opened := (started trivial).afterAll _
  obtain ⟨-, -, hserved, -⟩ := Reachable.admission_assured hopened
  obtain ⟨-, hbusy, -⟩ := Reachable.admission_assured reached
  have hasks : ∀ operation ∈ requests, ∃ kind, operation.Asks ⟨0⟩ kind := by
    intro operation hoperation
    simp only [requests, List.mem_cons, List.not_mem_nil, or_false] at hoperation
    rcases hoperation with rfl | rfl | rfl
    · exact ⟨.send, .send (by decide) (by decide)⟩
    · exact ⟨.configure, .configure (by decide)⟩
    · exact ⟨.receive, .receive (by decide) (by decide)⟩
  have hroom : ∀ d, requests.countP (fun operation => operation.direction? = some d) ≤
      opened.tables.assured entry d - (opened.tables.queues (entry, d)).depth := by
    intro d
    cases d <;> decide +kernel
  have hfull : session.tables.Full entry .receive := .inl (by decide +kernel)
  have hactive : (session.tables.state entry).isActive = true := by decide +kernel
  refine ⟨?served, ?busy, ?never⟩
  case served =>
    have hactive' : (opened.tables.state entry).isActive = true := by decide +kernel
    exact SessionM.Goes.mono (hserved entry hactive' requests hasks hroom)
      (fun _ _ h => h.1) fun _ h => h
  case busy =>
    have hasked : (.receive ⟨0⟩ [] : Operation small).Asks ⟨entry⟩ .receive :=
      .receive (by decide) (by decide)
    exact (hbusy _ session).mpr ⟨rfl, entry, .receive, hactive, hasked, hfull⟩
  case never => decide +kernel

end Trial
end DriverHub
