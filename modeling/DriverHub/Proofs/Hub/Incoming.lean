import DriverHub.Proofs.Hub.Reconcile
import DriverHub.Proofs.Wire.RoundTrip

/-! Frames that come in. A frame is heeded if it is a reply that the driver at its endpoint is expected to
send, and then it does one thing. Every other frame changes nothing. -/
namespace DriverHub

open Function SessionM

variable {config : Config} {τ γ ι H : Type}

/-- The entry is a notice, or a call by which the interface of this driver is set up or given up. -/
inductive Entry.Introduces (driver : DriverId) : Entry H → Prop
  | noticed (notice : Notice) : Introduces driver (.noticed notice)
  | added (name : InterfaceName) (capabilities : Capabilities) (answer : Option H) :
      Introduces driver (.added driver name capabilities answer)
  | enabled (handle : H) (enablement : Enablement) (answer : Bool) :
      Introduces driver (.enabled driver handle enablement answer)
  | removed (handle : H) : Introduces driver (.removed driver handle)

/-- A journal after some entries of this kind. -/
inductive Introduced (driver : DriverId) (journal : Journal H) : Journal H → Prop
  | none : Introduced driver journal journal
  | entry {journal' : Journal H} {entry : Entry H} (before : Introduced driver journal journal')
      (introduces : entry.Introduces driver) : Introduced driver journal (entry :: journal')

theorem Introduced.exists_news {driver : DriverId} {journal journal' : Journal H}
    (h : Introduced driver journal journal') :
    ∃ news, journal' = news ++ journal ∧ ∀ entry ∈ news, entry.Introduces driver := by
  induction h with
  | none => exact ⟨[], rfl, List.forall_mem_nil _⟩
  | @entry journal' entry _ introduces ih =>
    obtain ⟨news, rfl, hnews⟩ := ih
    exact ⟨entry :: news, rfl, List.forall_mem_cons.mpr ⟨introduces, hnews⟩⟩

theorem Introduced.withdrawing {driver : DriverId} {journal journal' : Journal H}
    (h : Introduced driver journal journal') (state : Occupant H) :
    Introduced driver journal (state.withdrawing driver ++ journal') := by
  unfold Occupant.withdrawing
  cases state.handle? with
  | none => exact h
  | some handle => exact h.entry (.removed handle)

theorem Hires.introduced [Interface ι H] {driver : DriverId} {name : InterfaceName}
    {capabilities : Capabilities} {interface interface' : ι} {journal journal' : Journal H}
    {handle? : Option H} {handle : H} {isNew : Bool}
    (h : Hires driver name capabilities interface journal handle? handle isNew interface' journal') :
    Introduced driver journal journal' := by
  cases h with
  | kept => exact .none
  | added => exact .entry .none (.added ..)

/-- An init reply that is heeded makes its driver active or ends it, and nobody else learns of it. -/
theorem View.Reacts.introduced [Transport τ] [GrantTable γ] [Interface ι H]
    {v w : View config τ γ ι H} {i : Fin config.drivers} {reply : InitReply} {endpoint : Endpoint}
    (h : Reacts v i (.init reply) w) (hheeds : v.Heeds i (.init reply))
    (hhere : (v.state i).endpoint? = some endpoint) :
    w.transport = v.transport ∧ w.grants = v.grants ∧
      ((∃ label handle, w.state i = .active label endpoint handle) ∨ w.state i = .free) ∧
      Introduced ⟨i⟩ v.journal w.journal := by
  -- A driver that goes has no grants that would have to be revoked.
  have hgone {journal : Journal H} (hidle : v.grantsAt i = [])
      (hbefore : Introduced ⟨i⟩ v.journal journal) : Introduced ⟨i⟩ v.journal
        ((v.state i).withdrawing ⟨i⟩ ++ (revocations (v.grantsAt i) ++ journal)) := by
    rw [hidle]
    exact hbefore.withdrawing (v.state i)
  cases h with
  | ignored notice trace unheeded => exact absurd hheeds unheeded
  | malformed label endpoint' handle reply fault pending latest idle checked =>
    have hfault : Introduced ⟨i⟩ v.journal (.noticed (.malformedInit endpoint' fault) :: v.journal) :=
      .entry .none (.noticed _)
    exact ⟨rfl, rfl, .inr (update_self ..), (hgone idle hfault).entry (.noticed _)⟩
  | turnedAway label endpoint' reply name pending latest idle checked refused =>
    have hrefused : Introduced ⟨i⟩ v.journal (.noticed (.addRefused ⟨i⟩ name) ::
        .added ⟨i⟩ name reply.capabilities none :: v.journal) :=
      .entry (.entry .none (.added ..)) (.noticed _)
    exact ⟨rfl, rfl, .inr (update_self ..), (hgone idle hrefused).entry (.noticed _)⟩
  | activated label endpoint' reply name pending latest checked hires enabled =>
    rw [pending] at hhere
    obtain rfl := Option.some.inj hhere
    exact ⟨rfl, rfl, .inl ⟨label, _, update_self ..⟩,
      (hires.introduced.entry (.enabled ..)).entry (.noticed _)⟩
  | refused label endpoint' reply name pending latest checked hires refused =>
    have hwithdrawn {journal : Journal H} (h : Introduced ⟨i⟩ v.journal journal) (handle : H) :
        Introduced ⟨i⟩ v.journal (.noticed (.gone ⟨i⟩ endpoint') :: .removed ⟨i⟩ handle :: journal) :=
      (h.entry (.removed handle)).entry (.noticed _)
    exact ⟨rfl, rfl, .inr (update_self ..),
      hwithdrawn ((hires.introduced.entry (.enabled ..)).entry (.noticed _)) _⟩

namespace Hub

/-- The first entry whose driver is at this endpoint. -/
structure Addressee (hub : Hub config H) (endpoint : Endpoint) (i : Fin config.drivers) : Prop where
  here : (hub.state i).endpoint? = some endpoint
  first : ∀ j < i, (hub.state j).endpoint? ≠ some endpoint

/-- The frame at the front is a reply that the driver of its addressee is expected to send. -/
structure Heeded (s : HubSession config τ γ ι H) (endpoint : Endpoint) (bytes : List UInt8)
    (i : Fin config.drivers) (reply : Reply) : Prop where
  decoded : Reply.decode (bytes.take frameSize) = .ok (.ok reply)
  addressee : s.tables.Addressee endpoint i
  expected : s.view.Heeds i reply

/-- The oldest request left a queue: its slot is the first free one, and a send beyond the guarantee gave
its spare back. Nothing else has changed. -/
structure Dequeued (hub : Hub config H) (k : LaneId config) (b : Booking config.slots)
    (hub' : Hub config H) : Prop where
  entries : hub.SameEntries hub'
  oldest : hub.bookings k = b :: hub'.bookings k
  queue : (hub.queues k).Shortened (hub'.queues k) 1
  queues : ∀ k', k' ≠ k → hub'.queues k' = hub.queues k'
  bookings : ∀ k', k' ≠ k → hub'.bookings k' = hub.bookings k'
  free : hub'.pool.free = b.slot :: hub.pool.free
  freeCount : hub'.pool.freeCount = hub.pool.freeCount + 1
  slots : ∀ i, i ≠ b.slot → hub'.pool.slot i = hub.pool.slot i
  spares : hub'.pool.spares = hub.pool.spares +
    if k.2 = .send ∧ config.sendDepth.toNat < (hub.queues k).depth then 1 else 0
  spareTotal : hub'.pool.spareTotal = hub.pool.spareTotal

/-- A queue and the pool are put back after the oldest request of the queue has left. -/
theorem dequeued_withQueue {hub : Hub config H} {layout : Layout (LaneId config) config.slots}
    (hl : layout.Describes hub.pool hub.queues) {k : LaneId config} {b : Booking config.slots}
    {rest : List (Booking config.slots)} (hbookings : hub.bookings k = b :: rest)
    {queue : Queue config.slots} {pool : SlotPool config.slots}
    (hshort : (hub.queues k).Shortened queue 1)
    (hspares : pool.spares = hub.pool.spares +
      if k.2 = .send ∧ config.sendDepth.toNat < (hub.queues k).depth then 1 else 0)
    (htotal : pool.spareTotal = hub.pool.spareTotal)
    (hslots : ∀ i, i ≠ b.slot → pool.slot i = hub.pool.slot i)
    (hdesc : (layout.drop k 1).Describes pool (update hub.queues k queue)) :
    hub.Dequeued k b (hub.withQueue k queue pool) := by
  have hheld := Stored.held_eq hl k
  rw [hbookings] at hheld
  have hqueue (k' : LaneId config) :
      (hub.withQueue k queue pool).queues k' = update hub.queues k queue k' := by
    rw [withQueue_queues]
  have hdesc' : (layout.drop k 1).Describes (hub.withQueue k queue pool).pool
      (hub.withQueue k queue pool).queues := by
    rw [withQueue_queues]
    exact hdesc
  have hfree : (layout.drop k 1).free = b.slot :: layout.free := by
    simp [Layout.drop, Layout.slots, hheld]
  constructor
  case entries => exact withQueue_sameEntries ..
  case oldest =>
    rw [hbookings, ← Stored.held_eq hdesc']
    simp [Layout.drop, hheld]
  case queue =>
    rw [hqueue, update_self]
    exact hshort
  case queues =>
    intro k' hk
    rw [hqueue, update_of_ne hk]
  case bookings =>
    intro k' hk
    rw [← Stored.held_eq hdesc', ← Stored.held_eq hl]
    simp [Layout.drop, hk]
  case free => rw [← hdesc'.free_eq, hfree, ← hl.free_eq]
  case freeCount => rw [← hdesc'.free_count, hfree, List.length_cons, hl.free_count]
  case slots => exact hslots
  case spares => exact hspares
  case spareTotal => exact htotal

/-- A request that is answered is taken out of its queue. -/
theorem Stored.dequeued {hub : Hub config H} (h : hub.Stored) {i : Fin config.drivers}
    {kind : RequestKind} {number : UInt32}
    (hanswers : (hub.lane (i, kind.direction)).Answers kind number) :
    ∃ b hub', b.kind = kind ∧
      hub.completed? i kind number = .ok (some (b.grants.present, hub')) ∧
      hub.Dequeued (i, kind.direction) b hub' := by
  obtain ⟨layout, hl⟩ := h.described
  have hheld := held_eq hl (i, kind.direction)
  obtain ⟨hhead, hkind⟩ := hanswers
  change (hub.queues (i, kind.direction)).head = number at hhead
  change (hub.bookings (i, kind.direction)).head?.map Booking.kind = some kind at hkind
  obtain ⟨b, hb, rfl⟩ := Option.map_eq_some_iff.mp hkind
  obtain ⟨rest, hbookings⟩ := List.head?_eq_some_iff.mp hb
  have hdepth : (hub.queues (i, b.kind.direction)).depth = rest.length + 1 := by
    rw [← h.length_bookings, hbookings, List.length_cons]
  rw [hbookings] at hheld
  -- All spares that are out have room, so the one of this request has.
  have howed := h.owed_le (i, b.kind.direction)
  rw [hbookings, owed_cons] at howed
  obtain ⟨gone, hgone, hgrants, hshort, hspares, htotal, hslots, hdesc⟩ :=
    hl.advance_of_room hheld rfl (by omega)
  have hback : (if b.kind.usesSpares &&
        (hub.queues (i, b.kind.direction)).guaranteed < rest.length + 1 then 1 else 0) =
      if b.kind.direction = .send ∧
        config.sendDepth.toNat < (hub.queues (i, b.kind.direction)).depth then 1 else 0 := by
    rw [hdepth, usesSpares_eq]
    by_cases hsend : b.kind.direction = .send
    · rw [hsend, h.guaranteed]
      simp
    · simp [hsend]
  rw [hback] at hspares
  have hcomplete : ((hub.driver i).queue b.kind.direction).complete? hub.pool b.kind number =
      .ok (some gone) := by
    have hall := hl.complete?_eq (i, b.kind.direction) b.kind number
    rw [if_pos ⟨hhead, by rw [hheld]; rfl⟩, hgone] at hall
    exact hall
  have hgapless := h.gapless (i, b.kind.direction) b (by rw [hbookings]; exact List.mem_cons_self)
  rw [hgapless.recorded_eq] at hgrants
  refine ⟨b, hub.withQueue (i, b.kind.direction) gone.queue gone.pool, rfl, ?_, ?_⟩
  · unfold Hub.completed?
    simp only [bind, Except.bind, hcomplete, hgrants]
    rfl
  · exact dequeued_withQueue hl hbookings hshort hspares htotal hslots hdesc

variable {s : HubSession config τ γ ι H} {i : Fin config.drivers} {endpoint : Endpoint}
variable {bytes : List UInt8} {reply : Reply}

/-- Frames of an endpoint go to its addressee. -/
theorem findEndpoint_eq_some_iff {hub : Hub config H} (h : hub.Sound) :
    hub.findEndpoint endpoint = some i ↔ hub.Addressee endpoint i := by
  constructor
  · intro hfound
    refine ⟨endpoint_of_findEndpoint h.labelled hfound, ?_⟩
    rw [h.labelled.findEndpoint_eq, first?_eq h rfl, Fin.find?_eq_some_iff] at hfound
    intro j hj
    exact of_decide_eq_false (hfound.2 j hj)
  · exact fun haddressee => findEndpoint_eq_some h haddressee.here haddressee.first

/-- An active driver at an endpoint has an interface. -/
theorem exists_handle (hactive : (s.view.state i).isActive = true)
    (hhere : (s.tables.state i).endpoint? = some endpoint) :
    ∃ label handle, s.tables.state i = .active label endpoint handle := by
  change (s.tables.state i).isActive = true at hactive
  cases hstate : s.tables.state i with
  | active label endpoint' handle =>
    rw [hstate] at hhere
    obtain rfl := Option.some.inj hhere
    exact ⟨label, handle, rfl⟩
  | _ =>
    rw [hstate] at hactive
    cases hactive

variable [Transport τ] [GrantTable γ] [Interface ι H]

/-- A heeded frame is taken by the entry that it goes to. -/
theorem Heeded.processFrame_eq (h : Heeded s endpoint bytes i reply) (hsound : s.tables.Sound) :
    (processFrame endpoint bytes : HubM config τ γ ι H Unit) s =
      (take i reply : HubM config τ γ ι H Unit) s := by
  have hdecoded := h.decoded
  rw [Reply.decode_take] at hdecoded
  have hfound := (findEndpoint_eq_some_iff hsound).mpr h.addressee
  rw [processFrame_of_reply hdecoded]
  exact process_eq_take hfound reply

/-- A frame that is not heeded is only noted. -/
theorem processFrame_unheeded (hsound : s.tables.Sound)
    (h : ∀ i reply, ¬Heeded s endpoint bytes i reply) :
    ∃ notice : Notice, notice.level ∈ [Level.debug, Level.trace] ∧
      (processFrame endpoint bytes : HubM config τ γ ι H Unit) s =
        .ok () { s with journal := .noticed notice :: s.journal } := by
  obtain ⟨decoded, hdecoded⟩ := Reply.exists_decode bytes
  cases decoded with
  | error error =>
    refine ⟨unreadable endpoint error, ?_, by rw [processFrame_of_error hdecoded]; rfl⟩
    rw [unreadable_level]
    exact List.mem_cons_self
  | ok reply =>
    rw [processFrame_of_reply hdecoded]
    have htrace : Level.trace ∈ [Level.debug, Level.trace] := by decide
    cases hfound : s.tables.findEndpoint endpoint with
    | none => exact ⟨.unknownEndpoint reply.type endpoint, htrace, process_unknown hfound reply⟩
    | some i =>
      have hunheeded : ¬s.view.Heeds i reply := by
        intro hheeds
        rw [← Reply.decode_take] at hdecoded
        exact h i reply ⟨hdecoded, (findEndpoint_eq_some_iff hsound).mp hfound, hheeds⟩
      obtain ⟨notice, hlevel, hrun⟩ := process_ignored hsound hfound hunheeded
      refine ⟨notice, ?_, hrun⟩
      rw [hlevel]
      exact htrace

/-- What a reply that finishes a request does. -/
theorem Heeded.goes_finished {kind : RequestKind} {number : UInt32} {result : Int32}
    (h : Heeded s endpoint bytes i (.finished kind number result)) (hsound : s.tables.Sound) :
    ∃ label handle b, s.tables.state i = .active label endpoint handle ∧ b.kind = kind ∧
      (processFrame endpoint bytes : HubM config τ γ ι H Unit).Goes s
        (fun _ t => s.tables.Dequeued (i, kind.direction) b t.tables ∧ t.transport = s.transport ∧
          Revokes s.grants b.grants.present t.grants ∧
          t.interface = Interface.finished s.interface kind handle result ∧
          t.journal = .finished ⟨i⟩ kind handle result ::
            (revocations b.grants.present ++ s.journal))
        fun fatal => ∃ grant cause, RevokesUpTo grant cause s.grants b.grants.present ∧
          fatal = .revocation grant cause := by
  obtain ⟨hactive, hanswers⟩ := h.expected
  obtain ⟨label, handle, hstate⟩ := exists_handle hactive h.addressee.here
  obtain ⟨b, hub, hkind, hcompleted, hdequeued⟩ := hsound.toStored.dequeued hanswers
  refine ⟨label, handle, b, hstate, hkind, ?_⟩
  rw [Goes, h.processFrame_eq hsound]
  change Goes (finish i kind number result) _ _ _
  unfold finish
  rw [goes_bind, goes_tables, (hsound.labelled.driver_eq i).1, hstate]
  dsimp only [Occupant.driverState]
  rw [hcompleted, goes_bind, goes_expect, goes_bind, goes_setTables, goes_bind]
  apply goes_revokeGrants
  · intro g hg
    exact ⟨hdequeued, rfl, hg, rfl, rfl⟩
  · intro grant cause hg
    exact ⟨grant, cause, hg, rfl⟩

/-- What a status report does. -/
theorem Heeded.goes_status {number : UInt32} {report : StatusReport}
    (h : Heeded s endpoint bytes i (.status number report)) (hsound : s.tables.Sound) :
    ∃ label handle, s.tables.state i = .active label endpoint handle ∧
      (processFrame endpoint bytes : HubM config τ γ ι H Unit).Goes s
        (fun _ t => t.tables = s.tables ∧ t.grants = s.grants ∧
          Transport.send s.transport endpoint (.acknowledge number) = (.ok (), t.transport) ∧
          t.interface = Interface.status s.interface handle report ∧
          t.journal = .posted ⟨i⟩ endpoint (.acknowledge number) (.ok ()) ::
            .reported ⟨i⟩ handle report :: s.journal)
        fun fatal => ∃ cause transport,
          Transport.send s.transport endpoint (.acknowledge number) = (.error cause, transport) ∧
          fatal = .delivery .acknowledge endpoint cause := by
  obtain ⟨label, handle, hstate⟩ := exists_handle h.expected h.addressee.here
  refine ⟨label, handle, hstate, ?_⟩
  rw [Goes, h.processFrame_eq hsound]
  change Goes (takeStatus i number report) _ _ _
  unfold takeStatus
  rw [goes_bind, goes_tables, (hsound.labelled.driver_eq i).1, hstate]
  dsimp only [Occupant.driverState]
  rw [goes_bind, goes_reportStatus]
  apply goes_post
  · intro transport hsent
    exact ⟨rfl, rfl, hsent, rfl, rfl⟩
  · intro cause transport hsent
    exact ⟨cause, transport, hsent, rfl⟩

/-- What an init reply does. It is answered by nobody, and its driver is active then or gone. -/
theorem Heeded.exists_init {reply : InitReply} (h : Heeded s endpoint bytes i (.init reply))
    (hsound : s.tables.Sound) :
    ∃ t, (processFrame endpoint bytes : HubM config τ γ ι H Unit) s = .ok () t ∧
      t.transport = s.transport ∧ t.grants = s.grants ∧
      (∀ j, j ≠ i → t.tables.state j = s.tables.state j ∧
        ∀ d, t.tables.lane (j, d) = s.tables.lane (j, d)) ∧
      ((∃ label handle, t.tables.state i = .active label endpoint handle) ∨
        t.tables.state i = .free) ∧
      ∃ news, t.journal = news ++ s.journal ∧ ∀ entry ∈ news, entry.Introduces ⟨i⟩ := by
  obtain ⟨⟨⟩, t, hrun, hreacted⟩ := (goes_initReply hsound i reply).answers_of_not_ends
  change (take i (.init reply) : HubM config τ γ ι H Unit) s = .ok () t at hrun
  rw [← h.processFrame_eq hsound] at hrun
  obtain ⟨htransport, hgrants, hstate, hjournal⟩ :=
    hreacted.reacts.introduced h.expected h.addressee.here
  exact ⟨t, hrun, htransport, hgrants, fun j hj => hreacted.reacts.elsewhere hj, hstate,
    hjournal.exists_news⟩

end Hub

open Hub

variable [Transport τ] [GrantTable γ] [Interface ι H]
variable {heads : LaneId config → UInt32} {custody : Custody γ} {s : HubSession config τ γ ι H}

/-- What a frame that comes in does, whoever sent it and whatever is in it. It is only noted, and below
the level of a warning, unless it is heeded. A reply that finishes a request takes the oldest request out
of its queue, revokes its grants and tells the interface. A status report is handed to the interface and
acknowledged, and the hub does not change. An init reply makes its driver active or ends it. -/
theorem Reachable.frame_effect (h : Reachable heads custody s) (endpoint : Endpoint)
    (bytes : List UInt8) :
    ((∀ i reply, ¬Heeded s endpoint bytes i reply) →
      ∃ notice : Notice, notice.level ∈ [Level.debug, Level.trace] ∧
        (processFrame endpoint bytes : HubM config τ γ ι H Unit) s =
          .ok () { s with journal := .noticed notice :: s.journal }) ∧
    (∀ i kind number result, Heeded s endpoint bytes i (.finished kind number result) →
      ∃ label handle b, s.tables.state i = .active label endpoint handle ∧ b.kind = kind ∧
        (processFrame endpoint bytes : HubM config τ γ ι H Unit).Goes s
          (fun _ t => s.tables.Dequeued (i, kind.direction) b t.tables ∧
            t.transport = s.transport ∧ Revokes s.grants b.grants.present t.grants ∧
            t.interface = Interface.finished s.interface kind handle result ∧
            t.journal = .finished ⟨i⟩ kind handle result ::
              (revocations b.grants.present ++ s.journal))
          fun fatal => ∃ grant cause, RevokesUpTo grant cause s.grants b.grants.present ∧
            fatal = .revocation grant cause) ∧
    (∀ i number report, Heeded s endpoint bytes i (.status number report) →
      ∃ label handle, s.tables.state i = .active label endpoint handle ∧
        (processFrame endpoint bytes : HubM config τ γ ι H Unit).Goes s
          (fun _ t => t.tables = s.tables ∧ t.grants = s.grants ∧
            Transport.send s.transport endpoint (.acknowledge number) = (.ok (), t.transport) ∧
            t.interface = Interface.status s.interface handle report ∧
            t.journal = .posted ⟨i⟩ endpoint (.acknowledge number) (.ok ()) ::
              .reported ⟨i⟩ handle report :: s.journal)
          fun fatal => ∃ cause transport,
            Transport.send s.transport endpoint (.acknowledge number) = (.error cause, transport) ∧
            fatal = .delivery .acknowledge endpoint cause) ∧
    ∀ i reply, Heeded s endpoint bytes i (.init reply) →
      ∃ t, (processFrame endpoint bytes : HubM config τ γ ι H Unit) s = .ok () t ∧
        t.transport = s.transport ∧ t.grants = s.grants ∧
        (∀ j, j ≠ i → t.tables.state j = s.tables.state j ∧
          ∀ d, t.tables.lane (j, d) = s.tables.lane (j, d)) ∧
        ((∃ label handle, t.tables.state i = .active label endpoint handle) ∨
          t.tables.state i = .free) ∧
        ∃ news, t.journal = news ++ s.journal ∧ ∀ entry ∈ news, entry.Introduces ⟨i⟩ := by
  refine ⟨fun hunheeded => ?_, fun i kind number result hheeded => ?_,
    fun i number report hheeded => ?_, fun i reply hheeded => ?_⟩
  · exact processFrame_unheeded h.sound hunheeded
  · exact hheeded.goes_finished h.sound
  · exact hheeded.goes_status h.sound
  · exact hheeded.exists_init h.sound

namespace Trial

/-- The driver of the short run says that the first packet is sent. -/
def sentFrame : List UInt8 := (Reply.finished .send 1 60).encode.toList ++ [9, 9]

/-- In the short run, a frame cut short is only noted, and the whole frame finishes the first packet. -/
theorem frame_finishes_first :
    (∃ notice : Notice, notice.level ∈ [Level.debug, Level.trace] ∧
      (processFrame ⟨5⟩ (sentFrame.take 63) : HubM small Outbox GrantLedger CallbackLog Nat Unit)
        session = .ok () { session with journal := .noticed notice :: session.journal }) ∧
    Heeded session ⟨5⟩ sentFrame entry (.finished .send 1 60) ∧
    ∃ b, b.kind = .send ∧
      (processFrame ⟨5⟩ sentFrame : HubM small Outbox GrantLedger CallbackLog Nat Unit).Goes session
        (fun _ t => session.tables.Dequeued (entry, .send) b t.tables)
        fun fatal => ∃ grant cause, RevokesUpTo grant cause session.grants b.grants.present ∧
          fatal = .revocation grant cause := by
  have hshort : Reply.decode ((sentFrame.take 63).take frameSize) = .ok (.error .truncated) := by
    rw [Reply.decode_eq]
    apply congrArg Except.ok
    apply if_pos
    rw [List.length_take, List.length_take, frameSize]
    omega
  have hheeded : Heeded session ⟨5⟩ sentFrame entry (.finished .send 1 60) := by
    constructor
    case decoded =>
      rw [Reply.decode_take]
      exact Reply.decode_encodeInto _ _ [9, 9]
    case addressee => exact ⟨by rw [active]; rfl, fun j hj => absurd hj (Nat.not_lt_zero j)⟩
    case expected =>
      refine ⟨congrArg Occupant.isActive active, ?_⟩
      unfold Lane.Answers
      decide +kernel
  refine ⟨?_, hheeded, ?_⟩
  · refine (Reachable.frame_effect reached ⟨5⟩ (sentFrame.take 63)).1 fun i reply h => ?_
    have hdecoded := h.decoded
    rw [hshort] at hdecoded
    cases hdecoded
  · obtain ⟨label, handle, b, -, hkind, hgoes⟩ :=
      (Reachable.frame_effect reached ⟨5⟩ sentFrame).2.1 entry .send 1 60 hheeded
    exact ⟨b, hkind, hgoes.mono (fun _ _ ht => ht.1) fun _ hfatal => hfatal⟩

end Trial
end DriverHub
