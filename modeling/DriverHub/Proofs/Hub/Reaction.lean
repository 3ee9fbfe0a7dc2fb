import DriverHub.Proofs.Hub.InitReply
import DriverHub.Proofs.Hub.Simulation
import DriverHub.Proofs.Wire.RoundTrip

/-! Replies. A reply that is routed to an entry is heeded or only noted, and either way it concerns this
entry alone. Here stands all that it can come to; that these are moves follows. -/
namespace DriverHub

open Function

variable {config : Config} {τ γ ι H α β : Type}

namespace View

/-- The reply is one that the driver of an entry is expected to send: the answer to its latest init
request while it is pending, or the end of the oldest request of a queue or a status report while it
is active. -/
def Heeds (v : View config τ γ ι H) (i : Fin config.drivers) : Reply → Prop
  | .init reply => (v.state i).isPending = true ∧ reply.id = (v.lane (i, .send)).head
  | .finished kind number _ =>
    (v.state i).isActive = true ∧ (v.lane (i, kind.direction)).Answers kind number
  | .status _ _ => (v.state i).isActive = true

variable [Transport τ] [GrantTable γ] [Interface ι H]

/-- A driver answered; its lanes are open and it is active. -/
def activatedAt (v : View config τ γ ι H) (i : Fin config.drivers) (label : Label)
    (endpoint : Endpoint) (reply : InitReply) (name : InterfaceName) (handle : H) (isNew : Bool)
    (interface : ι) (journal : Journal H) : View config τ γ ι H :=
  { v with
    state := update v.state i (.active label endpoint handle)
    lane := atEntry v.lane i fun d lane =>
      lane.activate (openLimit config reply.maxSend reply.maxReceive d)
    interface
    journal := .noticed (.active ⟨i⟩ endpoint name) ::
      .enabled ⟨i⟩ handle (reply.enablement (if isNew then some name else none)) true :: journal }

/-- A driver answered, but its interface was not enabled: it is gone. -/
def refusedAt (v : View config τ γ ι H) (i : Fin config.drivers) (endpoint : Endpoint)
    (reply : InitReply) (name : InterfaceName) (handle : H) (isNew : Bool) (interface : ι)
    (journal : Journal H) : View config τ γ ι H :=
  { v with
    state := update v.state i .free
    lane := atEntry v.lane i fun d lane =>
      (lane.activate (openLimit config reply.maxSend reply.maxReceive d)).clear
    interface := Interface.remove interface handle
    journal := .noticed (.gone ⟨i⟩ endpoint) :: .removed ⟨i⟩ handle ::
      .noticed (.enableRefused ⟨i⟩ name) ::
        .enabled ⟨i⟩ handle (reply.enablement (if isNew then some name else none)) false ::
          journal }

/-- The oldest request of a lane left it. -/
def completedAt (v : View config τ γ ι H) (i : Fin config.drivers) (handle : H)
    (b : Booking config.slots) (result : Int32) (grants : γ) : View config τ γ ι H :=
  { v with
    lane := update v.lane (i, b.kind.direction) (v.lane (i, b.kind.direction)).pop
    grants
    interface := Interface.finished v.interface b.kind handle result
    journal := .finished ⟨i⟩ b.kind handle result ::
      (revocations b.grants.present ++ v.journal) }

/-- The interface of a driver was told its status, and the driver that it was. -/
def reportedAt (v : View config τ γ ι H) (i : Fin config.drivers) (endpoint : Endpoint) (handle : H)
    (number : UInt32) (report : StatusReport) (transport : τ) : View config τ γ ι H :=
  { v with
    transport
    interface := Interface.status v.interface handle report
    journal := .posted ⟨i⟩ endpoint (.acknowledge number) (.ok ()) ::
      .reported ⟨i⟩ handle report :: v.journal }

/-- What a reply that is routed to an entry comes to. -/
inductive Reacts (v : View config τ γ ι H) (i : Fin config.drivers) :
    Reply → View config τ γ ι H → Prop
  | ignored {reply : Reply} (notice : Notice) (trace : notice.level = .trace)
      (unheeded : ¬v.Heeds i reply) :
      Reacts v i reply { v with journal := .noticed notice :: v.journal }
  -- The reply of a pending driver makes no sense, or there is no interface for it: it is gone.
  | malformed (label : Label) (endpoint : Endpoint) (handle : Option H) (reply : InitReply)
      (fault : InitFault) (pending : v.state i = .pending label endpoint handle)
      (latest : reply.id = (v.lane (i, .send)).head) (idle : v.grantsAt i = [])
      (checked : reply.checked = .error fault) :
      Reacts v i (.init reply) (goneAt
        { v with journal := .noticed (.malformedInit endpoint fault) :: v.journal } i endpoint v.grants)
  | turnedAway (label : Label) (endpoint : Endpoint) (reply : InitReply) (name : InterfaceName)
      {interface : ι} (pending : v.state i = .pending label endpoint none)
      (latest : reply.id = (v.lane (i, .send)).head) (idle : v.grantsAt i = [])
      (checked : reply.checked = .ok name)
      (refused : Interface.add v.interface ⟨i⟩ name reply.capabilities = (none, interface)) :
      Reacts v i (.init reply) (goneAt { v with
        interface
        journal := .noticed (.addRefused ⟨i⟩ name) ::
          .added ⟨i⟩ name reply.capabilities none :: v.journal } i endpoint v.grants)
  | activated (label : Label) (endpoint : Endpoint) (reply : InitReply) (name : InterfaceName)
      {handle? : Option H} {handle : H} {isNew : Bool} {interface interface' : ι}
      {journal : Journal H} (pending : v.state i = .pending label endpoint handle?)
      (latest : reply.id = (v.lane (i, .send)).head) (checked : reply.checked = .ok name)
      (hires : Hires ⟨i⟩ name reply.capabilities v.interface v.journal handle? handle isNew interface
        journal)
      (enabled : Interface.enable interface handle
        (reply.enablement (if isNew then some name else none)) = (true, interface')) :
      Reacts v i (.init reply)
        (v.activatedAt i label endpoint reply name handle isNew interface' journal)
  | refused (label : Label) (endpoint : Endpoint) (reply : InitReply) (name : InterfaceName)
      {handle? : Option H} {handle : H} {isNew : Bool} {interface interface' : ι}
      {journal : Journal H} (pending : v.state i = .pending label endpoint handle?)
      (latest : reply.id = (v.lane (i, .send)).head) (checked : reply.checked = .ok name)
      (hires : Hires ⟨i⟩ name reply.capabilities v.interface v.journal handle? handle isNew interface
        journal)
      (refused : Interface.enable interface handle
        (reply.enablement (if isNew then some name else none)) = (false, interface')) :
      Reacts v i (.init reply) (v.refusedAt i endpoint reply name handle isNew interface' journal)
  | finished (label : Label) (endpoint : Endpoint) (handle : H) (b : Booking config.slots)
      (rest : List (Booking config.slots)) (number : UInt32) (result : Int32) {g : γ}
      (active : v.state i = .active label endpoint handle)
      (oldest : (v.lane (i, b.kind.direction)).bookings = b :: rest)
      (head : (v.lane (i, b.kind.direction)).head = number)
      (revoked : Revokes v.grants b.grants.present g) :
      Reacts v i (.finished b.kind number result) (v.completedAt i handle b result g)
  | reported (label : Label) (endpoint : Endpoint) (handle : H) (number : UInt32)
      (report : StatusReport) {transport : τ} (active : v.state i = .active label endpoint handle)
      (sent : Transport.send v.transport endpoint (.acknowledge number) = (.ok (), transport)) :
      Reacts v i (.status number report)
        (v.reportedAt i endpoint handle number report transport)

/-- What can end the work while a reply is heeded. No init reply does. -/
inductive Stops (v : View config τ γ ι H) (i : Fin config.drivers) : Reply → Fatal → Prop
  | revocation (label : Label) (endpoint : Endpoint) (handle : H) (b : Booking config.slots)
      (rest : List (Booking config.slots)) (number : UInt32) (result : Int32) {grant : GrantId}
      {cause : GrantError} (active : v.state i = .active label endpoint handle)
      (oldest : (v.lane (i, b.kind.direction)).bookings = b :: rest)
      (head : (v.lane (i, b.kind.direction)).head = number)
      (revoked : RevokesUpTo grant cause v.grants b.grants.present) :
      Stops v i (.finished b.kind number result) (.revocation grant cause)
  | delivery (label : Label) (endpoint : Endpoint) (handle : H) (number : UInt32)
      (report : StatusReport) {cause : TransportError} {transport : τ}
      (active : v.state i = .active label endpoint handle)
      (sent : Transport.send v.transport endpoint (.acknowledge number) = (.error cause, transport)) :
      Stops v i (.status number report) (.delivery Wire.RequestType.acknowledge endpoint cause)

end View

namespace Hub

open SessionM View Relation

variable [Transport τ] [GrantTable γ] [Interface ι H]
variable {s : HubSession config τ γ ι H} {i : Fin config.drivers}

/-- A later session with sound tables, after a reply that was routed to this entry. -/
structure Reacted (s : HubSession config τ γ ι H) (i : Fin config.drivers) (reply : Reply)
    (t : HubSession config τ γ ι H) : Prop where
  sound : t.tables.Sound
  dropped : t.tables.dropped = s.tables.dropped
  reacts : Reacts s.view i reply t.view

theorem Reacted.of_view {t : HubSession config τ γ ι H} {v : View config τ γ ι H} {reply : Reply}
    (h : t.tables.Sound) (hdropped : t.tables.dropped = s.tables.dropped) (hview : t.view = v)
    (hreacts : Reacts s.view i reply v) : Reacted s i reply t := by
  rw [← hview] at hreacts
  exact ⟨h, hdropped, hreacts⟩

omit [Transport τ] [GrantTable γ] [Interface ι H] in
/-- A driver that is not active has nothing in flight. -/
theorem grantsAt_eq_nil (h : s.tables.Sound) (hi : (s.view.state i).isActive = false) :
    s.view.grantsAt i = [] := by
  change (s.tables.bookings (i, .send) ++ s.tables.bookings (i, .receive)).flatMap _ = []
  rw [h.bookings_eq_nil hi, h.bookings_eq_nil hi]
  rfl

omit [Transport τ] in
/-- An entry without requests gives up its driver, and nothing can go wrong. -/
theorem goes_dismiss (h : s.tables.SoundBut i) (hmark : i < s.tables.highWater)
    {endpoint : Endpoint} (hknown : (s.view.state i).endpoint? = some endpoint)
    (hidle : s.view.grantsAt i = []) :
    (takeDown i : HubM config τ γ ι H Unit).Goes s
      (fun _ t => t.tables.Sound ∧ t.tables.dropped = s.tables.dropped ∧
        t.view = s.view.goneAt i endpoint s.grants) fun _ => False := by
  apply goes_takeDown h hmark hknown
  · intro t g hsound hdropped hg hview
    rw [hidle] at hg
    cases hg
    exact ⟨hsound, hdropped, hview⟩
  · intro grant cause hg
    rw [hidle] at hg
    cases hg

theorem goes_enable {t : HubSession config τ γ ι H} (h : t.tables.Sound)
    (hdropped : t.tables.dropped = s.tables.dropped) {label : Label}
    {endpoint : Endpoint} {reply : InitReply} {name : InterfaceName} {handle? : Option H}
    {handle : H} {isNew : Bool} {interface : ι} {journal : Journal H}
    (hview : t.view = { s.view with interface, journal })
    (hpending : s.view.state i = .pending label endpoint handle?)
    (hlatest : reply.id = (s.view.lane (i, .send)).head) (hchecked : reply.checked = .ok name)
    (hhires : Hires ⟨i⟩ name reply.capabilities s.interface s.journal handle? handle isNew interface
      journal) :
    (enable i endpoint handle isNew name reply : HubM config τ γ ι H Unit).Goes t
      (fun _ => Reacted s i (.init reply)) fun _ => False := by
  -- All of the session but its tables is known.
  obtain ⟨hub₀, transport, grants, interface, journal⟩ := t
  obtain ⟨hstate, hlane, rfl, rfl, rfl, rfl⟩ := View.mk.inj hview
  change hub₀.state = s.tables.state at hstate
  change hub₀.lane = s.tables.lane at hlane
  change hub₀.dropped = s.tables.dropped at hdropped
  have hpending' : hub₀.state i = .pending label endpoint handle? := by
    rw [hstate]
    exact hpending
  -- The queues are opened while the driver keeps its label.
  have hopening : hub₀.setState i (.pending endpoint (some handle)) =
      hub₀.seated i (.pending label endpoint (some handle)) := by
    apply setState_eq_seated (.pending label endpoint (some handle)) ?_ h.labelled
    rw [hpending']
    rfl
  have htold := (InitReply.checked_eq_ok_iff.mp hchecked).1.told_eq_ok
    (if isNew then some name else none)
  unfold enable
  rw [goes_bind, goes_tables, goes_bind, goes_setTables, goes_bind, htold, goes_expect, goes_bind]
  dsimp only at h ⊢
  rw [hopening]
  generalize hopened : (hub₀.seated i (.pending label endpoint (some handle))).opened i
    reply.maxSend reply.maxReceive = hub
  obtain ⟨hbut, hstate', hmark, hdropped', hnone, hlane'⟩ := h.opened hpending' (some handle)
    reply.maxSend reply.maxReceive hopened.symm
  rw [hstate] at hstate'
  rw [hlane] at hlane'
  have hi : hub.state i = .pending label endpoint (some handle) := by
    rw [hstate', update_self]
  rcases henable : Interface.enable interface handle
    (reply.enablement (if isNew then some name else none)) with ⟨_ | _, interface'⟩
  · -- The interface is not enabled, so the entry is given up with its lanes open.
    rw [goes_enableInterface henable, if_neg Bool.false_ne_true, goes_bind, goes_note]
    have hknown : (hub.state i).endpoint? = some endpoint := by
      rw [hi]
      rfl
    have hmark' : i < hub.highWater := by
      rw [hmark]
      apply h.toMarked.lt_highWater
      rw [hpending']
      exact nofun
    have hgrants : hub.grantsAt i = [] := by
      simp only [grantsAt, hnone, List.append_nil, List.flatMap_nil]
    refine Goes.mono (goes_dismiss hbut hmark' hknown hgrants) (fun _ u hu => ?_) fun _ he => he
    have hgone : u.view = s.view.refusedAt i endpoint reply name handle isNew interface' journal := by
      rw [hu.2.2]
      change (⟨update hub.state i .free, atEntry hub.lane i fun _ lane => lane.clear, s.transport,
        s.grants, (hub.state i).withdrawn interface',
        .noticed (.gone ⟨i⟩ endpoint) :: ((hub.state i).withdrawing ⟨i⟩ ++
          (revocations (hub.grantsAt i) ++ .noticed (.enableRefused ⟨i⟩ name) ::
            .enabled ⟨i⟩ handle (reply.enablement (if isNew then some name else none)) false ::
              journal))⟩ : View config τ γ ι H) = _
      rw [hgrants, hi, hstate', update_idem, hlane', atEntry_atEntry]
      rfl
    exact .of_view hu.1 (hu.2.1.trans (hdropped'.trans hdropped)) hgone
      (.refused label endpoint reply name hpending hlatest hchecked hhires henable)
  · -- The interface is enabled, and with the driver active the tables are sound again.
    rw [goes_enableInterface henable, if_pos rfl, goes_bind, goes_tables]
    obtain ⟨hub', hsettled, hdropped'', hsound, hstate'', hlane''⟩ :=
      hbut.activated (by rw [hi]; rfl) label endpoint handle
    -- Activated or not, the driver keeps its label.
    have hactivating : hub'.setState i (.active endpoint handle) =
        hub'.seated i (.active label endpoint handle) := by
      have hlabelled : hub'.Labelled := by
        rw [eq_of_settled hsettled]
        exact hbut.labelled
      apply setState_eq_seated (.active label endpoint handle) ?_ hlabelled
      rw [eq_of_settled hsettled]
      change (hub.state i).label? = some label
      rw [hi]
      rfl
    dsimp only
    rw [hsettled, goes_bind, goes_expect, goes_bind, goes_setTables, goes_note, hactivating]
    rw [hstate', update_idem] at hstate''
    rw [hlane'] at hlane''
    exact .of_view hsound (hdropped''.trans (hdropped'.trans hdropped))
      (Session.view_eq hstate'' hlane'')
      (.activated label endpoint reply name hpending hlatest hchecked hhires henable)

theorem goes_accept (h : s.tables.Sound) {label : Label} {endpoint : Endpoint}
    {handle? : Option H} {reply : InitReply} {name : InterfaceName}
    (hpending : s.view.state i = .pending label endpoint handle?)
    (hlatest : reply.id = (s.view.lane (i, .send)).head) (hchecked : reply.checked = .ok name) :
    (accept i endpoint handle? name reply : HubM config τ γ ι H Unit).Goes s
      (fun _ => Reacted s i (.init reply)) fun _ => False := by
  unfold accept
  cases handle? with
  | some handle => exact goes_enable h rfl rfl hpending hlatest hchecked (.kept handle)
  | none =>
    dsimp only
    rcases hadd : Interface.add s.interface ⟨i⟩ name reply.capabilities with ⟨_ | handle, interface⟩
    · rw [goes_bind, goes_addInterface hadd]
      dsimp only
      rw [goes_bind, goes_note]
      have hidle : s.view.grantsAt i = [] := grantsAt_eq_nil h (by rw [hpending]; rfl)
      have hused : s.view.state i ≠ .free := by
        rw [hpending]
        exact nofun
      have hknown : (s.view.state i).endpoint? = some endpoint := by
        rw [hpending]
        rfl
      refine Goes.mono (goes_dismiss (s := { s with interface, journal := _ }) (h.but i)
        (h.toMarked.lt_highWater hused) hknown hidle) (fun _ t ht => ?_) fun _ he => he
      exact .of_view ht.1 ht.2.1 ht.2.2
        (.turnedAway label endpoint reply name hpending hlatest hidle hchecked hadd)
    · rw [goes_bind, goes_addInterface hadd]
      exact goes_enable (s := s) (t := { s with interface, journal := _ }) h rfl rfl hpending hlatest
        hchecked (.added hadd)

theorem goes_initReply (h : s.tables.Sound) (i : Fin config.drivers) (reply : InitReply) :
    (initReply i reply : HubM config τ γ ι H Unit).Goes s
      (fun _ => Reacted s i (.init reply)) fun _ => False := by
  unfold initReply
  rw [goes_bind, goes_tables, (h.labelled.driver_eq i).1]
  cases hpending : s.tables.state i with
  | pending label endpoint handle =>
    change s.view.state i = _ at hpending
    dsimp only [Occupant.driverState]
    split
    · rename_i hstale
      exact ⟨h, rfl, .ignored _ rfl fun hheeds => hstale hheeds.2⟩
    · rename_i hlatest
      split
      · rename_i name hchecked
        exact goes_accept h hpending (not_not.mp hlatest) hchecked
      · rename_i fault hchecked
        rw [goes_bind, goes_note]
        have hidle : s.view.grantsAt i = [] := grantsAt_eq_nil h (by rw [hpending]; rfl)
        have hused : s.view.state i ≠ .free := by
          rw [hpending]
          exact nofun
        have hknown : (s.view.state i).endpoint? = some endpoint := by
          rw [hpending]
          rfl
        refine Goes.mono (goes_dismiss (s := { s with
            journal := .noticed (.malformedInit endpoint fault) :: s.journal }) (h.but i)
          (h.toMarked.lt_highWater hused) hknown hidle) (fun _ t ht => ?_) fun _ he => he
        exact .of_view ht.1 ht.2.1 ht.2.2 (.malformed label endpoint handle reply fault hpending
          (not_not.mp hlatest) hidle hchecked)
  | _ =>
    refine ⟨h, rfl, .ignored _ rfl fun hheeds => ?_⟩
    have hfalse : (s.tables.state i).isPending = true := hheeds.1
    rw [hpending] at hfalse
    cases hfalse

theorem goes_finish (h : s.tables.Sound) (i : Fin config.drivers) (kind : RequestKind)
    (number : UInt32) (result : Int32) :
    (finish i kind number result : HubM config τ γ ι H Unit).Goes s
      (fun _ => Reacted s i (.finished kind number result))
      (Stops s.view i (.finished kind number result)) := by
  unfold finish
  rw [goes_bind, goes_tables, (h.labelled.driver_eq i).1]
  cases hactive : s.tables.state i with
  | active label endpoint handle =>
    dsimp only [Occupant.driverState]
    rcases h.completed? i kind number with ⟨hunanswered, hnone⟩ |
      ⟨b, rest, hub, hbookings, rfl, hhead, hcompleted, hsound, hdropped, hstate, hlane⟩
    · rw [hnone, goes_bind, goes_expect]
      exact ⟨h, rfl, .ignored _ rfl fun hheeds => hunanswered hheeds.2⟩
    · rw [hcompleted, goes_bind, goes_expect, goes_bind, goes_setTables, goes_bind]
      apply goes_revokeGrants
      · intro g hg
        exact .of_view hsound hdropped (Session.view_eq hstate hlane)
          (.finished label endpoint handle b rest number result hactive hbookings hhead hg)
      · intro grant cause hg
        exact .revocation label endpoint handle b rest number result hactive hbookings hhead hg
  | _ =>
    refine ⟨h, rfl, .ignored _ rfl fun hheeds => ?_⟩
    have hfalse : (s.tables.state i).isActive = true := hheeds.1
    rw [hactive] at hfalse
    cases hfalse

theorem goes_takeStatus (h : s.tables.Sound) (i : Fin config.drivers) (number : UInt32)
    (report : StatusReport) :
    (takeStatus i number report : HubM config τ γ ι H Unit).Goes s
      (fun _ => Reacted s i (.status number report))
      (Stops s.view i (.status number report)) := by
  unfold takeStatus
  rw [goes_bind, goes_tables, (h.labelled.driver_eq i).1]
  cases hactive : s.tables.state i with
  | active label endpoint handle =>
    dsimp only [Occupant.driverState]
    rw [goes_bind, goes_reportStatus]
    apply goes_post
    · intro transport hsent
      exact ⟨h, rfl, .reported label endpoint handle number report hactive hsent⟩
    · intro cause transport hsent
      exact .delivery label endpoint handle number report hactive hsent
  | _ =>
    refine ⟨h, rfl, .ignored _ rfl fun hheeds => ?_⟩
    have hfalse : (s.tables.state i).isActive = true := hheeds
    rw [hactive] at hfalse
    cases hfalse

/-- What is done about a reply for the entry that it goes to. -/
def take (i : Fin config.drivers) : Reply → HubM config τ γ ι H Unit
  | .init reply => initReply i reply
  | .finished kind number result => finish i kind number result
  | .status number report => takeStatus i number report

/-- A reply goes to the first entry whose driver is at its endpoint. -/
theorem process_eq_take {sender : Endpoint} (hfound : s.tables.findEndpoint sender = some i)
    (reply : Reply) :
    (process sender reply : HubM config τ γ ι H Unit) s =
      (take i reply : HubM config τ γ ι H Unit) s := by
  unfold process
  change EStateM.bind tables _ s = _
  simp only [EStateM.bind, tables, hfound]
  cases reply <;> rfl

/-- A reply concerns the entry alone that it goes to. -/
theorem goes_process (h : s.tables.Sound) {sender : Endpoint}
    (hfound : s.tables.findEndpoint sender = some i) (reply : Reply) :
    (process sender reply : HubM config τ γ ι H Unit).Goes s
      (fun _ => Reacted s i reply) (Stops s.view i reply) := by
  rw [Goes, process_eq_take hfound]
  cases reply with
  | init reply => exact Goes.mono (goes_initReply h i reply) (fun _ _ ht => ht) fun _ he => he.elim
  | finished kind number result => exact goes_finish h i kind number result
  | status number report => exact goes_takeStatus h i number report

theorem process_unknown {sender : Endpoint} (hnone : s.tables.findEndpoint sender = none)
    (reply : Reply) :
    (process sender reply : HubM config τ γ ι H Unit) s = .ok () { s with
      journal := .noticed (.unknownEndpoint reply.type sender) :: s.journal } := by
  apply eq_ok_of_goes
  unfold process
  rw [goes_bind, goes_tables, hnone]
  exact ⟨rfl, rfl⟩

theorem process_finished_stale (h : s.tables.Sound) {sender : Endpoint}
    (hfound : s.tables.findEndpoint sender = some i)
    (hactive : (s.tables.state i).isActive = true) {kind : RequestKind} {number : UInt32}
    (result : Int32) (hstale : ¬(s.tables.lane (i, kind.direction)).Answers kind number) :
    (process sender (.finished kind number result) : HubM config τ γ ι H Unit) s =
      .ok () { s with journal := .noticed (.staleReply kind number) :: s.journal } := by
  rw [process_eq_take hfound]
  apply eq_ok_of_goes
  unfold take finish
  rw [goes_bind, goes_tables, (h.labelled.driver_eq i).1]
  cases hs : s.tables.state i with
  | active label endpoint handle =>
    rcases h.completed? i kind number with ⟨-, hnone⟩ | ⟨b, rest, -, hbookings, hkind, hhead, -⟩
    · dsimp only [Occupant.driverState]
      rw [hnone, goes_bind, goes_expect]
      exact ⟨rfl, rfl⟩
    · refine absurd ⟨hhead, ?_⟩ hstale
      change (s.tables.bookings (i, kind.direction)).head?.map Booking.kind = some kind
      rw [hbookings, ← hkind]
      rfl
  | _ =>
    rw [hs] at hactive
    cases hactive

/-- A reply that is not heeded is only noted, without a warning. -/
theorem process_ignored (h : s.tables.Sound) {sender : Endpoint}
    (hfound : s.tables.findEndpoint sender = some i) {reply : Reply}
    (hunheeded : ¬s.view.Heeds i reply) :
    ∃ notice : Notice, notice.level = .trace ∧
      (process sender reply : HubM config τ γ ι H Unit) s =
        .ok () { s with journal := .noticed notice :: s.journal } := by
  rw [process_eq_take hfound]
  cases reply with
  | init reply =>
    -- A pending driver compares the number; any other state refuses the reply before.
    cases hs : s.tables.state i with
    | pending label endpoint handle =>
      have hstale : reply.id ≠ (s.tables.driver i).send.head := by
        intro hlatest
        apply hunheeded
        refine ⟨?_, hlatest⟩
        change (s.tables.state i).isPending = true
        rw [hs]
        rfl
      refine ⟨.staleInit reply.id endpoint, rfl, eq_ok_of_goes ?_⟩
      unfold take initReply
      rw [goes_bind, goes_tables, (h.labelled.driver_eq i).1, hs]
      dsimp only [Occupant.driverState]
      rw [if_pos hstale, goes_note]
      exact ⟨rfl, rfl⟩
    | _ =>
      refine ⟨.unexpectedInit ⟨i⟩, rfl, eq_ok_of_goes ?_⟩
      unfold take initReply
      rw [goes_bind, goes_tables, (h.labelled.driver_eq i).1, hs]
      exact ⟨rfl, rfl⟩
  | finished kind number result =>
    cases hs : s.tables.state i with
    | active label endpoint handle =>
      have hactive : (s.tables.state i).isActive = true := by
        rw [hs]
        rfl
      have hstale : ¬(s.tables.lane (i, kind.direction)).Answers kind number := fun hanswers =>
        hunheeded ⟨hactive, hanswers⟩
      rw [← process_eq_take hfound]
      exact ⟨.staleReply kind number, rfl, process_finished_stale h hfound hactive result hstale⟩
    | _ =>
      refine ⟨.inactiveReply kind number, rfl, eq_ok_of_goes ?_⟩
      unfold take finish
      rw [goes_bind, goes_tables, (h.labelled.driver_eq i).1, hs]
      exact ⟨rfl, rfl⟩
  | status number report =>
    cases hs : s.tables.state i with
    | active label endpoint handle =>
      apply absurd _ hunheeded
      change (s.tables.state i).isActive = true
      rw [hs]
      rfl
    | _ =>
      refine ⟨.inactiveStatus number, rfl, eq_ok_of_goes ?_⟩
      unfold take takeStatus
      rw [goes_bind, goes_tables, (h.labelled.driver_eq i).1, hs]
      exact ⟨rfl, rfl⟩

end Hub

namespace View

variable [Transport τ] [GrantTable γ] [Interface ι H] {v w : View config τ γ ι H}
variable {i : Fin config.drivers} {reply : Reply}

/-- A reply that is routed to one entry leaves all others as they are. -/
theorem Reacts.elsewhere (h : Reacts v i reply w) {j : Fin config.drivers} (hj : j ≠ i) :
    w.state j = v.state j ∧ ∀ d, w.lane (j, d) = v.lane (j, d) := by
  have hlane (d d' : Direction) : ((j, d) : LaneId config) ≠ (i, d') := fun heq =>
    hj (congrArg Prod.fst heq)
  cases h with
  | ignored => exact ⟨rfl, fun _ => rfl⟩
  | malformed => exact ⟨update_of_ne hj .., fun _ => if_neg hj⟩
  | turnedAway => exact ⟨update_of_ne hj .., fun _ => if_neg hj⟩
  | activated => exact ⟨update_of_ne hj .., fun _ => if_neg hj⟩
  | refused => exact ⟨update_of_ne hj .., fun _ => if_neg hj⟩
  | finished => exact ⟨rfl, fun d => update_of_ne (hlane d _) ..⟩
  | reported => exact ⟨rfl, fun _ => rfl⟩

theorem Reacts.moves (h : Reacts v i reply w) : Moves v w := by
  cases h with
  | ignored notice trace unheeded =>
    refine .single (.noted _ ?_)
    cases notice <;> trivial
  | malformed label endpoint handle reply fault pending latest idle checked =>
    refine .tail (.single (.noted (.noticed (.malformedInit endpoint fault)) trivial)) ?_
    refine .gone i endpoint (by dsimp only; rw [pending]; rfl) ?_
    change Revokes v.grants (v.grantsAt i) v.grants
    rw [idle]
    exact .done _
  | turnedAway label endpoint reply name pending latest idle checked refused =>
    have hturned := Move.turnedAway i label endpoint name reply.capabilities pending refused
    refine .tail (.tail (.single hturned) (.noted (.noticed (.addRefused ⟨i⟩ name)) trivial)) ?_
    refine .gone i endpoint (by dsimp only; rw [pending]; rfl) ?_
    change Revokes v.grants (v.grantsAt i) v.grants
    rw [idle]
    exact .done _
  | activated label endpoint reply name pending latest checked hires enabled =>
    exact .single (.activated i label endpoint reply name pending latest checked hires enabled)
  | refused label endpoint reply name pending latest checked hires refused =>
    exact .single (.refused i label endpoint reply name pending latest checked hires refused)
  | finished label endpoint handle b rest number result active oldest head revoked =>
    exact .single (.completed i label endpoint handle b rest result active oldest revoked)
  | reported label endpoint handle number report active sent =>
    have hreported := Move.reported i label endpoint handle report active
    exact .tail (.single hreported) (.acknowledged i label endpoint handle number active sent)

omit [Interface ι H] in
theorem Stops.halts {fatal : Fatal} (h : Stops v i reply fatal) : Halts v fatal := by
  cases h with
  | revocation label endpoint handle b rest number result active oldest head revoked =>
    exact .completing (i, b.kind.direction) b rest oldest revoked
  | delivery label endpoint handle number report active sent =>
    exact .delivery endpoint (.acknowledge number) sent

end View

namespace Hub

open SessionM View

variable [Transport τ] [GrantTable γ] [Interface ι H] {s : HubSession config τ γ ι H}

theorem plays_process (h : s.tables.Sound) (endpoint : Endpoint) (reply : Reply) :
    Plays (process endpoint reply : HubM config τ γ ι H Unit) s := by
  cases hfound : s.tables.findEndpoint endpoint with
  | none =>
    rw [Plays, Goes, process_unknown hfound]
    exact ⟨h, .single (.noted _ trivial)⟩
  | some i =>
    exact Goes.mono (goes_process h hfound reply) (fun _ _ ht => ⟨ht.sound, ht.reacts.moves⟩)
      fun _ hstops => ⟨s.view, .refl, hstops.halts⟩

/-- A frame in which there is a reply is that reply. -/
theorem processFrame_of_reply {bytes : List UInt8} {reply : Reply}
    (hdecoded : Reply.decode bytes = .ok (.ok reply)) (endpoint : Endpoint) :
    (processFrame endpoint bytes : HubM config τ γ ι H Unit) = process endpoint reply := by
  unfold processFrame
  rw [hdecoded]
  rfl

/-- What is noted of a frame that cannot be read. -/
def unreadable (endpoint : Endpoint) : Wire.WireError → Notice
  | .unknownType code => .unknownType code endpoint
  | error => .malformedFrame endpoint error

omit [Transport τ] [GrantTable γ] [Interface ι H] in
theorem unreadable_quiet (endpoint : Endpoint) (error : Wire.WireError) :
    (Entry.noticed (unreadable endpoint error) : Entry H).Quiet := by cases error <;> trivial

omit [Transport τ] [GrantTable γ] [Interface ι H] in
theorem unreadable_level (endpoint : Endpoint) (error : Wire.WireError) :
    (unreadable endpoint error).level = .debug := by cases error <;> rfl

theorem processFrame_of_error {bytes : List UInt8} {error : Wire.WireError}
    (hdecoded : Reply.decode bytes = .ok (.error error)) (endpoint : Endpoint) :
    (processFrame endpoint bytes : HubM config τ γ ι H Unit) = note (unreadable endpoint error) := by
  unfold processFrame
  rw [hdecoded]
  cases error <;> rfl

theorem plays_processFrame (h : s.tables.Sound) (endpoint : Endpoint) (bytes : List UInt8) :
    Plays (processFrame endpoint bytes : HubM config τ γ ι H Unit) s := by
  obtain ⟨decoded, hdecoded⟩ := Reply.exists_decode bytes
  cases decoded with
  | ok reply =>
    rw [processFrame_of_reply hdecoded]
    exact plays_process h ..
  | error error =>
    rw [processFrame_of_error hdecoded]
    exact plays_note h _ (unreadable_quiet endpoint error)

end Hub
end DriverHub
