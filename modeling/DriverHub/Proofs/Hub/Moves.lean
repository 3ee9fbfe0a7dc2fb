import DriverHub.Proofs.Hub.Lanes
import DriverHub.Proofs.Session.Outcome

/-! A hub as it looks from outside, and the moves it can make. A move is the least that leaves lanes,
collaborators and journal in agreement. It says nothing of slots, links and counters. -/
namespace DriverHub

open Function

/-- The kind of a request that is queued. -/
def Request.kind? : Request → Option RequestKind
  | .configure _ => some .configure
  | .transfer direction _ => some direction.kind
  | .init _ | .acknowledge _ => none

/-- The number that a request has on the wire. -/
def Request.number : Request → UInt32
  | .configure change => change.id
  | .transfer _ t => t.id
  | .init id | .acknowledge id => id

/-- All grants that a request passes on. -/
def Request.carried : Request → List GrantId
  | .configure change => change.multicastGrant.toList
  | .transfer _ t => t.grants.toList.reduceOption
  | .init _ | .acknowledge _ => []

/-- The request is one of this kind with this number, and passes on these grants. -/
structure Request.Carries (request : Request) (kind : RequestKind) (number : UInt32)
    (grants : List GrantId) : Prop where
  kind : request.kind? = some kind
  number : request.number = number
  carried : request.carried = grants

theorem SlotGrants.toList_ofList (grants : List GrantId) :
    (SlotGrants.ofList grants).toList = (grants.take maxSegments).map some ++
      List.replicate (maxSegments - grants.length) Option.none := by
  refine List.ext_getElem? fun i => ?_
  simp only [SlotGrants.ofList, Vector.toList_ofFn, List.getElem?_ofFn, List.getElem?_append,
    List.length_map, List.length_take, List.getElem?_map, List.getElem?_take,
    List.getElem?_replicate]
  by_cases hi : i < maxSegments
  · by_cases hg : i < grants.length
    · simp [hi, hg]
    · have hlen : ¬i < min maxSegments grants.length := by omega
      have hrest : i - min maxSegments grants.length < maxSegments - grants.length := by omega
      simp [hi, hlen, hrest, Nat.le_of_not_lt hg]
  · have hlen : ¬i < min maxSegments grants.length := by omega
    have hrest : ¬i - min maxSegments grants.length < maxSegments - grants.length := by omega
    simp [hi, hlen, hrest]

/-- Grants that are put into a slot leave no gap. -/
theorem SlotGrants.gapless_ofList (grants : List GrantId) : (SlotGrants.ofList grants).Gapless := by
  rw [Gapless, toList_ofList, List.pairwise_append]
  refine ⟨?_, ?_, ?_⟩
  · rw [List.pairwise_map]
    exact List.pairwise_of_forall nofun
  · exact List.pairwise_replicate.mpr (.inr fun heq => heq)
  · intro entry _ later hlater _
    exact List.eq_of_mem_replicate hlater

theorem SlotGrants.place_eq_ok {grants : List GrantId} (h : grants.length ≤ maxSegments) :
    SlotGrants.place grants = .ok (.ofList grants) := if_neg (Nat.not_lt.mpr h)

theorem SlotGrants.eq_of_place {grants : List GrantId} {placed : SlotGrants}
    (h : SlotGrants.place grants = .ok placed) : placed = .ofList grants := by
  unfold place at h
  split at h
  · cases h
  · exact (Except.ok.inj h).symm

theorem SlotGrants.present_ofList {grants : List GrantId} (h : grants.length ≤ maxSegments) :
    (SlotGrants.ofList grants).present = grants := by
  rw [present, SlotGrants.toList_ofList, List.take_of_length_le h, List.reduceOption_append,
    List.reduceOption_replicate_none, List.append_nil, List.reduceOption, List.filterMap_map]
  exact List.filterMap_some

theorem Direction.direction_kind (direction : Direction) : direction.kind.direction = direction := by
  cases direction <;> rfl

/-- A driver reads the memory of a send or a configuration, and writes the memory of a receive. -/
theorem Direction.access_eq (direction : Direction) :
    direction.access = if direction = .send then .read else .write := by
  cases direction <;> rfl

/-- Entries of the journal that are about no call on behalf of a driver, no end of requests and no
change of the driver table. -/
def Entry.Quiet {H : Type} : Entry H → Prop
  | .polled _ | .lookedUp _ _ => True
  | .noticed (.up _ _ _) | .noticed (.restarted _ _) | .noticed (.gone _ _) => False
  | .noticed _ => True
  | _ => False

/-- The label and the endpoint of the driver that came up by this event, if it is one that matters. -/
def DriverEvent.announced? (event : DriverEvent) : Option (Label × Endpoint) :=
  match event.status, event.endpoint, event.label? with
  | .up, some endpoint, some label => some (label, endpoint)
  | _, _, _ => none

/-- The latest thing to happen is that discovery reported this driver. -/
def Announced {H : Type} (label : Label) (endpoint : Endpoint) (journal : Journal H) : Prop :=
  ∃ event older, journal = .polled (.ok (some event)) :: older ∧
    event.announced? = some (label, endpoint)

section Interface

variable {ι H : Type} [Interface ι H]

/-- What the interface layer comes to when a driver restarts: an active driver is disabled. -/
def Occupant.quieted (state : Occupant H) (interface : ι) : ι :=
  match state with
  | .active _ _ handle => Interface.disable interface handle
  | _ => interface

/-- What the interface layer comes to when a driver goes: its interface, if any, is removed. -/
def Occupant.withdrawn (state : Occupant H) (interface : ι) : ι :=
  match state.handle? with
  | some handle => Interface.remove interface handle
  | none => interface

omit [Interface ι H] in
/-- What the journal says when a driver restarts. -/
def Occupant.quieting (state : Occupant H) (driver : DriverId) : Journal H :=
  match state with
  | .active _ _ handle => [.disabled driver handle]
  | _ => []

omit [Interface ι H] in
/-- What the journal says when a driver goes. -/
def Occupant.withdrawing (state : Occupant H) (driver : DriverId) : Journal H :=
  match state.handle? with
  | some handle => [.removed driver handle]
  | none => []

/-- A driver gets an interface, unless it kept one: its handle, whether it is new, and what the
interface layer and the journal come to. -/
inductive Hires (driver : DriverId) (name : InterfaceName) (capabilities : Capabilities)
    (interface : ι) (journal : Journal H) : Option H → H → Bool → ι → Journal H → Prop
  | kept (handle : H) :
      Hires driver name capabilities interface journal (some handle) handle false interface journal
  | added {handle : H} {interface' : ι}
      (added : Interface.add interface driver name capabilities = (some handle, interface')) :
      Hires driver name capabilities interface journal none handle true interface'
        (.added driver name capabilities (some handle) :: journal)

end Interface

/-- A hub as it looks from outside: who has which entry, what is in the lanes, the collaborators and
the journal. -/
structure View (config : Config) (τ γ ι H : Type) where
  state : Fin config.drivers → Occupant H
  lane : LaneId config → Lane config.slots
  transport : τ
  grants : γ
  interface : ι
  journal : Journal H

variable {config : Config} {τ γ ι H : Type}

/-- The view of a hub at work. -/
def Session.view (s : HubSession config τ γ ι H) : View config τ γ ι H :=
  ⟨s.tables.state, s.tables.lane, s.transport, s.grants, s.interface, s.journal⟩

theorem Session.view_eq {s : HubSession config τ γ ι H} {state : Fin config.drivers → Occupant H}
    {lane : LaneId config → Lane config.slots} (hstate : s.tables.state = state)
    (hlane : s.tables.lane = lane) :
    s.view = ⟨state, lane, s.transport, s.grants, s.interface, s.journal⟩ := by
  rw [Session.view, hstate, hlane]

namespace View

/-- The grants of all requests of an entry, in the order in which they are cancelled. -/
def grantsAt (v : View config τ γ ι H) (i : Fin config.drivers) : List GrantId :=
  ((v.lane (i, .send)).bookings ++ (v.lane (i, .receive)).bookings).flatMap
    fun b => b.grants.present

variable [Transport τ] [GrantTable γ] [Interface ι H]

/-- What a hub can do at once, apart from issuing requests. -/
inductive Move (v : View config τ γ ι H) : View config τ γ ι H → Prop
  -- Something is noted that is about no request.
  | noted (entry : Entry H) (quiet : entry.Quiet) : Move v { v with journal := entry :: v.journal }
  -- A new driver gets a free entry and is asked to start.
  | started (i : Fin config.drivers) (label : Label) (endpoint : Endpoint) {transport : τ}
      (free : v.state i = .free)
      (sent : Transport.send v.transport endpoint (.init (v.lane (i, .send)).begin.head) =
        (.ok (), transport))
      (fresh : ∀ j, (v.state j).label? ≠ some label)
      (announced : Announced label endpoint v.journal) :
      Move v { v with
        state := update v.state i (.pending label endpoint none)
        lane := atEntry v.lane i fun _ lane => lane.begin
        transport
        journal := .posted ⟨i⟩ endpoint (.init (v.lane (i, .send)).begin.head) (.ok ()) ::
          .noticed (.up ⟨i⟩ label endpoint) :: v.journal }
  -- A known driver loses its requests and is asked to start again.
  | restarted (i : Fin config.drivers) (label : Label) (endpoint : Endpoint) {g : γ} {transport : τ}
      (known : (v.state i).label? = some label) (revoked : Revokes v.grants (v.grantsAt i) g)
      (sent : Transport.send v.transport endpoint (.init (v.lane (i, .send)).clear.begin.head) =
        (.ok (), transport))
      (announced : Announced label endpoint v.journal) :
      Move v {
        state := update v.state i (.pending label endpoint (v.state i).handle?)
        lane := atEntry v.lane i fun _ lane => lane.clear.begin
        transport
        grants := g
        interface := (v.state i).quieted v.interface
        journal := .posted ⟨i⟩ endpoint (.init (v.lane (i, .send)).clear.begin.head) (.ok ()) ::
          .noticed (.restarted ⟨i⟩ endpoint) :: ((v.state i).quieting ⟨i⟩ ++
            (revocations (v.grantsAt i) ++ v.journal)) }
  -- A driver loses its requests, its interface and its entry.
  | gone (i : Fin config.drivers) (endpoint : Endpoint) {g : γ}
      (known : (v.state i).endpoint? = some endpoint)
      (revoked : Revokes v.grants (v.grantsAt i) g) :
      Move v { v with
        state := update v.state i .free
        lane := atEntry v.lane i fun _ lane => lane.clear
        grants := g
        interface := (v.state i).withdrawn v.interface
        journal := .noticed (.gone ⟨i⟩ endpoint) :: ((v.state i).withdrawing ⟨i⟩ ++
          (revocations (v.grantsAt i) ++ v.journal)) }
  -- The interface layer has no interface for a driver that was asked to start.
  | turnedAway (i : Fin config.drivers) (label : Label) (endpoint : Endpoint) (name : InterfaceName)
      (capabilities : Capabilities) {interface : ι}
      (pending : v.state i = .pending label endpoint none)
      (refused : Interface.add v.interface ⟨i⟩ name capabilities = (none, interface)) :
      Move v { v with
        interface
        journal := .added ⟨i⟩ name capabilities none :: v.journal }
  -- A driver that was asked to start answers, and becomes active.
  | activated (i : Fin config.drivers) (label : Label) (endpoint : Endpoint) (reply : InitReply)
      (name : InterfaceName) {handle? : Option H} {handle : H} {isNew : Bool}
      {interface interface' : ι} {journal : Journal H}
      (pending : v.state i = .pending label endpoint handle?)
      (latest : reply.id = (v.lane (i, .send)).head) (checked : reply.checked = .ok name)
      (hires : Hires ⟨i⟩ name reply.capabilities v.interface v.journal handle? handle isNew interface
        journal)
      (enabled : Interface.enable interface handle
        (reply.enablement (if isNew then some name else none)) = (true, interface')) :
      Move v { v with
        state := update v.state i (.active label endpoint handle)
        lane := atEntry v.lane i fun d lane =>
          lane.activate (openLimit config reply.maxSend reply.maxReceive d)
        interface := interface'
        journal := .noticed (.active ⟨i⟩ endpoint name) ::
          .enabled ⟨i⟩ handle (reply.enablement (if isNew then some name else none)) true ::
            journal }
  -- A driver that was asked to start answers, but its interface is not enabled: it is gone.
  | refused (i : Fin config.drivers) (label : Label) (endpoint : Endpoint) (reply : InitReply)
      (name : InterfaceName) {handle? : Option H} {handle : H} {isNew : Bool}
      {interface interface' : ι} {journal : Journal H}
      (pending : v.state i = .pending label endpoint handle?)
      (latest : reply.id = (v.lane (i, .send)).head) (checked : reply.checked = .ok name)
      (hires : Hires ⟨i⟩ name reply.capabilities v.interface v.journal handle? handle isNew interface
        journal)
      (refused : Interface.enable interface handle
        (reply.enablement (if isNew then some name else none)) = (false, interface')) :
      Move v { v with
        state := update v.state i .free
        lane := atEntry v.lane i fun d lane =>
          (lane.activate (openLimit config reply.maxSend reply.maxReceive d)).clear
        interface := Interface.remove interface' handle
        journal := .noticed (.gone ⟨i⟩ endpoint) :: .removed ⟨i⟩ handle ::
          .noticed (.enableRefused ⟨i⟩ name) ::
            .enabled ⟨i⟩ handle (reply.enablement (if isNew then some name else none)) false ::
              journal }
  -- The oldest request of a lane is finished.
  | completed (i : Fin config.drivers) (label : Label) (endpoint : Endpoint) (handle : H)
      (b : Booking config.slots) (rest : List (Booking config.slots)) (result : Int32) {g : γ}
      (active : v.state i = .active label endpoint handle)
      (oldest : (v.lane (i, b.kind.direction)).bookings = b :: rest)
      (revoked : Revokes v.grants b.grants.present g) :
      Move v { v with
        lane := update v.lane (i, b.kind.direction) (v.lane (i, b.kind.direction)).pop
        grants := g
        interface := Interface.finished v.interface b.kind handle result
        journal := .finished ⟨i⟩ b.kind handle result ::
          (revocations b.grants.present ++ v.journal) }
  -- The interface of an active driver is told its status.
  | reported (i : Fin config.drivers) (label : Label) (endpoint : Endpoint) (handle : H)
      (report : StatusReport) (active : v.state i = .active label endpoint handle) :
      Move v { v with
        interface := Interface.status v.interface handle report
        journal := .reported ⟨i⟩ handle report :: v.journal }
  -- The status report of an active driver is acknowledged.
  | acknowledged (i : Fin config.drivers) (label : Label) (endpoint : Endpoint) (handle : H)
      (number : UInt32) {transport : τ} (active : v.state i = .active label endpoint handle)
      (sent : Transport.send v.transport endpoint (.acknowledge number) = (.ok (), transport)) :
      Move v { v with
        transport
        journal := .posted ⟨i⟩ endpoint (.acknowledge number) (.ok ()) :: v.journal }

/-- What a request comes to for which a slot was reserved, with the answer to it. -/
inductive Issue (v : View config τ γ ι H) : Except Refusal UInt32 → View config τ γ ι H → Prop
  -- A request is posted to an active driver and enters its lane; the answer is its number.
  | issued (i : Fin config.drivers) (label : Label) (endpoint : Endpoint) (handle : H)
      (slot : Fin config.slots) (kind : RequestKind) (segments : List Segment) (request : Request)
      {grants : List GrantId} {journal : Journal H} {g : γ} {transport : τ}
      (active : v.state i = .active label endpoint handle)
      (created : Creates endpoint kind.direction.access v.grants segments grants true journal g)
      (few : grants.length ≤ maxSegments)
      (carries : request.Carries kind ((v.lane (i, kind.direction)).head +
        UInt32.ofNat (v.lane (i, kind.direction)).bookings.length) grants)
      (sent : Transport.send v.transport endpoint request = (.ok (), transport)) :
      Issue v (.ok request.number) { v with
        lane := update v.lane (i, kind.direction)
          ((v.lane (i, kind.direction)).push ⟨slot, kind, .ofList grants⟩)
        transport
        grants := g
        journal := .posted ⟨i⟩ endpoint request (.ok ()) :: (journal ++ v.journal) }
  -- A request is given up because its memory could not be granted.
  | abandoned (i : Fin config.drivers) (label : Label) (endpoint : Endpoint) (handle : H)
      (access : Access) (segments : List Segment) {grants : List GrantId} {journal : Journal H}
      {g g' : γ} (active : v.state i = .active label endpoint handle)
      (created : Creates endpoint access v.grants segments grants false journal g)
      (revoked : Revokes g grants g') :
      Issue v (.error .noMemory) { v with
        grants := g'
        journal := revocations grants ++ (journal ++ v.journal) }

variable {v w : View config τ γ ι H}

omit [Transport τ] [GrantTable γ] in
theorem suffix_of_hires {driver : DriverId} {name : InterfaceName} {capabilities : Capabilities}
    {interface interface' : ι} {journal journal' : Journal H} {handle? : Option H} {handle : H}
    {isNew : Bool}
    (h : Hires driver name capabilities interface journal handle? handle isNew interface' journal') :
    journal <:+ journal' := by
  cases h with
  | kept => exact List.suffix_refl journal
  | added => exact List.suffix_cons _ journal

/-- A move only adds to the journal. -/
theorem Move.suffix (hmove : Move v w) : v.journal <:+ w.journal := by
  cases hmove with
  | noted | turnedAway | reported | acknowledged => exact List.suffix_cons _ _
  | started => exact List.suffix_append [_, _] _
  | restarted i =>
    have hrevoked := List.suffix_append (revocations (v.grantsAt i)) v.journal
    have hquieted := hrevoked.trans (List.suffix_append ((v.state i).quieting ⟨i⟩) _)
    exact hquieted.trans (List.suffix_append [_, _] _)
  | gone i =>
    have hrevoked := List.suffix_append (revocations (v.grantsAt i)) v.journal
    have hwithdrawn := hrevoked.trans (List.suffix_append ((v.state i).withdrawing ⟨i⟩) _)
    exact hwithdrawn.trans (List.suffix_cons _ _)
  | activated i label endpoint reply name pending latest checked hires enabled =>
    exact (suffix_of_hires hires).trans (List.suffix_append [_, _] _)
  | refused i label endpoint reply name pending latest checked hires refused =>
    exact (suffix_of_hires hires).trans (List.suffix_append [_, _, _, _] _)
  | completed i label endpoint handle b =>
    have hrevoked := List.suffix_append (revocations b.grants.present) v.journal
    exact hrevoked.trans (List.suffix_cons _ _)

omit [Interface ι H] in
theorem Issue.suffix {outcome : Except Refusal UInt32} (hissue : Issue v outcome w) :
    v.journal <:+ w.journal := by
  cases hissue with
  | @issued i label endpoint handle slot kind segments request grants journal =>
    exact (List.suffix_append journal v.journal).trans (List.suffix_cons _ _)
  | @abandoned i label endpoint handle access segments grants journal =>
    exact (List.suffix_append journal v.journal).trans (List.suffix_append _ _)

omit [Interface ι H] in
/-- At most one request enters a lane when a request is issued; nothing else changes in the table. -/
theorem Issue.lanes {outcome : Except Refusal UInt32} (hissue : Issue v outcome w) :
    w.state = v.state ∧ (outcome = .error .noMemory ∧ w.lane = v.lane ∨
      ∃ number k b, outcome = .ok number ∧ w.lane = Function.update v.lane k ((v.lane k).push b)) := by
  cases hissue with
  | issued => exact ⟨rfl, .inr ⟨_, _, _, rfl, rfl⟩⟩
  | abandoned => exact ⟨rfl, .inl ⟨rfl, rfl⟩⟩

abbrev Moves : View config τ γ ι H → View config τ γ ι H → Prop := Relation.ReflTransGen Move

theorem Moves.suffix (h : Moves v w) : v.journal <:+ w.journal := by
  induction h with
  | refl => exact List.suffix_refl _
  | tail _ hmove ih => exact ih.trans hmove.suffix

/-- What can end the work of a hub: a request that is not delivered, or a grant that is not revoked
when its request leaves or is given up. -/
inductive Halts (v : View config τ γ ι H) : Fatal → Prop
  | delivery (endpoint : Endpoint) (request : Request) {cause : TransportError} {transport : τ}
      (sent : Transport.send v.transport endpoint request = (.error cause, transport)) :
      Halts v (.delivery request.type endpoint cause)
  | cancelling (i : Fin config.drivers) {grant : GrantId} {cause : GrantError}
      (revoked : RevokesUpTo grant cause v.grants (v.grantsAt i)) :
      Halts v (.revocation grant cause)
  | completing (k : LaneId config) (b : Booking config.slots) (rest : List (Booking config.slots))
      {grant : GrantId} {cause : GrantError} (oldest : (v.lane k).bookings = b :: rest)
      (revoked : RevokesUpTo grant cause v.grants b.grants.present) :
      Halts v (.revocation grant cause)
  | abandoning (endpoint : Endpoint) (access : Access) (segments : List Segment)
      {grants : List GrantId} {journal : Journal H} {g : γ} {grant : GrantId} {cause : GrantError}
      (created : Creates endpoint access v.grants segments grants false journal g)
      (revoked : RevokesUpTo grant cause g grants) : Halts v (.revocation grant cause)

end View
end DriverHub
