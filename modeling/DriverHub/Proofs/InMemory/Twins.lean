import DriverHub.Proofs.Hub.Admission
import DriverHub.Proofs.Hub.Isolation
import DriverHub.Proofs.InMemory.Counts
import DriverHub.Proofs.InMemory.Ledger

/-! Two hubs that look the same to one of their drivers, though other drivers are served by the first one
only. What is done for this driver in the first can be done in the second, and they look the same again. -/
namespace DriverHub

open Function

variable {config : Config}

/-- The request with grant zero in place of every grant. -/
def Request.ungranted : Request → Request
  | .configure change =>
    .configure { change with multicastGrant := change.multicastGrant.map fun _ => ⟨0, by decide⟩ }
  | .transfer direction t =>
    .transfer direction { t with grants := t.grants.map (Option.map fun _ => ⟨0, by decide⟩) }
  | request => request

/-- Frames of requests that differ at most in the numbers of their grants. -/
def Frame.Alike (f f' : Frame) : Prop :=
  ∃ r r' : Request, f = r.encode ∧ f' = r'.encode ∧ r.ungranted = r'.ungranted

/-- The frames handed over for an endpoint. -/
def Outbox.framesTo (outbox : Outbox) (endpoint : Endpoint) : List Frame :=
  (outbox.frames.toList.filter (·.1 = endpoint)).map (·.2)

/-- The interface that a call is about. -/
def Callback.handle : Callback → Nat
  | .added handle _ _ _ | .enabled handle _ | .disabled handle | .removed handle
  | .finished _ handle _ | .status handle _ => handle

/-- The calls about an interface. -/
def CallbackLog.callsOn (log : CallbackLog) (handle : Nat) : List Callback :=
  log.callbacks.toList.filter (·.handle = handle)

theorem SlotGrants.map_const_ofList {grants grants' : List GrantId}
    (h : grants.length = grants'.length) (id : GrantId) :
    (SlotGrants.ofList grants).map (Option.map fun _ => id) =
      (SlotGrants.ofList grants').map (Option.map fun _ => id) := by
  refine Vector.ext fun j hj => ?_
  simp only [SlotGrants.ofList, Vector.getElem_map, Vector.getElem_ofFn]
  by_cases hlt : j < grants.length
  · rw [List.getElem?_eq_getElem hlt, List.getElem?_eq_getElem (h ▸ hlt)]
    rfl
  · rw [List.getElem?_eq_none (Nat.le_of_not_lt hlt), List.getElem?_eq_none (h ▸ Nat.le_of_not_lt hlt)]

/-- Of the grants for its memory, a request shows no more than their numbers. -/
theorem Operation.ungranted_request {operation : Operation config} {id : DriverId} {p : Plan}
    (h : operation.petition? = some (id, .ok p)) (number : UInt32) {grants grants' : List GrantId}
    (hlength : grants.length = grants'.length) :
    (p.request number (.ofList grants)).ungranted =
      (p.request number (.ofList grants')).ungranted := by
  have htransfer {direction : Direction} {segments : List Segment}
      (hplan : transferPlan direction segments = .ok p) :
      (p.request number (.ofList grants)).ungranted =
        (p.request number (.ofList grants')).ungranted := by
    unfold transferPlan at hplan
    cases hlengths : segmentLengths segments with
    | error refusal =>
      rw [hlengths] at hplan
      cases hplan
    | ok lengths =>
      rw [hlengths] at hplan
      cases hplan
      simp only [Request.ungranted, SlotGrants.map_const_ofList hlength]
  cases operation with
  | send id segments =>
    obtain ⟨-, hplan⟩ := Prod.mk.inj (Option.some.inj h)
    exact htransfer hplan
  | receive id segments =>
    obtain ⟨-, hplan⟩ := Prod.mk.inj (Option.some.inj h)
    exact htransfer hplan
  | configure id change =>
    obtain ⟨-, hplan⟩ := Prod.mk.inj (Option.some.inj h)
    unfold changePlan at hplan
    cases hlist : change.list? with
    | error refusal =>
      rw [hlist] at hplan
      cases hplan
    | ok list =>
      rw [hlist] at hplan
      cases hplan
      have hfirst := congrArg Vector.head (SlotGrants.map_const_ofList hlength ⟨0, by decide⟩)
      have hhead (slots : SlotGrants) (f : Option GrantId → Option GrantId) :
          (slots.map f).head = f slots.head := Vector.getElem_map ..
      rw [hhead, hhead] at hfirst
      simp only [Request.ungranted, Change.request, hfirst]
  | _ => cases h

section Collaborators

theorem Outbox.framesTo_of_send {outbox outbox' : Outbox} {endpoint : Endpoint} {request : Request}
    (h : Transport.send outbox endpoint request = (.ok (), outbox')) (other : Endpoint) :
    outbox'.framesTo other =
      outbox.framesTo other ++ if endpoint = other then [request.encode] else [] := by
  obtain ⟨-, rfl⟩ := send_eq_ok_iff.mp h
  unfold framesTo
  rw [Array.toList_push, List.filter_append, List.map_append]
  by_cases heq : endpoint = other <;> simp [heq]

variable {log log' : CallbackLog} {handle other : Nat}

theorem CallbackLog.callsOn_keep (log : CallbackLog) (callback : Callback) (handle : Nat) :
    (log.keep callback).callsOn handle =
      log.callsOn handle ++ if callback.handle = handle then [callback] else [] := by
  unfold callsOn keep
  rw [Array.toList_push, List.filter_append]
  by_cases heq : callback.handle = handle <;> simp [heq]

theorem CallbackLog.callsOn_keep_of_ne {callback : Callback} (h : callback.handle ≠ handle) :
    (log.keep callback).callsOn handle = log.callsOn handle := by
  rw [callsOn_keep, if_neg h, List.append_nil]

theorem CallbackLog.callsOn_of_enable {enablement : Enablement} {answer : Bool}
    (h : Interface.enable log other enablement = (answer, log')) (hother : other ≠ handle) :
    log'.callsOn handle = log.callsOn handle := by
  rcases enable_cases h with ⟨-, rfl⟩ | ⟨-, rfl⟩
  · rfl
  · exact callsOn_keep_of_ne hother

theorem CallbackLog.callsOn_withdrawn {state : Occupant Nat}
    (h : ∀ other, state.handle? = some other → other ≠ handle) :
    (state.withdrawn log).callsOn handle = log.callsOn handle := by
  unfold Occupant.withdrawn
  split
  · rename_i other hother
    exact callsOn_keep_of_ne (h other hother)
  · rfl

theorem CallbackLog.callsOn_of_hires {driver : DriverId} {name : InterfaceName}
    {capabilities : Capabilities} {journal journal' : Journal Nat} {handle? : Option Nat}
    {isNew : Bool}
    (h : Hires driver name capabilities log journal handle? other isNew log' journal')
    (hother : other ≠ handle) : log'.callsOn handle = log.callsOn handle := by
  cases h with
  | kept => rfl
  | added added =>
    rcases add_cases added with ⟨hnone, -⟩ | ⟨hsome, rfl⟩
    · cases hnone
    · cases hsome
      exact callsOn_keep_of_ne hother

end Collaborators

/-- A request in the one hub and the same request in the other: if its grants are live there, then so
they are here. -/
structure Booking.Follows {n : Nat} (g g' : GrantLedger) (b b' : Booking n) : Prop where
  kind : b'.kind = b.kind
  length : b'.grants.present.length = b.grants.present.length
  live : (∀ id ∈ b.grants.present, g.isLive id = true) →
    ∀ id ∈ b'.grants.present, g'.isLive id = true

/-- A lane in the one hub and the same lane in the other. -/
structure Lane.Follows {n : Nat} (g g' : GrantLedger) (lane lane' : Lane n) : Prop where
  head : lane'.head = lane.head
  limit : lane'.limit = lane.limit
  bookings : List.Forall₂ (Booking.Follows g g') lane.bookings lane'.bookings

namespace Lane.Follows

variable {n : Nat} {g g' h h' : GrantLedger} {lane lane' : Lane n}

theorem length_eq (hl : Lane.Follows g g' lane lane') :
    lane'.bookings.length = lane.bookings.length := hl.bookings.length_eq.symm

/-- Grants may go in the one hub and come in the other. -/
theorem mono (hl : Lane.Follows g g' lane lane')
    (hgone : ∀ b ∈ lane.bookings, ∀ id ∈ b.grants.present, h.isLive id = true → g.isLive id = true)
    (hkept : ∀ b ∈ lane'.bookings, ∀ id ∈ b.grants.present,
      g'.isLive id = true → h'.isLive id = true) : Lane.Follows h h' lane lane' := by
  refine ⟨hl.head, hl.limit, ?_⟩
  have hall := hl.bookings
  generalize lane.bookings = bookings at hall hgone
  generalize lane'.bookings = bookings' at hall hkept
  induction hall with
  | nil => exact .nil
  | cons hb _ ih =>
    rw [List.forall_mem_cons] at hgone hkept
    refine .cons ⟨hb.kind, hb.length, fun hlive id hid => ?_⟩ (ih hgone.2 hkept.2)
    exact hkept.1 id hid (hb.live (fun id hid => hgone.1 id hid (hlive id hid)) id hid)

theorem push (hl : Lane.Follows g g' lane lane') {b b' : Booking n} (hb : Booking.Follows g g' b b') :
    Lane.Follows g g' (lane.push b) (lane'.push b') :=
  ⟨hl.head, hl.limit, List.rel_append hl.bookings (.cons hb .nil)⟩

theorem pop (hl : Lane.Follows g g' lane lane') : Lane.Follows g g' lane.pop lane'.pop := by
  refine ⟨congrArg (· + 1) hl.head, hl.limit, ?_⟩
  have hall := hl.bookings
  unfold Lane.pop
  generalize lane.bookings = bookings at hall
  generalize lane'.bookings = bookings' at hall
  cases hall with
  | nil => exact .nil
  | cons _ hrest => exact hrest

end Lane.Follows

namespace View

variable {v v' w w' : View config Outbox GrantLedger CallbackLog Nat}
variable {i j : Fin config.drivers} {label : Label} {endpoint : Endpoint} {handle : Nat}

/-- What is done for others does not concern the driver at this endpoint with this interface. -/
structure Aside (i : Fin config.drivers) (endpoint : Endpoint) (handle : Nat)
    (v v' : View config Outbox GrantLedger CallbackLog Nat) : Prop where
  state : v'.state i = v.state i
  lane : ∀ d, v'.lane (i, d) = v.lane (i, d)
  endpoints : ∀ j endpoint, (v'.state j).endpoint? = some endpoint →
    (v.state j).endpoint? = some endpoint
  active : ∀ j, (v.state j).isActive = true → v'.state j = v.state j
  calls : v'.interface.callsOn handle = v.interface.callsOn handle
  frames : v'.transport.framesTo endpoint = v.transport.framesTo endpoint
  failing : v'.transport.failing = v.transport.failing

theorem framesTo_aside {transport : Outbox} {label' : Label} {endpoint' : Endpoint} {handle' : Nat}
    {request : Request} (hactive : v.state j = .active label' endpoint' handle')
    (halone : (v.state j).endpoint? ≠ some endpoint)
    (hsent : Transport.send v.transport endpoint' request = (.ok (), transport)) :
    transport.framesTo endpoint = v.transport.framesTo endpoint := by
  rw [Outbox.framesTo_of_send hsent, if_neg, List.append_nil]
  rintro rfl
  rw [hactive] at halone
  exact halone rfl

theorem Serves.aside {plan : Plan} {answer : Except Refusal UInt32} (h : Serves v j plan answer v')
    (hj : j ≠ i) (halone : (v.state j).endpoint? ≠ some endpoint) : Aside i endpoint handle v v' := by
  obtain ⟨hstate, hlane⟩ := h.elsewhere hj.symm
  cases h with
  | issued label endpoint handle slot active created sent =>
    exact ⟨hstate, hlane, fun _ _ hk => hk, fun _ _ => rfl, rfl, framesTo_aside active halone sent,
      Outbox.failing_of_send sent⟩
  | abandoned => exact ⟨hstate, hlane, fun _ _ hk => hk, fun _ _ => rfl, rfl, rfl, rfl⟩

/-- A pending driver becomes active, or goes. -/
theorem Aside.of_pending {state : Occupant Nat} (hpending : (v.state j).isActive = false)
    (hj : j ≠ i) (hstate : v'.state = update v.state j state)
    (hendpoints : ∀ k endpoint, (v'.state k).endpoint? = some endpoint →
      (v.state k).endpoint? = some endpoint)
    (hlane : ∀ d, v'.lane (i, d) = v.lane (i, d))
    (hcalls : v'.interface.callsOn handle = v.interface.callsOn handle)
    (htransport : v'.transport = v.transport) : Aside i endpoint handle v v' := by
  refine ⟨?_, hlane, hendpoints, fun k hk => ?_, hcalls, by rw [htransport], by rw [htransport]⟩
  · rw [hstate, update_of_ne hj.symm]
  · have hne : k ≠ j := by
      rintro rfl
      rw [hpending] at hk
      cases hk
    rw [hstate, update_of_ne hne]

theorem Serves.since {plan : Plan} {answer : Except Refusal UInt32} (h : Serves v j plan answer v') :
    v.grants.Since v'.grants := by
  cases h with
  | issued _ _ _ _ _ created => exact created.keep (fun _ _ _ _ hs => hs.of_create) (.refl v.grants)
  | abandoned _ _ _ _ created revoked =>
    exact revoked.keep (fun _ _ _ hs => hs.of_revoke)
      (created.keep (fun _ _ _ _ hs => hs.of_create) (.refl v.grants))

theorem Reacts.since {reply : Reply} (h : Reacts v j reply v') : v.grants.Since v'.grants :=
  h.moves.keep (fun _ _ hs hmove => hmove.keep_grants (fun _ _ _ hs => hs.of_revoke) hs)
    (.refl v.grants)

theorem Reacts.aside {reply : Reply} (h : Reacts v j reply v') (hhandled : v.Handled) (hj : j ≠ i)
    (halone : (v.state j).endpoint? ≠ some endpoint) (hhandle : (v.state i).handle? = some handle) :
    Aside i endpoint handle v v' := by
  obtain ⟨-, hlane⟩ := h.elsewhere hj.symm
  have hendpoints : ∀ k endpoint, (v'.state k).endpoint? = some endpoint →
      (v.state k).endpoint? = some endpoint := fun _ _ hk => h.endpoints hk
  -- No two entries have one interface, and a handle that is given out is a new one.
  have hother {other : Nat} (hother : (v.state j).handle? = some other) : other ≠ handle := by
    rintro rfl
    exact hj (hhandled.apart j i _ hother hhandle)
  have hhired {driver : DriverId} {name : InterfaceName} {capabilities : Capabilities}
      {interface : CallbackLog} {journal : Journal Nat} {handle? : Option Nat} {new : Nat}
      {isNew : Bool} (hhandle? : (v.state j).handle? = handle?)
      (hires : Hires driver name capabilities v.interface v.journal handle? new isNew interface
        journal) : new ≠ handle := by
    rintro rfl
    exact (hhandled.of_hires hhandle? hires).2.2 i hj.symm hhandle
  have hidle {label : Label} {endpoint : Endpoint} {handle? : Option Nat}
      (hstate : v.state j = .pending label endpoint handle?) : (v.state j).isActive = false := by
    rw [hstate]
    rfl
  cases h with
  | ignored => exact ⟨rfl, hlane, hendpoints, fun _ _ => rfl, rfl, rfl, rfl⟩
  | malformed label endpoint handle? reply fault pending =>
    refine .of_pending (hidle pending) hj rfl hendpoints hlane ?_ rfl
    exact CallbackLog.callsOn_withdrawn fun _ => hother
  | turnedAway label endpoint reply name pending latest idle checked refused =>
    refine .of_pending (hidle pending) hj rfl hendpoints hlane ?_ rfl
    rcases CallbackLog.add_cases refused with ⟨-, rfl⟩ | ⟨hsome, -⟩
    · exact CallbackLog.callsOn_withdrawn fun _ => hother
    · cases hsome
  | activated label endpoint reply name pending latest checked hires enabled =>
    refine .of_pending (hidle pending) hj rfl hendpoints hlane ?_ rfl
    have hnew := hhired (congrArg Occupant.handle? pending) hires
    exact (CallbackLog.callsOn_of_enable enabled hnew).trans (CallbackLog.callsOn_of_hires hires hnew)
  | refused label endpoint reply name pending latest checked hires refused =>
    refine .of_pending (hidle pending) hj rfl hendpoints hlane ?_ rfl
    have hnew := hhired (congrArg Occupant.handle? pending) hires
    have hkept :=
      (CallbackLog.callsOn_of_enable refused hnew).trans (CallbackLog.callsOn_of_hires hires hnew)
    rw [← hkept]
    exact CallbackLog.callsOn_keep_of_ne hnew
  | finished label endpoint other b rest number result active =>
    refine ⟨rfl, hlane, hendpoints, fun _ _ => rfl, ?_, rfl, rfl⟩
    exact CallbackLog.callsOn_keep_of_ne (hother (congrArg Occupant.handle? active))
  | reported label endpoint other number report active sent =>
    refine ⟨rfl, hlane, hendpoints, fun _ _ => rfl, ?_, framesTo_aside active halone sent,
      Outbox.failing_of_send sent⟩
    exact CallbackLog.callsOn_keep_of_ne (hother (congrArg Occupant.handle? active))

/-- The entry of one driver in two hubs that look the same to this driver. In the second one there is no
more to wait for from others, and no fewer grants are left. -/
structure Twins (i : Fin config.drivers) (label : Label) (endpoint : Endpoint) (handle : Nat)
    (v w : View config Outbox GrantLedger CallbackLog Nat) : Prop where
  first : v.state i = .active label endpoint handle
  second : w.state i = .active label endpoint handle
  lanes : ∀ d, Lane.Follows v.grants w.grants (v.lane (i, d)) (w.lane (i, d))
  narrow : (v.lane (i, .send)).limit ≤ config.sendDepth.toNat
  spent : w.grants.Spent v.grants
  alone : ∀ j, j ≠ i → (v.state j).endpoint? ≠ some endpoint
  alone' : ∀ j, j ≠ i → (w.state j).endpoint? ≠ some endpoint
  served : ∀ j, j ≠ i → ∀ d, (w.lane (j, d)).bookings ≠ [] →
    (v.state j).isActive = true ∧ (v.state j).endpoint? = (w.state j).endpoint?
  calls : w.interface.callsOn handle = v.interface.callsOn handle
  frames : List.Forall₂ Frame.Alike (v.transport.framesTo endpoint) (w.transport.framesTo endpoint)
  failing : w.transport.failing = v.transport.failing

/-- What was noted makes no difference. -/
theorem Twins.of_journal (h : Twins i label endpoint handle v w) (journal journal' : Journal Nat) :
    Twins i label endpoint handle { v with journal } { w with journal := journal' } :=
  ⟨h.first, h.second, h.lanes, h.narrow, h.spent, h.alone, h.alone', h.served, h.calls, h.frames,
    h.failing⟩

/-- Something is done for others in the first hub only. -/
theorem Twins.left (h : Twins i label endpoint handle v w) (haside : Aside i endpoint handle v v')
    (hsince : v.grants.Since v'.grants) (hheld : v.Held GrantLedger.numbers) :
    Twins i label endpoint handle v' w where
  first := haside.state.trans h.first
  second := h.second
  lanes d := by
    rw [haside.lane d]
    refine (h.lanes d).mono (fun b hb id hid => hsince.live id ?_) fun _ _ _ _ hlive => hlive
    exact hheld.out (i, d) id (List.mem_flatMap_of_mem hb hid)
  narrow := by
    rw [haside.lane]
    exact h.narrow
  spent := h.spent.trans hsince.spent
  alone j hj hj' := h.alone j hj (haside.endpoints j _ hj')
  alone' := h.alone'
  served j hj d hbookings := by
    obtain ⟨hactive, hendpoint⟩ := h.served j hj d hbookings
    rw [haside.active j hactive]
    exact ⟨hactive, hendpoint⟩
  calls := h.calls.trans haside.calls.symm
  frames := by
    rw [haside.frames]
    exact h.frames
  failing := h.failing.trans haside.failing.symm

/-- A reply that only the second hub takes is from a driver that has no requests there. -/
theorem Twins.right (h : Twins i label endpoint handle v w) {reply : Reply}
    (hreacts : Reacts w j reply w') (hj : j ≠ i) (hidle : ∀ d, (w.lane (j, d)).bookings = [])
    (hhandled : w.Handled) : Twins i label endpoint handle v w' := by
  have haside : Aside i endpoint handle w w' :=
    hreacts.aside hhandled hj (h.alone' j hj) (congrArg Occupant.handle? h.second)
  obtain ⟨hgrants, hbookings⟩ := hreacts.of_idle hidle
  exact {
    first := h.first
    second := haside.state.trans h.second
    lanes := fun d => by
      rw [hgrants, haside.lane d]
      exact h.lanes d
    narrow := h.narrow
    spent := by
      rw [hgrants]
      exact h.spent
    alone := h.alone
    alone' := fun k hk hk' => h.alone' k hk (haside.endpoints k _ hk')
    served := fun k hk d hne => by
      rw [hbookings] at hne
      have hkj : k ≠ j := by
        rintro rfl
        exact hne (hidle d)
      rw [(hreacts.elsewhere hkj).1]
      exact h.served k hk d hne
    calls := haside.calls.trans h.calls
    frames := by
      rw [haside.frames]
      exact h.frames
    failing := haside.failing.trans h.failing }

/-- Something is done to one lane of the driver in both hubs. -/
theorem Twins.of_lane (h : Twins i label endpoint handle v w) (d : Direction)
    {lane lane' : Lane config.slots} {g g' : GrantLedger} (hlane : Lane.Follows g g' lane lane')
    (hlimit : lane.limit = (v.lane (i, d)).limit)
    (hothers : ∀ d', d' ≠ d → Lane.Follows g g' (v.lane (i, d')) (w.lane (i, d')))
    (hspent : g'.Spent g) :
    Twins i label endpoint handle { v with lane := update v.lane (i, d) lane, grants := g }
      { w with lane := update w.lane (i, d) lane', grants := g' } where
  first := h.first
  second := h.second
  lanes d' := by
    by_cases hd : d' = d
    · subst hd
      simp only [update_self]
      exact hlane
    · have hne : (i, d') ≠ (i, d) := fun heq => hd (congrArg Prod.snd heq)
      simp only [update_of_ne hne]
      exact hothers d' hd
  narrow := by
    dsimp only
    rw [update_apply]
    split
    · rename_i hd
      rw [hlimit, ← hd]
      exact h.narrow
    · exact h.narrow
  spent := hspent
  alone := h.alone
  alone' := h.alone'
  served j hj d' hbookings := by
    dsimp only at hbookings
    rw [update_of_ne fun heq => hj (congrArg Prod.fst heq)] at hbookings
    exact h.served j hj d' hbookings
  calls := h.calls
  frames := h.frames
  failing := h.failing

/-- A request is handed over for the driver in both hubs. -/
theorem Twins.sent (h : Twins i label endpoint handle v w) {request request' : Request}
    {transport transport' : Outbox} (halike : request.ungranted = request'.ungranted)
    (hsent : Transport.send v.transport endpoint request = (.ok (), transport))
    (hsent' : Transport.send w.transport endpoint request' = (.ok (), transport')) :
    Twins i label endpoint handle { v with transport } { w with transport := transport' } where
  first := h.first
  second := h.second
  lanes := h.lanes
  narrow := h.narrow
  spent := h.spent
  alone := h.alone
  alone' := h.alone'
  served := h.served
  calls := h.calls
  frames := by
    dsimp only
    rw [Outbox.framesTo_of_send hsent, Outbox.framesTo_of_send hsent', if_pos rfl, if_pos rfl]
    exact List.rel_append h.frames
      (List.Forall₂.cons (R := Frame.Alike) ⟨request, request', rfl, rfl, halike⟩ .nil)
  failing := (Outbox.failing_of_send hsent').trans (h.failing.trans (Outbox.failing_of_send hsent).symm)

/-- A call is made in both hubs. -/
theorem Twins.called (h : Twins i label endpoint handle v w) (callback : Callback) :
    Twins i label endpoint handle { v with interface := v.interface.keep callback }
      { w with interface := w.interface.keep callback } where
  first := h.first
  second := h.second
  lanes := h.lanes
  narrow := h.narrow
  spent := h.spent
  alone := h.alone
  alone' := h.alone'
  served := h.served
  calls := by
    dsimp only
    rw [CallbackLog.callsOn_keep, CallbackLog.callsOn_keep, h.calls]
  frames := h.frames
  failing := h.failing

/-- What is left of a lane of either hub after something was done for its driver in both. -/
theorem Twins.kept (h : Twins i label endpoint handle v w) {g g' : GrantLedger}
    (hsince : v.grants.Since g) (hheld : v.Held GrantLedger.numbers) (d : Direction)
    (hkept : ∀ id ∈ w.recorded (i, d), w.grants.isLive id = true → g'.isLive id = true) :
    Lane.Follows g g' (v.lane (i, d)) (w.lane (i, d)) := by
  refine (h.lanes d).mono (fun b hb id hid => hsince.live id ?_) fun b hb id hid => hkept id ?_
  · exact hheld.out (i, d) id (List.mem_flatMap_of_mem hb hid)
  · exact List.mem_flatMap_of_mem hb hid

theorem Twins.next_eq (h : Twins i label endpoint handle v w) (d : Direction) :
    w.next (i, d) = v.next (i, d) := by
  rw [next, next, (h.lanes d).head, (h.lanes d).length_eq]

/-- A request that the first hub issues is issued by the second one, under the same number. -/
theorem Twins.serves (h : Twins i label endpoint handle v w) {plan : Plan}
    (hfew : plan.segments.length ≤ maxSegments)
    (hblind : ∀ number grants grants', List.length grants = List.length grants' →
      (plan.request number (.ofList grants)).ungranted =
        (plan.request number (.ofList grants')).ungranted)
    (hheld : v.Held GrantLedger.numbers) (hbelow : GrantLedger.holdings.intact w.grants)
    {answer answer' : Except Refusal UInt32} (hv : Serves v i plan answer v')
    (hgranted : answer ≠ .error .noMemory) (hw : Serves w i plan answer' w') :
    answer' = answer ∧ Twins i label endpoint handle v' w' := by
  cases hv with
  | abandoned => exact absurd rfl hgranted
  | @issued _ _ _ slot grants _ g _ active created sent =>
    cases h.first.symm.trans active
    cases hw with
    | abandoned _ _ _ active' created' =>
      cases h.second.symm.trans active'
      cases (h.spent.creates created created').1
    | @issued _ _ _ slot' grants' _ g' _ active' created' sent' =>
      cases h.second.symm.trans active'
      refine ⟨congrArg Except.ok (h.next_eq _), ?_⟩
      obtain ⟨-, hspent⟩ := h.spent.creates created created'
      obtain ⟨-, -, hnew, hkept⟩ := GrantLedger.holdings.of_creates hbelow created'
      have hsince : v.grants.Since g := created.keep (fun _ _ _ _ hs => hs.of_create) (.refl v.grants)
      have hlength := (length_of_creates created).1 rfl
      have hlength' := (length_of_creates created').1 rfl
      have hold (d : Direction) : Lane.Follows g g' (v.lane (i, d)) (w.lane (i, d)) :=
        h.kept hsince hheld d fun id _ => hkept id
      -- The grants of the new request are live in the second hub, whatever becomes of them in the first.
      have hbooking : Booking.Follows g g' ⟨slot, plan.kind, .ofList grants⟩
          ⟨slot', plan.kind, .ofList grants'⟩ := by
        have hrecorded := SlotGrants.present_ofList (hlength.trans_le hfew)
        have hrecorded' := SlotGrants.present_ofList (hlength'.trans_le hfew)
        refine ⟨rfl, ?_, fun _ id hid => ?_⟩
        · rw [hrecorded, hrecorded', hlength, hlength']
        · rw [hrecorded'] at hid
          exact (hnew id hid).2
      have halike := hblind (v.next (i, plan.kind.direction)) _ _ (hlength.trans hlength'.symm)
      rw [h.next_eq] at sent' ⊢
      have hpushed := h.of_lane plan.kind.direction ((hold _).push hbooking) rfl (fun d _ => hold d)
        hspent
      exact (hpushed.sent halike sent sent').of_journal _ _

/-- What was handed over in the first hub does not fail to be handed over in the second one. -/
theorem Twins.not_send_error (h : Twins i label endpoint handle v w) {endpoint' : Endpoint}
    {request request' : Request} {transport transport' : Outbox} {cause : TransportError}
    (hsent : Transport.send v.transport endpoint request = (.ok (), transport)) :
    Transport.send w.transport endpoint' request' ≠ (.error cause, transport') :=
  Outbox.not_send_error (h.failing.trans (Outbox.send_eq_ok_iff.mp hsent).1)

/-- A request that the first hub issues does not end the work in the second one. -/
theorem Twins.not_fails (h : Twins i label endpoint handle v w) {plan : Plan}
    {answer : Except Refusal UInt32} (hv : Serves v i plan answer v')
    (hgranted : answer ≠ .error .noMemory) (fatal : Fatal) : ¬Fails w i plan fatal := by
  intro hfails
  cases hv with
  | abandoned => exact hgranted rfl
  | issued _ _ _ _ active created sent =>
    cases h.first.symm.trans active
    cases hfails with
    | delivery _ _ _ _ _ failed => exact h.not_send_error sent failed
    | abandoning _ _ _ active' created' =>
      cases h.second.symm.trans active'
      cases (h.spent.creates created created').1

theorem Twins.heeds_iff (h : Twins i label endpoint handle v w) (reply : Reply) :
    w.Heeds i reply ↔ v.Heeds i reply := by
  have hkind (d : Direction) : (w.lane (i, d)).bookings.head?.map Booking.kind =
      (v.lane (i, d)).bookings.head?.map Booking.kind := by
    have hall := (h.lanes d).bookings
    generalize (v.lane (i, d)).bookings = bookings at hall
    generalize (w.lane (i, d)).bookings = bookings' at hall
    cases hall with
    | nil => rfl
    | cons hb _ => exact congrArg some hb.kind
  cases reply with
  | init reply => simp only [Heeds, h.first, h.second, Occupant.isPending, reduceCtorEq, false_and]
  | finished kind number result =>
    simp only [Heeds, h.first, h.second, Lane.Answers, (h.lanes kind.direction).head, hkind]
  | status number report => simp only [Heeds, h.first, h.second]

/-- Neither hub has more grants to give after it revoked some. -/
theorem spent_of_revokes {g g' h h' : GrantLedger} {grants grants' : List GrantId}
    (hspent : h.Spent g) (hg : Revokes g grants g') (hh : Revokes h grants' h') : h'.Spent g' := by
  have hleft : h.Spent g' := hg.keep (fun _ _ _ hs hrevoke => by
    obtain ⟨-, -, rfl⟩ := GrantLedger.revoke_eq_ok_iff.mp hrevoke
    exact ⟨hs.next, hs.budget, hs.corrupted⟩) hspent
  exact hh.keep (Q := fun h => h.Spent g') (fun _ _ _ hs hrevoke => by
    obtain ⟨-, -, rfl⟩ := GrantLedger.revoke_eq_ok_iff.mp hrevoke
    exact ⟨hs.next, hs.budget, hs.corrupted⟩) hleft

/-- The oldest request of a lane finishes in both hubs. -/
theorem Twins.completed (h : Twins i label endpoint handle v w)
    (hheld : v.Held GrantLedger.numbers) (hheld' : w.Held GrantLedger.numbers)
    (hbelow : GrantLedger.holdings.intact w.grants) {b b' : Booking config.slots}
    {rest' : List (Booking config.slots)} (hkind : b'.kind = b.kind)
    (holdest' : (w.lane (i, b'.kind.direction)).bookings = b' :: rest') {g g' : GrantLedger}
    (hrevoked : Revokes v.grants b.grants.present g)
    (hrevoked' : Revokes w.grants b'.grants.present g') (result : Int32) :
    Twins i label endpoint handle (v.completedAt i handle b result g)
      (w.completedAt i handle b' result g') := by
  rw [hkind] at holdest'
  -- In the second hub only grants of the request that leaves are revoked, so those of the others are
  -- as live as before.
  have hsince : v.grants.Since g := hrevoked.keep (fun _ _ _ hs => hs.of_revoke) (.refl v.grants)
  have hoverall := recorded_cons holdest'
  have hnodup := hheld'.nodup (i, b.kind.direction)
  rw [hoverall, List.nodup_append] at hnodup
  have hlive := (GrantLedger.live_of_revokes hrevoked' hnodup.1).1
  obtain ⟨-, hkept⟩ := GrantLedger.holdings.of_revokes hbelow hrevoked' hnodup.1 hlive
  have hpopped : Lane.Follows g g' (v.lane (i, b.kind.direction)).pop
      (w.lane (i, b.kind.direction)).pop := by
    refine (h.lanes _).pop.mono (fun c hc id hid => hsince.live id ?_) fun c hc id hid => hkept id ?_
    · exact hheld.out _ id (List.mem_flatMap_of_mem (List.mem_of_mem_tail hc) hid)
    · rw [Lane.pop, holdest', List.tail_cons] at hc
      exact fun hgone => hnodup.2.2 id hgone id (List.mem_flatMap_of_mem hc hid) rfl
  have hothers (d : Direction) (hd : d ≠ b.kind.direction) :
      Lane.Follows g g' (v.lane (i, d)) (w.lane (i, d)) := by
    refine h.kept hsince hheld d fun id hid => hkept id fun hgone => hd ?_
    exact congrArg Prod.snd (hheld'.apart _ _ id hid (hoverall ▸ List.mem_append_left _ hgone))
  unfold completedAt
  rw [hkind]
  have hgone := h.of_lane b.kind.direction hpopped rfl hothers
    (spent_of_revokes h.spent hrevoked hrevoked')
  exact (hgone.called (.finished b.kind handle result)).of_journal _ _

/-- A reply of the driver that the first hub takes is taken alike by the second one. -/
theorem Twins.reacts (h : Twins i label endpoint handle v w) (hheld : v.Held GrantLedger.numbers)
    (hheld' : w.Held GrantLedger.numbers) (hbelow : GrantLedger.holdings.intact w.grants)
    {reply : Reply} (hv : Reacts v i reply v') (hw : Reacts w i reply w') :
    Twins i label endpoint handle v' w' := by
  have hheeds := h.heeds_iff reply
  rcases hv.of_active h.first with ⟨hunheeded, notice, rfl⟩ |
    ⟨hheeded, ⟨b, rest, number, result, g, rfl, holdest, hrevoked, rfl⟩ |
      ⟨number, report, transport, rfl, hsent, rfl⟩⟩
  · rcases hw.of_active h.second with ⟨-, notice', rfl⟩ | ⟨hheeded, -⟩
    · exact h.of_journal _ _
    · exact absurd (hheeds.mp hheeded) hunheeded
  · rcases hw.of_active h.second with ⟨hunheeded, -⟩ |
      ⟨-, ⟨b', rest', number', result', g', hreply, holdest', hrevoked', rfl⟩ |
        ⟨number', report, transport, hreply, -⟩⟩
    · exact absurd (hheeds.mpr hheeded) hunheeded
    · injection hreply with hkind hnumber hresult
      subst hresult
      exact h.completed hheld hheld' hbelow hkind.symm holdest' hrevoked hrevoked' _
    · cases hreply
  · rcases hw.of_active h.second with ⟨hunheeded, -⟩ |
      ⟨-, ⟨b', rest', number', result', g', hreply, -⟩ |
        ⟨number', report', transport', hreply, hsent', rfl⟩⟩
    · exact absurd (hheeds.mpr hheeded) hunheeded
    · cases hreply
    · cases hreply
      exact ((h.sent rfl hsent hsent').called (.status handle report)).of_journal _ _

/-- A reply of the driver that the first hub takes does not end the work in the second one. -/
theorem Twins.not_stops (h : Twins i label endpoint handle v w)
    (hheld : v.Held GrantLedger.numbers) (hheld' : w.Held GrantLedger.numbers)
    (hbelow : GrantLedger.holdings.intact w.grants) {reply : Reply} (hv : Reacts v i reply v')
    (fatal : Fatal) : ¬Stops w i reply fatal := by
  intro hstops
  have hheeded : v.Heeds i reply := by
    rw [← h.heeds_iff]
    cases hstops with
    | revocation _ _ _ b' rest' _ _ active' oldest' head' =>
      refine ⟨by rw [active']; rfl, head', ?_⟩
      rw [oldest']
      rfl
    | delivery _ _ _ _ _ active' =>
      change (w.state i).isActive = true
      rw [active']
      rfl
  rcases hv.of_active h.first with ⟨hunheeded, -⟩ |
    ⟨-, ⟨b, rest, number, result, g, rfl, holdest, hrevoked, -⟩ |
      ⟨number, report, transport, rfl, hsent, -⟩⟩
  · exact hunheeded hheeded
  · generalize hreply : Reply.finished b.kind number result = reply' at hstops
    cases hstops with
    | delivery => cases hreply
    | revocation _ _ _ b' rest' _ _ _ oldest' _ revoked' =>
      -- The first hub could revoke the grants of its request, so they were live; then they are live in
      -- the second hub too, whose ledger cannot refuse.
      injection hreply with hkind
      have hfollows := (h.lanes b.kind.direction).bookings
      rw [← hkind] at oldest'
      rw [holdest, oldest'] at hfollows
      have hb : Booking.Follows v.grants w.grants b b' := by
        cases hfollows with
        | cons hb _ => exact hb
      have hnodup := hheld.nodup (i, b.kind.direction)
      rw [recorded_cons holdest] at hnodup
      have hnodup' := hheld'.nodup (i, b.kind.direction)
      rw [recorded_cons oldest'] at hnodup'
      obtain ⟨hlive, hhonest⟩ := GrantLedger.live_of_revokes hrevoked hnodup.of_append_left
      have hsome : b.grants.present ≠ [] := by
        intro hnil
        have hlength := hb.length
        rw [hnil, List.length_nil, List.length_eq_zero_iff] at hlength
        rw [hlength] at revoked'
        cases revoked'
      have hintact : w.grants.Intact :=
        ⟨h.spent.corrupted.symm.trans (hhonest hsome), hbelow⟩
      exact GrantLedger.lawful.not_revokesUpTo hintact hnodup'.of_append_left (hb.live hlive) _ _
        revoked'
  · cases hstops with
    | delivery _ _ _ _ _ _ failed => exact h.not_send_error hsent failed

end View
end DriverHub
