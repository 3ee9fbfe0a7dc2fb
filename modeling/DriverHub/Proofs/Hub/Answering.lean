import DriverHub.Proofs.Hub.Incoming
import DriverHub.Proofs.Hub.InitReply

/-! What comes of the answer that a pending driver was waited for. If it makes sense and the interface layer
agrees, the driver is active; if not, everything that was done for it is undone and its entry is free. -/
namespace DriverHub

open Function SessionM

variable {config : Config} {τ γ ι H : Type}

namespace Hub

/-- The driver of an entry is gone, and its queues are closed and empty, this many numbers further. -/
structure Vacates (hub : Hub config H) (i : Fin config.drivers) (steps : UInt32)
    (hub' : Hub config H) : Prop where
  state : hub'.state i = .free
  head : ∀ d, (hub'.queues (i, d)).head = (hub.queues (i, d)).head + steps
  depth : ∀ d, (hub'.queues (i, d)).depth = 0
  limit : ∀ d, (hub'.queues (i, d)).limit = 0

/-- The driver of an entry is active, and its queues are open and empty, each at a fresh number. -/
structure Joins (hub : Hub config H) (i : Fin config.drivers) (label : Label) (endpoint : Endpoint)
    (handle : H) (reply : InitReply) (hub' : Hub config H) : Prop where
  state : hub'.state i = .active label endpoint handle
  head : ∀ d, (hub'.queues (i, d)).head = (hub.queues (i, d)).head + 1
  depth : ∀ d, (hub'.queues (i, d)).depth = 0
  sends : (hub'.queues (i, .send)).limit = reply.maxSend.toNat
  receives : (hub'.queues (i, .receive)).limit =
    min reply.maxReceive.toNat config.receiveDepth.toNat

variable {hub hub' : Hub config H} {i : Fin config.drivers}

theorem Stored.vacates (h : hub'.Stored) (hstate : hub'.state i = .free) {steps : UInt32}
    (hlane : ∀ d, hub'.lane (i, d) = ⟨(hub.queues (i, d)).head + steps, 0, []⟩) :
    hub.Vacates i steps hub' := by
  refine ⟨hstate, fun d => congrArg Lane.head (hlane d), fun d => ?_,
    fun d => congrArg Lane.limit (hlane d)⟩
  rw [← h.length_bookings]
  exact congrArg List.length (congrArg Lane.bookings (hlane d))

theorem Stored.joins (h : hub'.Stored) {label : Label} {endpoint : Endpoint} {handle : H}
    (hstate : hub'.state i = .active label endpoint handle) {reply : InitReply}
    (hlane : ∀ d, hub'.lane (i, d) = ⟨(hub.queues (i, d)).head + 1,
      openLimit config reply.maxSend reply.maxReceive d, []⟩) :
    hub.Joins i label endpoint handle reply hub' := by
  refine ⟨hstate, fun d => congrArg Lane.head (hlane d), fun d => ?_,
    congrArg Lane.limit (hlane .send), congrArg Lane.limit (hlane .receive)⟩
  rw [← h.length_bookings]
  exact congrArg List.length (congrArg Lane.bookings (hlane d))

open Finset in
/-- Where one driver is no longer pending and the others are as before, one less is counted. -/
theorem Tallied.pending_succ (h : hub.Tallied) (h' : hub'.Tallied)
    (hi : (hub.state i).isPending = true) (hi' : (hub'.state i).isPending = false)
    (hothers : ∀ j, j ≠ i → hub'.state j = hub.state j) : hub'.pending + 1 = hub.pending := by
  rw [h.pending, h'.pending, ← add_sum_erase univ _ (mem_univ i),
    ← add_sum_erase univ (fun j => (hub.state j).isPending.toNat) (mem_univ i), hi, hi']
  have hrest : ∑ j ∈ univ.erase i, (hub'.state j).isPending.toNat =
      ∑ j ∈ univ.erase i, (hub.state j).isPending.toNat :=
    sum_congr rfl fun j hj => by rw [hothers j (ne_of_mem_erase hj)]
  rw [hrest, Bool.toNat_false, Bool.toNat_true]
  omega

variable [Transport τ] [GrantTable γ] [Interface ι H]
variable {s t : HubSession config τ γ ι H}

/-- The interface of a driver that answered is to be enabled, after these calls. If it is, the driver is
active; if not, the interface is removed and the driver is gone. -/
def Enables (s : HubSession config τ γ ι H) (i : Fin config.drivers) (label : Label)
    (endpoint : Endpoint) (reply : InitReply) (handle : H) (name? : Option InterfaceName)
    (interface : ι) (earlier : Journal H) (news : Journal H) (t : HubSession config τ γ ι H) : Prop :=
  ∃ enablement, reply.Tells name? enablement ∧
    match (Interface.enable interface handle enablement).1 with
    | true => calls news = .enabled ⟨i⟩ handle enablement true :: earlier ∧
        s.tables.Joins i label endpoint handle reply t.tables
    | false => calls news =
          .removed ⟨i⟩ handle :: .enabled ⟨i⟩ handle enablement false :: earlier ∧
        s.tables.Vacates i 1 t.tables

end Hub

section Runs

variable [Transport τ] [GrantTable γ] [Interface ι H]
variable {heads : LaneId config → UInt32} {custody : Custody γ} {s t : HubSession config τ γ ι H}
variable {i : Fin config.drivers} {label : Label} {endpoint : Endpoint} {handle? : Option H}
variable {reply : InitReply}

/-- What comes of the answer of a driver that was waited for, by the answers of the interface layer. -/
def Hub.Outcome (s : HubSession config τ γ ι H) (i : Fin config.drivers) (label : Label)
    (endpoint : Endpoint) (handle? : Option H) (reply : InitReply) (news : Journal H)
    (t : HubSession config τ γ ι H) : Prop :=
  (¬reply.WellFormed →
    calls news = handle?.toList.map (.removed ⟨i⟩ ·) ∧ s.tables.Vacates i 0 t.tables) ∧
  (reply.WellFormed → ∃ name : InterfaceName, name.bytes = reply.name.toList.takeWhile (· ≠ 0) ∧
    match handle? with
    | some handle => Hub.Enables s i label endpoint reply handle none s.interface [] news t
    | none =>
      match Interface.add s.interface ⟨i⟩ name reply.capabilities with
      | (none, _) =>
        calls news = [.added ⟨i⟩ name reply.capabilities none] ∧ s.tables.Vacates i 0 t.tables
      | (some handle, interface) => Hub.Enables s i label endpoint reply handle (some name) interface
          [.added ⟨i⟩ name reply.capabilities (some handle)] news t)

omit [Transport τ] [GrantTable γ] in
/-- Whether the interface was there or is new, it only remains to enable it. -/
theorem Hub.Outcome.of_enables (hformed : reply.WellFormed) {name : InterfaceName}
    (hbytes : name.bytes = reply.name.toList.takeWhile (· ≠ 0)) {handle : H} {isNew : Bool}
    {interface : ι} {journal : Journal H}
    (hires : Hires ⟨i⟩ name reply.capabilities s.interface s.journal handle? handle isNew interface
      journal)
    (h : ∀ earlier, journal = earlier ++ s.journal → calls earlier = earlier → frames earlier = [] →
      ∃ news, t.journal = news ++ s.journal ∧ frames news = [] ∧
        Hub.Enables s i label endpoint reply handle (if isNew then some name else none) interface
          earlier news t) :
    ∃ news, t.journal = news ++ s.journal ∧ frames news = [] ∧
      Hub.Outcome s i label endpoint handle? reply news t := by
  cases hires with
  | kept =>
    obtain ⟨news, hjournal, hframes, henables⟩ := h [] rfl rfl rfl
    exact ⟨news, hjournal, hframes, fun hnot => absurd hformed hnot, fun _ => ⟨name, hbytes, henables⟩⟩
  | added hadd =>
    obtain ⟨news, hjournal, hframes, henables⟩ := h [_] rfl rfl rfl
    refine ⟨news, hjournal, hframes, fun hnot => absurd hformed hnot, fun _ => ⟨name, hbytes, ?_⟩⟩
    rw [hadd]
    exact henables

omit [Transport τ] [GrantTable γ] in
/-- A pending driver without requests was taken down. -/
theorem Hub.Stored.gone_of_view (h : t.tables.Stored) {v : View config τ γ ι H} {g : γ}
    (hview : t.view = v.goneAt i endpoint g) (hpending : v.state i = .pending label endpoint handle?)
    (hgrants : v.grantsAt i = []) (hlane : v.lane = s.tables.lane)
    (hidle : ∀ d, s.tables.bookings (i, d) = []) :
    s.tables.Vacates i 0 t.tables ∧
      t.journal = .noticed (.gone ⟨i⟩ endpoint) ::
        ((Occupant.pending label endpoint handle?).withdrawing ⟨i⟩ ++ v.journal) := by
  have hstate' : t.tables.state i = .free := by
    have hstate := congrArg (View.state · i) hview
    exact hstate.trans (update_self ..)
  have hlane' (d : Direction) :
      t.tables.lane (i, d) = ⟨(s.tables.queues (i, d)).head + 0, 0, []⟩ := by
    have hcleared : (s.tables.lane (i, d)).clear = ⟨(s.tables.queues (i, d)).head + 0, 0, []⟩ := by
      rw [Lane.clear, lane, hidle]
      rfl
    have hafter := congrArg (View.lane · (i, d)) hview
    rw [← hcleared, ← hlane]
    exact hafter.trans (if_pos rfl)
  refine ⟨h.vacates hstate' hlane', ?_⟩
  have hjournal : t.journal = (v.goneAt i endpoint g).journal := congrArg View.journal hview
  rw [hjournal, View.goneAt, hgrants, hpending]
  rfl

theorem Hub.Reacted.outcome (h : s.tables.Sound) (hreacted : Hub.Reacted s i (.init reply) t)
    (hpending : s.tables.state i = .pending label endpoint handle?)
    (hlatest : reply.id = (s.tables.queues (i, .send)).head) :
    (t.tables.state i).isPending = false ∧
      ∃ news, t.journal = news ++ s.journal ∧ frames news = [] ∧
        Hub.Outcome s i label endpoint handle? reply news t := by
  have hidle (d : Direction) : s.tables.bookings (i, d) = [] :=
    h.bookings_eq_nil (by rw [hpending]; rfl) d
  have hopened (d : Direction) (limit : Nat) :
      (s.tables.lane (i, d)).activate limit = ⟨(s.tables.queues (i, d)).head + 1, limit, []⟩ := by
    rw [Lane.activate, Hub.lane, hidle]
  have hstored := hreacted.sound.toStored
  have hreacts := hreacted.reacts
  generalize hw : t.view = w at hreacts
  obtain ⟨hstate, hlane, hjournal⟩ : t.tables.state = w.state ∧ t.tables.lane = w.lane ∧
      t.journal = w.journal := by
    rw [← hw]
    exact ⟨rfl, rfl, rfl⟩
  cases hreacts with
  | ignored notice trace unheeded =>
    refine absurd ⟨?_, hlatest⟩ unheeded
    change (s.tables.state i).isPending = true
    rw [hpending]
    rfl
  | malformed label' endpoint' handle' reply fault pending latest idle checked =>
    cases hpending.symm.trans pending
    obtain ⟨hvacates, hgone⟩ := hstored.gone_of_view (s := s) hw pending idle rfl hidle
    refine ⟨by rw [hvacates.state]; rfl, .noticed (.gone ⟨i⟩ endpoint) ::
      ((Occupant.pending label endpoint handle?).withdrawing ⟨i⟩ ++
        [.noticed (.malformedInit endpoint fault)]), ?_, ?_,
      fun _ => ⟨?_, hvacates⟩, fun hformed => ?_⟩
    · rw [hgone]
      simp only [List.cons_append, List.append_assoc, List.nil_append]
      rfl
    · cases handle? <;> rfl
    · cases handle? <;> rfl
    · obtain ⟨name, hok⟩ := hformed.exists_checked
      cases checked.symm.trans hok
  | turnedAway label' endpoint' reply name pending latest idle checked refused =>
    cases hpending.symm.trans pending
    obtain ⟨hformed, hbytes⟩ := InitReply.checked_eq_ok_iff.mp checked
    obtain ⟨hvacates, hgone⟩ := hstored.gone_of_view (s := s) hw pending idle rfl hidle
    refine ⟨by rw [hvacates.state]; rfl, [_, _, _], hgone, rfl,
      fun hnot => absurd hformed hnot, fun _ => ⟨name, hbytes, ?_⟩⟩
    have hadd : Interface.add s.interface ⟨i⟩ name reply.capabilities = (none, _) := refused
    rw [hadd]
    exact ⟨rfl, hvacates⟩
  | @activated label' endpoint' reply name _ handle _ _ _ _ pending latest checked hires enabled =>
    cases hpending.symm.trans pending
    obtain ⟨hformed, hbytes⟩ := InitReply.checked_eq_ok_iff.mp checked
    have hactive : t.tables.state i = .active label endpoint handle := by
      rw [hstate]
      exact update_self ..
    have hjoins : s.tables.Joins i label endpoint handle reply t.tables := by
      refine hstored.joins hactive fun d => ?_
      rw [hlane]
      exact (if_pos rfl).trans (hopened d _)
    refine ⟨by rw [hactive]; rfl, Hub.Outcome.of_enables hformed hbytes hires ?_⟩
    rintro earlier rfl hcalls hframes
    refine ⟨_ :: _ :: earlier, hjournal, hframes, _, reply.tells_enablement _, ?_⟩
    rw [enabled]
    exact ⟨congrArg (_ :: ·) hcalls, hjoins⟩
  | refused label' endpoint' reply name pending latest checked hires refused =>
    cases hpending.symm.trans pending
    obtain ⟨hformed, hbytes⟩ := InitReply.checked_eq_ok_iff.mp checked
    have hvacates : s.tables.Vacates i 1 t.tables := by
      have hfree : t.tables.state i = .free := by
        rw [hstate]
        exact update_self ..
      refine hstored.vacates hfree fun d => ?_
      -- The queues were opened first, at numbers of their own.
      have hreset (limit : Nat) : ((s.tables.lane (i, d)).activate limit).clear =
          ⟨(s.tables.queues (i, d)).head + 1, 0, []⟩ := by
        simp [hopened, Lane.clear]
      rw [hlane]
      exact (if_pos rfl).trans (hreset _)
    refine ⟨by rw [hvacates.state]; rfl, Hub.Outcome.of_enables hformed hbytes hires ?_⟩
    rintro earlier rfl hcalls hframes
    refine ⟨_ :: _ :: _ :: _ :: earlier, hjournal, hframes, _, reply.tells_enablement _, ?_⟩
    rw [refused]
    exact ⟨congrArg (_ :: _ :: ·) hcalls, hvacates⟩

/-- What the answer of a driver that is waited for does, whatever is in it and whatever the interface layer
says. The driver is not waited for any longer, and one driver less is. Nothing is posted, and no other driver
learns of it. An answer that makes no sense is not shown to the interface layer. Otherwise an interface is
added unless the driver has one, and enabled, each once; if both are agreed to, the driver is active. In
every other case its interface is removed, if it has one, and its entry is free. -/
theorem Reachable.init_answered (h : Reachable heads custody s) {sender : Endpoint}
    (hfound : s.tables.findEndpoint sender = some i)
    (hpending : s.tables.state i = .pending label endpoint handle?)
    (hlatest : reply.id = (s.tables.queues (i, .send)).head) :
    ∃ t news, (Hub.process sender (.init reply) : HubM config τ γ ι H Unit) s = .ok () t ∧
      t.journal = news ++ s.journal ∧
      (t.tables.state i).isPending = false ∧ t.tables.pending + 1 = s.tables.pending ∧
      frames news = [] ∧ t.transport = s.transport ∧ t.grants = s.grants ∧
      (∀ j, j ≠ i → t.tables.state j = s.tables.state j ∧
        ∀ d, t.tables.lane (j, d) = s.tables.lane (j, d)) ∧
      Hub.Outcome s i label endpoint handle? reply news t := by
  obtain ⟨⟨⟩, t, hrun, hreacted⟩ := (Hub.goes_initReply h.sound i reply).answers_of_not_ends
  change (Hub.take i (.init reply) : HubM config τ γ ι H Unit) s = .ok () t at hrun
  rw [← Hub.process_eq_take hfound] at hrun
  have hwaited : (s.tables.state i).isPending = true := by
    rw [hpending]
    rfl
  obtain ⟨htransport, hgrants, -⟩ := hreacted.reacts.introduced ⟨hwaited, hlatest⟩
    (Hub.endpoint_of_findEndpoint h.sound.labelled hfound)
  obtain ⟨hanswered, news, hjournal, hframes, houtcome⟩ := hreacted.outcome h.sound hpending hlatest
  have hothers (j : Fin config.drivers) (hj : j ≠ i) := hreacted.reacts.elsewhere hj
  have hfewer : t.tables.pending + 1 = s.tables.pending :=
    h.sound.pending_succ hreacted.sound.toTallied hwaited hanswered fun j hj => (hothers j hj).1
  exact ⟨t, news, hrun, hjournal, hanswered, hfewer, hframes, htransport, hgrants, hothers, houtcome⟩

end Runs

namespace Trial

/-- The short run, when its driver has just been asked to start. -/
def asked : HubSession small Outbox GrantLedger CallbackLog Nat := start.afterAll [.reconcile roster]

/-- An answer without a name. -/
def nameless : InitReply := { reply with name := Vector.replicate 16 0 }

/-- An answer of the driver without a name ends it, and nobody is called. With a name it makes the driver
active, and its interface is added and enabled. -/
theorem answered_with_name :
    (∃ t news, (Hub.process ⟨5⟩ (.init nameless) :
        HubM small Outbox GrantLedger CallbackLog Nat Unit) asked = .ok () t ∧
      t.journal = news ++ asked.journal ∧ calls news = [] ∧ t.tables.state entry = .free) ∧
    ∃ t, (Hub.process ⟨5⟩ (.init reply) :
        HubM small Outbox GrantLedger CallbackLog Nat Unit) asked = .ok () t ∧
      t.tables.state entry = .active label ⟨5⟩ 1 ∧ (t.tables.queues (entry, .send)).limit = 3 := by
  have hasked : Reachable heads (.any GrantLedger) asked := (started trivial).afterAll _
  have hfound : asked.tables.findEndpoint ⟨5⟩ = some entry := by cbv
  have hpending : asked.tables.state entry = .pending label ⟨5⟩ none := by cbv
  have hnumber : (asked.tables.queues (entry, .send)).head = 0 := by decide +kernel
  constructor
  · have hlatest : nameless.id = (asked.tables.queues (entry, .send)).head := hnumber.symm
    obtain ⟨t, news, hrun, hjournal, -, -, -, -, -, -, hmalformed, -⟩ :=
      Reachable.init_answered hasked hfound hpending hlatest
    have hnameless : ¬nameless.WellFormed := fun hformed => hformed.named (by decide)
    obtain ⟨hcalls, hvacates⟩ := hmalformed hnameless
    exact ⟨t, news, hrun, hjournal, hcalls, hvacates.state⟩
  · have hlatest : reply.id = (asked.tables.queues (entry, .send)).head := hnumber.symm
    obtain ⟨t, news, hrun, -, -, -, -, -, -, -, -, hwell⟩ :=
      Reachable.init_answered hasked hfound hpending hlatest
    have hformed : reply.WellFormed := ⟨by decide, by decide, by decide, by decide, by decide⟩
    obtain ⟨name, -, hadded⟩ := hwell hformed
    have hlog : asked.interface = ({} : CallbackLog) := by cbv
    rw [hlog] at hadded
    obtain ⟨enablement, -, -, hjoins⟩ := hadded
    exact ⟨t, hrun, hjoins.state, hjoins.sends⟩

end Trial
end DriverHub
