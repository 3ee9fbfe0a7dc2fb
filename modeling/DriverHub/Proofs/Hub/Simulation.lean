import DriverHub.Proofs.Hub.Moves
import DriverHub.Proofs.Hub.Sound

/-! Reconciling is a sequence of moves. From sound tables on it ends with sound tables, and what can be
seen of it are moves; no check of the hub's own bookkeeping ever fails. -/
namespace DriverHub
namespace View

open Function

variable {config : Config} {τ γ ι H : Type}

/-! The views that moves of an entry end in. -/

/-- A new driver was asked to start. -/
def startedAt (v : View config τ γ ι H) (i : Fin config.drivers) (label : Label)
    (endpoint : Endpoint) (transport : τ) : View config τ γ ι H :=
  { v with
    state := update v.state i (.pending label endpoint none)
    lane := atEntry v.lane i fun _ lane => lane.begin
    transport
    journal := .posted ⟨i⟩ endpoint (.init (v.lane (i, .send)).begin.head) (.ok ()) ::
      .noticed (.up ⟨i⟩ label endpoint) :: v.journal }

variable [Interface ι H]

/-- A known driver lost its requests and was asked to start again. -/
def restartedAt (v : View config τ γ ι H) (i : Fin config.drivers) (label : Label)
    (endpoint : Endpoint) (grants : γ) (transport : τ) : View config τ γ ι H where
  state := update v.state i (.pending label endpoint (v.state i).handle?)
  lane := atEntry v.lane i fun _ lane => lane.clear.begin
  transport
  grants
  interface := (v.state i).quieted v.interface
  journal := .posted ⟨i⟩ endpoint (.init (v.lane (i, .send)).clear.begin.head) (.ok ()) ::
    .noticed (.restarted ⟨i⟩ endpoint) :: ((v.state i).quieting ⟨i⟩ ++
      (revocations (v.grantsAt i) ++ v.journal))

/-- A driver lost its requests, its interface and its entry. -/
def goneAt (v : View config τ γ ι H) (i : Fin config.drivers) (endpoint : Endpoint) (grants : γ) :
    View config τ γ ι H :=
  { v with
    state := update v.state i .free
    lane := atEntry v.lane i fun _ lane => lane.clear
    grants
    interface := (v.state i).withdrawn v.interface
    journal := .noticed (.gone ⟨i⟩ endpoint) :: ((v.state i).withdrawing ⟨i⟩ ++
      (revocations (v.grantsAt i) ++ v.journal)) }

end View

namespace Hub

open SessionM View Function Relation

variable {config : Config} {τ γ ι H α β : Type}
variable [Transport τ] [GrantTable γ] [Interface ι H]
variable {s : HubSession config τ γ ι H} {i : Fin config.drivers}

/-- A later session with sound tables, after some moves. -/
def Played (s t : HubSession config τ γ ι H) : Prop := t.tables.Sound ∧ Moves s.view t.view

/-- A session is ended, after some moves, for a reason that the collaborators give. -/
def Ended (s : HubSession config τ γ ι H) (fatal : Fatal) : Prop :=
  ∃ v, Moves s.view v ∧ Halts v fatal

/-- The action is a sequence of moves from sound tables to sound tables, if it answers. -/
def Plays (action : HubM config τ γ ι H α) (s : HubSession config τ γ ι H) : Prop :=
  action.Goes s (fun _ t => Played s t) (Ended s)

theorem Played.of_move {t : HubSession config τ γ ι H} {v : View config τ γ ι H}
    (h : t.tables.Sound) (hview : t.view = v) (hmove : Move s.view v) : Played s t := by
  rw [← hview] at hmove
  exact ⟨h, .single hmove⟩

theorem Played.trans {t u : HubSession config τ γ ι H} (h : Played s t) (h' : Played t u) :
    Played s u := ⟨h'.1, h.2.trans h'.2⟩

theorem Played.ended {t : HubSession config τ γ ι H} (h : Played s t) {fatal : Fatal}
    (h' : Ended t fatal) : Ended s fatal := by
  obtain ⟨v, hv, hhalts⟩ := h'
  exact ⟨v, h.2.trans hv, hhalts⟩

theorem Plays.from {action : HubM config τ γ ι H α} {t : HubSession config τ γ ι H}
    (h : Plays action t) (hplayed : Played s t) :
    action.Goes t (fun _ u => Played s u) (Ended s) :=
  Goes.mono h (fun _ _ hu => hplayed.trans hu) fun _ hfatal => hplayed.ended hfatal

theorem plays_pure (h : s.tables.Sound) (a : α) :
    Plays (pure a : HubM config τ γ ι H α) s := ⟨h, .refl⟩

theorem Plays.bind {action : HubM config τ γ ι H α} {next : α → HubM config τ γ ι H β}
    (h : Plays action s) (hnext : ∀ a t, t.tables.Sound → Plays (next a) t) :
    Plays (action >>= next) s := by
  rw [Plays, goes_bind]
  exact Goes.mono h (fun a t ht => (hnext a t ht.1).from ht) fun _ hfatal => hfatal

theorem plays_note (h : s.tables.Sound) (notice : Notice)
    (quiet : (Entry.noticed notice : Entry H).Quiet) :
    Plays (note notice : HubM config τ γ ι H Unit) s :=
  ⟨h, .single (.noted _ quiet)⟩

omit [Transport τ] [Interface ι H] in
theorem goes_cancelRequests {grants : List GrantId} {hub : Hub config H}
    {answers : Unit → HubSession config τ γ ι H → Prop} {ends : Fatal → Prop}
    (hcancelled : s.tables.cancelled i = .ok (grants, hub))
    (ha : ∀ g, Revokes s.grants grants g → answers () { s with
      tables := hub, grants := g, journal := revocations grants ++ s.journal })
    (he : ∀ grant cause, RevokesUpTo grant cause s.grants grants →
      ends (.revocation grant cause)) :
    (cancelRequests i : HubM config τ γ ι H Unit).Goes s answers ends := by
  unfold cancelRequests
  rw [goes_bind, goes_tables, hcancelled, goes_bind, goes_expect]
  dsimp only
  rw [goes_bind, goes_setTables]
  exact goes_revokeGrants ha he

omit [Transport τ] in
/-- An entry gives up its driver; its lanes may have been opened before. -/
theorem goes_takeDown (h : s.tables.SoundBut i) (hmark : i < s.tables.highWater)
    {endpoint : Endpoint} (hknown : (s.view.state i).endpoint? = some endpoint)
    {answers : Unit → HubSession config τ γ ι H → Prop} {ends : Fatal → Prop}
    (ha : ∀ t g, t.tables.Sound → t.tables.dropped = s.tables.dropped →
      Revokes s.grants (s.view.grantsAt i) g → t.view = s.view.goneAt i endpoint g → answers () t)
    (he : ∀ grant cause, RevokesUpTo grant cause s.grants (s.view.grantsAt i) →
      ends (.revocation grant cause)) :
    (takeDown i : HubM config τ γ ι H Unit).Goes s answers ends := by
  obtain ⟨hub₁, hcancelled, hsame, hsettled, hfreed⟩ := h.dismissed hmark
  unfold takeDown
  rw [goes_bind]
  refine goes_cancelRequests hcancelled (fun g hg => ?_) he
  have hi : (hub₁.driver i).state = (s.tables.state i).driverState :=
    (hsame.states i).trans (h.labelled.driver_eq i).1
  rw [goes_bind, goes_tables]
  dsimp only
  rw [hi]
  change (s.tables.state i).endpoint? = some endpoint at hknown
  simp only [goneAt, show (Session.view s).state = s.tables.state from rfl] at ha
  -- A pending driver is counted out before it goes, with the interface that it may have kept.
  cases hs : s.tables.state i with
  | free =>
    rw [hs] at hknown
    cases hknown
  | pending label endpoint' handle =>
    rw [hs] at hknown hsettled hfreed ha
    obtain rfl := Option.some.inj hknown
    obtain ⟨hsound, hstate', hlane, hdropped⟩ := hfreed _ rfl
    dsimp only [Occupant.driverState]
    rw [goes_bind, hsettled rfl, goes_expect]
    cases handle with
    | none => exact ha _ g hsound hdropped hg (Session.view_eq hstate' hlane)
    | some handle => exact ha _ g hsound hdropped hg (Session.view_eq hstate' hlane)
  | active label endpoint' handle =>
    rw [hs] at hknown hfreed ha
    obtain rfl := Option.some.inj hknown
    obtain ⟨hsound, hstate', hlane, hdropped⟩ := hfreed _ rfl
    exact ha _ g hsound hdropped hg (Session.view_eq hstate' hlane)

theorem plays_takeDown (h : s.tables.Sound) (hi : s.view.state i ≠ .free) :
    Plays (takeDown i : HubM config τ γ ι H Unit) s := by
  obtain ⟨endpoint, hknown⟩ : ∃ endpoint, (s.view.state i).endpoint? = some endpoint := by
    cases hs : s.view.state i with
    | free => exact absurd hs hi
    | pending _ endpoint _ => exact ⟨endpoint, rfl⟩
    | active _ endpoint _ => exact ⟨endpoint, rfl⟩
  apply goes_takeDown (h.but i) (h.toMarked.lt_highWater hi) hknown
  · intro t g hsound _ hg hview
    exact .of_move hsound hview (.gone i endpoint hknown hg)
  · intro grant cause hg
    exact ⟨s.view, .refl, .cancelling i hg⟩

omit [GrantTable γ] [Interface ι H] in
theorem goes_postInit {endpoint : Endpoint}
    {answers : Unit → HubSession config τ γ ι H → Prop} {ends : Fatal → Prop}
    (ha : ∀ transport, Transport.send s.transport endpoint
      (.init (s.view.lane (i, .send)).head) = (.ok (), transport) → answers () { s with
        transport
        journal := .posted ⟨i⟩ endpoint (.init (s.view.lane (i, .send)).head) (.ok ()) ::
          s.journal })
    (he : ∀ cause transport, Transport.send s.transport endpoint
      (.init (s.view.lane (i, .send)).head) = (.error cause, transport) →
      ends (.delivery .init endpoint cause)) :
    (postInit i endpoint : HubM config τ γ ι H Unit).Goes s answers ends := by
  unfold postInit
  rw [goes_bind, goes_tables]
  exact goes_post ha he

/-- A known driver is restarted in its entry. -/
theorem goes_restart (h : s.tables.Sound) {label : Label}
    (hknown : (s.view.state i).label? = some label) {endpoint : Endpoint}
    {answers : Unit → HubSession config τ γ ι H → Prop} {ends : Fatal → Prop}
    (ha : ∀ t g transport, t.tables.Sound → t.tables.dropped = s.tables.dropped →
      Revokes s.grants (s.view.grantsAt i) g →
      Transport.send s.transport endpoint (.init (s.view.lane (i, .send)).clear.begin.head) =
        (.ok (), transport) →
      t.view = s.view.restartedAt i label endpoint g transport → answers () t)
    (he : ∀ fatal, Halts s.view fatal → ends fatal) :
    (restart i endpoint : HubM config τ γ ι H Unit).Goes s answers ends := by
  obtain ⟨hub₁, hub₂, hcancelled, hbegun, hsame, hentered⟩ :=
    h.restarted hknown endpoint (s.view.state i).handle?
  unfold restart
  rw [goes_bind]
  refine goes_cancelRequests hcancelled (fun g hg => ?_) fun grant cause hg =>
    he _ (.cancelling i hg)
  -- Whether the driver was active or not, what is left to do is to ask it to start.
  have hpost (t : HubSession config τ γ ι H) (hsound : t.tables.Sound)
      (hdropped : t.tables.dropped = s.tables.dropped)
      (hview : t.view = { s.view with
        state := update s.view.state i (.pending label endpoint (s.view.state i).handle?)
        lane := atEntry s.view.lane i fun _ lane => lane.clear.begin
        grants := g
        interface := (s.view.state i).quieted s.interface
        journal := .noticed (.restarted ⟨i⟩ endpoint) :: ((s.view.state i).quieting ⟨i⟩ ++
          (revocations (s.view.grantsAt i) ++ s.journal)) }) :
      (postInit i endpoint : HubM config τ γ ι H Unit).Goes t answers ends := by
    have htransport : t.transport = s.transport := congrArg View.transport hview
    have hlane : t.view.lane (i, .send) = (s.view.lane (i, .send)).clear.begin := by
      rw [hview]
      exact if_pos rfl
    apply goes_postInit
    · intro transport hsent
      rw [htransport, hlane] at hsent
      refine ha _ g transport hsound hdropped hg hsent ?_
      change (⟨t.view.state, t.view.lane, transport, t.view.grants, t.view.interface,
        .posted ⟨i⟩ endpoint (.init (t.view.lane (i, .send)).head) (.ok ()) :: t.view.journal⟩ :
          View config τ γ ι H) = _
      rw [hlane, hview]
      rfl
    · intro cause transport hsent
      rw [htransport] at hsent
      exact he _ (.delivery endpoint (.init _) hsent)
  have hi : (hub₂.driver i).state = (s.tables.state i).driverState :=
    (hsame.states i).trans (h.labelled.driver_eq i).1
  -- The label stays that of the driver, so it is the same one that has the entry.
  have hseated (handle : Option H) : hub₂.setState i (.pending endpoint handle) =
      hub₂.seated i (.pending label endpoint handle) := by
    apply setState_eq_seated (.pending label endpoint handle) ?_ (h.labelled.same hsame.toSameSeats)
    rw [hsame.state]
    exact hknown
  rw [goes_bind, goes_tables]
  dsimp only
  rw [hbegun, goes_bind, goes_expect, hi]
  change (s.tables.state i).label? = some label at hknown
  simp only [show (Session.view s).state = s.tables.state from rfl] at hpost hentered
  cases hs : s.tables.state i with
  | free =>
    rw [hs] at hknown
    cases hknown
  | pending label' endpoint' handle =>
    rw [hs] at hknown hpost hentered
    obtain rfl := Option.some.inj hknown
    obtain ⟨hsound, hstate', -, hlane, hdropped⟩ := hentered _ rfl
    dsimp only [Occupant.driverState]
    rw [hseated]
    exact hpost _ hsound hdropped (Session.view_eq hstate' hlane)
  | active label' endpoint' handle =>
    rw [hs] at hknown hpost hentered
    obtain rfl := Option.some.inj hknown
    obtain ⟨hsound, hstate', -, hlane, hdropped⟩ := hentered _ rfl
    dsimp only [Occupant.driverState]
    rw [hseated]
    exact hpost _ hsound hdropped (Session.view_eq hstate' hlane)

omit [Transport τ] [GrantTable γ] [Interface ι H] in
theorem label_of_findLabel {hub : Hub config H} (h : hub.Labelled) {label : Label}
    (hfound : hub.findLabel label = some i) : (hub.state i).label? = some label := by
  rw [h.findLabel_eq] at hfound
  exact of_decide_eq_true (state_of_first hfound)

omit [Transport τ] [GrantTable γ] [Interface ι H] in
/-- A label that is not found is nowhere, since above the mark every entry is free. -/
theorem label_ne_of_findLabel {hub : Hub config H} (h : hub.Sound) {label : Label}
    (hnone : hub.findLabel label = none) (j : Fin config.drivers) :
    (hub.state j).label? ≠ some label := by
  intro hlabel
  have hlt := h.toMarked.lt_highWater (Occupant.ne_free_of_label hlabel)
  rw [h.labelled.findLabel_eq] at hnone
  have hnot := List.find?_eq_none.mp hnone j (List.mem_finRange j)
  apply hnot
  simp [hlt, hlabel]

/-- What comes of a driver that came up. A known one is restarted in its entry; a new one gets a free
entry, or is passed over. -/
inductive BroughtUp (s : HubSession config τ γ ι H) (label : Label) (endpoint : Endpoint)
    (t : HubSession config τ γ ι H) : Prop
  | restarted (i : Fin config.drivers) {g : γ} {transport : τ}
      (found : s.tables.findLabel label = some i)
      (dropped : t.tables.dropped = s.tables.dropped)
      (revoked : Revokes s.grants (s.view.grantsAt i) g)
      (sent : Transport.send s.transport endpoint
        (.init (s.view.lane (i, .send)).clear.begin.head) = (.ok (), transport))
      (view : t.view = s.view.restartedAt i label endpoint g transport)
  | started (i : Fin config.drivers) {transport : τ} (unknown : s.tables.findLabel label = none)
      (free : s.tables.findFree = some i) (dropped : t.tables.dropped = s.tables.dropped)
      (sent : Transport.send s.transport endpoint
        (.init (s.view.lane (i, .send)).begin.head) = (.ok (), transport))
      (view : t.view = s.view.startedAt i label endpoint transport)
  | passedOver (unknown : s.tables.findLabel label = none) (full : s.tables.findFree = none)
      (dropped : t.tables.dropped = s.tables.dropped + 1)
      (view : t.view = s.view ∨
        t.view = { s.view with journal := .noticed (.tableFull label) :: s.journal })

theorem goes_bringUp (h : s.tables.Sound) (label : Label) (endpoint : Endpoint) :
    (bringUp label endpoint : HubM config τ γ ι H Unit).Goes s
      (fun _ t => t.tables.Sound ∧ BroughtUp s label endpoint t) (Halts s.view) := by
  unfold bringUp
  rw [goes_bind, goes_tables]
  cases hlabel : s.tables.findLabel label with
  | some i =>
    have hknown := label_of_findLabel h.labelled hlabel
    apply goes_restart h hknown
    · intro t g transport hsound hdropped hg hsent hview
      exact ⟨hsound, .restarted i hlabel hdropped hg hsent hview⟩
    · exact fun _ hhalts => hhalts
  | none =>
    dsimp only
    cases hfree : s.tables.findFree with
    | none =>
      obtain ⟨hsound, hlane⟩ := h.passedOver (Nat.succ_pos s.tables.dropped)
      dsimp only
      rw [goes_bind, goes_setTables]
      -- The view is that of the tables before, since none of it changes.
      split
      · exact ⟨hsound, .passedOver hlabel hfree rfl (.inl (Session.view_eq rfl hlane))⟩
      · exact ⟨hsound, .passedOver hlabel hfree rfl (.inr (Session.view_eq rfl hlane))⟩
    | some i =>
      obtain ⟨hub, hbegun, hsound, hstate, hlane, hdropped⟩ := h.started hfree label endpoint
      have hview := Session.view_eq (s := ({ s with
        tables := hub, journal := .noticed (.up ⟨i⟩ label endpoint) :: s.journal } :
          HubSession config τ γ ι H)) hstate hlane
      have hbegin : (Session.view ({ s with
          tables := hub, journal := .noticed (.up ⟨i⟩ label endpoint) :: s.journal } :
            HubSession config τ γ ι H)).lane (i, .send) = (s.view.lane (i, .send)).begin := by
        rw [hview]
        exact if_pos rfl
      dsimp only
      rw [hbegun, goes_bind, goes_expect, goes_bind, goes_setTables, goes_bind, goes_note]
      apply goes_postInit
      · intro transport hsent
        rw [hbegin] at hsent ⊢
        exact ⟨hsound, .started i hlabel hfree hdropped hsent (Session.view_eq hstate hlane)⟩
      · intro cause transport hsent
        exact .delivery endpoint (.init _) hsent

theorem plays_bringUp (h : s.tables.Sound) {label : Label} {endpoint : Endpoint}
    (hannounced : Announced label endpoint s.journal) :
    Plays (bringUp label endpoint : HubM config τ γ ι H Unit) s := by
  refine Goes.mono (goes_bringUp h label endpoint) (fun _ t ht => ?_)
    fun _ hhalts => ⟨s.view, .refl, hhalts⟩
  obtain ⟨hsound, hbrought⟩ := ht
  cases hbrought with
  | restarted i found dropped revoked sent view =>
    have hknown := label_of_findLabel h.labelled found
    exact .of_move hsound view (.restarted i label endpoint hknown revoked sent hannounced)
  | started i unknown free dropped sent view =>
    exact .of_move hsound view (.started i label endpoint (h.state_of_findFree free) sent
      (label_ne_of_findLabel h unknown) hannounced)
  | passedOver unknown full dropped view =>
    rcases view with view | view
    · refine ⟨hsound, ?_⟩
      rw [view]
    · exact .of_move hsound view (.noted _ trivial)

theorem plays_apply (h : s.tables.Sound) {event : DriverEvent} {older : Journal H}
    (hpolled : s.journal = .polled (.ok (some event)) :: older) :
    Plays (apply event : HubM config τ γ ι H Unit) s := by
  unfold apply
  split
  · rename_i endpoint hstatus hendpoint
    split
    · rename_i label hlabel
      have hannounced : event.announced? = some (label, endpoint) := by
        simp only [DriverEvent.announced?, hstatus, hendpoint, hlabel]
      exact plays_bringUp h ⟨event, older, hpolled, hannounced⟩
    · exact plays_note h _ trivial
  · exact plays_pure h ()

variable {δ : Type} [Discovery δ]

theorem plays_recordPoll (h : s.tables.Sound)
    (answer : Except DiscoveryError (Option DriverEvent)) :
    Plays (recordPoll answer : HubM config τ γ ι H Unit) s :=
  ⟨h, .single (.noted (.polled answer) trivial)⟩

theorem plays_takeEvents (h : s.tables.Sound) (source : δ) :
    Plays (takeEvents source : HubM config τ γ ι H δ) s := by
  -- The recursion is on the changes that are still to be reported.
  induction hbacklog : Discovery.backlog source using Nat.strong_induction_on generalizing source s with
  | _ count ih =>
    rw [takeEvents]
    split
    · rename_i event rest hpoll
      -- The change is acted on right after it was reported.
      have hpolled : Played s { s with journal := .polled (.ok (some event)) :: s.journal } :=
        plays_recordPoll h (.ok (some event))
      rw [Plays, goes_bind, goes_recordPoll]
      refine Plays.from (Plays.bind (plays_apply hpolled.1 rfl) fun _ t ht => ?_) hpolled
      exact ih _ (hbacklog ▸ Discovery.backlog_poll _ _ _ hpoll) ht rest rfl
    · exact Plays.bind (plays_recordPoll h _) fun _ t ht => plays_pure ht _
    · refine Plays.bind (plays_recordPoll h _) fun _ t ht => ?_
      exact Plays.bind (plays_note ht _ trivial) fun _ u hu => plays_pure hu _

theorem plays_sweepEntry (h : s.tables.Sound) (source : δ) (i : Fin config.drivers) :
    Plays (sweepEntry source i : HubM config τ γ ι H Unit) s := by
  unfold sweepEntry
  rw [Plays, goes_bind, goes_tables]
  split
  · rename_i label _ hlabel
    rw [(h.labelled.driver_eq i).2] at hlabel
    have hlooked : Played s { s with
        journal := .lookedUp label (Discovery.isPresent source label) :: s.journal } :=
      ⟨h, .single (.noted (.lookedUp label _) trivial)⟩
    split
    · rw [goes_bind, goes_lookUp]
      split
      · exact hlooked
      · exact (plays_takeDown hlooked.1 (Occupant.ne_free_of_label hlabel)).from hlooked
    · exact plays_pure h ()
  · exact plays_pure h ()

theorem plays_sweep (h : s.tables.Sound) (source : δ) (entries : List (Fin config.drivers)) :
    Plays (sweep source entries : HubM config τ γ ι H Unit) s := by
  induction entries generalizing s with
  | nil => exact plays_pure h ()
  | cons i rest ih => exact Plays.bind (plays_sweepEntry h source i) fun _ t ht => ih ht

theorem plays_reconcile (h : s.tables.Sound) (source : δ) :
    Plays (reconcile source : HubM config τ γ ι H δ) s := by
  refine Plays.bind (plays_takeEvents h source) fun source' t ht => ?_
  exact Plays.bind (plays_sweep ht source' _) fun _ u hu => plays_pure hu _

end Hub
end DriverHub
