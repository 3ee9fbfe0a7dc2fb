import DriverHub.Proofs.Hub.Residue

/-! Two hubs in unison. If the tables of two hubs differ at most in what was left in free slots, the hubs do
the same from then on, whatever happens. -/
namespace DriverHub

open Function SessionM

variable {config : Config} {τ γ ι H α β : Type}

namespace Hub

/-- The actions answer the same and leave tables that resemble each other, or both end for the same reason.
Of the collaborators they ask the same. -/
def Unison (x y : HubM config τ γ ι H α) (s : HubSession config τ γ ι H) (other : Hub config H) : Prop :=
  InStep x y s other (fun a t b other' => b = a ∧ t.tables.Resembles other') fun _ => True

variable {s t : HubSession config τ γ ι H} {other : Hub config H}

theorem Unison.bind {x y : HubM config τ γ ι H α} {f g : α → HubM config τ γ ι H β}
    (h : Unison x y s other)
    (hnext : ∀ a t other', t.tables.Resembles other' → Unison (f a) (g a) t other') :
    Unison (x >>= f) (y >>= g) s other := by
  apply InStep.bind h
  rintro a t b other' ⟨rfl, hresembles⟩
  exact hnext b t other' hresembles

/-- If the first action keeps the tables sound, they are sound when the two go on. -/
theorem Unison.bind_sound {x y : HubM config τ γ ι H α} {f g : α → HubM config τ γ ι H β}
    {ends : Fatal → Prop} (h : Unison x y s other)
    (hsound : x.Goes s (fun _ t => t.tables.Sound) ends)
    (hnext : ∀ a t other', t.tables.Sound → t.tables.Resembles other' →
      Unison (f a) (g a) t other') :
    Unison (x >>= f) (y >>= g) s other := by
  apply InStep.bind (h.and_goes hsound)
  rintro a t b other' ⟨⟨rfl, hresembles⟩, hsound'⟩
  exact hnext b t other' hsound' hresembles

theorem unison_blind {x : HubM config τ γ ι H α} (hblind : Blind x)
    (hresembles : s.tables.Resembles other) : Unison x x s other := by
  apply (hblind s other).mono
  rintro a t b other' ⟨hb, htables, rfl⟩
  rw [htables]
  exact ⟨hb, hresembles⟩

theorem unison_setTables {hub hub' : Hub config H} (hresembles : hub.Resembles hub') :
    Unison (setTables hub) (setTables hub') s other := ⟨(), hub', rfl, rfl, hresembles⟩

section Starting

variable [Transport τ] {i : Fin config.drivers}

theorem unison_postInit (hresembles : s.tables.Resembles other) (endpoint : Endpoint) :
    Unison (postInit i endpoint) (postInit i endpoint) s other := by
  obtain ⟨pool, hpool, rfl⟩ := hresembles
  unfold postInit
  apply inStep_tables
  exact unison_blind (blind_post _ _ _) ⟨pool, hpool, rfl⟩

variable [GrantTable γ]

omit [Transport τ] in
theorem unison_cancelRequests (h : s.tables.Stored) (hresembles : s.tables.Resembles other) :
    Unison (cancelRequests i) (cancelRequests i) s other := by
  unfold cancelRequests
  apply inStep_tables
  apply inStep_expect (cancelled_alike h hresembles i)
  · rintro ⟨grants, hub⟩ ⟨grants', hub'⟩ ⟨rfl, hresembles'⟩
    apply inStep_setTables
    exact unison_blind (blind_revokeGrants _) hresembles'
  · exact fun _ _ => trivial

variable [Interface ι H]

theorem unison_restart (h : s.tables.Stored) (hresembles : s.tables.Resembles other)
    (endpoint : Endpoint) : Unison (restart i endpoint) (restart i endpoint) s other := by
  have hlast (u : HubSession config τ γ ι H) (other : Hub config H)
      (hresembles : u.tables.Resembles other) :
      Unison (do note (.restarted ⟨i⟩ endpoint); postInit i endpoint)
        (do note (.restarted ⟨i⟩ endpoint); postInit i endpoint) u other := by
    apply (unison_blind (blind_note _) hresembles).bind
    intro _ v other' hresembles'
    exact unison_postInit hresembles' endpoint
  unfold restart
  apply (unison_cancelRequests h hresembles).bind
  intro _ t other' hresembles'
  apply inStep_tables
  apply inStep_expect (begun_alike hresembles' i)
  · rintro hub hub' ⟨pool, hpool, rfl⟩
    have hdriver : (({ hub with pool } : Hub config H).driver i).state = (hub.driver i).state := rfl
    dsimp only
    rw [hdriver]
    cases hstate : (hub.driver i).state with
    | free => exact (unison_blind (blind_fail _) hresembles').bind fun _ => hlast
    | pending endpoint' handle =>
      apply inStep_setTables
      exact hlast _ _ ⟨pool, hpool, rfl⟩
    | active endpoint' handle =>
      apply inStep_blind (blind_disableInterface _ _)
      intro _ u _
      apply inStep_setTables
      exact hlast _ _ ⟨pool, hpool, rfl⟩
  · exact fun _ _ => trivial

omit [Transport τ] in
theorem unison_takeDown (h : s.tables.Stored) (hresembles : s.tables.Resembles other) :
    Unison (takeDown i) (takeDown i) s other := by
  have hlast (u : HubSession config τ γ ι H) (other : Hub config H) (endpoint : Endpoint)
      {hub hub' : Hub config H} (hresembles : hub.Resembles hub') :
      Unison (do note (.gone ⟨i⟩ endpoint); setTables (hub.freed i))
        (do note (.gone ⟨i⟩ endpoint); setTables (hub'.freed i)) u other := by
    apply inStep_blind (blind_note _)
    intro _ v _
    exact unison_setTables (hresembles.freed i)
  unfold takeDown
  apply (unison_cancelRequests h hresembles).bind
  intro _ t other' hresembles'
  apply inStep_tables
  have hdriver : (other'.driver i).state = (t.tables.driver i).state := hresembles'.state i
  dsimp only
  rw [hdriver]
  cases (t.tables.driver i).state with
  | free => exact unison_blind (blind_fail _) hresembles'
  | pending endpoint handle =>
    apply inStep_expect (settled_alike hresembles')
    · intro hub hub' hresembles''
      cases handle with
      | none => exact hlast _ _ endpoint hresembles''
      | some handle =>
        apply inStep_blind (blind_removeInterface _ _)
        intro _ u _
        exact hlast _ _ endpoint hresembles''
    · exact fun _ _ => trivial
  | active endpoint handle =>
    apply inStep_blind (blind_removeInterface _ _)
    intro _ u _
    exact hlast _ _ endpoint hresembles'

theorem unison_bringUp (h : s.tables.Stored) (hresembles : s.tables.Resembles other)
    (label : Label) (endpoint : Endpoint) :
    Unison (bringUp label endpoint) (bringUp label endpoint) s other := by
  have hfind : other.findLabel label = s.tables.findLabel label := by
    obtain ⟨pool, -, rfl⟩ := hresembles
    rfl
  have hfree : other.findFree = s.tables.findFree := by
    obtain ⟨pool, -, rfl⟩ := hresembles
    rfl
  unfold bringUp
  apply inStep_tables
  rw [hfind]
  cases s.tables.findLabel label with
  | some i => exact unison_restart h hresembles endpoint
  | none =>
    dsimp only
    rw [hfree]
    cases s.tables.findFree with
    | none =>
      obtain ⟨pool, hpool, rfl⟩ := hresembles
      apply inStep_setTables
      dsimp only
      split
      · exact unison_blind (blind_pure _) ⟨pool, hpool, rfl⟩
      · exact unison_blind (blind_note _) ⟨pool, hpool, rfl⟩
    | some i =>
      apply inStep_expect (begun_alike (hresembles.occupied i label endpoint) i)
      · intro hub hub' hresembles'
        apply inStep_setTables
        apply Unison.bind (unison_blind (blind_note _) hresembles')
        intro _ t other' hresembles''
        exact unison_postInit hresembles'' endpoint
      · exact fun _ _ => trivial

theorem unison_apply (h : s.tables.Stored) (hresembles : s.tables.Resembles other)
    (event : DriverEvent) : Unison (apply event) (apply event) s other := by
  unfold apply
  split
  · split
    · exact unison_bringUp h hresembles _ _
    · exact unison_blind (blind_note _) hresembles
  · exact unison_blind (blind_pure _) hresembles

theorem goes_apply_sound (h : s.tables.Sound) (event : DriverEvent) :
    (apply event : HubM config τ γ ι H Unit).Goes s (fun _ t => t.tables.Sound) (fun _ => True) := by
  unfold apply
  split
  · split
    · exact (goes_bringUp h _ _).mono (fun _ _ ht => ht.1) fun _ _ => trivial
    · exact h
  · exact h

end Starting

section Reconciling

variable [Transport τ] [GrantTable γ] [Interface ι H] {δ : Type} [Discovery δ]

theorem unison_takeEvents (h : s.tables.Sound) (hresembles : s.tables.Resembles other) (source : δ) :
    Unison (takeEvents source) (takeEvents source) s other := by
  -- The recursion is on the changes that are still to be reported.
  induction hbacklog : Discovery.backlog source using Nat.strong_induction_on
    generalizing source s other with
  | _ count ih =>
    rw [takeEvents]
    split
    · rename_i event rest hpoll
      apply inStep_blind (blind_recordPoll _)
      intro _ t htables
      rw [← htables] at h hresembles
      apply (unison_apply h.toStored hresembles event).bind_sound (goes_apply_sound h event)
      intro _ u other' hsound hresembles'
      exact ih _ (hbacklog ▸ Discovery.backlog_poll _ _ _ hpoll) hsound hresembles' rest rfl
    · apply Unison.bind (unison_blind (blind_recordPoll _) hresembles)
      intro _ t other' hresembles'
      exact unison_blind (blind_pure _) hresembles'
    · apply Unison.bind (unison_blind (blind_recordPoll _) hresembles)
      intro _ t other' hresembles'
      exact unison_blind ((blind_note _).bind fun _ => blind_pure _) hresembles'

omit [Transport τ] in
theorem unison_sweepEntry (h : s.tables.Stored) (hresembles : s.tables.Resembles other) (source : δ)
    (i : Fin config.drivers) : Unison (sweepEntry source i) (sweepEntry source i) s other := by
  have hdriver : other.driver i = s.tables.driver i := by
    obtain ⟨pool, -, rfl⟩ := hresembles
    rfl
  have hmark : other.highWater = s.tables.highWater := by
    obtain ⟨pool, -, rfl⟩ := hresembles
    rfl
  unfold sweepEntry
  apply inStep_tables
  rw [hdriver, hmark]
  split
  · split
    · apply inStep_blind (blind_lookUp _ _)
      intro present t htables
      rw [← htables] at h hresembles
      split
      · exact unison_blind (blind_pure _) hresembles
      · exact unison_takeDown h hresembles
    · exact unison_blind (blind_pure _) hresembles
  · exact unison_blind (blind_pure _) hresembles

theorem unison_sweep (h : s.tables.Sound) (hresembles : s.tables.Resembles other) (source : δ)
    (entries : List (Fin config.drivers)) :
    Unison (sweep source entries) (sweep source entries) s other := by
  induction entries generalizing s other with
  | nil => exact unison_blind (blind_pure _) hresembles
  | cons i rest ih =>
    have hgoes := (plays_sweepEntry h source i).mono (fun _ _ ht => ht.1) fun _ _ => trivial
    apply (unison_sweepEntry h.toStored hresembles source i).bind_sound hgoes
    intro _ t other' hsound hresembles'
    exact ih hsound hresembles'

theorem unison_reconcile (h : s.tables.Sound) (hresembles : s.tables.Resembles other) (source : δ) :
    Unison (reconcile source) (reconcile source) s other := by
  have hgoes := (plays_takeEvents h source).mono (fun _ _ ht => ht.1) fun _ _ => trivial
  unfold reconcile
  apply (unison_takeEvents h hresembles source).bind_sound hgoes
  intro rest t other' hsound hresembles'
  apply (unison_sweep hsound hresembles' rest _).bind
  intro _ u other'' hresembles''
  exact unison_blind (blind_pure _) hresembles''

end Reconciling

section Replies

variable [GrantTable γ] [Interface ι H] {i : Fin config.drivers}

theorem unison_enable (h : s.tables.Sound) (hresembles : s.tables.Resembles other) {label : Label}
    {endpoint : Endpoint} {handle? : Option H}
    (hpending : s.tables.state i = .pending label endpoint handle?) (handle : H) (isNew : Bool)
    (name : InterfaceName) (reply : InitReply) :
    Unison (enable i endpoint handle isNew name reply) (enable i endpoint handle isNew name reply)
      s other := by
  have hseated : s.tables.setState i (.pending endpoint (some handle)) =
      s.tables.seated i (.pending label endpoint (some handle)) :=
    setState_eq_seated (.pending label endpoint (some handle)) (by rw [hpending]; rfl) h.labelled
  have hopened : (s.tables.setState i (.pending endpoint (some handle))).opened i
      reply.maxSend reply.maxReceive |>.Stored := by
    rw [hseated]
    exact (h.opened hpending (some handle) reply.maxSend reply.maxReceive rfl).1.toStored
  have hresembles' := (hresembles.setState i (.pending endpoint (some handle))).opened i
    reply.maxSend reply.maxReceive
  unfold enable
  apply inStep_tables
  apply inStep_setTables
  apply inStep_blind (blind_expect _)
  intro enablement u htold
  dsimp only at htold
  rw [← htold] at hopened hresembles'
  apply inStep_blind (blind_enableInterface _ _ _)
  intro answer t htables
  rw [← htables] at hopened hresembles'
  cases answer with
  | true =>
    apply inStep_tables
    apply inStep_expect (settled_alike hresembles')
    · intro hub hub' hresembles''
      apply Unison.bind (unison_setTables (hresembles''.setState i _))
      intro _ u other' hlast
      exact unison_blind (blind_note _) hlast
    · exact fun _ _ => trivial
  | false =>
    apply inStep_blind (blind_note _)
    intro _ u htables'
    rw [← htables'] at hopened hresembles'
    exact unison_takeDown hopened hresembles'

theorem unison_accept (h : s.tables.Sound) (hresembles : s.tables.Resembles other) {label : Label}
    {endpoint : Endpoint} {handle? : Option H}
    (hpending : s.tables.state i = .pending label endpoint handle?) (name : InterfaceName)
    (reply : InitReply) :
    Unison (accept i endpoint handle? name reply) (accept i endpoint handle? name reply) s other := by
  unfold accept
  cases handle? with
  | some handle => exact unison_enable h hresembles hpending handle false name reply
  | none =>
    apply inStep_blind (blind_addInterface _ _ _)
    intro answer t htables
    rw [← htables] at h hresembles hpending
    cases answer with
    | some handle => exact unison_enable h hresembles hpending handle true name reply
    | none =>
      apply inStep_blind (blind_note _)
      intro _ u htables'
      rw [← htables'] at h hresembles
      exact unison_takeDown h.toStored hresembles

theorem unison_initReply (h : s.tables.Sound) (hresembles : s.tables.Resembles other)
    (reply : InitReply) : Unison (initReply i reply) (initReply i reply) s other := by
  have hdriver : (other.driver i).state = (s.tables.driver i).state := hresembles.state i
  have hhead : (other.driver i).send.head = (s.tables.driver i).send.head := by
    obtain ⟨pool, -, rfl⟩ := hresembles
    rfl
  unfold initReply
  apply inStep_tables
  rw [hdriver, hhead, (h.labelled.driver_eq i).1]
  cases hstate : s.tables.state i with
  | pending label endpoint handle? =>
    dsimp only [Occupant.driverState]
    split
    · exact unison_blind (blind_note _) hresembles
    · cases reply.checked with
      | ok name => exact unison_accept h hresembles hstate name reply
      | error fault =>
        apply inStep_blind (blind_note _)
        intro _ t htables
        rw [← htables] at h hresembles
        exact unison_takeDown h.toStored hresembles
  | _ => exact unison_blind (blind_note _) hresembles

theorem unison_finish (h : s.tables.Stored) (hresembles : s.tables.Resembles other)
    (kind : RequestKind) (number : UInt32) (result : Int32) :
    Unison (finish i kind number result) (finish i kind number result) s other := by
  have hdriver : (other.driver i).state = (s.tables.driver i).state := hresembles.state i
  unfold finish
  apply inStep_tables
  rw [hdriver]
  cases (s.tables.driver i).state with
  | active endpoint handle =>
    apply inStep_expect (completed?_alike h hresembles i kind number)
    · intro done done' hdone
      cases hdone with
      | none => exact unison_blind (blind_note _) hresembles
      | @some done done' hdone =>
        obtain ⟨grants, hub⟩ := done
        obtain ⟨grants', hub'⟩ := done'
        obtain ⟨rfl, hresembles'⟩ := hdone
        apply inStep_setTables
        exact unison_blind ((blind_revokeGrants _).bind fun _ => blind_reportFinished _ _ _ _)
          hresembles'
    · exact fun _ _ => trivial
  | _ => exact unison_blind (blind_note _) hresembles

variable [Transport τ]

omit [GrantTable γ] in
theorem unison_takeStatus (hresembles : s.tables.Resembles other) (number : UInt32)
    (report : StatusReport) :
    Unison (takeStatus i number report) (takeStatus i number report) s other := by
  have hdriver : (other.driver i).state = (s.tables.driver i).state := hresembles.state i
  unfold takeStatus
  apply inStep_tables
  rw [hdriver]
  cases (s.tables.driver i).state with
  | active endpoint handle =>
    exact unison_blind ((blind_reportStatus _ _ _).bind fun _ => blind_post _ _ _) hresembles
  | _ => exact unison_blind (blind_note _) hresembles

theorem unison_process (h : s.tables.Sound) (hresembles : s.tables.Resembles other)
    (endpoint : Endpoint) (reply : Reply) :
    Unison (process endpoint reply) (process endpoint reply) s other := by
  have hfind : other.findEndpoint endpoint = s.tables.findEndpoint endpoint := by
    obtain ⟨pool, -, rfl⟩ := hresembles
    rfl
  unfold process
  apply inStep_tables
  rw [hfind]
  cases s.tables.findEndpoint endpoint with
  | none => exact unison_blind (blind_note _) hresembles
  | some i =>
    cases reply with
    | init reply => exact unison_initReply h hresembles reply
    | finished kind number result => exact unison_finish h.toStored hresembles kind number result
    | status number report => exact unison_takeStatus hresembles number report

theorem unison_processFrame (h : s.tables.Sound) (hresembles : s.tables.Resembles other)
    (endpoint : Endpoint) (bytes : List UInt8) :
    Unison (processFrame endpoint bytes) (processFrame endpoint bytes) s other := by
  unfold processFrame
  apply inStep_blind (blind_expect _)
  intro decoded t htables
  rw [← htables] at h hresembles
  split
  · exact unison_process h hresembles endpoint _
  · exact unison_blind (blind_note _) hresembles
  · exact unison_blind (blind_note _) hresembles

end Replies

section Requests

variable [Transport τ] [GrantTable γ] {i : Fin config.drivers}

omit [Transport τ] [GrantTable γ] in
/-- The same requests are admitted, under the same tickets. -/
theorem admitted_alike {hub hub' : Hub config H} (hresembles : hub.Resembles hub') (id : DriverId)
    (plan : Except Refusal Plan) :
    (∃ refusal, hub.admitted id plan = .error refusal ∧ hub'.admitted id plan = .error refusal) ∨
    ∃ i endpoint ticket primed primed' p,
      hub.admitted id plan = .ok (⟨i, endpoint, ticket, { hub with pool := primed }⟩, p) ∧
      hub'.admitted id plan = .ok (⟨i, endpoint, ticket, { hub with pool := primed' }⟩, p) ∧
      (hub.queues (i, p.kind.direction)).reserve hub.pool p.kind = some (ticket, primed) ∧
      primed.AgreeBut ({j | j ∈ hub.pool.free} \ {ticket.slot}) primed' := by
  obtain ⟨pool, hpool, rfl⟩ := hresembles
  have hsame : ({ hub with pool } : Hub config H).active id = hub.active id := rfl
  cases hactive : hub.active id with
  | error refusal =>
    left
    refine ⟨refusal, ?_, ?_⟩
    · rw [admitted, hactive]
      rfl
    · rw [admitted, hsame, hactive]
      rfl
  | ok found =>
    obtain ⟨i, endpoint⟩ := found
    cases plan with
    | error refusal =>
      left
      refine ⟨refusal, ?_, ?_⟩
      · rw [admitted, hactive]
        rfl
      · rw [admitted, hsame, hactive]
        rfl
    | ok p =>
      rw [admitted_of_reserve hactive p, admitted_of_reserve (hsame.trans hactive) p]
      rcases Queue.reserve_alike (hub.queues (i, p.kind.direction)) hpool p.kind with
        ⟨hnone, hnone'⟩ | ⟨ticket, primed, primed', hsome, hsome', hprimed⟩
      · left
        have hbusy : hub.reserve i endpoint p.kind = .error .busy := reserve_of_none hnone endpoint
        have hbusy' : ({ hub with pool } : Hub config H).reserve i endpoint p.kind = .error .busy :=
          reserve_of_none hnone' endpoint
        refine ⟨.busy, ?_, ?_⟩
        · rw [hbusy]
          rfl
        · rw [hbusy']
          rfl
      · right
        have hok : hub.reserve i endpoint p.kind =
            .ok ⟨i, endpoint, ticket, { hub with pool := primed }⟩ := reserve_of_some hsome endpoint
        have hok' : ({ hub with pool } : Hub config H).reserve i endpoint p.kind =
            .ok ⟨i, endpoint, ticket, { hub with pool := primed' }⟩ := reserve_of_some hsome' endpoint
        refine ⟨i, endpoint, ticket, primed, primed', p, ?_, ?_, hsome, hprimed⟩
        · rw [hok]
          rfl
        · rw [hok']
          rfl

theorem unison_issue (h : s.tables.Stored) {endpoint : Endpoint} {plan : Plan}
    {ticket : Ticket config.slots} {primed primed' : SlotPool config.slots}
    (hreserve : (s.tables.queues (i, plan.kind.direction)).reserve s.tables.pool plan.kind =
      some (ticket, primed))
    (hprimed : primed.AgreeBut ({j | j ∈ s.tables.pool.free} \ {ticket.slot}) primed')
    (access : Access) (segments : List Segment) (request : SlotGrants → Request) :
    Unison (issue ⟨i, endpoint, ticket, { s.tables with pool := primed }⟩ access segments request)
      (issue ⟨i, endpoint, ticket, { s.tables with pool := primed' }⟩ access segments request)
      s other := by
  unfold issue
  apply inStep_setTables
  apply inStep_blind (blind_createGrants _ _ _)
  rintro ⟨grants, complete⟩ t htables
  cases complete with
  | true =>
    apply inStep_blind (blind_expect _)
    intro placed v _
    have hcommitted := committed_alike h hreserve hprimed placed
    apply inStep_setTables
    apply inStep_blind (blind_post _ _ _)
    intro _ u htables'
    apply inStep_tables
    rw [htables']
    apply inStep_expect hcommitted
    · intro hub hub' hresembles
      apply Unison.bind (unison_setTables hresembles)
      intro _ v other' hresembles'
      exact unison_blind (blind_pure _) hresembles'
    · exact fun _ _ => trivial
  | false =>
    -- The slot is free as before.
    have hresembles : ({ s.tables with pool := primed } : Hub config H).Resembles
        { s.tables with pool := primed' } := by
      obtain ⟨layout, -, -, hl, hl', -⟩ := h.reserved .none hreserve
      have hfree : primed.free = s.tables.pool.free := hl'.free_eq.symm.trans hl.free_eq
      have hagree : ({ s.tables with pool := primed } : Hub config H).AgreeBut
          ({j | j ∈ s.tables.pool.free} \ {ticket.slot}) { s.tables with pool := primed' } :=
        ⟨primed', hprimed, rfl⟩
      apply hagree.resembles
      rintro slot ⟨hslot, -⟩
      change slot ∈ primed.free
      rw [hfree]
      exact hslot
    dsimp only at htables hresembles
    rw [← htables] at hresembles
    exact unison_blind ((blind_revokeGrants _).bind fun _ => blind_pure _) hresembles

theorem unison_ask (h : s.tables.Stored) (hresembles : s.tables.Resembles other) (id : DriverId)
    (plan : Except Refusal Plan) : Unison (ask id plan) (ask id plan) s other := by
  unfold ask
  apply inStep_tables
  rcases admitted_alike hresembles id plan with ⟨refusal, hrefused, hrefused'⟩ |
    ⟨i, endpoint, ticket, primed, primed', p, hadmitted, hadmitted', hreserve, hprimed⟩
  · rw [hrefused, hrefused']
    exact unison_blind (blind_pure _) hresembles
  · rw [hadmitted, hadmitted']
    exact unison_issue h hreserve hprimed _ _ _

end Requests

end Hub
end DriverHub
