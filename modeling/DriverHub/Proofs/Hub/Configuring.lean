import DriverHub.Proofs.Hub.Traceless

/-! Changes that go out. Which parts of a change a driver sees, and whether it gets memory with them, is
read off single bits of two words; whatever other bits are on makes no difference. -/
namespace DriverHub

open Function SessionM

variable {config : Config} {τ γ ι H : Type}

/-- A word covers the mask of a single bit exactly if this bit is on. -/
theorem and_twoPow_eq_iff (word : UInt32) {k : Nat} (hk : k < 32) :
    word &&& UInt32.ofNat (2 ^ k) = UInt32.ofNat (2 ^ k) ↔ word.toNat.testBit k = true := by
  have hmask : (UInt32.ofNat (2 ^ k)).toNat = 2 ^ k := by
    exact Nat.mod_eq_of_lt (Nat.pow_lt_pow_right (by decide) hk)
  rw [← UInt32.toNat_inj, UInt32.toNat_and, hmask, Nat.and_two_pow]
  have hpos : 0 < 2 ^ k := Nat.two_pow_pos k
  cases word.toNat.testBit k with
  | true => simp
  | false =>
    simp only [Bool.toNat_false, zero_mul, Bool.false_eq_true, iff_false]
    omega

theorem ChangeSet.contains_bit (set : ChangeSet) (k : Nat) (hk : k < 32) :
    set.contains ⟨UInt32.ofNat (2 ^ k)⟩ = set.bits.toNat.testBit k := by
  rw [Bool.eq_iff_iff, ← and_twoPow_eq_iff set.bits hk]
  exact decide_eq_true_iff

theorem Mode.contains_bit (mode : Mode) (k : Nat) (hk : k < 32) :
    mode.contains ⟨UInt32.ofNat (2 ^ k)⟩ = mode.bits.toNat.testBit k := by
  rw [Bool.eq_iff_iff, ← and_twoPow_eq_iff mode.bits hk]
  exact decide_eq_true_iff

namespace Change

variable {change : Change}

/-- The mode is selected and asks for reception by a list. -/
def wantsList (change : Change) : Bool :=
  change.set.bits.toNat.testBit 0 && change.mode.bits.toNat.testBit 2

/-- A list is wanted, and there is none or it is empty. -/
def LacksList (change : Change) : Prop :=
  change.wantsList = true ∧ ∀ list, change.multicast = some list → list.count = 0

/-- The list whose memory the driver is to read. A list that is not wanted is not passed on. -/
def passed? (change : Change) : Option MulticastList :=
  if change.wantsList then change.multicast else none

theorem needsList_eq (change : Change) : change.needsList = change.wantsList := by
  have hset : change.set.contains .mode = change.set.bits.toNat.testBit 0 :=
    change.set.contains_bit 0 (by decide)
  have hmode : change.mode.contains .multicastList = change.mode.bits.toNat.testBit 2 :=
    change.mode.contains_bit 2 (by decide)
  rw [needsList, wantsList, hset, hmode]

theorem list?_of_lacksList (h : change.LacksList) : change.list? = .error .missingMulticastList := by
  obtain ⟨hwants, hempty⟩ := h
  unfold list?
  rw [needsList_eq, if_pos hwants]
  cases hlist : change.multicast with
  | none => rfl
  | some list =>
    dsimp only
    rw [if_pos (hempty list hlist)]

theorem list?_of_not_lacksList (h : ¬change.LacksList) : change.list? = .ok change.passed? := by
  unfold list? passed?
  rw [needsList_eq]
  split
  · rename_i hwants
    cases hlist : change.multicast with
    | none =>
      refine absurd ⟨hwants, ?_⟩ h
      intro list hsome
      cases hlist.symm.trans hsome
    | some list =>
      dsimp only
      rw [if_neg]
      intro hempty
      refine h ⟨hwants, ?_⟩
      intro list' hsome
      cases hlist.symm.trans hsome
      exact hempty
  · rfl

/-- The memory of a list is six bytes for each of its addresses. -/
theorem length_region (list : MulticastList) :
    (region list).length.toNat = 6 * list.count.toNat := by
  have hcount := list.count.toNat_lt
  change list.count.toNat * 6 % 2 ^ 64 = 6 * list.count.toNat
  omega

/-- What a driver is sent for a change: the parts that are selected and zero for the others, a grant if one
was made, and the number of addresses behind it. -/
structure Frames (change : Change) (number : UInt32) (grant : Option GrantId)
    (frame : Reconfiguration) : Prop where
  id : frame.id = number
  set : frame.set = change.set
  mode : frame.mode = if change.set.bits.toNat.testBit 0 then change.mode else ⟨0⟩
  capabilities :
    frame.capabilities = if change.set.bits.toNat.testBit 1 then change.capabilities else ⟨0⟩
  flags : frame.flags = if change.set.bits.toNat.testBit 2 then change.flags else 0
  media : frame.media = if change.set.bits.toNat.testBit 3 then change.media else 0
  address : frame.address =
    if change.set.bits.toNat.testBit 4 then change.address else Vector.replicate 6 0
  grant : frame.multicastGrant = grant
  count : frame.multicastCount = (change.passed?.map (·.count)).getD 0

theorem frames_request (change : Change) (number : UInt32) (grant : Option GrantId) :
    change.Frames number grant (change.request number grant change.passed?) where
  id := rfl
  set := rfl
  mode := by
    rw [← change.set.contains_bit 0 (by decide)]
    rfl
  capabilities := by
    rw [← change.set.contains_bit 1 (by decide)]
    rfl
  flags := by
    rw [← change.set.contains_bit 2 (by decide)]
    rfl
  media := by
    rw [← change.set.contains_bit 3 (by decide)]
    rfl
  address := by
    rw [← change.set.contains_bit 4 (by decide)]
    rfl
  grant := rfl
  count := rfl

end Change

section Sharing

variable [GrantTable γ] {endpoint : Endpoint} {grants : List GrantId}

/-- The memory of a list is granted to an endpoint for reading, if there is a list: the grant for it, what
the journal says, and the table afterwards. -/
inductive Shares (endpoint : Endpoint) (g : γ) :
    Option MulticastList → Option GrantId → Journal H → γ → Prop
  | nothing : Shares endpoint g none none [] g
  | granted {list : MulticastList} {segment : Segment} {grant : GrantId} {g' : γ}
      (address : segment.address = list.address)
      (length : segment.length.toNat = 6 * list.count.toNat)
      (created : GrantTable.create g ⟨endpoint, segment, .read⟩ = (some grant, g')) :
      Shares endpoint g (some list) (some grant) [.granted ⟨endpoint, segment, .read⟩ (some grant)] g'

/-- Creating grants for the list of a change is sharing its memory, or refusing to. -/
theorem Creates.shares {list? : Option MulticastList} {g g' : γ} {complete : Bool}
    {journal : Journal H} (h : Creates endpoint .read g (list?.map Change.region).toList grants complete
      journal g') (hcomplete : complete = true) :
    ∃ grant?, grants = grant?.toList ∧ Shares endpoint g list? grant? journal g' := by
  cases list? with
  | none =>
    cases h
    exact ⟨none, rfl, .nothing⟩
  | some list =>
    cases h with
    | refused => cases hcomplete
    | step created others =>
      cases others
      exact ⟨some _, rfl, .granted rfl (Change.length_region list) created⟩

theorem Creates.refuses {list? : Option MulticastList} {g g' : γ} {complete : Bool}
    {journal : Journal H} (h : Creates endpoint .read g (list?.map Change.region).toList grants complete
      journal g') (hcomplete : complete = false) :
    ∃ list, list? = some list ∧ grants = [] ∧
      GrantTable.create g ⟨endpoint, Change.region list, .read⟩ = (none, g') ∧
      journal = [.granted ⟨endpoint, Change.region list, .read⟩ none] := by
  cases list? with
  | none =>
    cases h
    cases hcomplete
  | some list =>
    cases h with
    | refused created => exact ⟨list, rfl, rfl, created, rfl⟩
    | step created others =>
      cases others
      cases hcomplete

end Sharing

namespace Hub

variable [Transport τ] [GrantTable γ]
variable {s t : HubSession config τ γ ι H} {i : Fin config.drivers} {endpoint : Endpoint} {plan : Plan}
variable {change : Change}

/-- The change was posted in one frame, with the memory of its list if one is passed on, and entered the
send queue with the grant for this memory or with none. -/
structure Configured (s : HubSession config τ γ ι H) (i : Fin config.drivers) (endpoint : Endpoint)
    (change : Change) (frame : Reconfiguration) (t : HubSession config τ γ ι H) : Prop where
  frames : change.Frames (s.tables.nextNumber (i, .send)) frame.multicastGrant frame
  shared : ∃ news : Journal H,
    Shares endpoint s.grants change.passed? frame.multicastGrant news t.grants ∧
    t.journal = .posted ⟨i⟩ endpoint (.configure frame) (.ok ()) :: (news ++ s.journal)
  sent : Transport.send s.transport endpoint (.configure frame) = (.ok (), t.transport)
  interface : t.interface = s.interface
  enqueued : ∃ slot, s.tables.Enqueued (i, .send)
    ⟨slot, .configure, .ofList frame.multicastGrant.toList⟩ t.tables

/-- The memory of the list was refused: the table says so, and nothing else has happened. -/
structure Withheld (s : HubSession config τ γ ι H) (endpoint : Endpoint) (list : MulticastList)
    (t : HubSession config τ γ ι H) : Prop where
  refused : GrantTable.create s.grants ⟨endpoint, Change.region list, .read⟩ = (none, t.grants)
  journal : t.journal = .granted ⟨endpoint, Change.region list, .read⟩ none :: s.journal
  undone : Undone s t

omit [Transport τ] [GrantTable γ] in
theorem changePlan_of_not_lacksList (h : ¬change.LacksList) :
    changePlan change = .ok {
      kind := .configure
      segments := (change.passed?.map Change.region).toList
      request := fun number grants => .configure (change.request number grants.head change.passed?) } := by
  unfold changePlan
  rw [Change.list?_of_not_lacksList h]
  rfl

omit [Transport τ] [GrantTable γ] in
theorem head_ofList (grant? : Option GrantId) : (SlotGrants.ofList grant?.toList).head = grant? := by
  cases grant? <;> rfl

/-- What a change that does not lack its list comes to while its driver is active. -/
theorem goes_configure (h : s.tables.Sound) {id : DriverId}
    (hactive : s.tables.active id = .ok (i, endpoint)) (hlist : ¬change.LacksList) :
    let configure : HubM config τ γ ι H (Except Refusal UInt32) := configure id change
    (s.tables.Full i .configure ∨ s.tables.statistics.freeSlots = 0 →
      configure s = .ok (.error .busy) s) ∧
    (¬(s.tables.Full i .configure ∨ s.tables.statistics.freeSlots = 0) →
      (∃ list t, change.passed? = some list ∧ configure s = .ok (.error .noMemory) t ∧
        Withheld s endpoint list t) ∨
      ((∃ grant? news g, Shares (H := H) endpoint s.grants change.passed? grant? news g) ∧
        configure.Goes s
          (fun answer t => ∃ frame, answer = .ok frame.id ∧ Configured s i endpoint change frame t)
          fun fatal => ∃ frame cause transport,
            change.Frames (s.tables.nextNumber (i, .send)) frame.multicastGrant frame ∧
            Transport.send s.transport endpoint (.configure frame) = (.error cause, transport) ∧
            fatal = .delivery (Request.configure frame).type endpoint cause)) := by
  intro configure
  have hask : configure = ask id (changePlan change) := configure_eq_ask ..
  rw [hask, changePlan_of_not_lacksList hlist]
  have hfew : (change.passed?.map Change.region).toList.length ≤ maxSegments := by
    cases change.passed? <;> simp [maxSegments]
  obtain ⟨hbusy, hserved⟩ := ask_exact h hactive {
    kind := .configure
    segments := (change.passed?.map Change.region).toList
    request := fun number grants => .configure (change.request number grants.head change.passed?) } hfew
  refine ⟨hbusy, fun hroom => ?_⟩
  obtain ⟨grants, complete, journal, g, hcreates, hdenied, hgranted⟩ := hserved hroom
  cases complete with
  | false =>
    left
    obtain ⟨list, hpassed, rfl, hrefused, rfl⟩ := Creates.refuses hcreates rfl
    -- There was nothing to revoke, so nothing can fail.
    have hnever (fatal : Fatal) : ¬∃ grant cause, RevokesUpTo grant cause g [] ∧
        fatal = .revocation grant cause := by
      rintro ⟨grant, cause, hrevokes, -⟩
      cases hrevokes
    obtain ⟨answer, t, hrun, rfl, habandoned⟩ := (hdenied rfl).answers_of_never hnever
    refine ⟨list, t, hpassed, hrun, ?_⟩
    have hundone := undone_of_abandoned habandoned h.toStored
    obtain ⟨-, -, -, journal, g', hcreates', hrevokes, hjournal⟩ := habandoned
    cases hrevokes
    obtain ⟨-, -, rfl, rfl⟩ := hcreates.unique hcreates'
    exact ⟨hrefused, hjournal, hundone⟩
  | true =>
    right
    obtain ⟨grant?, rfl, hshares⟩ := Creates.shares hcreates rfl
    have hframes := change.frames_request (s.tables.nextNumber (i, .send)) grant?
    dsimp only at hgranted
    rw [head_ofList grant?] at hgranted
    refine ⟨⟨grant?, _, _, hshares⟩, (hgranted rfl).mono ?_ ?_⟩
    · rintro answer t ⟨rfl, created, sent, interface, hjournal, slot, enqueued⟩
      dsimp only at created sent hjournal enqueued
      rw [head_ofList grant?] at sent hjournal
      obtain ⟨-, -, rfl, rfl⟩ := hcreates.unique created
      exact ⟨_, rfl, hframes, ⟨_, hshares, hjournal⟩, sent, interface, slot, enqueued⟩
    · rintro fatal ⟨cause, transport, hsent, rfl⟩
      exact ⟨_, cause, transport, hframes, hsent, rfl⟩

end Hub

section Runs

variable [Transport τ] [GrantTable γ] [Interface ι H]
variable {heads : LaneId config → UInt32} {custody : Custody γ} {s : HubSession config τ γ ι H}

open Hub in
/-- A change is answered for the first reason in this order: the driver is not known, it is not active, a
list is wanted and lacking, the send queue is busy, or the memory of the list is refused. Otherwise it is
answered with its number, and what was sent for it is exactly what is selected. -/
theorem Reachable.configure_exact (h : Reachable heads custody s) (id : DriverId) (change : Change) :
    let configure : HubM config τ γ ι H (Except Refusal UInt32) := configure id change
    (config.drivers ≤ id.index → configure s = .ok (.error (.unknownDriver id)) s) ∧
    ∀ i : Fin config.drivers, id = ⟨i⟩ →
      (s.tables.state i = .free → configure s = .ok (.error (.unknownDriver id)) s) ∧
      (∀ label endpoint handle, s.tables.state i = .pending label endpoint handle →
        configure s = .ok (.error (.notActive id)) s) ∧
      ∀ label endpoint handle, s.tables.state i = .active label endpoint handle →
        (change.LacksList → configure s = .ok (.error .missingMulticastList) s) ∧
        (¬change.LacksList →
          (s.tables.Full i .configure ∨ s.tables.statistics.freeSlots = 0 →
            configure s = .ok (.error .busy) s) ∧
          (¬(s.tables.Full i .configure ∨ s.tables.statistics.freeSlots = 0) →
            (∃ list t, change.passed? = some list ∧ configure s = .ok (.error .noMemory) t ∧
              Withheld s endpoint list t) ∨
            ((∃ grant? news g, Shares (H := H) endpoint s.grants change.passed? grant? news g) ∧
              configure.Goes s
                (fun answer t => ∃ frame, answer = .ok frame.id ∧
                  Configured s i endpoint change frame t)
                fun fatal => ∃ frame cause transport,
                  change.Frames (s.tables.nextNumber (i, .send)) frame.multicastGrant frame ∧
                  Transport.send s.transport endpoint (.configure frame) = (.error cause, transport) ∧
                  fatal = .delivery (Request.configure frame).type endpoint cause))) := by
  intro configure
  have hrefused {refusal : Refusal}
      (hadmitted : s.tables.admitted id (changePlan change) = .error refusal) :
      configure s = .ok (.error refusal) s := by
    have hask : configure = ask id (changePlan change) := configure_eq_ask ..
    rw [hask]
    exact ask_refused hadmitted
  refine ⟨fun hout => hrefused (admitted_of_inactive (active_outside hout) _), ?_⟩
  rintro i rfl
  have hactive := active_eq h.sound.labelled i
  refine ⟨fun hfree => ?free, fun label endpoint handle hpending => ?pending,
    fun label endpoint handle hstate => ?active⟩
  case free =>
    rw [hfree] at hactive
    exact hrefused (admitted_of_inactive hactive _)
  case pending =>
    rw [hpending] at hactive
    exact hrefused (admitted_of_inactive hactive _)
  case active =>
    rw [hstate] at hactive
    refine ⟨fun hlacks => hrefused ?_, fun hlist => goes_configure h.sound hactive hlist⟩
    unfold changePlan
    rw [Change.list?_of_lacksList hlacks]
    exact admitted_of_unplanned hactive _

end Runs

namespace Trial

/-- A change of mode and address, with bits on that mean nothing and values that are not selected. -/
def mixed : Change where
  set := ⟨0x80000011⟩
  mode := ⟨0x105⟩
  multicast := some ⟨128, 2⟩
  capabilities := ⟨7⟩
  flags := 5
  media := 9
  address := ⟨#[2, 0, 0, 0, 0, 1], rfl⟩

/-- In the short run this change shares the memory of its list and is sent under the number one. -/
theorem mixed_configured : ∃ frame t,
    (Hub.configure ⟨0⟩ mixed : HubM small Outbox GrantLedger CallbackLog Nat _) opened =
      .ok (.ok 1) t ∧
    frame.id = 1 ∧ Hub.Configured opened entry ⟨5⟩ mixed frame t := by
  have hopened : Reachable heads (.any GrantLedger) opened := (started trivial).afterAll _
  have hrun : ∃ t, (Hub.configure ⟨0⟩ mixed :
      HubM small Outbox GrantLedger CallbackLog Nat _) opened = .ok (.ok 1) t := by
    have hanswers : (match (Hub.configure ⟨0⟩ mixed :
          HubM small Outbox GrantLedger CallbackLog Nat _) opened with
        | .ok answer _ => decide (answer = .ok 1)
        | .error _ _ => false) = true := by decide +kernel
    split at hanswers
    · rename_i answer t hrun
      exact ⟨t, by rw [hrun, of_decide_eq_true hanswers]⟩
    · cases hanswers
  obtain ⟨t, hrun⟩ := hrun
  have hactive : opened.tables.state entry = .active label ⟨5⟩ 1 := by cbv
  have hroom : ¬(opened.tables.Full entry .configure ∨ opened.tables.statistics.freeSlots = 0) := by
    unfold Hub.Full
    decide +kernel
  have hlist : ¬mixed.LacksList := by
    rintro ⟨-, hempty⟩
    exact absurd (hempty ⟨128, 2⟩ rfl) (by decide)
  obtain ⟨-, hentry⟩ := Reachable.configure_exact hopened ⟨0⟩ mixed
  obtain ⟨-, -, hserved⟩ := hentry entry rfl
  rcases ((hserved label ⟨5⟩ 1 hactive).2 hlist).2 hroom with
    ⟨list, t', -, hdenied, -⟩ | ⟨-, hgoes⟩
  · cases hrun.symm.trans hdenied
  · obtain ⟨frame, hnumber, hconfigured⟩ := hgoes.of_ok hrun
    exact ⟨frame, t, hrun, (Except.ok.inj hnumber).symm, hconfigured⟩

end Trial
end DriverHub
