import DriverHub.Proofs.Hub.Table
import DriverHub.Proofs.InMemory.Hosted

/-! What the collaborators in memory count: grants created, live and revoked, and interfaces added. -/
namespace DriverHub

open Function SessionM

variable {config : Config}

namespace GrantLedger

/-- Every grant that was created is live or revoked, and numbers are given out in order. -/
structure Counted (ledger : GrantLedger) : Prop where
  total : ledger.next = ledger.live.length + ledger.revoked.size
  below : ∀ entry ∈ ledger.live, entry.1.index < ledger.next
  nodup : (ledger.live.map Prod.fst).Nodup

theorem Counted.of_create {ledger ledger' : GrantLedger} (h : ledger.Counted) {grant : Grant}
    {answer : Option GrantId} (hcreate : GrantTable.create ledger grant = (answer, ledger')) :
    ledger'.Counted := by
  rcases create_cases ledger grant with ⟨budget, hnone⟩ | ⟨budget, id, hid, hsome⟩
  · cases hnone.symm.trans hcreate
    exact ⟨h.total, h.below, h.nodup⟩
  · cases hsome.symm.trans hcreate
    refine ⟨?_, fun entry hentry => ?_, ?_⟩
    · change ledger.next + 1 = ledger.live.length + 1 + ledger.revoked.size
      rw [h.total]
      omega
    · rcases List.mem_cons.mp hentry with rfl | hentry
      · exact hid.trans_lt (Nat.lt_succ_self _)
      · exact (h.below entry hentry).trans (Nat.lt_succ_self _)
    · rw [List.map_cons, List.nodup_cons]
      refine ⟨fun hmem => ?_, h.nodup⟩
      obtain ⟨entry, hentry, rfl⟩ := List.mem_map.mp hmem
      have hlt := h.below entry hentry
      omega

/-- Taking out one of several different grants leaves one fewer. -/
theorem length_filter_ne {live : List (GrantId × Grant)} (h : (live.map Prod.fst).Nodup)
    {id : GrantId} (hid : id ∈ live.map Prod.fst) :
    (live.filter (·.1 ≠ id)).length + 1 = live.length := by
  induction live with
  | nil => cases hid
  | cons entry rest ih =>
    rw [List.map_cons, List.nodup_cons] at h
    by_cases hentry : entry.1 = id
    · have hothers : rest.filter (·.1 ≠ id) = rest := by
        rw [List.filter_eq_self]
        intro other hother
        rw [decide_eq_true_eq]
        rintro rfl
        exact h.1 (hentry ▸ List.mem_map_of_mem hother)
      rw [List.filter_cons_of_neg (by simpa using hentry), hothers, List.length_cons]
    · rcases List.mem_cons.mp hid with heq | hid
      · exact absurd heq.symm hentry
      · rw [List.filter_cons_of_pos (by simpa using hentry), List.length_cons, ih h.2 hid,
          List.length_cons]

theorem eq_of_revoke_error {ledger ledger' : GrantLedger} {id : GrantId} {cause : GrantError}
    (h : GrantTable.revoke ledger id = (.error cause, ledger')) : ledger' = ledger := by
  change ledger.revoke id = _ at h
  unfold revoke at h
  split at h
  · cases h
    rfl
  · split at h
    · cases h
    · cases h
      rfl

theorem next_revoke (ledger : GrantLedger) (id : GrantId) :
    (ledger.revoke id).2.next = ledger.next := by
  unfold revoke
  split
  · rfl
  · split <;> rfl

theorem Counted.of_revoke {ledger ledger' : GrantLedger} (h : ledger.Counted) {id : GrantId}
    {answer : Except GrantError Unit} (hrevoke : GrantTable.revoke ledger id = (answer, ledger')) :
    ledger'.Counted := by
  cases answer with
  | error cause => exact eq_of_revoke_error hrevoke ▸ h
  | ok =>
    obtain ⟨-, hlive, rfl⟩ := revoke_eq_ok_iff.mp hrevoke
    have hid : id ∈ ledger.live.map Prod.fst := by
      rw [isLive, grant?, Option.isSome_map, List.find?_isSome] at hlive
      obtain ⟨entry, hentry, heq⟩ := hlive
      rw [decide_eq_true_eq] at heq
      exact heq ▸ List.mem_map_of_mem hentry
    have hlength := length_filter_ne h.nodup hid
    refine ⟨?_, fun entry hentry => h.below entry (List.mem_of_mem_filter hentry), ?_⟩
    · change ledger.next = (ledger.live.filter (·.1 ≠ id)).length + (ledger.revoked.push id).size
      rw [Array.size_push, h.total]
      omega
    · exact h.nodup.sublist ((List.filter_sublist ..).map Prod.fst)

/-- Where a ledger ran out of grants, its budget is used up, or its numbers are. -/
theorem exhausted_of_create {ledger ledger' : GrantLedger} {grant : Grant}
    (hcreate : GrantTable.create ledger grant = (none, ledger')) :
    ledger'.budget = some 0 ∨ 2 ^ 31 ≤ ledger'.next := by
  rcases ledger.create_outcomes grant with ⟨hbudget, hnone⟩ | ⟨-, ⟨hle, hnone⟩ | ⟨hlt, hsome⟩⟩
  · cases hnone.symm.trans hcreate
    exact .inl hbudget
  · cases hnone.symm.trans hcreate
    exact .inr hle
  · cases hsome.symm.trans hcreate

theorem exhausted_of_creates {H : Type} {endpoint : Endpoint} {access : Access}
    {ledger ledger' : GrantLedger} {segments : List Segment} {grants : List GrantId}
    {complete : Bool} {journal : Journal H}
    (h : Creates endpoint access ledger segments grants complete journal ledger')
    (hincomplete : complete = false) : ledger'.budget = some 0 ∨ 2 ^ 31 ≤ ledger'.next := by
  induction h with
  | done => cases hincomplete
  | refused created => exact exhausted_of_create created
  | step _ _ ih => exact ih hincomplete

theorem exhausted_of_revoke {ledger ledger' : GrantLedger} {id : GrantId}
    (h : ledger.budget = some 0 ∨ 2 ^ 31 ≤ ledger.next)
    (hrevoke : GrantTable.revoke ledger id = (.ok (), ledger')) :
    ledger'.budget = some 0 ∨ 2 ^ 31 ≤ ledger'.next := by
  obtain ⟨-, -, rfl⟩ := revoke_eq_ok_iff.mp hrevoke
  exact h

end GrantLedger

namespace CallbackLog

variable {log log' : CallbackLog}

/-- An interface gets the next number, unless the log refuses. -/
theorem add_cases {driver : DriverId} {name : InterfaceName} {capabilities : Capabilities}
    {answer : Option Nat} (h : Interface.add log driver name capabilities = (answer, log')) :
    answer = none ∧ log' = log ∨ answer = some (log.count + 1) ∧
      log' = { log with count := log.count + 1 }.keep
        (.added (log.count + 1) driver name capabilities) := by
  change (if log.refusesAdd then (none, log) else (some (log.count + 1), _)) = _ at h
  split at h
  · cases h
    exact .inl ⟨rfl, rfl⟩
  · cases h
    exact .inr ⟨rfl, rfl⟩

theorem enable_cases {handle : Nat} {enablement : Enablement} {answer : Bool}
    (h : Interface.enable log handle enablement = (answer, log')) :
    answer = false ∧ log' = log ∨
      answer = true ∧ log' = log.keep (.enabled handle enablement) := by
  change (if log.refusesEnable then (false, log) else (true, log.keep _)) = _ at h
  split at h
  · cases h
    exact .inl ⟨rfl, rfl⟩
  · cases h
    exact .inr ⟨rfl, rfl⟩

theorem count_of_enable {handle : Nat} {enablement : Enablement} {answer : Bool}
    (h : Interface.enable log handle enablement = (answer, log')) : log'.count = log.count := by
  rcases enable_cases h with ⟨-, rfl⟩ | ⟨-, rfl⟩ <;> rfl

theorem count_of_add {driver : DriverId} {name : InterfaceName} {capabilities : Capabilities}
    {answer : Option Nat} (h : Interface.add log driver name capabilities = (answer, log')) :
    log'.count = log.count + answer.isSome.toNat := by
  rcases add_cases h with ⟨rfl, rfl⟩ | ⟨rfl, rfl⟩ <;> rfl

end CallbackLog

/-- The interface layer added an interface. -/
def Entry.isAddition {H : Type} : Entry H → Bool
  | .added _ _ _ (some _) => true
  | _ => false

/-- How many interfaces the interface layer has added. -/
def additions {H : Type} (journal : Journal H) : Nat := journal.countP Entry.isAddition

namespace View

variable {v w : View config Outbox GrantLedger CallbackLog Nat}

/-- No more interfaces are counted than were added. -/
def Adds (v w : View config Outbox GrantLedger CallbackLog Nat) : Prop :=
  w.interface.count + additions v.journal ≤ v.interface.count + additions w.journal

theorem adds_of_suffix (hcount : w.interface.count = v.interface.count)
    (hsuffix : v.journal <:+ w.journal) : v.Adds w := by
  have hle : additions v.journal ≤ additions w.journal := hsuffix.sublist.countP_le
  unfold Adds
  omega

theorem count_quieted (state : Occupant Nat) (log : CallbackLog) :
    (state.quieted log).count = log.count := by
  cases state <;> rfl

theorem count_withdrawn (state : Occupant Nat) (log : CallbackLog) :
    (state.withdrawn log).count = log.count := by
  unfold Occupant.withdrawn
  split <;> rfl

/-- An interface is counted when it is added. -/
theorem adds_of_hires {driver : DriverId} {name : InterfaceName} {capabilities : Capabilities}
    {interface : CallbackLog} {journal : Journal Nat} {handle? : Option Nat} {handle : Nat}
    {isNew : Bool}
    (h : Hires driver name capabilities v.interface v.journal handle? handle isNew interface journal)
    (hcount : w.interface.count = interface.count) (hsuffix : journal <:+ w.journal) : v.Adds w := by
  have hle : additions journal ≤ additions w.journal := hsuffix.sublist.countP_le
  cases h with
  | kept => exact adds_of_suffix hcount hsuffix
  | added added =>
    have hone := CallbackLog.count_of_add added
    have hmore : additions (.added driver name capabilities (some handle) :: v.journal) =
        additions v.journal + 1 := List.countP_cons_of_pos rfl
    rw [Option.isSome_some, Bool.toNat_true] at hone
    unfold Adds
    omega

theorem Move.adds (hmove : Move v w) : v.Adds w := by
  have hsuffix := hmove.suffix
  cases hmove with
  | restarted i => exact adds_of_suffix (count_quieted ..) hsuffix
  | gone i => exact adds_of_suffix (count_withdrawn ..) hsuffix
  | turnedAway i label endpoint name capabilities pending refused =>
    exact adds_of_suffix (CallbackLog.count_of_add refused) hsuffix
  | activated i label endpoint reply name pending latest checked hires enabled =>
    exact adds_of_hires hires (CallbackLog.count_of_enable enabled) (List.suffix_append [_, _] _)
  | refused i label endpoint reply name pending latest checked hires refused =>
    have hcount := CallbackLog.count_of_enable refused
    exact adds_of_hires hires hcount (List.suffix_append [_, _, _, _] _)
  | _ => exact adds_of_suffix rfl hsuffix

/-- Interfaces are numbered in order, and no two drivers have the same one. -/
structure Handled (v : View config Outbox GrantLedger CallbackLog Nat) : Prop where
  below : ∀ i handle, (v.state i).handle? = some handle → handle ≤ v.interface.count
  apart : Apart Occupant.handle? v.state

theorem Handled.replaced (h : v.Handled) {i : Fin config.drivers} {state : Occupant Nat}
    (hstate : w.state = update v.state i state) (hcount : v.interface.count ≤ w.interface.count)
    (hnew : ∀ handle, state.handle? = some handle → handle ≤ w.interface.count ∧
      ∀ j, j ≠ i → (v.state j).handle? ≠ some handle) : w.Handled := by
  constructor
  · intro j handle hj
    rw [hstate, update_apply] at hj
    split at hj
    · exact (hnew handle hj).1
    · exact (h.below j handle hj).trans hcount
  · rw [hstate]
    exact h.apart.replaced fun handle hhandle => (hnew handle hhandle).2

/-- An entry keeps its interface, or loses it. -/
theorem Handled.kept (h : v.Handled) {i : Fin config.drivers} {state : Occupant Nat}
    (hstate : w.state = update v.state i state) (hcount : v.interface.count ≤ w.interface.count)
    (hnew : ∀ handle, state.handle? = some handle → (v.state i).handle? = some handle) :
    w.Handled := by
  refine h.replaced hstate hcount fun handle hhandle => ?_
  have hold := hnew handle hhandle
  exact ⟨(h.below i handle hold).trans hcount, fun j hj hother => hj (h.apart j i handle hother hold)⟩

theorem Handled.same (h : v.Handled) (hstate : w.state = v.state)
    (hcount : v.interface.count ≤ w.interface.count) : w.Handled := by
  constructor
  · intro i handle hi
    rw [hstate] at hi
    exact (h.below i handle hi).trans hcount
  · rw [hstate]
    exact h.apart

/-- The interface that a driver gets is no other driver's. -/
theorem Handled.of_hires (h : v.Handled) {i : Fin config.drivers} {driver : DriverId}
    {name : InterfaceName} {capabilities : Capabilities} {interface : CallbackLog}
    {journal : Journal Nat} {handle? : Option Nat} {handle : Nat} {isNew : Bool}
    (hhandle : (v.state i).handle? = handle?)
    (hires : Hires driver name capabilities v.interface v.journal handle? handle isNew interface
      journal) :
    handle ≤ interface.count ∧ v.interface.count ≤ interface.count ∧
      ∀ j, j ≠ i → (v.state j).handle? ≠ some handle := by
  cases hires with
  | kept =>
    exact ⟨h.below i handle hhandle, le_rfl, fun j hj hother => hj (h.apart j i _ hother hhandle)⟩
  | added added =>
    rcases CallbackLog.add_cases added with ⟨hnone, -⟩ | ⟨hsome, rfl⟩
    · cases hnone
    · cases hsome
      refine ⟨le_rfl, Nat.le_succ _, fun j _ hother => ?_⟩
      have hle := h.below j _ hother
      omega

theorem Move.handled (h : v.Handled) (hmove : Move v w) : w.Handled := by
  cases hmove with
  | noted | completed | reported | acknowledged => exact h.same rfl le_rfl
  | started i label endpoint free sent => exact h.kept rfl le_rfl nofun
  | restarted i label endpoint known revoked sent =>
    exact h.kept rfl (count_quieted ..).ge fun handle hhandle => hhandle
  | gone i endpoint known revoked => exact h.kept rfl (count_withdrawn ..).ge nofun
  | turnedAway i label endpoint name capabilities pending refused =>
    exact h.same rfl (CallbackLog.count_of_add refused).ge
  | activated i label endpoint reply name pending latest checked hires enabled =>
    obtain ⟨hbelow, hmore, hothers⟩ := h.of_hires (congrArg Occupant.handle? pending) hires
    have hcount := CallbackLog.count_of_enable enabled
    refine h.replaced rfl (hmore.trans hcount.ge) fun handle hhandle => ?_
    cases hhandle
    exact ⟨hbelow.trans hcount.ge, hothers⟩
  | refused i label endpoint reply name pending latest checked hires refused =>
    obtain ⟨-, hmore, -⟩ := h.of_hires (congrArg Occupant.handle? pending) hires
    have hcount := CallbackLog.count_of_enable refused
    exact h.kept rfl (hmore.trans hcount.ge) nofun

end View

section Runs

variable {heads : LaneId config → UInt32} {allowed : Control → Prop} {s : HostedSession config}

theorem Hosted.counted (h : Hosted heads allowed s) : s.grants.Counted := by
  refine h.view_induction (P := fun v => v.grants.Counted) ⟨rfl, nofun, .nil⟩ ?_ ?_ ?_
  · exact fun v w hv hmove => hmove.keep_grants (fun _ _ _ hg => hg.of_revoke) hv
  · exact fun v _ w hv hissue =>
      hissue.keep_grants (fun _ _ _ _ hg => hg.of_create) (fun _ _ _ hg => hg.of_revoke) hv
  · intro v control hv _
    cases control with
    | create grant => exact hv.of_create rfl
    | revoke id => exact hv.of_revoke rfl
    | limit | failRevokes => exact ⟨hv.total, hv.below, hv.nodup⟩
    | _ => exact hv

theorem Hosted.count_le_additions (h : Hosted heads allowed s) :
    s.interface.count ≤ additions s.journal := by
  refine h.view_induction (P := fun v => v.interface.count ≤ additions v.journal) (Nat.zero_le _)
    ?_ ?_ ?_
  · intro v w hv hmove
    have hadds := hmove.adds
    unfold View.Adds at hadds
    omega
  · intro v outcome w hv hissue
    have hadds : v.Adds w := View.adds_of_suffix (by cases hissue <;> rfl) hissue.suffix
    unfold View.Adds at hadds
    omega
  · intro v control hv _
    cases control <;> exact hv

theorem Hosted.handled (h : Hosted heads allowed s) : s.view.Handled := by
  refine h.view_induction ⟨nofun, nofun⟩ (fun v w hv hmove => hmove.handled hv) ?_ ?_
  · intro v outcome w hv hissue
    exact hv.same hissue.lanes.1 (by cases hissue <;> exact le_rfl)
  · intro v control hv _
    exact hv.same rfl (by cases control <;> exact le_rfl)

theorem Hosted.held (h : Hosted heads allowed s) : s.view.Held GrantLedger.numbers := by
  suffices hreachable : Reachable heads GrantLedger.numbers.tenure s from hreachable.held
  apply h.reachable trivial
  intro control ledger _ _
  refine ⟨trivial, fun id hid => ?_⟩
  cases control with
  | create grant =>
    rcases GrantLedger.create_cases ledger grant with ⟨budget, hnone⟩ | ⟨budget, new, -, hsome⟩
    · rw [Control.onLedger, hnone]
      exact hid
    · rw [Control.onLedger, hsome]
      exact Nat.lt_succ_of_lt hid
  | revoke grant =>
    change id.index < (ledger.revoke grant).2.next
    rw [GrantLedger.next_revoke]
    exact hid
  | _ => exact hid

end Runs

end DriverHub
