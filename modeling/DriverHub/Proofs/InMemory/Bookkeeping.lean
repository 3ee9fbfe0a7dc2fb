import DriverHub.Proofs.Session.Grants

/-! The ledger is exact. Whatever was asked of it and in whatever order, its live and its revoked grants are
those that its answers tell of, its numbers run from zero on, and a limit allows as many grants as it says. -/
namespace DriverHub.GrantLedger

/-- Something to ask of a ledger. -/
inductive Call where
  | create (grant : Grant)
  | revoke (id : GrantId)
  | limit (budget : Option Nat)
  | failRevokes (corrupted : Bool)

/-- Something that was asked, with the answer. -/
inductive Deed where
  | created (grant : Grant) (answer : Option GrantId)
  | revoked (id : GrantId) (answer : Except GrantError Unit)
  | limited (budget : Option Nat)
  | toldToFail (corrupted : Bool)

/-- The grant was refused, or was not revoked. -/
def Deed.Failed : Deed → Prop
  | .created _ answer => answer = none
  | .revoked _ answer => answer ≠ .ok ()
  | .limited _ | .toldToFail _ => False

/-- Asks something of a ledger. -/
def ask (ledger : GrantLedger) : Call → Deed × GrantLedger
  | .create grant => (.created grant (ledger.create grant).1, (ledger.create grant).2)
  | .revoke id => (.revoked id (ledger.revoke id).1, (ledger.revoke id).2)
  | .limit budget => (.limited budget, ledger.limit budget)
  | .failRevokes corrupted => (.toldToFail corrupted, ledger.failRevokes corrupted)

/-- What was asked of a new ledger, the earliest first, and the ledger after it. -/
inductive History : List Deed → GrantLedger → Prop
  | new : History [] {}
  | asked {deeds : List Deed} {ledger : GrantLedger} (h : History deeds ledger) (call : Call) :
      History (deeds ++ [(ledger.ask call).1]) (ledger.ask call).2

/-- The grants that were created, each under its number. -/
def issued (deeds : List Deed) : List (GrantId × Grant) :=
  deeds.filterMap fun
    | .created grant (some id) => some (id, grant)
    | _ => none

/-- The grants that were revoked. -/
def withdrawn (deeds : List Deed) : List GrantId :=
  deeds.filterMap fun
    | .revoked id (.ok ()) => some id
    | _ => none

/-- For each grant that was asked for, whether it was created. -/
def attempts (deeds : List Deed) : List Bool :=
  deeds.filterMap fun
    | .created _ answer => some answer.isSome
    | _ => none

/-- Whether revocations are to fail. -/
def failing (deeds : List Deed) : Bool :=
  deeds.foldl (fun failing deed => match deed with
    | .toldToFail corrupted => corrupted
    | _ => failing) false

variable {ledger : GrantLedger} {deeds earlier later : List Deed} {deed : Deed} {id : GrantId} {grant : Grant}

theorem issued_append (deeds later : List Deed) : issued (deeds ++ later) = issued deeds ++ issued later :=
  List.filterMap_append

theorem withdrawn_append (deeds later : List Deed) :
    withdrawn (deeds ++ later) = withdrawn deeds ++ withdrawn later := List.filterMap_append

theorem attempts_append (deeds later : List Deed) :
    attempts (deeds ++ later) = attempts deeds ++ attempts later := List.filterMap_append

theorem failing_append (deeds : List Deed) (deed : Deed) :
    failing (deeds ++ [deed]) = match deed with
      | .toldToFail corrupted => corrupted
      | _ => failing deeds := List.foldl_append

/-- A history begins with a history. -/
theorem History.of_append (h : History (earlier ++ later) ledger) : ∃ before, History earlier before := by
  generalize hdeeds : earlier ++ later = deeds at h
  -- Either nothing is left off the end, or the last deed is, and then the history before it is taken.
  induction h generalizing later with
  | new => exact ⟨{}, (List.append_eq_nil_iff.mp hdeeds).1 ▸ .new⟩
  | @asked deeds ledger h call ih =>
    rcases List.eq_nil_or_concat later with rfl | ⟨more, last, rfl⟩
    · rw [List.append_nil] at hdeeds
      rw [hdeeds]
      exact ⟨_, h.asked call⟩
    · rw [List.concat_eq_append, ← List.append_assoc] at hdeeds
      exact ih (List.append_inj_left' hdeeds rfl)

theorem isLive_iff : ledger.isLive id = true ↔ id ∈ ledger.live.map (·.1) := by
  unfold isLive grant?
  rw [Option.isSome_map, List.find?_isSome, List.mem_map]
  exact exists_congr fun entry => and_congr_right fun _ => decide_eq_true_iff

/-- All that revoking a grant can come to. -/
theorem revoke_outcomes (ledger : GrantLedger) (id : GrantId) :
    (ledger.corrupted = false ∧ ledger.isLive id = true ∧ ledger.revoke id = (.ok (), { ledger with
      live := ledger.live.filter (·.1 ≠ id), revoked := ledger.revoked.push id })) ∨
    ¬(ledger.corrupted = false ∧ ledger.isLive id = true) ∧
      ∃ cause, ledger.revoke id = (.error cause, ledger) := by
  unfold revoke
  cases ledger.corrupted with
  | true => exact .inr ⟨nofun, _, rfl⟩
  | false =>
    cases ledger.isLive id with
    | true => exact .inl ⟨rfl, rfl, rfl⟩
    | false => exact .inr ⟨nofun, _, rfl⟩

/-- What fails changes neither the live nor the revoked grants. -/
theorem ask_of_failed {call : Call} (hfailed : (ledger.ask call).1.Failed) :
    (ledger.ask call).2.live = ledger.live ∧ (ledger.ask call).2.revoked = ledger.revoked := by
  cases call with
  | create grant =>
    rcases ledger.create_cases grant with ⟨budget, hnone⟩ | ⟨budget, id, -, hsome⟩
    · rw [ask, hnone]
      exact ⟨rfl, rfl⟩
    · rw [ask, hsome] at hfailed
      cases hfailed
  | revoke id =>
    rcases ledger.revoke_outcomes id with ⟨-, -, hok⟩ | ⟨-, cause, herror⟩
    · rw [ask, hok] at hfailed
      exact absurd rfl hfailed
    · rw [ask, herror]
      exact ⟨rfl, rfl⟩
  | limit budget => exact hfailed.elim
  | failRevokes corrupted => exact hfailed.elim

/-! ### The grants -/

/-- The ledger agrees with the answers that it gave. -/
structure Kept (deeds : List Deed) (ledger : GrantLedger) : Prop where
  next : ledger.next = (issued deeds).length
  numbered : (issued deeds).map (fun entry => entry.1.index) = List.range (issued deeds).length
  live : ledger.live = ((issued deeds).filter fun entry => entry.1 ∉ withdrawn deeds).reverse
  revoked : ledger.revoked.toList = withdrawn deeds
  once : (withdrawn deeds).Nodup
  known : ∀ id ∈ withdrawn deeds, ∃ grant, (id, grant) ∈ issued deeds
  corrupted : ledger.corrupted = failing deeds

namespace Kept

theorem new : Kept [] {} := ⟨rfl, rfl, rfl, rfl, .nil, nofun, rfl⟩

theorem index_lt (h : Kept deeds ledger) (hmem : (id, grant) ∈ issued deeds) :
    id.index < (issued deeds).length := by
  have hindex : id.index ∈ (issued deeds).map (fun entry => entry.1.index) :=
    List.mem_map.mpr ⟨_, hmem, rfl⟩
  rwa [h.numbered, List.mem_range] at hindex

theorem mem_live_iff (h : Kept deeds ledger) :
    (id, grant) ∈ ledger.live ↔ (id, grant) ∈ issued deeds ∧ id ∉ withdrawn deeds := by
  rw [h.live, List.mem_reverse, List.mem_filter, decide_eq_true_eq]

/-- What is asked tells nothing of the grants that is not so already. -/
theorem aside (h : Kept deeds ledger) {ledger' : GrantLedger} (hnext : ledger'.next = ledger.next)
    (hlive : ledger'.live = ledger.live) (hrevoked : ledger'.revoked = ledger.revoked)
    (hissued : issued [deed] = []) (hwithdrawn : withdrawn [deed] = [])
    (hcorrupted : ledger'.corrupted = failing (deeds ++ [deed])) : Kept (deeds ++ [deed]) ledger' := by
  have hissued' : issued (deeds ++ [deed]) = issued deeds := by
    rw [issued_append, hissued, List.append_nil]
  have hwithdrawn' : withdrawn (deeds ++ [deed]) = withdrawn deeds := by
    rw [withdrawn_append, hwithdrawn, List.append_nil]
  constructor
  case corrupted => exact hcorrupted
  all_goals
    simp only [hissued', hwithdrawn', hnext, hlive, hrevoked]
  exacts [h.next, h.numbered, h.live, h.revoked, h.once, h.known]

theorem create (h : Kept deeds ledger) {ledger' : GrantLedger} {answer : Option GrantId}
    (hcreate : ledger.create grant = (answer, ledger')) :
    Kept (deeds ++ [.created grant answer]) ledger' := by
  have hcorrupted : ledger.corrupted = failing (deeds ++ [.created grant answer]) := by
    rw [failing_append]
    exact h.corrupted
  rcases ledger.create_cases grant with ⟨budget, hnone⟩ | ⟨budget, id, hid, hsome⟩
  · cases hnone.symm.trans hcreate
    exact h.aside rfl rfl rfl rfl rfl hcorrupted
  · cases hsome.symm.trans hcreate
    have hissued : issued (deeds ++ [.created grant (some id)]) = issued deeds ++ [(id, grant)] :=
      issued_append ..
    have hwithdrawn : withdrawn (deeds ++ [.created grant (some id)]) = withdrawn deeds := by
      rw [withdrawn_append]
      exact List.append_nil _
    -- All numbers that were revoked are below the next one, which this is.
    have hfresh : id ∉ withdrawn deeds := by
      intro hmem
      obtain ⟨grant', hgrant'⟩ := h.known id hmem
      have hlt := h.index_lt hgrant'
      rw [hid, h.next] at hlt
      exact lt_irrefl _ hlt
    refine ⟨?next, ?numbered, ?live, ?revoked, ?once, ?known, hcorrupted⟩
    case next => rw [hissued, List.length_append, List.length_singleton, ← h.next]
    case numbered =>
      rw [hissued, List.map_append, List.map_singleton, List.length_append, List.length_singleton,
        List.range_succ, h.numbered, hid, h.next]
    case live =>
      have hnew : [(id, grant)].filter (fun entry => entry.1 ∉ withdrawn deeds) = [(id, grant)] :=
        List.filter_eq_self.mpr fun entry hentry => by
          rw [List.mem_singleton.mp hentry]
          exact decide_eq_true hfresh
      rw [hissued, hwithdrawn, List.filter_append, hnew, List.reverse_append, ← h.live]
      rfl
    case revoked => rw [hwithdrawn]; exact h.revoked
    case once => rw [hwithdrawn]; exact h.once
    case known =>
      intro other hother
      rw [hwithdrawn] at hother
      obtain ⟨grant', hgrant'⟩ := h.known other hother
      rw [hissued]
      exact ⟨grant', List.mem_append_left _ hgrant'⟩

theorem revoke (h : Kept deeds ledger) {ledger' : GrantLedger} {answer : Except GrantError Unit}
    (hrevoke : ledger.revoke id = (answer, ledger')) : Kept (deeds ++ [.revoked id answer]) ledger' := by
  have hcorrupted : ledger.corrupted = failing (deeds ++ [.revoked id answer]) := by
    rw [failing_append]
    exact h.corrupted
  rcases ledger.revoke_outcomes id with ⟨-, hlive, hok⟩ | ⟨-, cause, herror⟩
  · cases hok.symm.trans hrevoke
    obtain ⟨⟨id, grant⟩, hgrant, rfl⟩ := List.mem_map.mp (isLive_iff.mp hlive)
    obtain ⟨hmem, hfresh⟩ := h.mem_live_iff.mp hgrant
    have hissued : issued (deeds ++ [.revoked id (.ok ())]) = issued deeds := by
      rw [issued_append]
      exact List.append_nil _
    have hwithdrawn : withdrawn (deeds ++ [.revoked id (.ok ())]) = withdrawn deeds ++ [id] :=
      withdrawn_append ..
    refine ⟨?next, ?numbered, ?live, ?revoked, ?once, ?known, hcorrupted⟩
    case next => rw [hissued]; exact h.next
    case numbered => rw [hissued]; exact h.numbered
    case live =>
      change ledger.live.filter (·.1 ≠ id) = _
      rw [hissued, hwithdrawn, h.live, List.filter_reverse, List.filter_filter]
      apply congrArg List.reverse
      apply List.filter_congr
      intro entry _
      rw [← Bool.decide_and, decide_eq_decide, List.mem_append, List.mem_singleton, not_or, and_comm]
    case revoked => rw [hwithdrawn, Array.toList_push, h.revoked]
    case once =>
      rw [hwithdrawn]
      exact h.once.append (List.nodup_singleton id) (List.disjoint_singleton.mpr hfresh)
    case known =>
      intro other hother
      rw [hwithdrawn] at hother
      rw [hissued]
      rcases List.mem_append.mp hother with hother | hother
      · exact h.known other hother
      · obtain rfl := List.mem_singleton.mp hother
        exact ⟨grant, hmem⟩
  · cases herror.symm.trans hrevoke
    exact h.aside rfl rfl rfl rfl rfl hcorrupted

theorem nodup_ids (h : Kept deeds ledger) : ((issued deeds).map (·.1)).Nodup := by
  apply List.Nodup.of_map GrantId.index
  rw [List.map_map]
  exact h.numbered ▸ List.nodup_range

/-- Live are the grants that were created and not revoked. -/
theorem isLive_iff_issued (h : Kept deeds ledger) :
    ledger.isLive id = true ↔ id ∈ (issued deeds).map (·.1) ∧ id ∉ withdrawn deeds := by
  rw [isLive_iff, List.mem_map, List.mem_map]
  constructor
  · rintro ⟨⟨id, grant⟩, hgrant, rfl⟩
    obtain ⟨hmem, hfresh⟩ := h.mem_live_iff.mp hgrant
    exact ⟨⟨_, hmem, rfl⟩, hfresh⟩
  · rintro ⟨⟨⟨id, grant⟩, hmem, rfl⟩, hfresh⟩
    exact ⟨_, h.mem_live_iff.mpr ⟨hmem, hfresh⟩, rfl⟩

theorem grant?_eq_some_iff (h : Kept deeds ledger) :
    ledger.grant? id = some grant ↔ ledger.isLive id = true ∧ (id, grant) ∈ issued deeds := by
  have hknown {grant' : Grant} (hgrant' : ledger.grant? id = some grant') :
      (id, grant') ∈ issued deeds := by
    obtain ⟨⟨id', grant'⟩, hfind, rfl⟩ := Option.map_eq_some_iff.mp hgrant'
    obtain ⟨hid, -⟩ := List.find?_eq_some_iff_append.mp hfind
    obtain rfl := of_decide_eq_true hid
    exact (h.mem_live_iff.mp (List.mem_of_find?_eq_some hfind)).1
  constructor
  · intro hgrant
    exact ⟨Option.isSome_of_eq_some hgrant, hknown hgrant⟩
  · rintro ⟨hlive, hmem⟩
    obtain ⟨grant', hgrant'⟩ := Option.isSome_iff_exists.mp hlive
    -- Both were created under this number, and no number was given out twice.
    have heq := List.inj_on_of_nodup_map h.nodup_ids hmem (hknown hgrant') rfl
    rw [hgrant', (Prod.mk.inj heq).2]

/-- The live and the revoked grants share out those that were created. -/
theorem perm (h : Kept deeds ledger) :
    (ledger.live.map (·.1) ++ ledger.revoked.toList).Perm ((issued deeds).map (·.1)) := by
  have hlive : (ledger.live.map (·.1)).Nodup := by
    rw [h.live, List.map_reverse, List.nodup_reverse]
    exact h.nodup_ids.sublist (List.filter_sublist.map _)
  have hdisjoint : (ledger.live.map (·.1)).Disjoint ledger.revoked.toList := by
    intro id hid
    rw [h.revoked]
    exact (h.isLive_iff_issued.mp (isLive_iff.mpr hid)).2
  apply (List.perm_ext_iff_of_nodup (hlive.append (h.revoked ▸ h.once) hdisjoint) h.nodup_ids).mpr
  intro id
  rw [List.mem_append, ← isLive_iff, h.isLive_iff_issued, h.revoked]
  constructor
  · rintro (⟨hid, -⟩ | hid)
    · exact hid
    · obtain ⟨grant, hgrant⟩ := h.known id hid
      exact List.mem_map_of_mem hgrant
  · intro hid
    by_cases hgone : id ∈ withdrawn deeds
    · exact .inr hgone
    · exact .inl ⟨hid, hgone⟩

end Kept

theorem History.kept (h : History deeds ledger) : Kept deeds ledger := by
  induction h with
  | new => exact .new
  | @asked deeds ledger _ call ih =>
    cases call with
    | create grant => exact ih.create rfl
    | revoke id => exact ih.revoke rfl
    | limit budget => exact ih.aside rfl rfl rfl rfl rfl (by rw [ask, failing_append]; exact ih.corrupted)
    | failRevokes corrupted => exact ih.aside rfl rfl rfl rfl rfl (by rw [ask, failing_append]; rfl)

/-! ### The limit -/

/-- No limit was set. -/
def Unlimited (deeds : List Deed) : Prop := ∀ budget, .limited budget ∉ deeds

/-- Of these attempts the first are successful, as many as the limit allows, and no other. -/
def Within (budget : Option Nat) (tries : List Bool) : Prop :=
  tries = (List.range tries.length).map fun i => budget.all (i < ·)

/-- The limit that was set last, and for each grant that was asked for since then whether it was created. -/
def allowance (deeds : List Deed) : Option Nat × List Bool :=
  deeds.foldl (fun since deed => match deed with
    | .limited budget => (budget, [])
    | .created _ answer => (since.1, since.2 ++ [answer.isSome])
    | _ => since) (none, [])

theorem allowance_append (deeds : List Deed) (deed : Deed) :
    allowance (deeds ++ [deed]) = match deed with
      | .limited budget => (budget, [])
      | .created _ answer => ((allowance deeds).1, (allowance deeds).2 ++ [answer.isSome])
      | _ => allowance deeds := List.foldl_append

theorem Unlimited.allowance_append (h : Unlimited later) (deeds : List Deed) :
    allowance (deeds ++ later) = ((allowance deeds).1, (allowance deeds).2 ++ attempts later) := by
  -- What was asked last is taken off, since the allowance is counted from the first.
  induction later using List.reverseRecOn with
  | nil => rw [List.append_nil, attempts, List.filterMap_nil, List.append_nil]
  | append_singleton later deed ih =>
    have hlater := ih fun budget hmem => h budget (List.mem_append_left _ hmem)
    rw [← List.append_assoc, GrantLedger.allowance_append, hlater, attempts_append]
    cases deed with
    | limited budget => exact absurd (List.mem_append_right _ List.mem_cons_self) (h budget)
    | created grant answer => exact congrArg (Prod.mk _) (List.append_assoc ..)
    | revoked id answer => exact congrArg (fun tries => (_, _ ++ tries)) (List.append_nil _).symm
    | toldToFail corrupted => exact congrArg (fun tries => (_, _ ++ tries)) (List.append_nil _).symm

theorem Within.append {budget : Option Nat} {tries : List Bool} (h : Within budget tries) {success : Bool}
    (hsuccess : success = budget.all (tries.length < ·)) : Within budget (tries ++ [success]) := by
  unfold Within
  rw [List.length_append, List.length_singleton, List.range_succ, List.map_append, ← h, hsuccess]
  rfl

/-- The budget is what the limit has left, and all attempts under it went as it says. -/
structure Budgeted (deeds : List Deed) (ledger : GrantLedger) : Prop where
  left : ledger.budget = (allowance deeds).1.map (· - (allowance deeds).2.length)
  within : Within (allowance deeds).1 (allowance deeds).2

theorem all_lt_eq (limit : Option Nat) (count : Nat) :
    limit.all (count < ·) = decide (limit.map (· - count) ≠ some 0) := by
  cases limit with
  | none => rfl
  | some limit =>
    have hlt : count < limit ↔ some (limit - count) ≠ some 0 := by
      rw [Ne, Option.some_inj]
      omega
    exact decide_eq_decide.mpr hlt

theorem create_budget (ledger : GrantLedger) (grant : Grant) :
    (ledger.create grant).2.budget = ledger.budget.map (· - 1) := by
  rcases ledger.create_outcomes grant with ⟨hzero, hnone⟩ | ⟨-, ⟨-, hnone⟩ | ⟨_, hsome⟩⟩
  · rw [hnone, hzero]
    rfl
  · rw [hnone]
  · rw [hsome]

/-- As long as there are numbers, it is the budget alone that decides. -/
theorem create_isSome (hnumber : ledger.next < 0x80000000) (grant : Grant) :
    (ledger.create grant).1.isSome = decide (ledger.budget ≠ some 0) := by
  rcases ledger.create_outcomes grant with ⟨hzero, hnone⟩ | ⟨hmore, ⟨hnumbers, -⟩ | ⟨_, hsome⟩⟩
  · rw [hnone, hzero]
    rfl
  · omega
  · rw [hsome]
    exact (decide_eq_true hmore).symm

theorem Budgeted.create (h : Budgeted deeds ledger) (hnumber : ledger.next < 0x80000000) (grant : Grant) :
    Budgeted (deeds ++ [.created grant (ledger.create grant).1]) (ledger.create grant).2 := by
  constructor
  · rw [create_budget, h.left, allowance_append, Option.map_map, List.length_append]
    rfl
  · rw [allowance_append]
    apply h.within.append
    -- There is something left of the budget just if fewer were tried than the limit allows.
    rw [create_isSome hnumber, all_lt_eq, ← h.left]

theorem Budgeted.aside (h : Budgeted deeds ledger) {ledger' : GrantLedger}
    (hallowance : allowance (deeds ++ [deed]) = allowance deeds) (hbudget : ledger'.budget = ledger.budget) :
    Budgeted (deeds ++ [deed]) ledger' := by
  constructor
  · rw [hallowance, hbudget, h.left]
  · rw [hallowance]
    exact h.within

/-- Fewer grants were created earlier. -/
theorem few_of_append (hfew : (issued (earlier ++ later)).length < 2 ^ 31) :
    (issued earlier).length < 2 ^ 31 := by
  rw [issued_append, List.length_append] at hfew
  exact Nat.lt_of_le_of_lt (Nat.le_add_right ..) hfew

theorem History.budgeted (h : History deeds ledger) (hfew : (issued deeds).length < 2 ^ 31) :
    Budgeted deeds ledger := by
  induction h with
  | new => exact ⟨rfl, rfl⟩
  | @asked deeds ledger h call ih =>
    have hfew' := few_of_append hfew
    cases call with
    | create grant => exact (ih hfew').create (h.kept.next.trans_lt hfew') grant
    | limit budget =>
      constructor
      · rw [ask, allowance_append]
        exact (Option.map_id_apply).symm
      · rw [ask, allowance_append]
        rfl
    | revoke id =>
      apply (ih hfew').aside (allowance_append ..)
      rcases ledger.revoke_outcomes id with ⟨-, -, hok⟩ | ⟨-, _, herror⟩
      · rw [ask, hok]
      · rw [ask, herror]
    | failRevokes corrupted => exact (ih hfew').aside (allowance_append ..) rfl

/-! ### The whole -/

/-- The ledger is exact: this is so of any ledger, by what it was asked and answered from the first. -/
structure Exact (deeds : List Deed) (ledger : GrantLedger) : Prop where
  -- The numbers of the created grants run from zero on, so none was given out twice.
  numbered : (issued deeds).map (fun entry => entry.1.index) = List.range (issued deeds).length
  distinct : ((issued deeds).map (·.1)).Nodup
  -- The revoked grants are listed once each, in the order of their revocation.
  revoked : ledger.revoked.toList = withdrawn deeds
  once : ledger.revoked.toList.Nodup
  -- No grant is live and revoked, and every one that was created is one of both.
  apart : ∀ id ∈ ledger.revoked, ledger.isLive id = false
  together : ∀ id, ledger.isLive id = true ∨ id ∈ ledger.revoked ↔ id ∈ (issued deeds).map (·.1)
  counted : ledger.liveCount + ledger.revoked.size = (issued deeds).length
  -- A live grant is what was asked for when its number was given out.
  granted : ∀ id grant, ledger.grant? id = some grant ↔
    ledger.isLive id = true ∧ (id, grant) ∈ issued deeds
  -- A grant can be revoked just if it is live, unless revocations are to fail.
  revocable : ∀ id, (ledger.revoke id).1 = .ok () ↔ failing deeds = false ∧ ledger.isLive id = true
  -- What fails changes neither the live nor the revoked grants.
  failed : ∀ call, (ledger.ask call).1.Failed →
    (ledger.ask call).2.live = ledger.live ∧ (ledger.ask call).2.revoked = ledger.revoked
  -- Without a limit all grants are created. After a limit is set, and until the next one is, the first are, as
  -- many as it says, and then no more.
  unlimited : ∀ earlier rest, deeds = earlier ++ rest → Unlimited earlier → Within none (attempts earlier)
  limited : ∀ earlier budget later rest, deeds = earlier ++ .limited budget :: (later ++ rest) →
    Unlimited later → Within budget (attempts later)

/-- As long as there are numbers left, the ledger is exact. -/
theorem History.ledger_exact (h : History deeds ledger) (hfew : (issued deeds).length < 2 ^ 31) :
    Exact deeds ledger := by
  have hkept := h.kept
  constructor
  case numbered => exact hkept.numbered
  case distinct => exact hkept.nodup_ids
  case revoked => exact hkept.revoked
  case once => exact hkept.revoked ▸ hkept.once
  case apart =>
    intro id hid
    rw [← Array.mem_toList_iff, hkept.revoked] at hid
    exact Bool.eq_false_iff.mpr fun hlive => (hkept.isLive_iff_issued.mp hlive).2 hid
  case together =>
    intro id
    rw [isLive_iff, ← Array.mem_toList_iff, ← List.mem_append]
    exact hkept.perm.mem_iff
  case counted =>
    have hlength := hkept.perm.length_eq
    rwa [List.length_append, List.length_map, List.length_map] at hlength
  case granted =>
    intro id grant
    exact hkept.grant?_eq_some_iff
  case revocable =>
    intro id
    rw [← hkept.corrupted]
    rcases ledger.revoke_outcomes id with ⟨hhonest, hlive, hok⟩ | ⟨hnot, cause, herror⟩
    · rw [hok]
      exact iff_of_true rfl ⟨hhonest, hlive⟩
    · rw [herror]
      exact iff_of_false (fun heq => by cases heq) hnot
  case failed => exact fun _ => ask_of_failed
  case unlimited =>
    rintro earlier rest rfl hunlimited
    obtain ⟨before, hbefore⟩ := h.of_append
    have hwithin := (hbefore.budgeted (few_of_append hfew)).within
    rw [← List.nil_append earlier, hunlimited.allowance_append] at hwithin
    exact hwithin
  case limited =>
    rintro earlier budget later rest rfl hunlimited
    -- The history is cut where the stretch ends, so the allowance after it is that of the stretch.
    rw [List.append_cons, ← List.append_assoc] at h hfew
    obtain ⟨before, hbefore⟩ := h.of_append
    have hwithin := (hbefore.budgeted (few_of_append hfew)).within
    rwa [hunlimited.allowance_append, allowance_append] at hwithin

/-- Two grants are allowed. Revoking one of them does not make room for a third; once the limit is lifted, the
third gets the next number. -/
theorem third_numbered :
    ∃ deeds ledger, History deeds ledger ∧ (issued deeds).length < 2 ^ 31 ∧
      attempts deeds = [true, true, false, true] ∧ (withdrawn deeds).map (·.index) = [0] ∧
      ledger.live.map (·.1.index) = [2, 1] ∧ Exact deeds ledger := by
  let page : Grant := ⟨⟨1⟩, ⟨0x1000, 8⟩, .write⟩
  have hlimited := ((History.new.asked (.limit (some 2))).asked (.create page)).asked (.create page)
  have hrevoked := (hlimited.asked (.revoke ⟨0, by decide⟩)).asked (.create page)
  have hcorrupted := (hrevoked.asked (.failRevokes true)).asked (.revoke ⟨1, by decide⟩)
  have hlifted := (hcorrupted.asked (.limit none)).asked (.create page)
  exact ⟨_, _, hlifted, by decide, by decide, by decide, by decide, hlifted.ledger_exact (by decide)⟩

end DriverHub.GrantLedger
