import DriverHub.Proofs.Session.Grants

/-! Two ledgers side by side. One that has given out no more than another creates every grant that the
other creates, and one in which nothing was brought back revokes what the other revokes. -/
namespace DriverHub.GrantLedger

open Function

variable {g g' h h' : GrantLedger}

/-- The later ledger has no more grants to give than the earlier one. -/
structure Spent (g g' : GrantLedger) : Prop where
  next : g.next ≤ g'.next
  budget : ∀ left, g.budget = some left → ∃ less, g'.budget = some less ∧ less ≤ left
  corrupted : g'.corrupted = g.corrupted

theorem Spent.refl (g : GrantLedger) : g.Spent g := ⟨le_rfl, fun left hleft => ⟨left, hleft, le_rfl⟩, rfl⟩

theorem Spent.trans (hg : g.Spent h) (hh : h.Spent h') : g.Spent h' := by
  refine ⟨hg.next.trans hh.next, fun left hleft => ?_, hh.corrupted.trans hg.corrupted⟩
  obtain ⟨less, hless, hle⟩ := hg.budget left hleft
  obtain ⟨least, hleast, hle'⟩ := hh.budget less hless
  exact ⟨least, hleast, hle'.trans hle⟩

/-- A ledger after more was done to it: no grant that it knew was brought back. -/
structure Since (g g' : GrantLedger) : Prop where
  spent : g.Spent g'
  live : ∀ id, id.index < g.next → g'.isLive id = true → g.isLive id = true

theorem Since.refl (g : GrantLedger) : g.Since g := ⟨.refl g, fun _ _ hlive => hlive⟩

theorem isLive_eq_true (ledger : GrantLedger) (id : GrantId) :
    ledger.isLive id = true ↔ (ledger.grant? id).isSome = true := Iff.rfl

theorem Since.of_create (hsince : g.Since h) {grant : Grant} {answer : Option GrantId}
    (hcreate : GrantTable.create h grant = (answer, h')) : g.Since h' := by
  have hbudget (left : Nat) (hleft : h.budget = some left) :
      ∃ less, h.budget.map (· - 1) = some less ∧ less ≤ left := by
    rw [hleft]
    exact ⟨left - 1, rfl, Nat.sub_le left 1⟩
  rcases h.create_outcomes grant with ⟨-, hnone⟩ | ⟨-, ⟨-, hnone⟩ | ⟨hlt, hsome⟩⟩
  · cases hnone.symm.trans hcreate
    exact hsince
  · cases hnone.symm.trans hcreate
    exact ⟨hsince.spent.trans ⟨le_rfl, hbudget, rfl⟩, hsince.live⟩
  · cases hsome.symm.trans hcreate
    refine ⟨hsince.spent.trans ⟨Nat.le_succ _, hbudget, rfl⟩, fun id hid hlive => ?_⟩
    -- A grant that was known before is not the new one.
    have hne : id ≠ ⟨h.next, hlt⟩ := by
      rintro rfl
      exact absurd hsince.spent.next (Nat.not_le.mpr hid)
    apply hsince.live id hid
    rwa [isLive_eq_true, grant?_cons, update_of_ne hne] at hlive

theorem Since.of_revoke (hsince : g.Since h) {id : GrantId}
    (hrevoke : GrantTable.revoke h id = (.ok (), h')) : g.Since h' := by
  obtain ⟨-, -, rfl⟩ := revoke_eq_ok_iff.mp hrevoke
  refine ⟨hsince.spent.trans ⟨le_rfl, fun left hleft => ⟨left, hleft, le_rfl⟩, rfl⟩,
    fun other hother hlive => hsince.live other hother ?_⟩
  rw [isLive_eq_true, grant?_filter, update_apply] at hlive
  split at hlive
  · cases hlive
  · exact hlive

/-- The live grants are out, also if revocations fail. -/
def holdings : GrantTable.Tally GrantLedger where
  intact ledger := ∀ entry ∈ ledger.live, entry.1.index < ledger.next
  out ledger id := ledger.isLive id = true
  create_some := by
    intro ledger grant id ledger' hbelow hcreate
    rcases create_cases ledger grant with ⟨budget, hnone⟩ | ⟨budget, new, hnew, hsome⟩
    · cases hnone.symm.trans hcreate
    · cases hsome.symm.trans hcreate
      refine ⟨fun entry hentry => ?_, fun hlive => ?_, ?_, fun other hother => ?_⟩
      · rcases List.mem_cons.mp hentry with rfl | hentry
        · exact hnew.trans_lt (Nat.lt_succ_self _)
        · exact (hbelow entry hentry).trans (Nat.lt_succ_self _)
      · obtain ⟨entry, hentry, heq⟩ := List.find?_isSome.mp (Option.isSome_map.symm.trans hlive)
        have hlt := hbelow entry hentry
        rw [of_decide_eq_true heq] at hlt
        omega
      · rw [isLive_eq_true, grant?_cons, update_self]
        rfl
      · rw [isLive_eq_true, grant?_cons, update_apply]
        split
        · rfl
        · exact hother
  create_none := by
    intro ledger grant ledger' hbelow hcreate
    rcases create_cases ledger grant with ⟨budget, hnone⟩ | ⟨budget, new, hnew, hsome⟩
    · cases hnone.symm.trans hcreate
      exact ⟨hbelow, fun other hother => hother⟩
    · cases hsome.symm.trans hcreate
  revoke := by
    intro ledger id ledger' hbelow _ hrevoke
    obtain ⟨-, -, rfl⟩ := revoke_eq_ok_iff.mp hrevoke
    refine ⟨fun entry hentry => hbelow entry (List.mem_of_mem_filter hentry),
      fun other hne hother => ?_⟩
    rwa [isLive_eq_true, grant?_filter, update_of_ne hne]

/-- What the ledger with less to give creates, the other one creates too. -/
theorem Spent.create (hspent : h.Spent g) {grant grant' : Grant} {id : GrantId}
    (hcreate : GrantTable.create g grant = (some id, g')) :
    ∃ id' h', GrantTable.create h grant' = (some id', h') ∧ h'.Spent g' := by
  rcases g.create_outcomes grant with ⟨-, hnone⟩ | ⟨hbudget, ⟨-, hnone⟩ | ⟨hlt, hsome⟩⟩
  · cases hnone.symm.trans hcreate
  · cases hnone.symm.trans hcreate
  · cases hsome.symm.trans hcreate
    rcases h.create_outcomes grant' with ⟨hzero, -⟩ | ⟨-, ⟨hle, -⟩ | ⟨hlt', hsome'⟩⟩
    · obtain ⟨less, hless, hle⟩ := hspent.budget 0 hzero
      rw [hless, Nat.le_zero.mp hle] at hbudget
      exact absurd rfl hbudget
    · exact absurd (hle.trans hspent.next) (Nat.not_le.mpr hlt)
    · refine ⟨_, _, hsome', Nat.succ_le_succ hspent.next, fun left hleft => ?_, hspent.corrupted⟩
      obtain ⟨more, hmore, rfl⟩ := Option.map_eq_some_iff.mp hleft
      obtain ⟨less, hless, hle⟩ := hspent.budget more hmore
      refine ⟨less - 1, ?_, Nat.sub_le_sub_right hle 1⟩
      rw [hless]
      rfl

theorem Spent.creates {H : Type} (hspent : h.Spent g) {endpoint : Endpoint} {access : Access}
    {segments : List Segment} {grants grants' : List GrantId} {complete : Bool}
    {journal journal' : Journal H}
    (hcreates : Creates endpoint access g segments grants true journal g')
    (hcreates' : Creates endpoint access h segments grants' complete journal' h') :
    complete = true ∧ h'.Spent g' := by
  -- By induction on the grants that the one ledger creates; the other keeps step.
  generalize hall : true = all at hcreates
  induction hcreates generalizing h grants' journal' with
  | done =>
    cases hcreates'
    exact ⟨rfl, hspent⟩
  | refused => cases hall
  | step created _ ih =>
    cases hcreates' with
    | refused created' =>
      obtain ⟨id', h'', hsome, -⟩ := hspent.create created
      cases hsome.symm.trans created'
    | step created' others' =>
      obtain ⟨id', h'', hsome, hspent'⟩ := hspent.create created
      cases hsome.symm.trans created'
      exact ih hspent' others' hall

/-- Where different grants were revoked one after the other, all of them were live, and the ledger is not
told to fail. -/
theorem live_of_revokes {grants : List GrantId} (hrevokes : Revokes g grants g')
    (hnodup : grants.Nodup) :
    (∀ id ∈ grants, g.isLive id = true) ∧ (grants ≠ [] → g.corrupted = false) := by
  induction hrevokes with
  | done => exact ⟨nofun, fun hne => absurd rfl hne⟩
  | @step g₁ g₂ g₃ first rest hrevoked _ ih =>
    rw [List.nodup_cons] at hnodup
    obtain ⟨hlive, -⟩ := ih hnodup.2
    obtain ⟨hhonest, hfirst, rfl⟩ := revoke_eq_ok_iff.mp hrevoked
    refine ⟨fun id hid => ?_, fun _ => hhonest⟩
    rcases List.mem_cons.mp hid with rfl | hid
    · exact hfirst
    · have hkept := hlive id hid
      have hne : id ≠ first := fun heq => hnodup.1 (heq ▸ hid)
      rwa [isLive_eq_true, grant?_filter, update_of_ne hne] at hkept

end DriverHub.GrantLedger
