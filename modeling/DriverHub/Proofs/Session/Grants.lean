import DriverHub.InMemory.GrantLedger
import DriverHub.Proofs.Session.Outcome

/-! Grant tables that keep their word: a new grant gets a number that no live grant has, and a live grant
can be revoked. What creating and revoking in order comes to is said by the live grants alone. -/
namespace DriverHub

open Function

/-- A grant table that keeps its word, as long as it is intact. -/
structure GrantTable.Lawful (γ : Type) [GrantTable γ] where
  -- The live grants, by number.
  live : γ → GrantId → Option Grant
  -- Nothing was done to the table that keeps it from revoking.
  intact : γ → Prop
  create_some : ∀ g grant id g', intact g → GrantTable.create g grant = (some id, g') →
    live g id = none ∧ intact g' ∧ live g' = update (live g) id (some grant)
  create_none : ∀ g grant g', intact g → GrantTable.create g grant = (none, g') →
    intact g' ∧ live g' = live g
  revoke_live : ∀ g id grant, intact g → live g id = some grant →
    ∃ g', GrantTable.revoke g id = (.ok (), g') ∧ intact g' ∧ live g' = update (live g) id none

/-- A way to tell which grants are out. A grant is not out before it is created, and then it is; and as
long as it is not revoked it stays out. -/
structure GrantTable.Tally (γ : Type) [GrantTable γ] where
  intact : γ → Prop
  out : γ → GrantId → Prop
  create_some : ∀ g grant id g', intact g → GrantTable.create g grant = (some id, g') →
    intact g' ∧ ¬out g id ∧ out g' id ∧ ∀ other, out g other → out g' other
  create_none : ∀ g grant g', intact g → GrantTable.create g grant = (none, g') →
    intact g' ∧ ∀ other, out g other → out g' other
  revoke : ∀ g id g', intact g → out g id → GrantTable.revoke g id = (.ok (), g') →
    intact g' ∧ ∀ other, other ≠ id → out g other → out g' other

variable {γ H : Type}

/-- The grants that were created by the journal, the latest first. -/
def created (journal : Journal H) : List GrantId :=
  journal.filterMap fun
    | .granted _ answer => answer
    | _ => none

/-- The grants that were revoked by the journal, the latest first. -/
def revoked (journal : Journal H) : List GrantId :=
  journal.filterMap fun
    | .revoked grant (.ok ()) => some grant
    | _ => none

/-- The grants whose revocation failed by the journal, the latest first. -/
def unrevoked (journal : Journal H) : List GrantId :=
  journal.filterMap fun
    | .revoked grant (.error _) => some grant
    | _ => none

/-- The table ran out of grants. -/
def RanOut (journal : Journal H) : Prop := ∃ grant, .granted grant none ∈ journal

/-- No entry is about an attempt to create a grant. -/
def Grantless (entries : Journal H) : Prop := ∀ grant answer, .granted grant answer ∉ entries

theorem Grantless.created_eq_nil {entries : Journal H} (h : Grantless entries) :
    created entries = [] := by
  rw [created, List.filterMap_eq_nil_iff]
  intro entry hentry
  cases entry with
  | granted grant answer => exact absurd hentry (h grant answer)
  | _ => rfl

theorem Grantless.not_ranOut {entries : Journal H} (h : Grantless entries) : ¬RanOut entries :=
  fun ⟨grant, hgrant⟩ => h grant none hgrant

theorem grantless_revocations (grants : List GrantId) :
    Grantless (revocations grants : Journal H) := by
  intro grant answer hentry
  obtain ⟨id, -, heq⟩ := List.mem_map.mp hentry
  cases heq

/-- A later journal, by entries of which none is about an attempt to create a grant. -/
def Extends (journal later : Journal H) : Prop :=
  ∃ entries, later = entries ++ journal ∧ Grantless entries

namespace Extends

variable {journal later last : Journal H}

theorem refl (journal : Journal H) : Extends journal journal := ⟨[], rfl, nofun⟩

theorem append {entries : Journal H} (h : Extends journal later) (hentries : Grantless entries) :
    Extends journal (entries ++ later) := by
  obtain ⟨earlier, rfl, hearlier⟩ := h
  refine ⟨entries ++ earlier, (List.append_assoc ..).symm, fun grant answer hentry => ?_⟩
  rcases List.mem_append.mp hentry with hentry | hentry
  · exact hentries grant answer hentry
  · exact hearlier grant answer hentry

theorem cons {entry : Entry H} (h : Extends journal later)
    (hentry : ∀ grant answer, entry ≠ .granted grant answer) : Extends journal (entry :: later) :=
  h.append fun grant answer hmem =>
    hentry grant answer (List.mem_singleton.mp hmem).symm

theorem trans (h : Extends journal later) (h' : Extends later last) : Extends journal last := by
  obtain ⟨entries, rfl, hentries⟩ := h'
  exact h.append hentries

end Extends

/-- The entries of a journal that are about grants. -/
def dealings (journal : Journal H) : Journal H :=
  journal.filter fun
    | .granted _ _ | .revoked _ _ => true
    | _ => false

theorem dealings_append (newer older : Journal H) :
    dealings (newer ++ older) = dealings newer ++ dealings older := List.filter_append ..

theorem dealings_revocations (grants : List GrantId) :
    dealings (revocations grants : Journal H) = revocations grants := by
  simp [dealings, revocations]

theorem created_dealings (journal : Journal H) : created (dealings journal) = created journal := by
  rw [created, created, dealings, List.filterMap_filter]
  congr 1
  funext entry
  cases entry <;> rfl

theorem revoked_dealings (journal : Journal H) : revoked (dealings journal) = revoked journal := by
  rw [revoked, revoked, dealings, List.filterMap_filter]
  congr 1
  funext entry
  cases entry <;> rfl

theorem unrevoked_dealings (journal : Journal H) :
    unrevoked (dealings journal) = unrevoked journal := by
  rw [unrevoked, unrevoked, dealings, List.filterMap_filter]
  congr 1
  funext entry
  cases entry <;> rfl

theorem created_append (newer older : Journal H) :
    created (newer ++ older) = created newer ++ created older := List.filterMap_append

theorem revoked_append (newer older : Journal H) :
    revoked (newer ++ older) = revoked newer ++ revoked older := List.filterMap_append

theorem unrevoked_append (newer older : Journal H) :
    unrevoked (newer ++ older) = unrevoked newer ++ unrevoked older := List.filterMap_append

theorem created_revocations (grants : List GrantId) :
    created (revocations grants : Journal H) = [] := by
  simp [created, revocations]

theorem revoked_revocations (grants : List GrantId) :
    revoked (revocations grants : Journal H) = grants.reverse := by
  simp [revoked, revocations]

theorem unrevoked_revocations (grants : List GrantId) :
    unrevoked (revocations grants : Journal H) = [] := by
  simp [unrevoked, revocations]

section Tables

variable [GrantTable γ] {g g' : γ} {grants : List GrantId}

theorem Creates.journal_eq {endpoint : Endpoint} {access : Access} {segments : List Segment}
    {complete : Bool} {journal : Journal H}
    (h : Creates endpoint access g segments grants complete journal g') :
    created journal = grants.reverse ∧ revoked journal = [] ∧ unrevoked journal = [] ∧
      dealings journal = journal ∧ (RanOut journal ↔ complete = false) := by
  induction h with
  | done => exact ⟨rfl, rfl, rfl, rfl, by simp [RanOut]⟩
  | refused => exact ⟨rfl, rfl, rfl, rfl, by simp [RanOut]⟩
  | step _ _ ih =>
    obtain ⟨hcreated, hrevoked, hunrevoked, hdealings, hranOut⟩ := ih
    refine ⟨?_, ?_, ?_, ?_, ?_⟩
    · rw [created_append, hcreated, List.reverse_cons]
      rfl
    · rw [revoked_append, hrevoked]
      rfl
    · rw [unrevoked_append, hunrevoked]
      rfl
    · rw [dealings_append, hdealings]
      rfl
    · rw [← hranOut]
      simp [RanOut]

namespace GrantTable.Lawful

variable (table : GrantTable.Lawful γ)

/-- Revoking the first of some live grants leaves the rest of them live. -/
theorem live_of_revoke {first : GrantId} {rest : List GrantId} {g g' : γ}
    (hintact : table.intact g) (hnodup : (first :: rest).Nodup)
    (hlive : ∀ id ∈ first :: rest, (table.live g id).isSome)
    (hrevoke : GrantTable.revoke g first = (.ok (), g')) :
    table.intact g' ∧ table.live g' = update (table.live g) first none ∧
      ∀ id ∈ rest, (table.live g' id).isSome := by
  obtain ⟨content, hcontent⟩ := Option.isSome_iff_exists.mp (hlive first List.mem_cons_self)
  obtain ⟨g'', hrevoke', hintact', hlive'⟩ := table.revoke_live _ _ _ hintact hcontent
  obtain rfl : g'' = g' := by
    rw [hrevoke] at hrevoke'
    exact (Prod.mk.inj hrevoke').2.symm
  refine ⟨hintact', hlive', ?_⟩
  intro id hid
  have hne : id ≠ first := by
    intro heq
    rw [heq] at hid
    exact (List.nodup_cons.mp hnodup).1 hid
  rw [hlive', update_of_ne hne]
  exact hlive id (List.mem_cons_of_mem _ hid)

theorem live_of_revokes {g g' : γ} (hintact : table.intact g) (hrevokes : Revokes g grants g')
    (hnodup : grants.Nodup) (hlive : ∀ id ∈ grants, (table.live g id).isSome) :
    table.intact g' ∧ ∀ id, table.live g' id = if id ∈ grants then none else table.live g id := by
  induction hrevokes with
  | done => exact ⟨hintact, fun id => by simp⟩
  | @step g₁ g₂ g₃ grant rest hrevoked _ ih =>
    obtain ⟨hintact', hlive', hrest⟩ := table.live_of_revoke hintact hnodup hlive hrevoked
    obtain ⟨hintact'', hlive''⟩ := ih hintact' (List.nodup_cons.mp hnodup).2 hrest
    refine ⟨hintact'', fun id => ?_⟩
    rw [hlive'', hlive']
    by_cases hid : id = grant
    · subst hid
      simp
    · simp [hid]

theorem not_revokesUpTo {g : γ} (hintact : table.intact g) (hnodup : grants.Nodup)
    (hlive : ∀ id ∈ grants, (table.live g id).isSome) (grant : GrantId) (cause : GrantError) :
    ¬RevokesUpTo grant cause g grants := by
  intro hfails
  induction hfails with
  | now failed =>
    obtain ⟨content, hcontent⟩ := Option.isSome_iff_exists.mp (hlive grant List.mem_cons_self)
    obtain ⟨g'', hrevoked, -⟩ := table.revoke_live _ _ _ hintact hcontent
    rw [failed] at hrevoked
    cases hrevoked
  | @later g₁ g₂ first rest hrevoked _ ih =>
    obtain ⟨hintact', -, hrest⟩ := table.live_of_revoke hintact hnodup hlive hrevoked
    exact ih hintact' (List.nodup_cons.mp hnodup).2 hrest

/-- Grants created in order are new and different, and are what was asked for. -/
theorem live_of_creates {endpoint : Endpoint} {access : Access} {g g' : γ}
    {segments : List Segment} {complete : Bool} {journal : Journal H} (hintact : table.intact g)
    (hcreates : Creates endpoint access g segments grants complete journal g') :
    table.intact g' ∧ grants.Nodup ∧ (∀ id ∈ grants, table.live g id = none) ∧
      (∀ id, id ∉ grants → table.live g' id = table.live g id) ∧
      ∀ id ∈ grants, ∃ segment, table.live g' id = some ⟨endpoint, segment, access⟩ := by
  induction hcreates with
  | done => exact ⟨hintact, .nil, nofun, fun _ _ => rfl, nofun⟩
  | refused created =>
    obtain ⟨hintact', hlive⟩ := table.create_none _ _ _ hintact created
    exact ⟨hintact', .nil, nofun, fun id _ => by rw [hlive], nofun⟩
  | @step g₁ g₂ g₃ segment rest grant others complete journal created _ ih =>
    obtain ⟨hfresh, hintact', hlive⟩ := table.create_some _ _ _ _ hintact created
    obtain ⟨hintact'', hnodup, hnew, hother, hgranted⟩ := ih hintact'
    -- The first grant is live when the others are created, so none of them is the first again.
    have hgrant : grant ∉ others := by
      intro hmem
      have hnone := hnew grant hmem
      rw [hlive, update_self] at hnone
      cases hnone
    refine ⟨hintact'', List.nodup_cons.mpr ⟨hgrant, hnodup⟩, fun id hid => ?_, fun id hid => ?_,
      fun id hid => ?_⟩
    · rcases List.mem_cons.mp hid with rfl | hothers
      · exact hfresh
      · have hne : id ≠ grant := by
          rintro rfl
          exact hgrant hothers
        have hnone := hnew id hothers
        rwa [hlive, update_of_ne hne] at hnone
    · rw [List.mem_cons, not_or] at hid
      rw [hother id hid.2, hlive, update_of_ne hid.1]
    · rcases List.mem_cons.mp hid with rfl | hothers
      · refine ⟨segment, ?_⟩
        rw [hother _ hgrant, hlive, update_self]
      · exact hgranted id hothers

end GrantTable.Lawful

namespace GrantTable.Tally

variable (tally : GrantTable.Tally γ)

theorem of_revokes (hintact : tally.intact g) (hrevokes : Revokes g grants g')
    (hnodup : grants.Nodup) (hout : ∀ id ∈ grants, tally.out g id) :
    tally.intact g' ∧ ∀ other, other ∉ grants → tally.out g other → tally.out g' other := by
  induction hrevokes with
  | done => exact ⟨hintact, fun _ _ hother => hother⟩
  | @step g₁ g₂ g₃ first rest hrevoked _ ih =>
    rw [List.nodup_cons] at hnodup
    obtain ⟨hintact', hkept⟩ := tally.revoke _ _ _ hintact (hout first List.mem_cons_self) hrevoked
    have hne {id : GrantId} (hid : id ∈ rest) : id ≠ first := by
      rintro rfl
      exact hnodup.1 hid
    obtain ⟨hintact'', hkept'⟩ := ih hintact' hnodup.2 fun id hid =>
      hkept id (hne hid) (hout id (List.mem_cons_of_mem _ hid))
    refine ⟨hintact'', fun other hother hold => ?_⟩
    rw [List.mem_cons, not_or] at hother
    exact hkept' other hother.2 (hkept other hother.1 hold)

/-- Grants created in order are new and different. -/
theorem of_creates {endpoint : Endpoint} {access : Access} {segments : List Segment}
    {complete : Bool} {journal : Journal H} (hintact : tally.intact g)
    (hcreates : Creates endpoint access g segments grants complete journal g') :
    tally.intact g' ∧ grants.Nodup ∧ (∀ id ∈ grants, ¬tally.out g id ∧ tally.out g' id) ∧
      ∀ other, tally.out g other → tally.out g' other := by
  induction hcreates with
  | done => exact ⟨hintact, .nil, nofun, fun _ hother => hother⟩
  | refused created =>
    obtain ⟨hintact', hkept⟩ := tally.create_none _ _ _ hintact created
    exact ⟨hintact', .nil, nofun, hkept⟩
  | @step g₁ g₂ g₃ segment rest grant others complete journal created _ ih =>
    obtain ⟨hintact', hfresh, hout, hkept⟩ := tally.create_some _ _ _ _ hintact created
    obtain ⟨hintact'', hnodup, hnew, hkept'⟩ := ih hintact'
    -- The first grant is out when the others are created, so none of them is the first again.
    refine ⟨hintact'', List.nodup_cons.mpr ⟨fun hmem => (hnew grant hmem).1 hout, hnodup⟩,
      fun id hid => ?_, fun other hother => hkept' other (hkept other hother)⟩
    rcases List.mem_cons.mp hid with rfl | hid
    · exact ⟨hfresh, hkept' _ hout⟩
    · exact ⟨fun hold => (hnew id hid).1 (hkept id hold), (hnew id hid).2⟩

end GrantTable.Tally

/-- The live grants of a table that keeps its word are out. -/
def GrantTable.Lawful.tally (table : GrantTable.Lawful γ) : GrantTable.Tally γ where
  intact := table.intact
  out g id := (table.live g id).isSome
  create_some := by
    intro g grant id g' hintact hcreate
    obtain ⟨hfresh, hintact', hlive⟩ := table.create_some _ _ _ _ hintact hcreate
    refine ⟨hintact', by rw [hfresh]; exact Bool.false_ne_true, ?_, fun other hother => ?_⟩
    · rw [hlive, update_self]
      rfl
    · rw [hlive, update_apply]
      split
      · rfl
      · exact hother
  create_none := by
    intro g grant g' hintact hcreate
    obtain ⟨hintact', hlive⟩ := table.create_none _ _ _ hintact hcreate
    exact ⟨hintact', fun other hother => by rwa [hlive]⟩
  revoke := by
    intro g id g' hintact hout hrevoke
    obtain ⟨hintact', hlive, -⟩ := table.live_of_revoke hintact (List.nodup_singleton id)
      (by simpa using hout) hrevoke
    exact ⟨hintact', fun other hother hold => by rwa [hlive, update_of_ne hother]⟩

end Tables

namespace GrantLedger

/-- A ledger that is not told to fail, and whose next number is above all live ones. -/
structure Intact (ledger : GrantLedger) : Prop where
  honest : ledger.corrupted = false
  below : ∀ entry ∈ ledger.live, entry.1.index < ledger.next

theorem grant?_cons (ledger : GrantLedger) (next : Nat) (budget : Option Nat) (id : GrantId)
    (grant : Grant) :
    ({ ledger with next, budget, live := (id, grant) :: ledger.live } : GrantLedger).grant? =
      update ledger.grant? id (some grant) := by
  funext id'
  by_cases hid : id' = id
  · subst hid
    simp [grant?]
  · rw [update_of_ne hid]
    simp [grant?, Ne.symm hid]

theorem grant?_filter (ledger : GrantLedger) (revoked : Array GrantId) (id : GrantId) :
    ({ ledger with live := ledger.live.filter (·.1 ≠ id), revoked } : GrantLedger).grant? =
      update ledger.grant? id none := by
  funext id'
  by_cases hid : id' = id
  · subst hid
    rw [update_self, grant?, Option.map_eq_none_iff, List.find?_eq_none]
    intro entry hentry
    simpa using (List.mem_filter.mp hentry).2
  · rw [update_of_ne hid, grant?, grant?, List.find?_filter]
    congr 2
    funext entry
    by_cases hentry : entry.1 = id'
    · simp [hentry, hid]
    · simp [hentry]

theorem Intact.grant?_next {ledger : GrantLedger} (h : ledger.Intact) {id : GrantId}
    (hid : id.index = ledger.next) : ledger.grant? id = none := by
  rw [grant?, Option.map_eq_none_iff, List.find?_eq_none]
  intro entry hentry
  have hlt := h.below entry hentry
  rw [decide_eq_true_eq]
  rintro rfl
  omega

/-- All that creating a grant can come to: the budget is used up, the numbers are, or neither. -/
theorem create_outcomes (ledger : GrantLedger) (grant : Grant) :
    (ledger.budget = some 0 ∧ ledger.create grant = (none, ledger)) ∨
    ledger.budget ≠ some 0 ∧
      ((0x80000000 ≤ ledger.next ∧ ledger.create grant =
        (none, { ledger with budget := ledger.budget.map (· - 1) })) ∨
      ∃ hlt : ledger.next < 0x80000000, ledger.create grant =
        (some ⟨ledger.next, hlt⟩, { ledger with
          budget := ledger.budget.map (· - 1)
          next := ledger.next + 1
          live := (⟨ledger.next, hlt⟩, grant) :: ledger.live })) := by
  unfold create GrantId.ofNat?
  by_cases hbudget : ledger.budget = some 0
  · exact .inl ⟨hbudget, if_pos hbudget⟩
  · rw [if_neg hbudget]
    refine .inr ⟨hbudget, ?_⟩
    by_cases hlt : ledger.next < 0x80000000
    · exact .inr ⟨hlt, by simp only [dif_pos hlt]⟩
    · exact .inl ⟨Nat.le_of_not_lt hlt, by simp only [dif_neg hlt]⟩

theorem create_cases (ledger : GrantLedger) (grant : Grant) :
    (∃ budget, ledger.create grant = (none, { ledger with budget })) ∨
    ∃ budget id, id.index = ledger.next ∧ ledger.create grant =
      (some id, { ledger with
        budget, next := ledger.next + 1, live := (id, grant) :: ledger.live }) := by
  rcases ledger.create_outcomes grant with ⟨-, hnone⟩ | ⟨-, ⟨-, hnone⟩ | ⟨hlt, hsome⟩⟩
  · exact .inl ⟨_, hnone⟩
  · exact .inl ⟨_, hnone⟩
  · exact .inr ⟨_, ⟨ledger.next, hlt⟩, rfl, hsome⟩

theorem revoke_eq_ok_iff {ledger ledger' : GrantLedger} {id : GrantId} :
    GrantTable.revoke ledger id = (.ok (), ledger') ↔
      ledger.corrupted = false ∧ ledger.isLive id = true ∧ ledger' = { ledger with
        live := ledger.live.filter (·.1 ≠ id), revoked := ledger.revoked.push id } := by
  change ledger.revoke id = _ ↔ _
  unfold revoke
  cases ledger.corrupted with
  | true => simp
  | false => cases ledger.isLive id <;> simp [eq_comm]

/-- The ledger keeps its word. -/
def lawful : GrantTable.Lawful GrantLedger where
  live := grant?
  intact := Intact
  create_some := by
    intro ledger grant id ledger' hintact hcreate
    rcases create_cases ledger grant with ⟨budget, hnone⟩ | ⟨budget, id', hid, hsome⟩
    · cases hnone.symm.trans hcreate
    · cases hsome.symm.trans hcreate
      refine ⟨hintact.grant?_next hid, ⟨hintact.honest, fun entry hentry => ?_⟩, grant?_cons ..⟩
      rcases List.mem_cons.mp hentry with rfl | hentry
      · exact hid.trans_lt (Nat.lt_succ_self _)
      · exact (hintact.below entry hentry).trans (Nat.lt_succ_self _)
  create_none := by
    intro ledger grant ledger' hintact hcreate
    rcases create_cases ledger grant with ⟨budget, hnone⟩ | ⟨budget, id', hid, hsome⟩
    · cases hnone.symm.trans hcreate
      exact ⟨⟨hintact.honest, hintact.below⟩, rfl⟩
    · cases hsome.symm.trans hcreate
  revoke_live := by
    intro ledger id grant hintact hlive
    have hknown : ledger.isLive id = true := by
      rw [isLive, hlive]
      rfl
    refine ⟨_, revoke_eq_ok_iff.mpr ⟨hintact.honest, hknown, rfl⟩,
      ⟨hintact.honest, fun entry hentry => ?_⟩, grant?_filter ..⟩
    exact hintact.below entry (List.mem_of_mem_filter hentry)

/-- Whatever becomes of its grants, a number that a ledger gave out is not given out again. -/
def numbers : GrantTable.Tally GrantLedger where
  intact _ := True
  out ledger id := id.index < ledger.next
  create_some := by
    intro ledger grant id ledger' _ hcreate
    rcases create_cases ledger grant with ⟨budget, hnone⟩ | ⟨budget, id', hid, hsome⟩
    · cases hnone.symm.trans hcreate
    · cases hsome.symm.trans hcreate
      exact ⟨trivial, by omega, hid.trans_lt (Nat.lt_succ_self _),
        fun other hother => hother.trans (Nat.lt_succ_self _)⟩
  create_none := by
    intro ledger grant ledger' _ hcreate
    rcases create_cases ledger grant with ⟨budget, hnone⟩ | ⟨budget, id', hid, hsome⟩
    · cases hnone.symm.trans hcreate
      exact ⟨trivial, fun other hother => hother⟩
    · cases hsome.symm.trans hcreate
  revoke := by
    intro ledger id ledger' _ _ hrevoke
    obtain ⟨-, -, rfl⟩ := revoke_eq_ok_iff.mp hrevoke
    exact ⟨trivial, fun other _ hother => hother⟩

end GrantLedger
end DriverHub
