import DriverHub.Proofs.Hub.Holding
import DriverHub.Proofs.Hub.Slots

/-! The grants that are live are those of the requests in flight. Each is recorded once, on the slot of
the request it was created for, and is revoked when this request leaves. -/
namespace DriverHub

open Function

variable {config : Config} {τ γ ι H : Type}

theorem dealings_quieting (state : Occupant H) (driver : DriverId) :
    dealings (state.quieting driver) = [] := by cases state <;> rfl

theorem dealings_withdrawing (state : Occupant H) (driver : DriverId) :
    dealings (state.withdrawing driver) = [] := by
  unfold Occupant.withdrawing
  split <;> rfl

theorem grantless_quieting (state : Occupant H) (driver : DriverId) :
    Grantless (state.quieting driver) := by
  cases state <;> simp [Grantless, Occupant.quieting]

theorem grantless_withdrawing (state : Occupant H) (driver : DriverId) :
    Grantless (state.withdrawing driver) := by
  unfold Occupant.withdrawing
  split <;> simp [Grantless]

section Hires

variable [Interface ι H] {driver : DriverId} {name : InterfaceName} {capabilities : Capabilities}
variable {interface interface' : ι} {journal journal' : Journal H} {handle? : Option H}
variable {handle : H} {isNew : Bool}

theorem dealings_hires
    (h : Hires driver name capabilities interface journal handle? handle isNew interface' journal') :
    dealings journal' = dealings journal := by
  cases h <;> rfl

theorem Hires.extends
    (h : Hires driver name capabilities interface journal handle? handle isNew interface' journal') :
    Extends journal journal' := by
  cases h with
  | kept => exact .refl journal
  | added => exact .cons (.refl journal) nofun

end Hires

namespace View

variable [Transport τ] [GrantTable γ] [Interface ι H]
variable {table : GrantTable.Lawful γ} {v w : View config τ γ ι H}

/-- The live grants are those recorded, each in one place; each gives its driver the access that the
request needs; and the journal has revoked what it has created, apart from these. -/
structure Granted (table : GrantTable.Lawful γ) (v : View config τ γ ι H) : Prop where
  intact : table.intact v.grants
  live : ∀ id, (table.live v.grants id).isSome ↔ ∃ k, id ∈ v.recorded k
  nodup : ∀ k, (v.recorded k).Nodup
  apart : ∀ k k' id, id ∈ v.recorded k → id ∈ v.recorded k' → k = k'
  scope : ∀ k, ∀ id ∈ v.recorded k, ∃ grant, table.live v.grants id = some grant ∧
    (v.state k.1).endpoint? = some grant.endpoint ∧
      grant.access = if k.2 = .send then .read else .write
  count : ∀ id, (created v.journal).count id =
    (revoked v.journal).count id + (table.live v.grants id).isSome.toNat
  answered : unrevoked v.journal = []

omit [Transport τ] [Interface ι H] in
/-- The grants of some requests are revoked, and nothing else happens to grants. -/
theorem Granted.after_revocation (h : v.Granted table) {grants : List GrantId}
    (gone : LaneId config → List GrantId) (hrevokes : Revokes v.grants grants w.grants)
    (hgrants : grants.Nodup) (hgone : ∀ id, id ∈ grants ↔ ∃ k, id ∈ gone k)
    (hrecorded : ∀ k, v.recorded k = gone k ++ w.recorded k)
    (hstate : ∀ k, w.recorded k ≠ [] → (w.state k.1).endpoint? = (v.state k.1).endpoint?)
    (hjournal : dealings w.journal = revocations grants ++ dealings v.journal) :
    w.Granted table := by
  have hmem {id : GrantId} {k : LaneId config} (hid : id ∈ w.recorded k) : id ∈ v.recorded k := by
    rw [hrecorded]
    exact List.mem_append_right _ hid
  obtain ⟨hintact, hlive⟩ := table.live_of_revokes h.intact hrevokes hgrants fun id hid => by
    obtain ⟨k, hk⟩ := (hgone id).mp hid
    refine (h.live id).mpr ⟨k, ?_⟩
    rw [hrecorded]
    exact List.mem_append_left _ hk
  -- A grant that is still recorded is not among those revoked.
  have hkept {id : GrantId} {k : LaneId config} (hid : id ∈ w.recorded k) : id ∉ grants := by
    intro hrevoked
    obtain ⟨k', hk'⟩ := (hgone id).mp hrevoked
    have hv : id ∈ v.recorded k' := by
      rw [hrecorded]
      exact List.mem_append_left _ hk'
    obtain rfl := h.apart k k' id (hmem hid) hv
    have hnodup := h.nodup k
    rw [hrecorded, List.nodup_append] at hnodup
    exact hnodup.2.2 id hk' id hid rfl
  refine ⟨hintact, ?live, ?nodup, ?apart, ?scope, ?count, ?answered⟩
  case live =>
    intro id
    constructor
    · intro hid
      rw [hlive] at hid
      split at hid
      · cases hid
      · rename_i hnot
        obtain ⟨k, hk⟩ := (h.live id).mp hid
        rw [hrecorded] at hk
        rcases List.mem_append.mp hk with hk | hk
        · exact absurd ((hgone id).mpr ⟨k, hk⟩) hnot
        · exact ⟨k, hk⟩
    · intro hid
      obtain ⟨k, hk⟩ := hid
      rw [hlive, if_neg (hkept hk)]
      exact (h.live id).mpr ⟨k, hmem hk⟩
  case nodup =>
    intro k
    have hnodup := h.nodup k
    rw [hrecorded] at hnodup
    exact hnodup.of_append_right
  case apart =>
    intro k k' id hid hid'
    exact h.apart k k' id (hmem hid) (hmem hid')
  case scope =>
    intro k id hid
    obtain ⟨grant, hgrant, hendpoint, haccess⟩ := h.scope k id (hmem hid)
    refine ⟨grant, ?_, ?_, haccess⟩
    · rw [hlive, if_neg (hkept hid), hgrant]
    · rw [hstate k (List.ne_nil_of_mem hid), hendpoint]
  case count =>
    intro id
    -- A grant that is revoked was live once, and is counted as revoked from here on.
    rw [← created_dealings, ← revoked_dealings, hjournal, created_append, revoked_append,
      created_revocations, revoked_revocations, created_dealings, revoked_dealings,
      List.nil_append, h.count, List.count_append, List.count_reverse, hlive]
    by_cases hid : id ∈ grants
    · obtain ⟨k, hk⟩ := (hgone id).mp hid
      have hsome : (table.live v.grants id).isSome = true := by
        refine (h.live id).mpr ⟨k, ?_⟩
        rw [hrecorded]
        exact List.mem_append_left _ hk
      rw [if_pos hid, List.count_eq_one_of_mem hgrants hid, hsome]
      simp only [Option.isSome_none, Bool.toNat_true, Bool.toNat_false]
      omega
    · rw [if_neg hid, List.count_eq_zero_of_not_mem hid, Nat.zero_add]
  case answered =>
    rw [← unrevoked_dealings, hjournal, unrevoked_append, unrevoked_revocations, List.nil_append,
      unrevoked_dealings, h.answered]

omit [Transport τ] [Interface ι H] in
theorem Granted.after_nothing (h : v.Granted table) (hgrants : w.grants = v.grants)
    (hbookings : ∀ k, (w.lane k).bookings = (v.lane k).bookings)
    (hstate : ∀ k, v.recorded k ≠ [] → (w.state k.1).endpoint? = (v.state k.1).endpoint?)
    (hjournal : dealings w.journal = dealings v.journal) : w.Granted table := by
  have hrecorded (k : LaneId config) : w.recorded k = v.recorded k := by
    rw [recorded, hbookings, recorded]
  simp only [← hrecorded] at hstate
  refine h.after_revocation (fun _ => []) (hgrants ▸ .done v.grants) .nil (by simp)
    (fun k => ?_) hstate hjournal
  rw [List.nil_append, hrecorded]

omit [Transport τ] [Interface ι H] in
theorem Granted.held (h : v.Granted table) : v.Held table.tally :=
  ⟨h.intact, fun k id hid => (h.live id).mpr ⟨k, hid⟩, h.nodup, h.apart⟩

omit [Transport τ] [Interface ι H] in
/-- The requests of one entry are cancelled, and their grants revoked. -/
theorem Granted.after_cancel (h : v.Granted table) (i : Fin config.drivers)
    (hrevokes : Revokes v.grants (v.grantsAt i) w.grants)
    (hbookings : ∀ k, (w.lane k).bookings = if k.1 = i then [] else (v.lane k).bookings)
    (hstate : ∀ j, j ≠ i → w.state j = v.state j)
    (hjournal : dealings w.journal = revocations (v.grantsAt i) ++ dealings v.journal) :
    w.Granted table := by
  have hrecorded (k : LaneId config) :
      w.recorded k = if k.1 = i then [] else v.recorded k := by
    rw [recorded, hbookings, recorded]
    split <;> rfl
  refine h.after_revocation (fun k => if k.1 = i then v.recorded k else []) hrevokes
    (h.held.nodup_grantsAt i) (fun id => ?_) (fun k => ?_) (fun k hk => ?_) hjournal
  · rw [mem_grantsAt]
    constructor
    · rintro ⟨d, hid⟩
      refine ⟨(i, d), ?_⟩
      rw [if_pos rfl]
      exact hid
    · rintro ⟨⟨j, d⟩, hid⟩
      split at hid
      · rename_i hj
        subst hj
        exact ⟨d, hid⟩
      · cases hid
  · rw [hrecorded]
    split <;> simp
  · rw [hrecorded] at hk
    split at hk
    · exact absurd rfl hk
    · rename_i hne
      rw [hstate k.1 hne]

theorem Move.granted {heads : LaneId config → UInt32} (hagrees : v.Agrees heads)
    (h : v.Granted table) (hmove : Move v w) : w.Granted table := by
  cases hmove with
  | noted entry quiet =>
    refine h.after_nothing rfl (fun _ => rfl) (fun _ _ => rfl) ?_
    cases entry <;> first | rfl | exact quiet.elim
  | started i label endpoint free sent =>
    refine h.after_nothing rfl ?bookings ?endpoints rfl
    case bookings => exact bookings_atEntry_same fun _ _ => rfl
    case endpoints =>
      intro k hk
      -- A free entry has no endpoint that a grant could be for.
      obtain ⟨id, hid⟩ := List.exists_mem_of_ne_nil _ hk
      obtain ⟨grant, -, hendpoint, -⟩ := h.scope k id hid
      have hne : k.1 ≠ i := by
        rintro rfl
        rw [free] at hendpoint
        cases hendpoint
      exact congrArg Occupant.endpoint? (update_of_ne hne ..)
  | restarted i label endpoint known revoked sent =>
    refine h.after_cancel i revoked ?bookings (fun j hj => update_of_ne hj ..) ?journal
    case bookings => exact bookings_atEntry_nil fun _ _ => rfl
    case journal =>
      change dealings ((v.state i).quieting ⟨i⟩ ++ (revocations (v.grantsAt i) ++ v.journal)) = _
      rw [dealings_append, dealings_append, dealings_quieting, dealings_revocations,
        List.nil_append]
  | gone i endpoint known revoked =>
    refine h.after_cancel i revoked ?bookings (fun j hj => update_of_ne hj ..) ?journal
    case bookings => exact bookings_atEntry_nil fun _ _ => rfl
    case journal =>
      change dealings ((v.state i).withdrawing ⟨i⟩ ++ (revocations (v.grantsAt i) ++ v.journal)) = _
      rw [dealings_append, dealings_append, dealings_withdrawing, dealings_revocations,
        List.nil_append]
  | turnedAway i label endpoint name capabilities pending refused =>
    exact h.after_nothing rfl (fun _ => rfl) (fun _ _ => rfl) rfl
  | activated i label endpoint reply name pending latest checked hires enabled =>
    refine h.after_nothing rfl ?bookings ?endpoints ?journal
    case bookings => exact bookings_atEntry_same fun _ _ => rfl
    case endpoints =>
      intro k hk
      dsimp only
      rw [update_apply]
      split
      · rename_i hi
        rw [hi, pending]
        rfl
      · rfl
    case journal =>
      rw [← dealings_hires hires]
      rfl
  | refused i label endpoint reply name pending latest checked hires refused =>
    -- A pending driver has nothing in flight, so nothing is lost with its entry.
    have hnone (d : Direction) : (v.lane (i, d)).bookings = [] :=
      (hagrees (i, d)).idle (by rw [pending]; rfl)
    refine h.after_nothing rfl ?bookings ?endpoints ?journal
    case bookings =>
      intro k
      refine (bookings_atEntry_nil (fun _ _ => rfl) k).trans ?_
      split
      · rename_i hi
        subst hi
        rw [hnone k.2]
      · rfl
    case endpoints =>
      intro k hk
      have hne : k.1 ≠ i := by
        intro hi
        subst hi
        exact hk (by rw [recorded, hnone k.2, List.flatMap_nil])
      exact congrArg Occupant.endpoint? (update_of_ne hne ..)
    case journal =>
      rw [← dealings_hires hires]
      rfl
  | completed i label endpoint handle b rest result active oldest revoked =>
    have hoverall : v.recorded (i, b.kind.direction) =
        b.grants.present ++ rest.flatMap fun b => b.grants.present := by
      rw [recorded, oldest, List.flatMap_cons]
    have hnodup := h.nodup (i, b.kind.direction)
    rw [hoverall] at hnodup
    refine h.after_revocation (fun k => if k = (i, b.kind.direction) then b.grants.present else [])
      revoked hnodup.of_append_left (fun id => ?_) (fun k => ?_) (fun _ _ => rfl) ?_
    · constructor
      · intro hid
        exact ⟨(i, b.kind.direction), by rwa [if_pos rfl]⟩
      · rintro ⟨k, hid⟩
        split at hid
        · exact hid
        · cases hid
    · rw [recorded, recorded]
      dsimp only
      rw [update_apply]
      split
      · rename_i hk
        subst hk
        rw [Lane.pop, oldest, List.flatMap_cons]
        rfl
      · rfl
    · change dealings (revocations b.grants.present ++ v.journal) = _
      rw [dealings_append, dealings_revocations]
  | reported i label endpoint handle report active =>
    exact h.after_nothing rfl (fun _ => rfl) (fun _ _ => rfl) rfl
  | acknowledged i label endpoint handle number active sent =>
    exact h.after_nothing rfl (fun _ => rfl) (fun _ _ => rfl) rfl

omit [Transport τ] [Interface ι H] in
/-- Grants are created for a request that then joins a lane. -/
theorem Granted.after_creation (h : v.Granted table) {k : LaneId config} {endpoint : Endpoint}
    {segments : List Segment} {grants : List GrantId} {journal : Journal H}
    (hcreates : Creates endpoint k.2.access v.grants segments grants true journal w.grants)
    (hendpoint : (v.state k.1).endpoint? = some endpoint) (hstate : w.state = v.state)
    (hrecorded : ∀ k', w.recorded k' = v.recorded k' ++ if k' = k then grants else [])
    (hjournal : dealings w.journal = dealings (journal ++ v.journal)) : w.Granted table := by
  obtain ⟨hintact, hnodup, hfresh, hother, hgranted⟩ := table.live_of_creates h.intact hcreates
  obtain ⟨hcreated, hrevoked, hunrevoked, -, -⟩ := hcreates.journal_eq
  -- What was recorded before was live, and the new grants were not.
  have hold {k' : LaneId config} {id : GrantId} (hid : id ∈ v.recorded k') : id ∉ grants := by
    intro hnew
    have hsome := (h.live id).mpr ⟨k', hid⟩
    rw [hfresh id hnew] at hsome
    cases hsome
  have hmem {k' : LaneId config} {id : GrantId} (hid : id ∈ w.recorded k') :
      id ∈ v.recorded k' ∨ id ∈ grants ∧ k' = k := by
    rw [hrecorded] at hid
    rcases List.mem_append.mp hid with hid | hid
    · exact .inl hid
    · split at hid
      · rename_i hk
        exact .inr ⟨hid, hk⟩
      · cases hid
  refine ⟨hintact, ?live, ?nodup, ?apart, ?scope, ?count, ?answered⟩
  case live =>
    intro id
    constructor
    · intro hid
      by_cases hnew : id ∈ grants
      · refine ⟨k, ?_⟩
        rw [hrecorded, if_pos rfl]
        exact List.mem_append_right _ hnew
      · rw [hother id hnew] at hid
        obtain ⟨k', hk'⟩ := (h.live id).mp hid
        refine ⟨k', ?_⟩
        rw [hrecorded]
        exact List.mem_append_left _ hk'
    · intro hrecorded'
      obtain ⟨k', hid⟩ := hrecorded'
      rcases hmem hid with hid | ⟨hnew, -⟩
      · rw [hother id (hold hid)]
        exact (h.live id).mpr ⟨k', hid⟩
      · obtain ⟨segment, hsome⟩ := hgranted id hnew
        rw [hsome]
        rfl
  case nodup =>
    intro k'
    rw [hrecorded]
    split
    · refine List.nodup_append.mpr ⟨h.nodup k', hnodup, ?_⟩
      rintro id hid id' hnew rfl
      exact hold hid hnew
    · rw [List.append_nil]
      exact h.nodup k'
  case apart =>
    intro k₁ k₂ id hid₁ hid₂
    rcases hmem hid₁ with hid₁ | ⟨hnew₁, hk₁⟩ <;> rcases hmem hid₂ with hid₂ | ⟨hnew₂, hk₂⟩
    · exact h.apart k₁ k₂ id hid₁ hid₂
    · exact absurd hnew₂ (hold hid₁)
    · exact absurd hnew₁ (hold hid₂)
    · exact hk₁.trans hk₂.symm
  case scope =>
    intro k' id hid
    rw [hstate]
    rcases hmem hid with hid | ⟨hnew, rfl⟩
    · rw [hother id (hold hid)]
      exact h.scope k' id hid
    · obtain ⟨segment, hsome⟩ := hgranted id hnew
      exact ⟨_, hsome, hendpoint, k'.2.access_eq⟩
  case count =>
    intro id
    rw [← created_dealings, ← revoked_dealings, hjournal, created_dealings, revoked_dealings,
      created_append, revoked_append, hcreated, hrevoked, List.nil_append, List.count_append,
      List.count_reverse, h.count]
    by_cases hnew : id ∈ grants
    · obtain ⟨segment, hsome⟩ := hgranted id hnew
      rw [List.count_eq_one_of_mem hnodup hnew, hsome, hfresh id hnew]
      simp only [Option.isSome_none, Option.isSome_some, Bool.toNat_true, Bool.toNat_false]
      omega
    · rw [List.count_eq_zero_of_not_mem hnew, hother id hnew, Nat.zero_add]
  case answered =>
    rw [← unrevoked_dealings, hjournal, unrevoked_dealings, unrevoked_append, hunrevoked,
      List.nil_append, h.answered]

omit [Transport τ] [Interface ι H] in
theorem Granted.after_abandon (h : v.Granted table) {endpoint : Endpoint} {access : Access}
    {segments : List Segment} {grants : List GrantId} {journal : Journal H} {g g' : γ}
    (hcreates : Creates endpoint access v.grants segments grants false journal g)
    (hrevokes : Revokes g grants g') :
    Granted table { v with
      grants := g'
      journal := revocations grants ++ (journal ++ v.journal) } := by
  obtain ⟨hintact, hnodup, hfresh, hother, hgranted⟩ := table.live_of_creates h.intact hcreates
  obtain ⟨hcreated, hrevoked, hunrevoked, -, -⟩ := hcreates.journal_eq
  obtain ⟨hintact', hlive⟩ := table.live_of_revokes hintact hrevokes hnodup fun id hid => by
    obtain ⟨segment, hsome⟩ := hgranted id hid
    rw [hsome]
    rfl
  -- All in all, the live grants are what they were.
  have hsame (id : GrantId) : table.live g' id = table.live v.grants id := by
    rw [hlive]
    split
    · rename_i hid
      rw [hfresh id hid]
    · rename_i hid
      rw [hother id hid]
  refine ⟨hintact', ?live, h.nodup, h.apart, ?scope, ?count, ?answered⟩
  case live =>
    intro id
    dsimp only
    rw [hsame]
    exact h.live id
  case scope =>
    intro k id hid
    dsimp only
    rw [hsame]
    exact h.scope k id hid
  case count =>
    intro id
    dsimp only
    rw [created_append, created_append, revoked_append, revoked_append, created_revocations,
      revoked_revocations, hcreated, hrevoked, List.nil_append, List.nil_append, hsame,
      List.count_append, List.count_append, h.count]
    omega
  case answered =>
    dsimp only
    rw [unrevoked_append, unrevoked_append, unrevoked_revocations, hunrevoked, List.nil_append,
      List.nil_append, h.answered]

omit [Interface ι H] in
theorem Issue.granted {outcome : Except Refusal UInt32} (h : v.Granted table)
    (hissue : Issue v outcome w) : w.Granted table := by
  cases hissue with
  | issued i label endpoint handle slot kind segments request active created few carries sent =>
    refine h.after_creation (k := (i, kind.direction)) created ?_ rfl (fun k => ?_) rfl
    · rw [active]
      rfl
    · rw [recorded, recorded]
      dsimp only
      rw [update_apply]
      split
      · rename_i hk
        subst hk
        rw [Lane.push, List.flatMap_append, List.flatMap_singleton, SlotGrants.present_ofList few]
      · rw [List.append_nil]
  | abandoned i label endpoint handle access segments active created revoked =>
    exact h.after_abandon created revoked

omit [Interface ι H] in
/-- While the live grants are those recorded, the work is never ended by a revocation. -/
theorem Halts.is_delivery (h : v.Granted table) {fatal : Fatal} (hhalts : Halts v fatal) :
    ∃ type endpoint cause, fatal = .delivery type endpoint cause := by
  obtain ⟨type, endpoint, cause, rfl, -⟩ := hhalts.delivery_of_held h.held
  exact ⟨type, endpoint, cause, rfl⟩

/-- A move only adds to the journal, and creates no grant. -/
theorem Move.extends (hmove : Move v w) : Extends v.journal w.journal := by
  cases hmove with
  | noted entry quiet =>
    refine .cons (.refl _) ?_
    rintro grant answer rfl
    exact quiet
  | started i label endpoint free sent => exact .cons (.cons (.refl _) nofun) nofun
  | restarted i label endpoint known revoked sent =>
    have hrevoked := (Extends.refl v.journal).append (grantless_revocations (v.grantsAt i))
    exact .cons (.cons (hrevoked.append (grantless_quieting _ _)) nofun) nofun
  | gone i endpoint known revoked =>
    have hrevoked := (Extends.refl v.journal).append (grantless_revocations (v.grantsAt i))
    exact .cons (hrevoked.append (grantless_withdrawing _ _)) nofun
  | turnedAway i label endpoint name capabilities pending refused => exact .cons (.refl _) nofun
  | activated i label endpoint reply name pending latest checked hires enabled =>
    exact .cons (.cons hires.extends nofun) nofun
  | refused i label endpoint reply name pending latest checked hires refused =>
    exact .cons (.cons (.cons (.cons hires.extends nofun) nofun) nofun) nofun
  | completed i label endpoint handle b rest result active oldest revoked =>
    exact .cons ((Extends.refl v.journal).append (grantless_revocations _)) nofun
  | reported i label endpoint handle report active => exact .cons (.refl _) nofun
  | acknowledged i label endpoint handle number active sent => exact .cons (.refl _) nofun

theorem Moves.extends (hmoves : Moves v w) : Extends v.journal w.journal := by
  induction hmoves with
  | refl => exact .refl _
  | tail _ hmove ih => exact ih.trans hmove.extends

variable {heads : LaneId config → UInt32}

theorem Moves.granted (hagrees : v.Agrees heads) (h : v.Granted table) (hmoves : Moves v w) :
    w.Granted table :=
  (hmoves.keep (P := fun v => v.Agrees heads ∧ v.Granted table)
    (fun _ _ hv hmove => ⟨hmove.agrees hv.1, hmove.granted hv.1 hv.2⟩) ⟨hagrees, h⟩).2

/-- The grants of the requests that have left a lane since this view. -/
def parted (heads : LaneId config → UInt32) (v w : View config τ γ ι H) (k : LaneId config) :
    List GrantId :=
  ((v.lane k).bookings.take (w.left heads k - v.left heads k)).flatMap fun b => b.grants.present

/-- What was recorded for a lane is what has left it with its requests, and then what is recorded
now. -/
theorem Moves.recorded_eq (hagrees : v.Agrees heads) (hmoves : Moves v w) (k : LaneId config) :
    v.recorded k = parted heads v w k ++ w.recorded k := by
  rw [recorded, parted, recorded, (hmoves.leaves hagrees k).2, ← List.flatMap_append,
    List.take_append_drop]

/-- A grant that has left with its request is not live any more. -/
theorem Moves.not_live_of_parted (hagrees : v.Agrees heads) (h : v.Granted table)
    (hmoves : Moves v w) {k : LaneId config} {id : GrantId} (hid : id ∈ parted heads v w k) :
    (table.live w.grants id).isSome = false := by
  have hw : w.Granted table := hmoves.granted hagrees h
  by_contra hnot
  rw [Bool.not_eq_false] at hnot
  obtain ⟨k', hk'⟩ := (hw.live id).mp hnot
  have hv : id ∈ v.recorded k := by
    rw [hmoves.recorded_eq hagrees]
    exact List.mem_append_left _ hid
  have hv' : id ∈ v.recorded k' := by
    rw [hmoves.recorded_eq hagrees]
    exact List.mem_append_right _ hk'
  -- It would be recorded twice in the earlier view, and thus twice in one lane.
  obtain rfl := h.apart k k' id hv hv'
  have hnodup := h.nodup k
  rw [hmoves.recorded_eq hagrees, List.nodup_append] at hnodup
  exact hnodup.2.2 id hid id hk' rfl

/-- By these entries, made since this view, the grants revoked are those of the requests that have
left; and, where the answer is that there is no memory, those that were created for the request
before the table ran out of grants. Such a request is not posted. -/
structure Settles (heads : LaneId config → UInt32) (v : View config τ γ ι H)
    (answer : Option (Except Refusal UInt32)) (w : View config τ γ ι H) (entries : Journal H) :
    Prop where
  journal : w.journal = entries ++ v.journal
  nodup : (revoked entries).Nodup
  mem_revoked : ∀ id, id ∈ revoked entries ↔ (∃ k, id ∈ parted heads v w k) ∨
    answer = some (.error .noMemory) ∧ id ∈ created entries
  ranOut : answer = some (.error .noMemory) ↔ RanOut entries
  unposted : RanOut entries → ∀ driver endpoint request answer,
    .posted driver endpoint request answer ∉ entries

/-- In moves, a grant is revoked exactly if its request leaves. -/
theorem Moves.settles (hagrees : v.Agrees heads) (h : v.Granted table) (hmoves : Moves v w)
    {answer : Option (Except Refusal UInt32)} (hanswer : answer ≠ some (.error .noMemory)) :
    ∃ entries, Settles heads v answer w entries := by
  obtain ⟨entries, hjournal, hentries⟩ := hmoves.extends
  have hw : w.Granted table := hmoves.granted hagrees h
  have hrecorded := hmoves.recorded_eq hagrees
  -- Both journals account for the same grants created, so what was revoked in between is what was
  -- live before and is not live now.
  have hcount (id : GrantId) : (revoked entries).count id + (table.live w.grants id).isSome.toNat =
      (table.live v.grants id).isSome.toNat := by
    have hlater := hw.count id
    rw [hjournal, created_append, revoked_append, hentries.created_eq_nil, List.nil_append,
      List.count_append, h.count] at hlater
    omega
  refine ⟨entries, hjournal, List.nodup_iff_count_le_one.mpr ?nodup, ?mem_revoked,
    iff_of_false hanswer hentries.not_ranOut, fun hout => absurd hout hentries.not_ranOut⟩
  case nodup =>
    intro id
    have hle := Bool.toNat_le (table.live v.grants id).isSome
    have heq := hcount id
    omega
  case mem_revoked =>
    intro id
    rw [or_iff_left fun hboth => hanswer hboth.1, ← List.count_pos_iff]
    have heq := hcount id
    constructor
    · intro hpos
      have hbefore : (table.live v.grants id).isSome = true := by
        by_contra hnot
        rw [Bool.not_eq_true] at hnot
        rw [hnot, Bool.toNat_false] at heq
        omega
      obtain ⟨k, hk⟩ := (h.live id).mp hbefore
      rw [hrecorded] at hk
      refine ⟨k, (List.mem_append.mp hk).resolve_right fun hkept => ?_⟩
      have hafter := (hw.live id).mpr ⟨k, hkept⟩
      rw [hbefore, hafter] at heq
      omega
    · intro hparted
      obtain ⟨k, hk⟩ := hparted
      have hv : id ∈ v.recorded k := by
        rw [hrecorded]
        exact List.mem_append_left _ hk
      have hafter := hmoves.not_live_of_parted hagrees h hk
      rw [(h.live id).mpr ⟨k, hv⟩, hafter, Bool.toNat_true, Bool.toNat_false] at heq
      omega

omit [Interface ι H] in
/-- A request that is issued costs no grant, and one that is given up costs those it had. -/
theorem Issue.settles {outcome : Except Refusal UInt32} (h : v.Granted table)
    (hissue : Issue v outcome w) : ∃ entries, Settles heads v (some outcome) w entries := by
  have hparted (k : LaneId config) : parted heads v w k = [] := by
    rw [parted, (hissue.joins heads k).1, Nat.sub_self, List.take_zero, List.flatMap_nil]
  cases hissue with
  | @issued i label endpoint handle slot kind segments request grants journal g transport active
      created' few carries sent =>
    obtain ⟨-, hrevoked, -, -, hranOut⟩ := created'.journal_eq
    have hnone : revoked (.posted ⟨i⟩ endpoint request (.ok ()) :: journal) = [] := hrevoked
    have hnot : ¬RanOut (.posted ⟨i⟩ endpoint request (.ok ()) :: journal) := by
      rintro ⟨grant, hgrant⟩
      cases hranOut.mp ⟨grant, (List.mem_cons.mp hgrant).resolve_left nofun⟩
    refine ⟨.posted ⟨i⟩ endpoint request (.ok ()) :: journal, rfl, ?_, fun id => ?_,
      iff_of_false nofun hnot, fun hout => absurd hout hnot⟩
    · rw [hnone]
      exact .nil
    · simp [hnone, hparted]
  | @abandoned i label endpoint handle access segments grants journal g g' active created' revoked' =>
    obtain ⟨hcreated, hrevoked, -, hdealings, hranOut⟩ := created'.journal_eq
    obtain ⟨-, hnodup, -⟩ := table.live_of_creates h.intact created'
    have hall : created (revocations grants ++ journal) = grants.reverse := by
      rw [created_append, created_revocations, hcreated, List.nil_append]
    have hback : revoked (revocations grants ++ journal) = grants.reverse := by
      rw [revoked_append, revoked_revocations, hrevoked, List.append_nil]
    have hout : RanOut (revocations grants ++ journal) := by
      obtain ⟨grant, hgrant⟩ := hranOut.mpr rfl
      exact ⟨grant, List.mem_append_right _ hgrant⟩
    refine ⟨revocations grants ++ journal, (List.append_assoc ..).symm, ?_, fun id => ?_,
      iff_of_true rfl hout, fun _ driver endpoint' request answer hposted => ?_⟩
    · rw [hback]
      exact List.nodup_reverse.mpr hnodup
    · rw [hback, hall]
      simp [hparted]
    · rw [← hdealings, ← dealings_revocations, ← dealings_append] at hposted
      cases (List.mem_filter.mp hposted).2

end View

/-- What is known of a table that keeps its word: no grant is live at first, and nobody else creates or
revokes grants. -/
def GrantTable.Lawful.custody [GrantTable γ] (table : GrantTable.Lawful γ) : Custody γ where
  initial g := table.intact g ∧ ∀ id, table.live g id = none
  drift g g' := table.intact g → table.intact g' ∧ table.live g' = table.live g

section Runs

variable [Transport τ] [GrantTable γ] [Interface ι H] {table : GrantTable.Lawful γ}
variable {heads : LaneId config → UInt32} {s : HubSession config τ γ ι H}

theorem Reachable.granted (h : Reachable heads table.custody s) : s.view.Granted table := by
  refine (h.view_induction (P := fun v => v.Agrees heads ∧ v.Granted table)
    (fun transport grants interface hinitial => ⟨fun k => .new (heads k), ?_⟩)
    (fun v w hv hmove => ⟨hmove.agrees hv.1, hmove.granted hv.1 hv.2⟩)
    (fun v _ w hv hissue => ⟨hissue.agrees hv.1, hissue.granted hv.2⟩)
    fun v transport grants interface hv hdrift => ⟨hv.1, ?_⟩).2
  · obtain ⟨hintact, hnone⟩ := hinitial
    -- At first no grant is live and none is recorded.
    refine ⟨hintact, ?live, fun _ => .nil, nofun, nofun, ?count, rfl⟩
    case live =>
      intro id
      rw [hnone]
      exact ⟨nofun, nofun⟩
    case count =>
      intro id
      rw [hnone]
      rfl
  · obtain ⟨hintact, hlive⟩ := hdrift hv.2.intact
    obtain ⟨-, -, hnodup, hapart, -, -, hanswered⟩ := hv.2
    refine ⟨hintact, ?live, hnodup, hapart, ?scope, ?count, hanswered⟩
    case live =>
      intro id
      rw [hlive]
      exact hv.2.live id
    case scope =>
      intro k id hid
      rw [hlive]
      exact hv.2.scope k id hid
    case count =>
      intro id
      rw [hlive]
      exact hv.2.count id

/-- No grant is lost, and none is revoked twice. The live grants are those recorded on the slots of
requests in flight, each once, for the endpoint of the driver and with the access that the request
needs; and what is recorded for a request is what was posted with it. An operation revokes the
grants of the requests that leave, those made for a request that cannot be posted, and no others; it
never ends the work because a grant is not revoked. -/
theorem Reachable.grants_accounted (h : Reachable heads table.custody s) :
    s.view.Granted table ∧
    (∀ k, ∀ b ∈ s.tables.bookings k, b.kind.direction = k.2) ∧
    (∀ k, (account (heads k) k s.journal).inFlight.map (fun x => (x.2.kind?, x.2.carried)) =
      (s.tables.bookings k).map fun b => (some b.kind, b.grants.present)) ∧
    ∀ operation : Operation config, operation.run.Goes s
      (fun answer t => ∃ entries, s.view.Settles heads answer t.view entries)
      fun fatal => ∃ type endpoint cause, fatal = .delivery type endpoint cause := by
  refine ⟨h.granted, h.sound.kinds, fun k => (h.agrees k).bookings, fun operation => ?_⟩
  refine (operation.goes h.sound).mono (fun answer t hran => ?_) fun fatal hended => ?_
  · obtain ⟨-, ⟨hmoves, hanswer⟩ | ⟨outcome, rfl, hissue⟩⟩ := hran
    · exact hmoves.settles h.agrees h.granted hanswer
    · exact hissue.settles h.granted
  · obtain ⟨v, hmoves, hhalts⟩ := hended
    exact hhalts.is_delivery (hmoves.granted h.agrees h.granted)

end Runs

/-- In the short run, the grants of the segments are live, and those of the first request are recorded
with it. -/
theorem Trial.grants_live :
    session.view.recorded (entry, .send) = [⟨0, by decide⟩, ⟨1, by decide⟩] ∧
    (session.grants.grant? ⟨0, by decide⟩).isSome ∧ (session.grants.grant? ⟨1, by decide⟩).isSome := by
  have hinitial : GrantLedger.lawful.custody.initial {} :=
    ⟨⟨rfl, nofun⟩, fun _ => rfl⟩
  have hlive := (Reachable.grants_accounted (reachable hinitial)).1.live
  have hrecorded : session.view.recorded (entry, .send) = [⟨0, by decide⟩, ⟨1, by decide⟩] := by
    decide +kernel
  refine ⟨hrecorded, (hlive _).mpr ⟨(entry, .send), ?_⟩, (hlive _).mpr ⟨(entry, .send), ?_⟩⟩
  · rw [hrecorded]
    exact List.mem_cons_self
  · rw [hrecorded]
    exact List.mem_cons_of_mem _ List.mem_cons_self

end DriverHub
