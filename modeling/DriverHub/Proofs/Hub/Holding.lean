import DriverHub.Proofs.Hub.Run
import DriverHub.Proofs.Session.Grants

/-! The grants that a hub holds. Those recorded with its requests are out and each stands in one place,
whoever else creates grants in the same table; so where the table keeps its word, none fails to be revoked
when its request leaves. -/
namespace DriverHub

open Function

variable {config : Config} {τ γ ι H : Type}

namespace View

/-- The grants recorded on the slots of a lane's requests. -/
def recorded (v : View config τ γ ι H) (k : LaneId config) : List GrantId :=
  (v.lane k).bookings.flatMap fun b => b.grants.present

variable {v w : View config τ γ ι H}

theorem mem_grantsAt {i : Fin config.drivers} {id : GrantId} :
    id ∈ v.grantsAt i ↔ ∃ d, id ∈ v.recorded (i, d) := by
  rw [grantsAt, List.flatMap_append, List.mem_append]
  constructor
  · rintro (hid | hid)
    · exact ⟨.send, hid⟩
    · exact ⟨.receive, hid⟩
  · rintro ⟨_ | _, hid⟩
    · exact .inl hid
    · exact .inr hid

/-- The recorded grants of an oldest request come first. -/
theorem recorded_cons {k : LaneId config} {b : Booking config.slots}
    {rest : List (Booking config.slots)} (h : (v.lane k).bookings = b :: rest) :
    v.recorded k = b.grants.present ++ rest.flatMap fun b => b.grants.present := by
  rw [recorded, h, List.flatMap_cons]

variable [GrantTable γ] {tally : GrantTable.Tally γ}

/-- Every recorded grant is out and recorded once. -/
structure Held (tally : GrantTable.Tally γ) (v : View config τ γ ι H) : Prop where
  intact : tally.intact v.grants
  out : ∀ k, ∀ id ∈ v.recorded k, tally.out v.grants id
  nodup : ∀ k, (v.recorded k).Nodup
  apart : ∀ k k' id, id ∈ v.recorded k → id ∈ v.recorded k' → k = k'

theorem Held.nodup_grantsAt (h : v.Held tally) (i : Fin config.drivers) : (v.grantsAt i).Nodup := by
  rw [grantsAt, List.flatMap_append]
  refine List.nodup_append.mpr ⟨h.nodup (i, .send), h.nodup (i, .receive), ?_⟩
  rintro id hid id' hid' rfl
  have heq := h.apart _ _ id hid hid'
  cases heq

theorem Held.out_of_mem_grantsAt (h : v.Held tally) {i : Fin config.drivers} :
    ∀ id ∈ v.grantsAt i, tally.out v.grants id := by
  intro id hid
  obtain ⟨d, hd⟩ := mem_grantsAt.mp hid
  exact h.out (i, d) id hd

/-- Some recorded grants are revoked, and are recorded no more. -/
theorem Held.after_revocation (h : v.Held tally) {grants : List GrantId}
    (hrevokes : Revokes v.grants grants w.grants) (hgrants : grants.Nodup)
    (hout : ∀ id ∈ grants, tally.out v.grants id)
    (hrecorded : ∀ k, (w.recorded k).Sublist (v.recorded k))
    (hkept : ∀ k, ∀ id ∈ w.recorded k, id ∉ grants) : w.Held tally := by
  obtain ⟨hintact, hothers⟩ := tally.of_revokes h.intact hrevokes hgrants hout
  refine ⟨hintact, fun k id hid => ?_, fun k => (h.nodup k).sublist (hrecorded k),
    fun k k' id hid hid' => ?_⟩
  · exact hothers id (hkept k id hid) (h.out k id ((hrecorded k).subset hid))
  · exact h.apart k k' id ((hrecorded k).subset hid) ((hrecorded k').subset hid')

/-- No grant is revoked. -/
theorem Held.after_nothing (h : v.Held tally) (hgrants : w.grants = v.grants)
    (hrecorded : ∀ k, (w.recorded k).Sublist (v.recorded k)) : w.Held tally :=
  h.after_revocation (hgrants ▸ .done v.grants) .nil nofun hrecorded fun _ _ _ => List.not_mem_nil

theorem Held.after_same (h : v.Held tally) (hgrants : w.grants = v.grants)
    (hbookings : ∀ k, (w.lane k).bookings = (v.lane k).bookings) : w.Held tally := by
  refine h.after_nothing hgrants fun k => ?_
  rw [recorded, hbookings, recorded]

/-- The grants of an entry are revoked, and its lanes emptied. -/
theorem Held.after_cancel (h : v.Held tally) (i : Fin config.drivers)
    (hrevokes : Revokes v.grants (v.grantsAt i) w.grants)
    (hbookings : ∀ k, (w.lane k).bookings = if k.1 = i then [] else (v.lane k).bookings) :
    w.Held tally := by
  have hrecorded (k : LaneId config) : w.recorded k = if k.1 = i then [] else v.recorded k := by
    rw [recorded, hbookings, recorded]
    split <;> rfl
  apply h.after_revocation hrevokes (h.nodup_grantsAt i) h.out_of_mem_grantsAt
  · intro k
    rw [hrecorded]
    split
    · exact List.nil_sublist _
    · exact List.Sublist.refl _
  · intro k id hid hgone
    rw [hrecorded] at hid
    split at hid
    · cases hid
    · rename_i hne
      obtain ⟨d, hd⟩ := mem_grantsAt.mp hgone
      exact hne (congrArg Prod.fst (h.apart k (i, d) id hid hd))

variable [Transport τ] [Interface ι H]

theorem Move.held (h : v.Held tally) (hmove : Move v w) : w.Held tally := by
  cases hmove with
  | noted | turnedAway | reported | acknowledged =>
    exact h.after_nothing rfl fun _ => List.Sublist.refl _
  | started i label endpoint free sent =>
    refine h.after_same rfl ?_
    exact bookings_atEntry_same fun _ _ => rfl
  | restarted i label endpoint known revoked sent =>
    exact h.after_cancel i revoked (bookings_atEntry_nil fun _ _ => rfl)
  | gone i endpoint known revoked =>
    exact h.after_cancel i revoked (bookings_atEntry_nil fun _ _ => rfl)
  | activated i label endpoint reply name pending latest checked hires enabled =>
    refine h.after_same rfl ?_
    exact bookings_atEntry_same fun _ _ => rfl
  | refused i label endpoint reply name pending latest checked hires refused =>
    refine h.after_nothing rfl fun k => ?_
    rw [recorded, bookings_atEntry_nil (fun _ _ => rfl) k]
    split
    · exact List.nil_sublist _
    · exact List.Sublist.refl _
  | completed i label endpoint handle b rest result active oldest revoked =>
    have hoverall := recorded_cons oldest
    have hnodup := h.nodup (i, b.kind.direction)
    rw [hoverall, List.nodup_append] at hnodup
    have hmem : ∀ id ∈ b.grants.present, id ∈ v.recorded (i, b.kind.direction) := by
      intro id hid
      rw [hoverall]
      exact List.mem_append_left _ hid
    apply h.after_revocation revoked hnodup.1 fun id hid => h.out _ id (hmem id hid)
    · intro k
      rw [recorded]
      dsimp only
      rw [update_apply]
      split
      · rename_i hk
        subst hk
        rw [hoverall, Lane.pop, oldest, List.tail_cons]
        exact List.sublist_append_right ..
      · exact List.Sublist.refl _
    · intro k id hid hgone
      rw [recorded] at hid
      dsimp only at hid
      rw [update_apply] at hid
      split at hid
      · rw [Lane.pop, oldest, List.tail_cons] at hid
        exact hnodup.2.2 id hgone id hid rfl
      · rename_i hne
        exact hne (h.apart k _ id hid (hmem id hgone))

omit [Interface ι H] in
theorem Issue.held {outcome : Except Refusal UInt32} (h : v.Held tally)
    (hissue : Issue v outcome w) : w.Held tally := by
  cases hissue with
  | @issued i label endpoint handle slot kind segments request grants journal g transport active
      created few carries sent =>
    obtain ⟨hintact, hnodup, hnew, hkept⟩ := tally.of_creates h.intact created
    -- What was recorded before was out, and the new grants were not.
    have hold {k : LaneId config} {id : GrantId} (hid : id ∈ v.recorded k) : id ∉ grants :=
      fun hgrant => (hnew id hgrant).1 (h.out k id hid)
    have hrecorded (k : LaneId config) : recorded { v with
        lane := update v.lane (i, kind.direction)
          ((v.lane (i, kind.direction)).push ⟨slot, kind, .ofList grants⟩)
        transport
        grants := g
        journal := .posted ⟨i⟩ endpoint request (.ok ()) :: (journal ++ v.journal) } k =
        v.recorded k ++ if k = (i, kind.direction) then grants else [] := by
      rw [recorded, recorded]
      dsimp only
      rw [update_apply]
      split
      · rename_i hk
        subst hk
        rw [Lane.push, List.flatMap_append, List.flatMap_singleton, SlotGrants.present_ofList few]
      · rw [List.append_nil]
    have hmem {k : LaneId config} {id : GrantId}
        (hid : id ∈ v.recorded k ++ if k = (i, kind.direction) then grants else []) :
        id ∈ v.recorded k ∨ id ∈ grants ∧ k = (i, kind.direction) := by
      rcases List.mem_append.mp hid with hid | hid
      · exact .inl hid
      · split at hid
        · rename_i hk
          exact .inr ⟨hid, hk⟩
        · cases hid
    refine ⟨hintact, fun k id hid => ?out, fun k => ?nodup, fun k k' id hid hid' => ?apart⟩
    case out =>
      rw [hrecorded] at hid
      rcases hmem hid with hid | ⟨hid, -⟩
      · exact hkept id (h.out k id hid)
      · exact (hnew id hid).2
    case nodup =>
      rw [hrecorded]
      refine List.nodup_append.mpr ⟨h.nodup k, ?_, ?_⟩
      · split
        · exact hnodup
        · exact .nil
      · rintro id hid id' hid' rfl
        split at hid'
        · exact hold hid hid'
        · cases hid'
    case apart =>
      rw [hrecorded] at hid hid'
      rcases hmem hid with hid | ⟨hid, hk⟩
      · rcases hmem hid' with hid' | ⟨hid', -⟩
        · exact h.apart k k' id hid hid'
        · exact absurd hid' (hold hid)
      · rcases hmem hid' with hid' | ⟨-, hk'⟩
        · exact absurd hid (hold hid')
        · rw [hk, hk']
  | @abandoned i label endpoint handle access segments grants journal g g' active created revoked =>
    -- The grants that were created are revoked again, and none of them was recorded.
    obtain ⟨hintact, hnodup, hnew, hkept⟩ := tally.of_creates h.intact created
    obtain ⟨hintact', hothers⟩ := tally.of_revokes hintact revoked hnodup fun id hid => (hnew id hid).2
    refine ⟨hintact', fun k id hid => hothers id (fun hgrant => ?_) (hkept id (h.out k id hid)),
      h.nodup, h.apart⟩
    exact (hnew id hgrant).1 (h.out k id hid)

omit [Interface ι H] in
/-- While the recorded grants are held, only a request that is not delivered ends the work. -/
theorem Halts.delivery_of_held {table : GrantTable.Lawful γ} (h : v.Held table.tally) {fatal : Fatal}
    (hhalts : Halts v fatal) :
    ∃ type endpoint cause, fatal = .delivery type endpoint cause ∧ ∃ request transport,
      Transport.send v.transport endpoint request = (.error cause, transport) := by
  cases hhalts with
  | delivery endpoint request sent =>
    exact ⟨request.type, endpoint, _, rfl, request, _, sent⟩
  | cancelling i revoked =>
    exact absurd revoked
      (table.not_revokesUpTo h.intact (h.nodup_grantsAt i) h.out_of_mem_grantsAt _ _)
  | completing k b rest oldest revoked =>
    have hoverall := recorded_cons oldest
    have hnodup := h.nodup k
    rw [hoverall] at hnodup
    refine absurd revoked
      (table.not_revokesUpTo h.intact hnodup.of_append_left (fun id hid => ?_) _ _)
    apply h.out k
    rw [hoverall]
    exact List.mem_append_left _ hid
  | abandoning endpoint access segments created revoked =>
    obtain ⟨hintact, hnodup, -, -, hgranted⟩ := table.live_of_creates h.intact created
    refine absurd revoked (table.not_revokesUpTo hintact hnodup (fun id hid => ?_) _ _)
    obtain ⟨segment, hsome⟩ := hgranted id hid
    rw [hsome]
    rfl

end View

/-- What is known of a table that is used by others too: nobody revokes a grant that is not theirs. -/
def GrantTable.Tally.tenure [GrantTable γ] (tally : GrantTable.Tally γ) : Custody γ where
  initial := tally.intact
  drift g g' := tally.intact g → tally.intact g' ∧ ∀ id, tally.out g id → tally.out g' id

theorem Reachable.held [Transport τ] [GrantTable γ] [Interface ι H] {tally : GrantTable.Tally γ}
    {heads : LaneId config → UInt32} {s : HubSession config τ γ ι H}
    (h : Reachable heads tally.tenure s) : s.view.Held tally := by
  refine h.view_induction (fun transport grants interface hintact => ?_)
    (fun v w hv hmove => hmove.held hv) (fun v _ w hv hissue => hissue.held hv)
    fun v transport grants interface hv hdrift => ?_
  · exact ⟨hintact, nofun, fun _ => .nil, nofun⟩
  · obtain ⟨hintact, hout⟩ := hdrift hv.intact
    exact ⟨hintact, fun k id hid => hout id (hv.out k id hid), hv.nodup, hv.apart⟩

end DriverHub
