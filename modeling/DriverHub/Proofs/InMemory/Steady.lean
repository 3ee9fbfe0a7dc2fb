import DriverHub.Proofs.Hub.Guarded
import DriverHub.Proofs.InMemory.Counts

/-! A hub over collaborators in memory never stops. As long as sends and revocations are not made to fail,
whatever it is asked and whatever bytes come, every operation answers. -/
namespace DriverHub

open SessionM

variable {config : Config}

namespace View

variable {v w : View config Outbox GrantLedger CallbackLog Nat}

/-- Lanes are open as they should be, the recorded grants are held, and sends are not made to fail. -/
structure Steady (v : View config Outbox GrantLedger CallbackLog Nat) : Prop where
  ordered : v.Ordered
  held : v.Held GrantLedger.lawful.tally
  reliable : v.transport.failing = false

theorem Move.steady (hvalid : config.Valid) (h : v.Steady) (hmove : Move v w) : w.Steady :=
  ⟨hmove.ordered hvalid h.ordered, hmove.held h.held,
    hmove.keep_transport (fun _ _ _ _ hv hsent => (Outbox.failing_of_send hsent).trans hv) h.reliable⟩

theorem Issue.steady {outcome : Except Refusal UInt32} (h : v.Steady) (hissue : Issue v outcome w) :
    w.Steady :=
  ⟨hissue.ordered h.ordered, hissue.held h.held,
    hissue.keep_transport (fun _ _ _ _ hv hsent => (Outbox.failing_of_send hsent).trans hv) h.reliable⟩

/-- No move ends the work. -/
theorem Steady.not_halts (h : v.Steady) (fatal : Fatal) : ¬Halts v fatal := by
  intro hhalts
  obtain ⟨type, endpoint, cause, -, request, transport, hfailed⟩ := hhalts.delivery_of_held h.held
  exact Outbox.not_send_error h.reliable hfailed

theorem Moves.steady (hvalid : config.Valid) (h : v.Steady) (hmoves : Moves v w) : w.Steady :=
  hmoves.keep (fun _ _ hv hmove => hmove.steady hvalid hv) h

/-- Where a request was given up, the budget for grants or their numbers are used up. -/
theorem Issue.exhausted {refusal : Refusal} (hissue : Issue v (.error refusal) w) :
    w.grants.budget = some 0 ∨ 2 ^ 31 ≤ w.grants.next := by
  cases hissue with
  | abandoned i label endpoint handle access segments active created revoked =>
    exact revoked.keep (fun _ _ _ hexhausted => GrantLedger.exhausted_of_revoke hexhausted)
      (GrantLedger.exhausted_of_creates created rfl)

end View

section Runs

variable {heads : LaneId config → UInt32} {allowed : Control → Prop} {s : HostedSession config}

/-- Others may create grants, which leaves those that are live. -/
theorem Control.Benign.drift {control : Control} (h : control.Benign) (ledger : GrantLedger) :
    GrantLedger.lawful.tally.tenure.drift ledger (control.onLedger ledger) := by
  intro hintact
  cases control with
  | limit budget => exact ⟨⟨hintact.honest, hintact.below⟩, fun _ hlive => hlive⟩
  | failRevokes corrupted => exact ⟨⟨h, hintact.below⟩, fun _ hlive => hlive⟩
  | revoke => exact h.elim
  | create grant =>
    rcases hcreate : GrantTable.create ledger grant with ⟨_ | id, ledger'⟩
    · obtain rfl : (ledger.create grant).2 = ledger' := congrArg Prod.snd hcreate
      exact GrantLedger.lawful.tally.create_none _ _ _ hintact hcreate
    · obtain rfl : (ledger.create grant).2 = ledger' := congrArg Prod.snd hcreate
      obtain ⟨hintact', -, -, hkept⟩ :=
        GrantLedger.lawful.tally.create_some _ _ _ _ hintact hcreate
      exact ⟨hintact', hkept⟩
  | _ => exact ⟨hintact, fun _ hlive => hlive⟩

theorem Hosted.steady (h : Hosted heads Control.Benign s) : s.view.Steady := by
  have hvalid := h.reachable_any.valid
  refine h.view_induction ?_ (fun v w hv hmove => hmove.steady hvalid hv)
    (fun v _ w hv hissue => hissue.steady hv) ?_
  · exact ⟨⟨fun _ => rfl, nofun, nofun⟩, ⟨⟨rfl, nofun⟩, nofun, fun _ => .nil, nofun⟩, rfl⟩
  · intro v control hv hbenign
    have hordered := hv.ordered
    have hheld := hv.held
    obtain ⟨hintact, hlive⟩ := hbenign.drift v.grants hheld.intact
    refine ⟨⟨hordered.seats, hordered.labels, hordered.lanes⟩,
      ⟨hintact, fun k id hid => hlive id (hheld.out k id hid), hheld.nodup, hheld.apart⟩, ?_⟩
    cases control with
    | failSends failing => exact hbenign
    | _ => exact hv.reliable

/-- What could only end by a move that ends the work answers. -/
theorem View.Steady.answers (hvalid : config.Valid) (h : s.view.Steady) {α : Type}
    {action : HubM config Outbox GrantLedger CallbackLog Nat α}
    {answers : α → HostedSession config → Prop} (hgoes : action.Goes s answers (Hub.Ended s)) :
    ∃ answer t, action s = .ok answer t ∧ answers answer t := by
  unfold Goes at hgoes
  split at hgoes
  · rename_i answer t answered
    exact ⟨answer, t, answered, hgoes⟩
  · obtain ⟨v, hmoves, hhalts⟩ := hgoes
    exact absurd hhalts ((hmoves.steady hvalid h).not_halts _)

/-- A hub whose owner makes neither sends nor revocations fail and takes no grant from it answers
whatever it is asked, and no step meets a case that should not be, reconciling not even halfway. Whatever
bytes come, none is read that is not there, and every request has room in its frame. The counts of the hub
stay below what was created, added and reported; and grants only run out if there are none left to
create. -/
theorem Hosted.always_answers (h : Hosted heads Control.Benign s) :
    s.tables.Guarded ∧
    s.grants.next = s.grants.live.length + s.grants.revoked.size ∧
    s.interface.count ≤ additions s.journal ∧
    s.tables.dropped ≤ changes s.journal ∧
    (∀ bytes, ∃ outcome, Reply.decode bytes = .ok outcome) ∧
    (∀ request : Request, Wire.headerSize + request.payload.length ≤ frameSize) ∧
    (∀ operation : Operation config, ∃ answer t, operation.run s = .ok answer t ∧
      (t.grants.live.length + t.grants.revoked.size < 2 ^ 31 →
        answer = some (.error .noMemory) → t.grants.budget = some 0)) ∧
    ∀ {δ : Type} [Discovery δ] (source : δ),
      ∃ rest t, Hub.takeEvents source s = .ok rest t ∧ t.tables.Guarded ∧
        ∀ entries, ∃ u, Hub.sweep rest entries t = .ok () u ∧ u.tables.Guarded := by
  have hreachable := h.reachable_any
  have hvalid := hreachable.valid
  have hsteady := h.steady
  refine ⟨hreachable.ready.guarded, h.counted.total, h.count_le_additions, hreachable.dropped_le,
    Reply.exists_decode, Request.fits, fun operation => ?operation, fun source => ?stages⟩
  case operation =>
    obtain ⟨answer, t, answered, -, hran⟩ :=
      hsteady.answers hvalid (operation.goes hreachable.sound)
    refine ⟨answer, t, answered, fun hfew hnoMemory => ?_⟩
    subst hnoMemory
    rcases hran with ⟨-, hother⟩ | ⟨outcome, houtcome, hissue⟩
    · exact absurd rfl hother
    · cases houtcome
      rw [← (h.after operation answered).counted.total] at hfew
      exact hissue.exhausted.resolve_right (Nat.not_le.mpr hfew)
  case stages =>
    obtain ⟨rest, t, htaken, hsound, hmoves⟩ :=
      hsteady.answers hvalid (Hub.plays_takeEvents hreachable.sound source)
    have hsteady' := hmoves.steady hvalid hsteady
    refine ⟨rest, t, htaken, (hsteady'.ordered.ready hsound).guarded, fun entries => ?_⟩
    obtain ⟨⟨⟩, u, hswept, hsound', hmoves'⟩ :=
      hsteady'.answers hvalid (Hub.plays_sweep hsound rest entries)
    exact ⟨u, hswept, ((hmoves'.steady hvalid hsteady').ordered.ready hsound').guarded⟩

end Runs

namespace Trial

theorem hosted : Hosted heads Control.Benign session := by
  have hstart : Hosted heads Control.Benign start :=
    .new (s := { start with tables := Hub.empty small }) small_built
  exact hstart.afterAll _

/-- No more grants may be created. -/
def exhausted : HostedSession small := (Control.limit (some 0)).apply session

theorem exhausted_answers : Hosted heads Control.Benign exhausted ∧
    exhausted.tables.Guarded ∧ ∃ t, (Operation.send ⟨0⟩ [⟨0, 16⟩]).run exhausted =
      .ok (some (.error .noMemory)) t ∧ t.grants.budget = some 0 := by
  have hhosted : Hosted heads Control.Benign exhausted := hosted.controlled _ trivial
  obtain ⟨hguarded, -, -, -, -, -, hruns, -⟩ := hhosted.always_answers
  obtain ⟨answer, t, answered, hbudget⟩ := hruns (.send ⟨0⟩ [⟨0, 16⟩])
  have houtcome : (match (Operation.send ⟨0⟩ [⟨0, 16⟩]).run exhausted with
      | .ok answer t => some (answer, t.grants.live.length + t.grants.revoked.size)
      | .error _ _ => none) = some (some (.error .noMemory), 3) := by
    decide +kernel
  rw [answered] at houtcome
  injection houtcome with houtcome
  obtain ⟨rfl, hcount⟩ := Prod.mk.inj houtcome
  exact ⟨hhosted, hguarded, t, answered, hbudget (by omega) rfl⟩

end Trial
end DriverHub
