import DriverHub.Proofs.Hub.Admission
import DriverHub.Proofs.Session.Posting

/-! What a hub posts. The requests it posts on its own carry nothing, and a transfer carries a grant for each
of its segments and no more, with no gap before the last. -/
namespace DriverHub

open SessionM

variable {config : Config} {τ γ ι H α β δ : Type}

/-- There are no more segments than a transfer has room for, and exactly the first positions, one for each
segment, have a grant. -/
def Transfer.Compact (t : Transfer) : Prop :=
  t.count.toNat ≤ maxSegments ∧ ∀ j, (t.grants.get j).isSome ↔ j < t.count.toNat

def Request.Compact : Request → Prop
  | .transfer _ t => t.Compact
  | _ => True

namespace Hub

variable [Transport τ] {P : τ → Journal H → Prop} {Q : Fatal → τ → Journal H → Prop}
variable (h : Posting Request.Compact P Q)
include h

theorem carries_postInit (i : Fin config.drivers) (endpoint : Endpoint) :
    Carries P Q (postInit i endpoint : HubM config τ γ ι H Unit) :=
  carries_tables.bind fun _ => h.post (show Request.Compact (.init _) from trivial) _ _

variable [GrantTable γ]

theorem carries_cancelRequests (i : Fin config.drivers) :
    Carries P Q (cancelRequests i : HubM config τ γ ι H Unit) := by
  apply carries_tables.bind
  intro hub
  apply (h.expect _).bind
  rintro ⟨grants, hub⟩
  exact (carries_setTables _).bind fun _ => h.revokeGrants grants

section Requests

/-- An admitted request posts what it is made of once its memory was granted. -/
theorem carries_issue (admission : Admission config H) (access : Access) {segments : List Segment}
    {request : SlotGrants → Request}
    (hrequest : ∀ grants, grants.length = segments.length → (request (.ofList grants)).Compact) :
    Carries P Q (issue admission access segments request :
      HubM config τ γ ι H (Except Refusal UInt32)) := by
  apply (carries_setTables _).bind
  intro _
  apply h.createGrants_bind
  intro g grants complete journal g' hcreates
  cases complete with
  | true =>
    have hcompact := hrequest grants ((length_of_creates hcreates).1 rfl)
    apply h.expect_bind
    intro placed hplaced
    obtain rfl := SlotGrants.eq_of_place hplaced
    apply (carries_setTables _).bind
    intro _
    apply (h.post hcompact _ _).bind
    intro _
    apply carries_tables.bind
    intro hub
    apply (h.expect _).bind
    intro hub
    exact (carries_setTables _).bind fun _ => carries_pure _
  | false => exact (h.revokeGrants grants).bind fun _ => carries_pure _

omit h [Transport τ] [GrantTable γ] in
theorem compact_transfer {direction : Direction} {number : UInt32} {segments : List Segment}
    {lengths : Vector UInt16 maxSegments} (hfew : segments.length ≤ maxSegments)
    {grants : List GrantId} (hlength : grants.length = segments.length) :
    (Request.transfer direction {
      id := number
      count := UInt8.ofNat segments.length
      grants := SlotGrants.ofList grants
      lengths }).Compact := by
  have hcount : (UInt8.ofNat segments.length).toNat = segments.length :=
    Nat.mod_eq_of_lt (Nat.lt_of_le_of_lt hfew (by decide))
  refine ⟨hcount.trans_le hfew, fun j => ?_⟩
  rw [hcount, ← hlength, Vector.get_eq_getElem]
  simp [SlotGrants.ofList]

theorem carries_transfer (direction : Direction) (id : DriverId) (segments : List Segment) :
    Carries P Q (transfer direction id segments : HubM config τ γ ι H (Except Refusal UInt32)) := by
  apply carries_tables.bind
  intro hub
  split
  · exact carries_pure _
  · rename_i admission lengths hadmitted
    obtain ⟨i, endpoint, -, hlengths, -⟩ := admitTransfer_eq_ok hadmitted
    obtain ⟨hfew, -⟩ := exists_segmentLengths.mp ⟨lengths, hlengths⟩
    exact carries_issue h admission _ fun grants hlength => compact_transfer hfew hlength

theorem carries_configure (id : DriverId) (change : Change) :
    Carries P Q (configure id change : HubM config τ γ ι H (Except Refusal UInt32)) := by
  apply carries_tables.bind
  intro hub
  split
  · exact carries_pure _
  · exact carries_issue h _ _ fun _ _ => trivial

end Requests

section Drivers

variable [Interface ι H]

theorem carries_takeDown (i : Fin config.drivers) :
    Carries P Q (takeDown i : HubM config τ γ ι H Unit) := by
  apply (carries_cancelRequests h i).bind
  intro _
  apply carries_tables.bind
  intro hub
  split
  · exact h.fail _
  · rename_i endpoint handle _
    apply (h.expect _).bind
    intro hub
    cases handle with
    | none => exact (h.note _).bind fun _ => carries_setTables _
    | some handle =>
      exact (h.removeInterface _ handle).bind fun _ => (h.note _).bind fun _ => carries_setTables _
  · exact (h.removeInterface _ _).bind fun _ => (h.note _).bind fun _ => carries_setTables _

theorem carries_restart (i : Fin config.drivers) (endpoint : Endpoint) :
    Carries P Q (restart i endpoint : HubM config τ γ ι H Unit) := by
  apply (carries_cancelRequests h i).bind
  intro _
  apply carries_tables.bind
  intro hub
  apply (h.expect _).bind
  intro hub
  have hrest : Carries P Q (do
      note (.restarted ⟨i⟩ endpoint)
      postInit i endpoint : HubM config τ γ ι H Unit) :=
    (h.note _).bind fun _ => carries_postInit h i endpoint
  dsimp only
  split
  · exact h.fail _
  · exact (carries_setTables _).bind fun _ => hrest
  · exact (h.disableInterface _ _).bind fun _ => (carries_setTables _).bind fun _ => hrest

theorem carries_bringUp (label : Label) (endpoint : Endpoint) :
    Carries P Q (bringUp label endpoint : HubM config τ γ ι H Unit) := by
  apply carries_tables.bind
  intro hub
  split
  · exact carries_restart h _ endpoint
  · split
    · apply (carries_setTables _).bind
      intro _
      split
      · exact carries_pure ()
      · exact h.note _
    · apply (h.expect _).bind
      intro hub
      exact (carries_setTables _).bind fun _ => (h.note _).bind fun _ => carries_postInit h _ endpoint

theorem carries_apply (event : DriverEvent) :
    Carries P Q (apply event : HubM config τ γ ι H Unit) := by
  unfold apply
  split
  · split
    · exact carries_bringUp h _ _
    · exact h.note _
  · exact carries_pure ()

variable [Discovery δ]

theorem carries_takeEvents (source : δ) :
    Carries P Q (takeEvents source : HubM config τ γ ι H δ) := by
  -- The recursion is on the changes that are still to be reported.
  induction hbacklog : Discovery.backlog source using Nat.strong_induction_on generalizing source with
  | _ count ih =>
    rw [takeEvents]
    split
    · rename_i event rest hpolled
      have hless := Discovery.backlog_poll _ _ _ hpolled
      exact (h.recordPoll _).bind fun _ => (carries_apply h event).bind fun _ =>
        ih _ (hbacklog ▸ hless) rest rfl
    · exact (h.recordPoll _).bind fun _ => carries_pure _
    · exact (h.recordPoll _).bind fun _ => (h.note _).bind fun _ => carries_pure _

theorem carries_sweepEntry (source : δ) (i : Fin config.drivers) :
    Carries P Q (sweepEntry source i : HubM config τ γ ι H Unit) := by
  apply carries_tables.bind
  intro hub
  split
  · split
    · apply (h.lookUp source _).bind
      intro found
      cases found with
      | true => exact carries_pure ()
      | false => exact carries_takeDown h i
    · exact carries_pure ()
  · exact carries_pure ()

theorem carries_reconcile (source : δ) :
    Carries P Q (reconcile source : HubM config τ γ ι H δ) := by
  have hsweep (source : δ) (entries : List (Fin config.drivers)) :
      Carries P Q (sweep source entries : HubM config τ γ ι H Unit) := by
    induction entries with
    | nil => exact carries_pure ()
    | cons i rest ih => exact (carries_sweepEntry h source i).bind fun _ => ih
  apply (carries_takeEvents h source).bind
  intro source
  exact (hsweep source _).bind fun _ => carries_pure source

end Drivers

section Replies

variable [Interface ι H]

theorem carries_enable (i : Fin config.drivers) (endpoint : Endpoint) (handle : H) (isNew : Bool)
    (name : InterfaceName) (reply : InitReply) :
    Carries P Q (enable i endpoint handle isNew name reply : HubM config τ γ ι H Unit) := by
  apply carries_tables.bind
  intro hub
  apply (carries_setTables _).bind
  intro _
  apply (h.expect _).bind
  intro enablement
  apply (h.enableInterface _ handle _).bind
  intro answer
  cases answer with
  | true =>
    apply carries_tables.bind
    intro hub
    apply (h.expect _).bind
    intro hub
    exact (carries_setTables _).bind fun _ => h.note _
  | false => exact (h.note _).bind fun _ => carries_takeDown h i

theorem carries_initReply (i : Fin config.drivers) (reply : InitReply) :
    Carries P Q (initReply i reply : HubM config τ γ ι H Unit) := by
  apply carries_tables.bind
  intro hub
  split
  · rename_i endpoint handle _
    split
    · exact h.note _
    · split
      · cases handle with
        | some handle => exact carries_enable h i endpoint handle false _ reply
        | none =>
          apply (h.addInterface _ _ _).bind
          intro answer
          cases answer with
          | some handle => exact carries_enable h i endpoint handle true _ reply
          | none => exact (h.note _).bind fun _ => carries_takeDown h i
      · exact (h.note _).bind fun _ => carries_takeDown h i
  · exact h.note _

theorem carries_finish (i : Fin config.drivers) (kind : RequestKind) (number : UInt32)
    (result : Int32) : Carries P Q (finish i kind number result : HubM config τ γ ι H Unit) := by
  apply carries_tables.bind
  intro hub
  split
  · apply (h.expect _).bind
    intro completed
    cases completed with
    | none => exact h.note _
    | some completed =>
      exact (carries_setTables _).bind fun _ => (h.revokeGrants _).bind fun _ =>
        h.reportFinished _ kind _ result
  · exact h.note _

omit [GrantTable γ] in
theorem carries_takeStatus (i : Fin config.drivers) (number : UInt32) (report : StatusReport) :
    Carries P Q (takeStatus i number report : HubM config τ γ ι H Unit) := by
  apply carries_tables.bind
  intro hub
  split
  · exact (h.reportStatus _ _ report).bind fun _ =>
      h.post (show Request.Compact (.acknowledge number) from trivial) _ _
  · exact h.note _

theorem carries_process (endpoint : Endpoint) (reply : Reply) :
    Carries P Q (process endpoint reply : HubM config τ γ ι H Unit) := by
  apply carries_tables.bind
  intro hub
  split
  · exact h.note _
  · cases reply with
    | init reply => exact carries_initReply h _ reply
    | finished kind number result => exact carries_finish h _ kind number result
    | status number report => exact carries_takeStatus h _ number report

theorem carries_processFrame (endpoint : Endpoint) (bytes : List UInt8) :
    Carries P Q (processFrame endpoint bytes : HubM config τ γ ι H Unit) := by
  apply (h.expect _).bind
  intro decoded
  split
  · exact carries_process h endpoint _
  · exact h.note _
  · exact h.note _

end Replies
end Hub

/-- Whatever a hub is asked to do, it posts requests of this form only. -/
theorem Operation.carries_run [Transport τ] [GrantTable γ] [Interface ι H]
    {P : τ → Journal H → Prop} {Q : Fatal → τ → Journal H → Prop}
    (h : Posting Request.Compact P Q) (operation : Operation config) :
    Carries P Q (operation.run : HubM config τ γ ι H (Option (Except Refusal UInt32))) := by
  cases operation with
  | reconcile source => exact (Hub.carries_reconcile h source).bind fun _ => carries_pure _
  | send id segments => exact (Hub.carries_transfer h .send id segments).bind fun _ => carries_pure _
  | receive id segments =>
    exact (Hub.carries_transfer h .receive id segments).bind fun _ => carries_pure _
  | configure id change => exact (Hub.carries_configure h id change).bind fun _ => carries_pure _
  | process endpoint reply =>
    exact (Hub.carries_process h endpoint reply).bind fun _ => carries_pure _
  | processFrame endpoint bytes =>
    exact (Hub.carries_processFrame h endpoint bytes).bind fun _ => carries_pure _

end DriverHub
