import DriverHub.Proofs.Hub.Run

/-! Spares are lent to the sends that a queue has beyond its guarantee. Which request took one is not
recorded, but in hand and lent there are always as many as configured. -/
namespace DriverHub

open Function Finset SessionM

variable {config : Config} {τ γ ι H : Type}

namespace Hub

/-- The sends of an entry beyond those that need no spare. -/
def excess (hub : Hub config H) (i : Fin config.drivers) : Nat :=
  (hub.queues (i, .send)).depth - config.sendDepth.toNat

theorem sum_direction (f : Direction → Nat) : ∑ d, f d = f .send + f .receive :=
  sum_pair (by decide)

/-- All requests of a send queue may use spares, so it borrows as many as it has in excess. -/
theorem Stored.owed_send {hub : Hub config H} (h : hub.Stored) (i : Fin config.drivers) :
    owed (hub.queues (i, .send)).guaranteed (hub.bookings (i, .send)) = hub.excess i := by
  have huses : ∀ b ∈ hub.bookings (i, .send), b.kind.usesSpares = true := by
    intro b hb
    rw [usesSpares_eq, h.kinds (i, .send) b hb]
    rfl
  rw [owed_of_all huses, h.guaranteed, h.length_bookings, excess]

theorem Stored.owed_receive {hub : Hub config H} (h : hub.Stored) (i : Fin config.drivers) :
    owed (hub.queues (i, .receive)).guaranteed (hub.bookings (i, .receive)) = 0 := by
  apply owed_of_none
  intro b hb
  rw [usesSpares_eq, h.kinds (i, .receive) b hb]
  rfl

theorem Stored.spares_add_excess {hub : Hub config H} (h : hub.Stored) :
    hub.pool.spares + ∑ i, hub.excess i = config.spareRequests.toNat := by
  have hborrowed : hub.borrowed = ∑ i, hub.excess i := by
    unfold borrowed
    rw [Fintype.sum_prod_type]
    apply sum_congr rfl
    intro i _
    rw [sum_direction, h.owed_send, h.owed_receive, Nat.add_zero]
  rw [← hborrowed, h.spares, h.total]

/-- What is in hand is known from the send queues alone. -/
theorem Stored.spares_eq {hub hub' : Hub config H} (h : hub.Stored) (h' : hub'.Stored)
    (hsends : ∀ i, hub'.queues (i, .send) = hub.queues (i, .send)) :
    hub'.pool.spares = hub.pool.spares := by
  have hexcess : ∑ i, hub'.excess i = ∑ i, hub.excess i := by
    apply sum_congr rfl
    intro i _
    rw [excess, excess, hsends]
  have hhub := h.spares_add_excess
  have hhub' := h'.spares_add_excess
  omega

/-- A request that is finished leaves its queue, and no other queue changes. -/
theorem queues_of_completed {hub hub' : Hub config H} {i : Fin config.drivers} {kind : RequestKind}
    {number : UInt32} {grants : List GrantId}
    (hcompleted : hub.completed? i kind number = .ok (some (grants, hub'))) {k : LaneId config}
    (hk : k ≠ (i, kind.direction)) : hub'.queues k = hub.queues k := by
  obtain ⟨gone?, -, hcompleted⟩ := except_bind_eq_ok.mp hcompleted
  cases gone? with
  | none => cases hcompleted
  | some gone =>
    cases hcompleted
    change (hub.withQueue (i, kind.direction) gone.queue gone.pool).queues k = hub.queues k
    rw [withQueue_queues, update_of_ne hk]

variable [Transport τ] [GrantTable γ] [Interface ι H] {s : HubSession config τ γ ι H}

theorem goes_process_finished_queues (endpoint : Endpoint) (kind : RequestKind) (number : UInt32)
    (result : Int32) :
    (process endpoint (.finished kind number result) : HubM config τ γ ι H Unit).Goes s
      (fun _ t => ∀ k, k.2 ≠ kind.direction → t.tables.queues k = s.tables.queues k)
      fun _ => True := by
  unfold process
  rw [goes_bind, goes_tables]
  split
  · intro k hk
    rfl
  · rename_i i hfound
    unfold finish
    rw [goes_bind, goes_tables]
    split
    · rw [goes_bind]
      cases hcompleted : s.tables.completed? i kind number with
      | error defect => trivial
      | ok gone? =>
        rw [goes_expect]
        cases gone? with
        | none =>
          intro k hk
          rfl
        | some gone =>
          obtain ⟨grants, hub⟩ := gone
          dsimp only
          rw [goes_bind, goes_setTables, goes_bind]
          refine goes_revokeGrants (fun g hg k hk => ?_) fun _ _ _ => trivial
          apply queues_of_completed hcompleted
          rintro rfl
          exact hk rfl
    · intro k hk
      rfl

end Hub

/-- The operation asks for a receive, or takes the answer to one. -/
def Operation.IsReceive : Operation config → Prop
  | .receive _ _ => True
  | .process _ reply => ∃ number result, reply = .finished .receive number result
  | .processFrame _ bytes => 
    ∃ number result, Reply.decode bytes = .ok (.ok (.finished .receive number result))
  | _ => False

section Runs

variable [Transport τ] [GrantTable γ] [Interface ι H]
variable {heads : LaneId config → UInt32} {custody : Custody γ} {s t : HubSession config τ γ ι H}

theorem Operation.IsReceive.goes_sends {operation : Operation config} (h : operation.IsReceive)
    (i : Fin config.drivers) :
    operation.run.Goes s (fun _ t => t.tables.queues (i, .send) = s.tables.queues (i, .send))
      fun _ => True := by
  -- Requests and replies alike change no queue of the other direction.
  have hother : Direction.send ≠ .receive := by decide
  have hfinished (endpoint : Endpoint) (number : UInt32) (result : Int32) :
      (.process endpoint (.finished .receive number result) : Operation config).run.Goes s
        (fun _ t => t.tables.queues (i, .send) = s.tables.queues (i, .send)) fun _ => True := by
    simp only [Operation.run]
    rw [goes_bind]
    exact Goes.mono (Hub.goes_process_finished_queues endpoint .receive number result)
      (fun _ t ht => ht (i, .send) hother) fun _ _ => trivial
  cases operation with
  | receive id segments =>
    simp only [Operation.run]
    rw [goes_bind]
    exact Goes.mono (Hub.goes_transfer_queues .receive id segments)
      (fun _ t ht => ht (i, .send) hother) fun _ _ => trivial
  | process endpoint reply =>
    obtain ⟨number, result, rfl⟩ := h
    exact hfinished endpoint number result
  | processFrame endpoint bytes =>
    obtain ⟨number, result, hdecoded⟩ := h
    have hprocess := hfinished endpoint number result
    simp only [Operation.run, Hub.processFrame, hdecoded] at hprocess ⊢
    exact hprocess
  | _ => exact h.elim

/-- No queue is over its limit, and the spares in hand and those lent to the sends beyond the
guarantees are those configured. So no spare is ever taken when there is none or given back when none
is out, and with no send beyond its guarantee all are in hand. Receives change nothing of it. -/
theorem Reachable.spares_accounted (h : Reachable heads custody s) :
    (∀ k, (s.tables.queues k).depth ≤ (s.tables.queues k).limit) ∧
    s.tables.statistics.spareAvailable +
      ∑ i, ((s.tables.queues (i, .send)).depth - config.sendDepth.toNat) =
        config.spareRequests.toNat ∧
    s.tables.statistics.spareTotal = config.spareRequests.toNat ∧
    ((∀ i, (s.tables.queues (i, .send)).depth ≤ config.sendDepth.toNat) →
      s.tables.statistics.spareAvailable = config.spareRequests.toNat) ∧
    (∀ (operation : Operation config) t, operation.run s ≠ .error (.defect .spareUnderflow) t ∧
      operation.run s ≠ .error (.defect .spareOverflow) t) ∧
    ∀ (operation : Operation config) answer t, operation.run s = .ok answer t →
      operation.IsReceive → t.tables.statistics.spareAvailable = s.tables.statistics.spareAvailable := by
  have hsound := h.sound
  have hspares := hsound.spares_add_excess
  refine ⟨?bounded, hspares, hsound.total, ?home, ?checks, ?receives⟩
  case bounded =>
    intro k
    rw [← hsound.length_bookings]
    exact hsound.bounded k
  case home =>
    intro hnone
    have hzero : ∑ i, s.tables.excess i = 0 := by
      apply sum_eq_zero
      intro i _
      exact Nat.sub_eq_zero_of_le (hnone i)
    rw [hzero] at hspares
    exact hspares
  case checks =>
    intro operation t
    exact ⟨h.no_defect operation .spareUnderflow t, h.no_defect operation .spareOverflow t⟩
  case receives =>
    intro operation answer t answered hreceive
    have hsound' := (h.after operation answered).sound
    exact hsound.spares_eq hsound'.toStored fun i => (hreceive.goes_sends i).of_ok answered

/-- With a third send, the only spare of the short run is lent. -/
theorem Trial.spare_lent :
    let s := session.afterAll [.send ⟨0⟩ []]
    s.tables.statistics.spareAvailable = 0 ∧
    0 + ∑ i, ((s.tables.queues (i, .send)).depth - small.sendDepth.toNat) = 1 := by
  intro s
  have h := Reachable.spares_accounted (reached.afterAll [.send ⟨0⟩ []])
  have hspares : s.tables.statistics.spareAvailable = 0 := by decide +kernel
  exact ⟨hspares, hspares ▸ h.2.1⟩

end Runs
end DriverHub
