import DriverHub.Proofs.Hub.Distinct

/-! How many request slots a configuration comes to. The rules bound what the guarantees take, but not the
spares, and the slots are counted in a word: where the spares leave no room for the guarantees the count
overflows, and then there is no hub. -/
namespace DriverHub

namespace Overflow

variable {a b c : UInt64}

theorem add_eq_ok_iff : add a b = .ok c ↔ c.toNat = a.toNat + b.toNat := by
  unfold add
  split_ifs with h
  · rw [Except.ok.injEq, ← UInt64.toNat_inj, UInt64.toNat_add, Nat.mod_eq_of_lt h, eq_comm]
  · simp only [false_iff]
    intro hsum
    exact h (hsum ▸ c.toNat_lt)

theorem add_eq_error_iff {overflow : Overflow} :
    add a b = .error overflow ↔ overflow = .sum ∧ 2 ^ 64 ≤ a.toNat + b.toNat := by
  unfold add
  split_ifs with h
  · simp only [false_iff]
    rintro ⟨-, hle⟩
    exact absurd h (Nat.not_lt.mpr hle)
  · rw [Except.error.injEq, eq_comm]
    exact (and_iff_left (Nat.le_of_not_lt h)).symm

theorem multiply_eq_ok_iff : multiply a b = .ok c ↔ c.toNat = a.toNat * b.toNat := by
  unfold multiply
  split_ifs with h
  · rw [Except.ok.injEq, ← UInt64.toNat_inj, UInt64.toNat_mul, Nat.mod_eq_of_lt h, eq_comm]
  · simp only [false_iff]
    intro hproduct
    exact h (hproduct ▸ c.toNat_lt)

end Overflow

namespace Config

variable {config : Config}

/-- The request slots that all drivers together are guaranteed. -/
def guaranteed (config : Config) : Nat :=
  (config.sendDepth.toNat + config.receiveDepth.toNat) * config.drivers

/-- All drivers together are guaranteed 510 slots each at most. -/
theorem Valid.guaranteed_le (h : config.Valid) : config.guaranteed ≤ 1044480 := by
  obtain ⟨-, ⟨-, hsend⟩, -, hreceive⟩ := h.bounds
  calc config.guaranteed ≤ 510 * 2048 := Nat.mul_le_mul (by omega) h.drivers_le
    _ = 1044480 := rfl

/-- For a valid configuration only the last sum can overflow. -/
theorem Valid.requestSlots_eq (h : config.Valid) : ∃ guaranteed : UInt64,
    guaranteed.toNat = config.guaranteed ∧
      config.requestSlots = Overflow.add guaranteed config.spareRequests := by
  obtain ⟨-, ⟨-, hsend⟩, -, hreceive⟩ := h.bounds
  have hdepths : config.sendDepth.toNat + config.receiveDepth.toNat < UInt64.size :=
    (by omega : _ ≤ 510).trans_lt (by decide)
  have hguaranteed : config.guaranteed < UInt64.size := h.guaranteed_le.trans_lt (by decide)
  -- The rules bound the three counts, so that neither the sum of the depths nor the product overflows.
  have hsum := UInt64.toNat_ofNat_of_lt' hdepths
  have hproduct := UInt64.toNat_ofNat_of_lt' hguaranteed
  have hadd := Overflow.add_eq_ok_iff.mpr hsum
  have hmultiply : Overflow.multiply (.ofNat (config.sendDepth.toNat + config.receiveDepth.toNat))
      config.maxDrivers = .ok (.ofNat config.guaranteed) := by
    rw [Overflow.multiply_eq_ok_iff, hproduct, hsum, guaranteed]
  refine ⟨.ofNat config.guaranteed, hproduct, ?_⟩
  rw [requestSlots, hadd]
  change (do
    let guaranteed ← Overflow.multiply _ config.maxDrivers
    Overflow.add guaranteed config.spareRequests) = _
  rw [hmultiply]
  rfl

theorem Valid.requestSlots_eq_ok_iff (h : config.Valid) {slots : UInt64} :
    config.requestSlots = .ok slots ↔
      slots.toNat = config.guaranteed + config.spareRequests.toNat := by
  obtain ⟨guaranteed, hguaranteed, heq⟩ := h.requestSlots_eq
  rw [heq, Overflow.add_eq_ok_iff, hguaranteed]

theorem Valid.requestSlots_eq_error_iff (h : config.Valid) {overflow : Overflow} :
    config.requestSlots = .error overflow ↔
      overflow = .sum ∧ 2 ^ 64 ≤ config.guaranteed + config.spareRequests.toNat := by
  obtain ⟨guaranteed, hguaranteed, heq⟩ := h.requestSlots_eq
  rw [heq, Overflow.add_eq_error_iff, hguaranteed]

end Config

variable {config : Config} {τ γ ι H : Type}

/-- A hub that was built got past the count of its slots, and past the question for memory. -/
theorem HubSession.slots_of_new {memory : Nat} {transport : τ} {grants : γ} {interface : ι}
    {s : HubSession config τ γ ι H}
    (h : HubSession.new config memory transport grants interface = .ok s) :
    ∃ slots, config.requestSlots = .ok slots ∧ slots.toNat ≤ memory := by
  unfold HubSession.new at h
  split at h
  · cases h
  · split at h
    · cases h
    · rename_i slots hslots
      split at h
      · cases h
      · rename_i hmemory
        exact ⟨slots, hslots, Nat.le_of_not_lt hmemory⟩

/-- The slots of a valid configuration are counted exactly if they fit into the word they are counted in,
and otherwise the count overflows; they fit whenever there are fewer spares than 2⁶⁴ less 1044480. There is
a hub exactly if they do and there is memory for them, and then its pool has all of them, the guaranteed
ones among them. -/
theorem capacity_exact (hvalid : config.Valid) (memory : Nat) (transport : τ) (grants : γ) (interface : ι) :
    let total := config.guaranteed + config.spareRequests.toNat
    let built : Except BuildError (HubSession config τ γ ι H) :=
      HubSession.new config memory transport grants interface
    (total < 2 ^ 64 → ∃ slots, config.requestSlots = .ok slots ∧ slots.toNat = total) ∧
    (2 ^ 64 ≤ total → config.requestSlots = .error .sum ∧ built = .error (.overflow .sum)) ∧
    (config.spareRequests.toNat < 2 ^ 64 - 1044480 → total < 2 ^ 64) ∧
    ((∃ s, built = .ok s) ↔ total < 2 ^ 64 ∧ total ≤ memory) ∧
    ∀ s, built = .ok s → s.tables.statistics.freeSlots = total ∧ s.tables.statistics.totalSlots = total ∧
      config.guaranteed ≤ total := by
  intro total built
  have hcounted (h : total < 2 ^ 64) : ∃ slots, config.requestSlots = .ok slots ∧ slots.toNat = total :=
    ⟨UInt64.ofNat total, hvalid.requestSlots_eq_ok_iff.mpr (UInt64.toNat_ofNat_of_lt' h),
      UInt64.toNat_ofNat_of_lt' h⟩
  have hover (h : 2 ^ 64 ≤ total) : config.requestSlots = .error .sum :=
    hvalid.requestSlots_eq_error_iff.mpr ⟨rfl, h⟩
  have hfails (h : 2 ^ 64 ≤ total) : built = .error (.overflow .sum) := by
    change HubSession.new config memory transport grants interface = _
    unfold HubSession.new
    rw [hvalid, hover h]
  refine ⟨hcounted, fun h => ⟨hover h, hfails h⟩, ?few, ⟨?needed, ?enough⟩, ?pool⟩
  case few =>
    intro hspares
    have hle := hvalid.guaranteed_le
    change config.guaranteed + config.spareRequests.toNat < 2 ^ 64
    omega
  case needed =>
    rintro ⟨s, hbuilt⟩
    obtain ⟨slots, hslots, hmemory⟩ := HubSession.slots_of_new hbuilt
    have htotal : slots.toNat = total := hvalid.requestSlots_eq_ok_iff.mp hslots
    rw [← htotal]
    exact ⟨slots.toNat_lt, hmemory⟩
  case enough =>
    rintro ⟨hlt, hmemory⟩
    obtain ⟨slots, hslots, htotal⟩ := hcounted hlt
    exact ⟨_, HubSession.new_eq_ok hvalid hslots (htotal ▸ hmemory) _ _ _⟩
  case pool =>
    intro s hbuilt
    obtain rfl := HubSession.eq_of_new hbuilt
    exact ⟨rfl, rfl, Nat.le_add_right _ _⟩

/-- The largest table with the deepest queues has room for as many spares as fit beside them, if there is
memory for all of them. -/
theorem largest_capacity :
    (⟨2048, 255, 255, 18446744073708507135⟩ : Config).Valid ∧
      ∃ s : HubSession ⟨2048, 255, 255, 18446744073708507135⟩ Unit Unit Unit Nat,
        HubSession.new ⟨2048, 255, 255, 18446744073708507135⟩ 18446744073709551615 () () () = .ok s ∧
          s.tables.statistics.totalSlots = 18446744073709551615 := by
  have hvalid : (⟨2048, 255, 255, 18446744073708507135⟩ : Config).Valid := by decide
  obtain ⟨-, -, hroom, hbuilt, hpool⟩ :=
    capacity_exact (H := Nat) hvalid 18446744073709551615 () () ()
  obtain ⟨s, hs⟩ := hbuilt.mpr ⟨hroom (by decide), by decide⟩
  exact ⟨hvalid, s, hs, (hpool s hs).2.1⟩

namespace Trial

/-- One driver, with one send and one receive guaranteed, and spares that make the count of slots overflow. -/
def overcommitted : Config := ⟨1, 1, 1, 18446744073709551614⟩

/-- A configuration with too many spares is valid all the same, but its slots cannot be counted, and there is
no hub of it, whatever memory there is. -/
theorem overcommitted_overflows :
    ¬(∀ config : Config, config.Valid →
        (config.sendDepth.toNat + config.receiveDepth.toNat) * config.drivers +
          config.spareRequests.toNat < 2 ^ 64) ∧
      overcommitted.Valid ∧ overcommitted.requestSlots = .error .sum ∧
      ∀ memory (transport : Outbox) (grants : GrantLedger) (interface : CallbackLog),
        (HubSession.new overcommitted memory transport grants interface :
          Except BuildError (HubSession overcommitted Outbox GrantLedger CallbackLog Nat)) =
            .error (.overflow .sum) := by
  have hvalid : overcommitted.Valid := by decide
  have hslots : overcommitted.requestSlots = .error .sum := by decide
  refine ⟨fun hall => absurd (hall overcommitted hvalid) (by decide), hvalid, hslots, ?_⟩
  intro memory transport grants interface
  unfold HubSession.new
  rw [hvalid, hslots]

end Trial
end DriverHub
