import DriverHub.Hub.Handshake
import DriverHub.Proofs.Name

/-! What the answer to an init request says. An answer that makes sense has a name, the bytes before the
first NUL of its field, and describes the device; what an interface is told agrees with it. -/
namespace DriverHub

namespace InitReply

/-- The reply makes sense: its name ends within the field and not at once, the address has a length, and
the driver takes requests of both directions. -/
structure WellFormed (reply : InitReply) : Prop where
  terminated : 0 ∈ reply.name.toList
  named : reply.name.toList.head? ≠ some 0
  addressed : 1 ≤ reply.addressLength.toNat ∧ reply.addressLength.toNat ≤ addressSize
  sends : 1 ≤ reply.maxSend.toNat
  receives : 1 ≤ reply.maxReceive.toNat

theorem checked_eq_ok_iff {reply : InitReply} {name : InterfaceName} :
    reply.checked = .ok name ↔
      reply.WellFormed ∧ name.bytes = reply.name.toList.takeWhile (· ≠ 0) := by
  have hname (name : InterfaceName) : BoundedName.ofTerminated? reply.name.toList = some name ↔
      (0 ∈ reply.name.toList ∧ reply.name.toList.head? ≠ some 0) ∧
        name.bytes = reply.name.toList.takeWhile (· ≠ 0) := by
    rw [BoundedName.ofTerminated?_eq_some_iff, List.take_of_length_le reply.name.length_toList.le]
  have hzero (byte : UInt8) : byte = 0 ↔ ¬1 ≤ byte.toNat := by
    simp only [← UInt8.toNat_inj, UInt8.reduceToNat]
    omega
  unfold checked
  cases hfound : (BoundedName.ofTerminated? reply.name.toList : Option InterfaceName) with
  | none =>
    constructor
    · intro h
      cases h
    · rintro ⟨hformed, hbytes⟩
      cases hfound.symm.trans ((hname name).mpr ⟨⟨hformed.terminated, hformed.named⟩, hbytes⟩)
  | some found =>
    obtain ⟨⟨hterminated, hnamed⟩, hbytes⟩ := (hname found).mp hfound
    dsimp only
    split
    · rename_i hlength
      constructor
      · intro h
        cases h
      · rintro ⟨hformed, -⟩
        have hbounds := hformed.addressed
        omega
    · rename_i hlength
      split
      · rename_i hlimits
        constructor
        · intro h
          cases h
        · rintro ⟨hformed, -⟩
          rw [hzero, hzero] at hlimits
          exact (hlimits.elim (· hformed.sends) (· hformed.receives)).elim
      · rename_i hlimits
        simp only [hzero, not_or, not_not] at hlimits
        have hformed : reply.WellFormed :=
          ⟨hterminated, hnamed, by omega, hlimits.1, hlimits.2⟩
        rw [Except.ok.injEq]
        constructor
        · rintro rfl
          exact ⟨hformed, hbytes⟩
        · rintro ⟨-, hname'⟩
          exact BoundedName.eq_iff_bytes.mpr (hbytes.trans hname'.symm)

theorem WellFormed.exists_checked {reply : InitReply} (h : reply.WellFormed) :
    ∃ name, reply.checked = .ok name := by
  have hfield : reply.name.toList.take interfaceNameSize = reply.name.toList :=
    List.take_of_length_le reply.name.length_toList.le
  have hsome : (BoundedName.ofTerminated? reply.name.toList : Option InterfaceName).isSome := by
    rw [BoundedName.isSome_ofTerminated?_iff, hfield]
    exact ⟨h.terminated, h.named⟩
  obtain ⟨name, hname⟩ := Option.isSome_iff_exists.mp hsome
  exact ⟨name, checked_eq_ok_iff.mpr ⟨h, BoundedName.bytes_of_ofTerminated? hname⟩⟩

/-- What an interface is told agrees with the reply, with this name: as many bytes of the address as it has,
and zeros behind them. -/
structure Tells (reply : InitReply) (name? : Option InterfaceName) (enablement : Enablement) :
    Prop where
  name : enablement.name = name?
  address : ∀ j : Fin addressSize, enablement.address[j] =
    if j < reply.addressLength.toNat then reply.address[j] else 0
  addressLength : enablement.addressLength = reply.addressLength.toNat
  capabilities : enablement.capabilities = reply.capabilities
  link : enablement.link = reply.link
  media : enablement.media = reply.media

theorem tells_enablement (reply : InitReply) (name? : Option InterfaceName) :
    reply.Tells name? (reply.enablement name?) :=
  ⟨rfl, fun j => by simp [enablement], rfl, rfl, rfl, rfl⟩

/-- As many bytes of the address as the reply counts are there to be read. -/
theorem WellFormed.told_eq_ok {reply : InitReply} (h : reply.WellFormed)
    (name? : Option InterfaceName) : reply.told name? = .ok (reply.enablement name?) :=
  if_neg (Nat.not_lt.mpr h.addressed.2)

end InitReply
end DriverHub
