import Mathlib.Order.Interval.Set.Basic
import QoreOS.Network.Device

/-! Where the card and the driver look for the descriptors: the card starts from
the base registers, the driver from the pointers it keeps. -/

namespace QoreOS.Network

/-- The bytes of the descriptor with that index in a ring. -/
def descriptorCells (base index : Nat) : Set Nat := Set.Ico (base + index * 16) (base + index * 16 + 16)

namespace E1000

/-- The card ignores the low four bits of a base register. -/
def ringBase (nic : E1000) (register : Nat) : Nat := nic.registers register >>> 4 <<< 4

/-- Every descriptor index denotes the same bytes for both sides. -/
structure SameRings (nic : E1000) : Prop where
  rxBase : nic.ringBase 0x2800 = nic.rxRingPtr
  txBase : nic.ringBase 0x3800 = nic.txRingPtr
  rxCells : ∀ index, index < nic.rxRing.length →
    descriptorCells (nic.ringBase 0x2800) index = descriptorCells nic.rxRingPtr index
  txCells : ∀ index, index < nic.txRing.length →
    descriptorCells (nic.ringBase 0x3800) index = descriptorCells nic.txRingPtr index

variable {nic : E1000} {register ringPtr : Nat}

/-- The card's ring starts at the paragraph in which the driver's starts. -/
theorem ringBase_eq (programmed : nic.registers register = ringPtr &&& 0xFFFFFFFF)
    (low : ringPtr < 2 ^ 32) : nic.ringBase register = ringPtr - ringPtr % 16 := by
  have whole : ringPtr &&& 0xFFFFFFFF = ringPtr := by
    rw [show 0xFFFFFFFF = 2 ^ 32 - 1 from rfl, Nat.and_two_pow_sub_one_eq_mod,
      Nat.mod_eq_of_lt low]
  rw [ringBase, programmed, whole, Nat.shiftRight_eq_div_pow, Nat.shiftLeft_eq,
    Nat.div_mul_self_eq_mod_sub_self]

theorem ringBase_eq_iff (programmed : nic.registers register = ringPtr &&& 0xFFFFFFFF)
    (low : ringPtr < 2 ^ 32) : nic.ringBase register = ringPtr ↔ 16 ∣ ringPtr := by
  rw [ringBase_eq programmed low, Nat.dvd_iff_mod_eq_zero]
  have part := Nat.mod_le ringPtr 16
  omega

end E1000

theorem Boot.card_bases (boot : Boot) :
    boot.card.registers 0x2800 = boot.rxRingPtr &&& 0xFFFFFFFF ∧
      boot.card.registers 0x3800 = boot.txRingPtr &&& 0xFFFFFFFF ∧
      boot.card.rxRingPtr = boot.rxRingPtr ∧ boot.card.txRingPtr = boot.txRingPtr :=
  ⟨rfl, rfl, rfl, rfl⟩

theorem E1000.SameRings.of_bases {nic : E1000} (rxBase : nic.ringBase 0x2800 = nic.rxRingPtr)
    (txBase : nic.ringBase 0x3800 = nic.txRingPtr) : nic.SameRings where
  rxBase := rxBase
  txBase := txBase
  rxCells index _ := by rw [rxBase]
  txCells index _ := by rw [txBase]

/-- After the start the card and the driver work on the same rings just when both
allocations happen to be aligned to 16 bytes, which nothing asks for. -/
theorem Boot.sameRings_iff (boot : Boot) (rxLow : boot.rxRingPtr < 2 ^ 32)
    (txLow : boot.txRingPtr < 2 ^ 32) :
    boot.card.SameRings ↔ 16 ∣ boot.rxRingPtr ∧ 16 ∣ boot.txRingPtr := by
  obtain ⟨rxBase, txBase, rxPtr, txPtr⟩ := boot.card_bases
  constructor
  · intro same
    rw [← E1000.ringBase_eq_iff rxBase rxLow, ← E1000.ringBase_eq_iff txBase txLow]
    exact ⟨same.rxBase.trans rxPtr, same.txBase.trans txPtr⟩
  · rintro ⟨rxAligned, txAligned⟩
    apply E1000.SameRings.of_bases
    · rw [(E1000.ringBase_eq_iff rxBase rxLow).mpr rxAligned, rxPtr]
    · rw [(E1000.ringBase_eq_iff txBase txLow).mpr txAligned, txPtr]

theorem Boot.driveless_sameRings : Boot.driveless.card.SameRings ↔
    16 ∣ Boot.driveless.rxRingPtr ∧ 16 ∣ Boot.driveless.txRingPtr :=
  Boot.driveless.sameRings_iff (by decide) (by decide)

/-- The receive ring stands 8 bytes behind a paragraph. -/
def Boot.unaligned : Boot := { Boot.driveless with rxRingPtr := 0x200008 }

theorem Boot.unaligned_apart : ¬ ∀ boot : Boot, boot.rxRingPtr < 2 ^ 32 → boot.txRingPtr < 2 ^ 32 →
    boot.card.SameRings := by
  intro always
  have same := (always Boot.unaligned (by decide) (by decide)).rxBase
  exact absurd same (by decide +kernel)

end QoreOS.Network
