import Mathlib.Algebra.Group.Int.Defs
import Mathlib.Algebra.Group.Nat.Defs

/-! Signed numbers of 32 bits as integers: sums under the overflow check, sums that
wrap, and the casts to and from sizes. -/

namespace QoreOS.Library

def IsI32 (value : Int) : Prop := -2 ^ 31 ≤ value ∧ value < 2 ^ 31

instance (value : Int) : Decidable (IsI32 value) := inferInstanceAs (Decidable (_ ∧ _))

/-- A result that the overflow check lets pass. -/
def checkedI32 (value : Int) : Option Int := if IsI32 value then some value else none

/-- A result without overflow check. -/
def wrapI32 (value : Int) : Int := (value + 2 ^ 31) % 2 ^ 32 - 2 ^ 31

/-- `value as i32` of a `usize` -/
def asI32 (value : Nat) : Int := wrapI32 value

/-- `value as usize` of an `i32` -/
def asUsize (value : Int) : Nat := (value % 2 ^ 64).toNat

variable {value : Int}

theorem checkedI32_of_isI32 (fits : IsI32 value) : checkedI32 value = some value := if_pos fits

theorem checkedI32_eq_some {result : Int} (checks : checkedI32 value = some result) :
    result = value ∧ IsI32 value := by
  unfold checkedI32 at checks
  split at checks
  case isTrue fits => exact ⟨(Option.some.inj checks).symm, fits⟩
  case isFalse => cases checks

theorem wrapI32_isI32 (value : Int) : IsI32 (wrapI32 value) := by
  unfold IsI32 wrapI32
  omega

theorem wrapI32_of_isI32 (fits : IsI32 value) : wrapI32 value = value := by
  unfold IsI32 at fits
  unfold wrapI32
  omega

theorem asI32_isI32 (value : Nat) : IsI32 (asI32 value) := wrapI32_isI32 value

theorem asI32_of_lt {value : Nat} (small : value < 2 ^ 31) : asI32 value = value :=
  wrapI32_of_isI32 ⟨by omega, by omega⟩

theorem asI32_le (value : Nat) : asI32 value ≤ value := by
  unfold asI32 wrapI32
  omega

theorem asUsize_of_nonneg (nonneg : 0 ≤ value) (small : value < 2 ^ 64) :
    asUsize value = value.toNat := by
  unfold asUsize
  omega

end QoreOS.Library
