import Mathlib.Data.Nat.ModEq
import Mathlib.Tactic.Ring
import QoreOS.Library.Bytes

/-! Ones' complement sums of words below a base: a carry out of the top comes
back in at the bottom, so sums are sums modulo `base - 1` with two zeros. A
checksum is the complement of such a sum. -/

namespace QoreOS.Library

/-- Addition with end-around carry. -/
def onesAdd (base left right : Nat) : Nat := (left + right) % base + (left + right) / base

def onesSum (base : Nat) (words : List Nat) : Nat := words.foldl (onesAdd base) 0

/-- The word has the value of the sum, and is the zero of the empty sum only if
the sum is. -/
structure Represents (base value sum : Nat) : Prop where
  bounded : value < base
  congruent : value ≡ sum [MOD base - 1]
  zero : value = 0 ↔ sum = 0

variable {base value sum : Nat}

/-- Moving the carry to the bottom changes nothing modulo `base - 1`. -/
theorem carry_modEq (positive : 0 < base) (number : Nat) :
    number % base + number / base ≡ number [MOD base - 1] := by
  obtain ⟨top, rfl⟩ : ∃ top, base = top + 1 := ⟨base - 1, (Nat.sub_add_cancel positive).symm⟩
  have split : number % (top + 1) + number / (top + 1) + top * (number / (top + 1)) = number := by
    have parts := Nat.mod_add_div number (top + 1)
    rw [Nat.add_mul, Nat.one_mul] at parts
    omega
  calc number % (top + 1) + number / (top + 1)
      ≡ number % (top + 1) + number / (top + 1) + top * (number / (top + 1)) [MOD top] :=
        (Nat.add_mul_mod_self_left ..).symm
    _ = number := split

theorem carry_eq_zero_iff (number : Nat) :
    number % base + number / base = 0 ↔ number = 0 := by
  constructor
  · intro none
    obtain ⟨low, high⟩ := Nat.add_eq_zero_iff.mp none
    have parts := Nat.mod_add_div number base
    rw [low, high] at parts
    exact parts.symm
  · rintro rfl
    rw [Nat.zero_mod, Nat.zero_div]

theorem Represents.nil (positive : 0 < base) : Represents base 0 0 :=
  ⟨positive, Nat.ModEq.refl 0, Iff.rfl⟩

theorem Represents.of_lt (small : value < base) : Represents base value value :=
  ⟨small, Nat.ModEq.refl value, Iff.rfl⟩

theorem Represents.of_carry {number : Nat} (positive : 0 < base)
    (represents : Represents base value (number % base + number / base)) :
    Represents base value number :=
  ⟨represents.bounded, represents.congruent.trans (carry_modEq positive number),
    represents.zero.trans (carry_eq_zero_iff number)⟩

theorem Represents.add (represents : Represents base value sum) {word : Nat} (small : word < base) :
    Represents base (onesAdd base value word) (sum + word) := by
  obtain ⟨bounded, congruent, zero⟩ := represents
  refine ⟨?_, ?_, ?_⟩
  · unfold onesAdd
    rcases Nat.lt_or_ge (value + word) base with below | carry
    · rwa [Nat.mod_eq_of_lt below, Nat.div_eq_of_lt below]
    · have quotient : (value + word) / base = 1 :=
        Nat.div_eq_of_lt_le (by omega) (by omega)
      have parts := Nat.mod_add_div (value + word) base
      rw [quotient] at parts ⊢
      omega
  · exact (carry_modEq (Nat.zero_lt_of_lt bounded) (value + word)).trans (congruent.add_right word)
  · rw [onesAdd, carry_eq_zero_iff, Nat.add_eq_zero_iff, Nat.add_eq_zero_iff, zero]

/-- Every sum of words is represented by the word which the additions leave. -/
theorem onesSum_represents (positive : 0 < base) (words : List Nat)
    (small : ∀ word ∈ words, word < base) : Represents base (onesSum base words) words.sum := by
  have start : ∀ (words : List Nat) (value sum : Nat), (∀ word ∈ words, word < base) →
      Represents base value sum →
      Represents base (words.foldl (onesAdd base) value) (sum + words.sum) := by
    intro words
    induction words with
    | nil => exact fun value sum _ represents => represents
    | cons word rest ih =>
      intro value sum small represents
      rw [List.foldl_cons, List.sum_cons, ← Nat.add_assoc]
      exact ih _ _ (fun other member => small other (List.mem_cons_of_mem word member))
        (represents.add (small word List.mem_cons_self))
  have total := start words 0 0 small (Represents.nil positive)
  rwa [Nat.zero_add] at total

/-- The sum is the word of all ones exactly if it is a positive multiple of it. -/
theorem Represents.eq_top_iff (represents : Represents base value sum) (positive : 1 < base) :
    value = base - 1 ↔ 0 < sum ∧ base - 1 ∣ sum := by
  obtain ⟨bounded, congruent, zero⟩ := represents
  have multiple : base - 1 ∣ sum ↔ base - 1 ∣ value :=
    (congruent.dvd_iff (Nat.dvd_refl (base - 1))).symm
  rw [multiple, Nat.pos_iff_ne_zero, ne_eq, ← zero]
  constructor
  · rintro rfl
    exact ⟨by omega, Nat.dvd_refl _⟩
  · rintro ⟨some, whole⟩
    have above := Nat.le_of_dvd (Nat.pos_of_ne_zero some) whole
    omega

/-- With the complement of its sum among the words, a message sums to all ones. -/
theorem Represents.complement (represents : Represents base value sum) (positive : 1 < base) :
    0 < sum + (base - 1 - value) ∧ base - 1 ∣ sum + (base - 1 - value) := by
  obtain ⟨bounded, congruent, zero⟩ := represents
  constructor
  · rcases Nat.eq_zero_or_pos sum with none | some
    · rw [none, zero.mpr none]
      omega
    · exact Nat.add_pos_left some _
  · have whole : sum + (base - 1 - value) ≡ 0 [MOD base - 1] :=
      calc sum + (base - 1 - value) ≡ value + (base - 1 - value) [MOD base - 1] :=
            congruent.symm.add_right _
        _ = base - 1 := by omega
        _ ≡ 0 [MOD base - 1] := (Nat.modEq_zero_iff_dvd.mpr (Nat.dvd_refl _))
    exact Nat.modEq_zero_iff_dvd.mp whole

/-- The big-endian words of a byte string, an odd last byte padded with zero. -/
def wordsOf : List UInt8 → List Nat
  | high :: low :: rest => word high low :: wordsOf rest
  | [high] => [word high 0]
  | [] => []

theorem wordsOf_lt (bytes : List UInt8) : ∀ word ∈ wordsOf bytes, word < 2 ^ 16 := by
  induction bytes using wordsOf.induct with
  | case1 high low rest ih =>
    intro word member
    rcases List.mem_cons.mp member with rfl | member
    · exact word_lt high low
    · exact ih word member
  | case2 high =>
    intro word member
    rw [List.mem_singleton.mp member]
    exact word_lt high 0
  | case3 => exact fun word member => nomatch member

theorem wordsOf_sum_le (bytes : List UInt8) :
    (wordsOf bytes).sum ≤ (bytes.length + 1) / 2 * 65535 := by
  induction bytes using wordsOf.induct with
  | case1 high low rest ih =>
    have first := word_lt high low
    rw [wordsOf, List.sum_cons, List.length_cons, List.length_cons]
    omega
  | case2 high =>
    have first := word_lt high 0
    rw [wordsOf, List.sum_singleton, List.length_singleton]
    omega
  | case3 => exact Nat.zero_le _

/-- A word written into a field that was clear adds its value to the sum. -/
theorem wordsOf_sum_set (bytes : List UInt8) (position : Nat) (inside : 2 * position + 1 < bytes.length)
    (value : UInt16) :
    (wordsOf ((bytes.set (2 * position) (high16 value)).set (2 * position + 1) (low16 value))).sum =
      (wordsOf ((bytes.set (2 * position) 0).set (2 * position + 1) 0)).sum + value.toNat := by
  induction position generalizing bytes with
  | zero =>
    match bytes, inside with
    | high :: low :: rest, _ =>
      have number : word (high16 value) (low16 value) = value.toNat := by
        rw [← be16_toNat, be16_bytes16]
      have clear : word 0 0 = 0 := rfl
      simp only [Nat.mul_zero, Nat.zero_add, List.set_cons_zero, List.set_cons_succ, wordsOf,
        List.sum_cons, number, clear]
      exact Nat.add_comm ..
  | succ position ih =>
    match bytes, inside with
    | high :: low :: rest, inside =>
      have next : 2 * (position + 1) = 2 * position + 1 + 1 := by ring
      have within : 2 * position + 1 < rest.length := by
        simp only [List.length_cons] at inside
        omega
      simp only [next, List.set_cons_succ, wordsOf, List.sum_cons, ih rest within]
      exact (Nat.add_assoc ..).symm

/-- A message whose checksum field holds the complement of the sum of the rest
verifies, also with words summed along that it does not contain. -/
theorem onesSum_checksum (bytes : List UInt8) (position : Nat)
    (inside : 2 * position + 1 < bytes.length) (extra : List Nat) (small : ∀ word ∈ extra, word < 2 ^ 16)
    {checksum : UInt16} {value : Nat} (complement : checksum.toNat = 2 ^ 16 - 1 - value)
    (represents : Represents (2 ^ 16) value
      (extra.sum + (wordsOf ((bytes.set (2 * position) 0).set (2 * position + 1) 0)).sum)) :
    onesSum (2 ^ 16) (extra ++ wordsOf ((bytes.set (2 * position) (high16 checksum)).set
      (2 * position + 1) (low16 checksum))) = 0xFFFF := by
  have bounded : ∀ word ∈ extra ++ wordsOf ((bytes.set (2 * position) (high16 checksum)).set
      (2 * position + 1) (low16 checksum)), word < 2 ^ 16 := by
    intro word member
    rcases List.mem_append.mp member with member | member
    · exact small word member
    · exact wordsOf_lt _ word member
  have sums := onesSum_represents (by decide) _ bounded
  rw [List.sum_append, wordsOf_sum_set bytes position inside, ← Nat.add_assoc, complement] at sums
  exact (sums.eq_top_iff (by decide)).mpr (represents.complement (by decide))

end QoreOS.Library
