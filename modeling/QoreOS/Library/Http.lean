import QoreOS.Library.Bytes

/-! The framing of an HTTP message: header lines up to the first empty line,
then the body, whose length the `Content-Length` header gives in decimal. -/

namespace QoreOS.Library

/-- A decimal numeral in ASCII. -/
def decimal (bytes : List UInt8) : Option Nat :=
  if bytes ≠ [] ∧ bytes.all (fun byte => 48 ≤ byte && byte ≤ 57) then
    some (bytes.foldl (fun value byte => 10 * value + (byte.toNat - 48)) 0)
  else none

/-- The header lines and what follows the empty line; `line` holds the bytes of
the current line read so far. -/
def readHead (line : List UInt8) : List UInt8 → Option (List (List UInt8) × List UInt8)
  | 13 :: 10 :: rest =>
    if line = [] then some ([], rest)
    else (readHead [] rest).map fun (lines, body) => (line :: lines, body)
  | byte :: rest => readHead (line ++ [byte]) rest
  | [] => none

def contentLength (lines : List (List UInt8)) : Option Nat :=
  lines.findSome? fun line =>
    if (utf8 "Content-Length: ").isPrefixOf line then decimal (line.drop 16) else none

variable {line text rest : List UInt8}

/-- Bytes other than a carriage return join the current line. -/
theorem readHead_append (plain : 13 ∉ text) :
    readHead line (text ++ rest) = readHead (line ++ text) rest := by
  induction text generalizing line with
  | nil => simp
  | cons byte text ih =>
    rw [List.mem_cons, not_or] at plain
    have step : readHead line (byte :: (text ++ rest)) = readHead (line ++ [byte]) (text ++ rest) := by
      rw [readHead]
      intro after same
      exact absurd same.symm plain.1
    rw [List.cons_append, step, ih plain.2, List.append_assoc, List.singleton_append]

theorem readHead_line (plain : 13 ∉ text) (nonempty : text ≠ []) :
    readHead [] (text ++ (13 :: 10 :: rest)) =
      (readHead [] rest).map fun (lines, body) => (text :: lines, body) := by
  rw [readHead_append plain, List.nil_append, readHead, if_neg nonempty]

theorem readHead_blank : readHead [] (13 :: 10 :: rest) = some ([], rest) := by
  rw [readHead, if_pos rfl]

theorem utf8EncodeChar_digit {digit : Char} (isDigit : digit.isDigit = true) :
    String.utf8EncodeChar digit = [digit.val.toUInt8] ∧ digit.val.toUInt8.toNat = digit.toNat := by
  simp only [Char.isDigit, Bool.and_eq_true, decide_eq_true_eq] at isDigit
  have low : 48 ≤ digit.toNat := isDigit.1
  have high : digit.toNat ≤ 57 := isDigit.2
  constructor
  · apply String.utf8EncodeChar_eq_singleton
    rw [Char.utf8Size, if_pos]
    exact Nat.le_trans high (by decide)
  · rw [UInt32.toNat_toUInt8]
    exact Nat.mod_eq_of_lt (by change digit.toNat < 256; omega)

/-- A number is printed as the ASCII codes of its decimal digits. -/
theorem utf8_toString (value : Nat) :
    utf8 (toString value) = (Nat.toDigits 10 value).map fun digit => digit.val.toUInt8 := by
  have digits : ∀ digit ∈ Nat.toDigits 10 value, digit.isDigit = true :=
    fun digit member => Nat.isDigit_of_mem_toDigits (by decide) (by decide) member
  have encoded : utf8 (toString value) =
      (Nat.toDigits 10 value).flatMap String.utf8EncodeChar := by
    rw [Nat.toString_eq_ofList_toDigits, utf8, String.toByteArray_ofList, List.utf8Encode]
    simp
  rw [encoded]
  generalize Nat.toDigits 10 value = list at digits
  induction list with
  | nil => rfl
  | cons digit rest ih =>
    rw [List.flatMap_cons, (utf8EncodeChar_digit (digits digit (by simp))).1, List.map_cons,
      ih fun other member => digits other (by simp [member])]
    rfl

theorem mem_utf8_toString {value : Nat} {byte : UInt8} (member : byte ∈ utf8 (toString value)) :
    48 ≤ byte.toNat ∧ byte.toNat ≤ 57 := by
  rw [utf8_toString, List.mem_map] at member
  obtain ⟨digit, present, rfl⟩ := member
  have isDigit := Nat.isDigit_of_mem_toDigits (by decide) (by decide) present
  rw [(utf8EncodeChar_digit isDigit).2]
  simp only [Char.isDigit, Bool.and_eq_true, decide_eq_true_eq] at isDigit
  exact isDigit

theorem utf8_toString_length {value digits : Nat} (positive : 0 < digits)
    (small : value < 10 ^ digits) : (utf8 (toString value)).length ≤ digits := by
  rw [utf8_toString, List.length_map]
  exact (Nat.length_toDigits_le_iff (by decide) positive).mpr small

/-- Reading back a printed number. -/
theorem decimal_toString (value : Nat) : decimal (utf8 (toString value)) = some value := by
  have nonempty : utf8 (toString value) ≠ [] := by
    rw [utf8_toString, Ne, List.map_eq_nil_iff]
    exact Nat.toDigits_ne_nil
  have digits : (utf8 (toString value)).all (fun byte => 48 ≤ byte && byte ≤ 57) = true := by
    rw [List.all_eq_true]
    intro byte member
    rw [Bool.and_eq_true, decide_eq_true_eq, decide_eq_true_eq]
    exact mem_utf8_toString member
  rw [decimal, if_pos ⟨nonempty, digits⟩, Option.some.injEq, utf8_toString, List.foldl_map]
  have same : ∀ (list : List Char) (start : Nat), (∀ digit ∈ list, digit.isDigit = true) →
      list.foldl (fun value digit => 10 * value + (digit.val.toUInt8.toNat - 48)) start =
        Nat.ofDigitChars 10 list start := by
    intro list
    induction list with
    | nil => intro start _; rfl
    | cons digit rest ih =>
      intro start isDigit
      rw [List.foldl_cons, ih _ fun other member => isDigit other (by simp [member]),
        (utf8EncodeChar_digit (isDigit digit (by simp))).2]
      rfl
  rw [same _ _ fun digit member => Nat.isDigit_of_mem_toDigits (by decide) (by decide) member]
  exact Nat.ofDigitChars_toDigits (by decide) (by decide)

end QoreOS.Library
