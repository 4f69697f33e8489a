import Mathlib.Data.List.GetD
import Mathlib.Data.Set.Insert
import Mathlib.Logic.Function.Basic
import QoreOS.Library.Bytes

/-! Byte-addressed memory with little-endian numbers in it. -/

namespace QoreOS.Library

abbrev ByteMemory := Nat → UInt8

/-- The little-endian bytes of a number. -/
def numberBytes : Nat → Nat → List UInt8
  | 0, _ => []
  | size + 1, value => UInt8.ofNat value :: numberBytes size (value / 256)

namespace ByteMemory

def bytes (memory : ByteMemory) (address size : Nat) : List UInt8 :=
  (List.range size).map fun offset => memory (address + offset)

def read (memory : ByteMemory) (address size : Nat) : Nat :=
  littleEndian (memory.bytes address size)

def copy (memory : ByteMemory) (address : Nat) (bytes : List UInt8) : ByteMemory := fun cell =>
  if address ≤ cell ∧ cell < address + bytes.length then bytes.getD (cell - address) 0
  else memory cell

def write (memory : ByteMemory) (address size value : Nat) : ByteMemory :=
  memory.copy address (numberBytes size value)

end ByteMemory

theorem numberBytes_length (size value : Nat) : (numberBytes size value).length = size := by
  induction size generalizing value with
  | zero => rfl
  | succ size ih => rw [numberBytes, List.length_cons, ih]

theorem littleEndian_numberBytes (size value : Nat) :
    littleEndian (numberBytes size value) = value % 256 ^ size := by
  induction size generalizing value with
  | zero => exact (Nat.mod_one value).symm
  | succ size ih =>
    have rest := ih (value / 256)
    unfold littleEndian at rest ⊢
    have cut : value % 256 ^ (size + 1) = value % 256 + 256 * (value / 256 % 256 ^ size) := by
      rw [Nat.pow_succ', Nat.mod_mul]
    rw [cut, numberBytes, List.foldr_cons, rest, UInt8.toNat_ofNat']

theorem littleEndian_lt (bytes : List UInt8) : littleEndian bytes < 256 ^ bytes.length := by
  unfold littleEndian
  induction bytes with
  | nil => decide
  | cons byte bytes ih =>
    have small := byte.toNat_lt
    rw [List.foldr_cons, List.length_cons, Nat.pow_succ]
    omega

theorem numberBytes_littleEndian (bytes : List UInt8) :
    numberBytes bytes.length (littleEndian bytes) = bytes := by
  unfold littleEndian
  induction bytes with
  | nil => rfl
  | cons byte bytes ih =>
    have small := byte.toNat_lt
    rw [List.length_cons, numberBytes, List.foldr_cons]
    congr 1
    · rw [← UInt8.toNat_inj, UInt8.toNat_ofNat']
      omega
    · rw [Nat.add_mul_div_left _ _ (by decide), Nat.div_eq_of_lt small, Nat.zero_add, ih]

namespace ByteMemory

variable {memory : ByteMemory} {address size other width : Nat} {data : List UInt8}

theorem bytes_length : (memory.bytes address size).length = size := by
  rw [bytes, List.length_map, List.length_range]

theorem bytes_add (memory : ByteMemory) (address first second : Nat) :
    memory.bytes address (first + second) =
      memory.bytes address first ++ memory.bytes (address + first) second := by
  simp only [bytes, List.range_add, List.map_append, List.map_map]
  congr 2
  funext offset
  exact congrArg memory (Nat.add_assoc address first offset).symm

theorem bytes_eq_replicate (value : UInt8) :
    memory.bytes address size = List.replicate size value ↔
      ∀ cell, address ≤ cell → cell < address + size → memory cell = value := by
  rw [List.eq_replicate_iff, bytes_length, bytes]
  simp only [true_and, List.mem_map, List.mem_range]
  constructor
  · intro all cell start stop
    exact all _ ⟨cell - address, by omega, by rw [Nat.add_sub_cancel' start]⟩
  · rintro all byte ⟨offset, inside, rfl⟩
    exact all _ (Nat.le_add_right _ _) (Nat.add_lt_add_left inside _)

/-- What was copied can be read back. -/
theorem bytes_copy (memory : ByteMemory) (address : Nat) (data : List UInt8) :
    (memory.copy address data).bytes address data.length = data := by
  apply List.ext_getElem
  · rw [bytes_length]
  · intro offset _ inside
    simp only [bytes, List.getElem_map, List.getElem_range, copy, Nat.le_add_right,
      Nat.add_lt_add_iff_left, inside, and_self, if_true, Nat.add_sub_cancel_left,
      List.getD_eq_getElem _ _ inside]

/-- A copy elsewhere does not matter. -/
theorem bytes_copy_of_disjoint (apart : address + data.length ≤ other ∨ other + size ≤ address) :
    (memory.copy address data).bytes other size = memory.bytes other size := by
  apply List.map_congr_left
  intro offset member
  rw [List.mem_range] at member
  rw [copy, if_neg]
  omega

theorem read_copy_of_disjoint (apart : address + data.length ≤ other ∨ other + size ≤ address) :
    (memory.copy address data).read other size = memory.read other size := by
  rw [read, bytes_copy_of_disjoint apart, read]

theorem read_write (memory : ByteMemory) (address size value : Nat) :
    (memory.write address size value).read address size = value % 256 ^ size := by
  have same := bytes_copy memory address (numberBytes size value)
  rw [numberBytes_length] at same
  rw [read, write, same, littleEndian_numberBytes]

theorem read_write_of_disjoint {value : Nat}
    (apart : address + size ≤ other ∨ other + width ≤ address) :
    (memory.write address size value).read other width = memory.read other width := by
  apply read_copy_of_disjoint
  rwa [numberBytes_length]

/-- Writing what is already there changes nothing. -/
theorem write_read (memory : ByteMemory) (address size : Nat) :
    memory.write address size (memory.read address size) = memory := by
  have same : numberBytes size (memory.read address size) = memory.bytes address size := by
    have back := numberBytes_littleEndian (memory.bytes address size)
    rwa [bytes_length] at back
  funext cell
  rw [write, same, copy, bytes_length]
  split
  · rename_i inside
    have small : cell - address < (memory.bytes address size).length := by
      rw [bytes_length]
      omega
    rw [List.getD_eq_getElem _ _ small]
    simp only [bytes, List.getElem_map, List.getElem_range, Nat.add_sub_cancel' inside.1]
  · rfl

/-- The bytes stand in memory from an address on. -/
def Holds (memory : ByteMemory) (address : Nat) (data : List UInt8) : Prop :=
  memory.bytes address data.length = data

instance : Decidable (memory.Holds address data) := inferInstanceAs (Decidable (_ = _))

theorem holds_append {rest : List UInt8} : memory.Holds address (data ++ rest) ↔
    memory.Holds address data ∧ memory.Holds (address + data.length) rest := by
  rw [Holds, List.length_append, bytes_add]
  constructor
  · exact fun same => List.append_inj same bytes_length
  · rintro ⟨front, back⟩
    exact congrArg₂ (· ++ ·) front back

theorem Holds.read (holds : memory.Holds address data) :
    memory.read address data.length = littleEndian data := by
  rw [ByteMemory.read, holds]

/-- A number that fits is read back. -/
theorem Holds.read_number {value : Nat} (holds : memory.Holds address (numberBytes size value))
    (fits : value < 256 ^ size) : memory.read address size = value := by
  rw [← numberBytes_length size value, holds.read, littleEndian_numberBytes, Nat.mod_eq_of_lt fits]

/-- A number, and where it stands in memory. -/
structure Word where
  address : Nat
  size : Nat
  value : Nat

def Word.Clear (word : Word) (address size : Nat) : Prop :=
  word.address + word.size ≤ address ∨ address + size ≤ word.address

def Stores (memory : ByteMemory) (words : Set Word) : Prop :=
  ∀ word ∈ words, memory.read word.address word.size = word.value

section Stores

variable {words : Set Word}

theorem Word.Clear.mono {word : Word} (clear : word.Clear address size) (start : address ≤ other)
    (stop : other + width ≤ address + size) : word.Clear other width := by
  unfold Word.Clear at *
  omega

theorem Stores.copy (stored : memory.Stores words)
    (clear : ∀ word ∈ words, word.Clear address data.length) :
    (memory.copy address data).Stores words := by
  intro word member
  rw [read_copy_of_disjoint (clear word member).symm, stored word member]

/-- A number that is written elsewhere leaves the others where they are. -/
theorem Stores.write_elsewhere {value : Nat} (stored : memory.Stores words)
    (clear : ∀ word ∈ words, word.Clear address size) :
    (memory.write address size value).Stores words := by
  apply stored.copy
  rwa [numberBytes_length]

theorem Stores.write {value : Nat} (stored : memory.Stores words)
    (clear : ∀ word ∈ words, word.Clear address size) (fits : value < 256 ^ size) :
    (memory.write address size value).Stores (insert ⟨address, size, value⟩ words) := by
  rintro word (rfl | member)
  · rw [read_write, Nat.mod_eq_of_lt fits]
  · exact stored.write_elsewhere clear word member

end Stores

/-- Two numbers that follow one another make a longer one. -/
theorem read_add (memory : ByteMemory) (address first second : Nat) :
    memory.read address (first + second) =
      memory.read address first + 256 ^ first * memory.read (address + first) second := by
  have joined : ∀ front back : List UInt8,
      littleEndian (front ++ back) = littleEndian front + 256 ^ front.length * littleEndian back := by
    intro front back
    unfold littleEndian
    induction front with
    | nil => simp
    | cons byte front ih =>
      rw [List.cons_append, List.foldr_cons, ih, List.foldr_cons, List.length_cons, Nat.mul_add,
        Nat.pow_succ', Nat.mul_assoc, Nat.add_assoc]
  rw [read, bytes_add, joined, bytes_length, read, read]

end ByteMemory

end QoreOS.Library
