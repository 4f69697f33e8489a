import Mathlib.Data.Vector.Basic

/-! Byte strings as a checked language sees them: slices, indexed writes and
big-endian fields, with `none` where the program would panic. -/

namespace QoreOS.Library

/-- A result that must fit below `limit`; the overflow check panics otherwise. -/
def checked (limit value : Nat) : Option Nat := if value < limit then some value else none

/-- Unsigned subtraction under the overflow check. -/
def checkedSub (value amount : Nat) : Option Nat :=
  if amount ≤ value then some (value - amount) else none

/-- An address that a debug build lets a program use: it is not null, and aligned as its
type demands. -/
def checkedPointer (align address : Nat) : Option Nat :=
  if address ≠ 0 ∧ address % align = 0 then some address else none

/-- An address at which a debug build reads or writes a value of `size` bytes. -/
def Accessible (size address : Nat) : Prop :=
  address < 2 ^ 64 ∧ address ≠ 0 ∧ address % size = 0

instance (size address : Nat) : Decidable (Accessible size address) :=
  inferInstanceAs (Decidable (_ ∧ _))

/-- `address + count * size` is the address of an element, and its distance an `isize`. -/
def OffsetFits (size address count : Nat) : Prop :=
  count * size < 2 ^ 63 ∧ address + count * size < 2 ^ 64

instance (size address count : Nat) : Decidable (OffsetFits size address count) :=
  inferInstanceAs (Decidable (_ ∧ _))

/-- `pointer.add(count)` for elements of `size` bytes. -/
def pointerAdd (size address count : Nat) : Option Nat :=
  if OffsetFits size address count then some (address + count * size) else none

/-- What `copy_nonoverlapping` demands of `count` elements of `size` bytes: aligned
pointers that are not null, and two ranges apart from each other. -/
def Copyable (size src dst count : Nat) : Prop :=
  count * size < 2 ^ 64 ∧ src % size = 0 ∧ dst % size = 0 ∧ (count ≠ 0 → src ≠ 0 ∧ dst ≠ 0) ∧
    (src + count * size ≤ dst ∨ dst + count * size ≤ src)

instance (size src dst count : Nat) : Decidable (Copyable size src dst count) :=
  inferInstanceAs (Decidable (_ ∧ _))

/-- `bytes[start..stop]` -/
def slice (bytes : List UInt8) (start stop : Nat) : Option (List UInt8) :=
  if start ≤ stop ∧ stop ≤ bytes.length then some ((bytes.take stop).drop start) else none

/-- `bytes[index] = value` -/
def setByte (bytes : List UInt8) (index : Nat) (value : UInt8) : Option (List UInt8) :=
  if index < bytes.length then some (bytes.set index value) else none

/-- `bytes[start..start + patch.len()].copy_from_slice(patch)` -/
def copyFromSlice (bytes : List UInt8) (start : Nat) (patch : List UInt8) : Option (List UInt8) :=
  if start + patch.length ≤ bytes.length then
    some (bytes.take start ++ patch ++ bytes.drop (start + patch.length))
  else none

/-- `&*(bytes.as_ptr() as *const Record)` for a packed record of `size` bytes. -/
def castRef (size : Nat) (bytes : List UInt8) : Option (Vector UInt8 size) :=
  if fits : size ≤ bytes.length then some ⟨(bytes.take size).toArray, by simp [fits]⟩ else none

/-- `((high as u32) << 8) | (low as u32)` -/
def word (high low : UInt8) : Nat := high.toNat <<< 8 ||| low.toNat

def be16 (high low : UInt8) : UInt16 := UInt16.ofNat (word high low)

def be32 (first second third fourth : UInt8) : UInt32 :=
  UInt32.ofNat (word first second <<< 16 ||| word third fourth)

/-- `(value >> 8) as u8` -/
def high16 (value : UInt16) : UInt8 := UInt8.ofNat (value.toNat >>> 8)

/-- `value as u8` -/
def low16 (value : UInt16) : UInt8 := UInt8.ofNat value.toNat

/-- `value.to_be_bytes()` of a `u16` -/
def bytes16 (value : UInt16) : List UInt8 := [high16 value, low16 value]

/-- `value.to_be_bytes()` of a `u32` -/
def bytes32 (value : UInt32) : Vector UInt8 4 :=
  #v[UInt8.ofNat (value.toNat >>> 24), UInt8.ofNat (value.toNat >>> 16),
    UInt8.ofNat (value.toNat >>> 8), UInt8.ofNat value.toNat]

/-- The number that little-endian bytes denote. -/
def littleEndian (bytes : List UInt8) : Nat :=
  bytes.foldr (fun byte rest => byte.toNat + 256 * rest) 0

/-- The UTF-8 bytes of a text. -/
def utf8 (text : String) : List UInt8 := text.toByteArray.data.toList

/-- The literals that index an IPv4 address. -/
instance instNeZeroFour : @NeZero Nat Zero.ofOfNat0 4 := ⟨by decide⟩

/-- The literals that index a MAC address. -/
instance instNeZeroSix : @NeZero Nat Zero.ofOfNat0 6 := ⟨by decide⟩

variable {bytes : List UInt8}

theorem checked_of_lt {limit value : Nat} (small : value < limit) :
    checked limit value = some value := if_pos small

theorem checked_eq_some {limit value result : Nat} (checks : checked limit value = some result) :
    result = value ∧ value < limit := by
  unfold checked at checks
  split at checks
  case isTrue small => exact ⟨(Option.some.inj checks).symm, small⟩
  case isFalse => cases checks

theorem checkedPointer_eq_some {align address result : Nat}
    (checks : checkedPointer align address = some result) :
    result = address ∧ address ≠ 0 ∧ address % align = 0 := by
  unfold checkedPointer at checks
  split at checks
  · exact ⟨(Option.some.inj checks).symm, ‹_›⟩
  · cases checks

theorem pointerAdd_of_fits {size address count : Nat} (fits : OffsetFits size address count) :
    pointerAdd size address count = some (address + count * size) := if_pos fits

theorem pointerAdd_eq_some {size address count result : Nat}
    (adds : pointerAdd size address count = some result) :
    result = address + count * size ∧ OffsetFits size address count := by
  unfold pointerAdd at adds
  split at adds
  · exact ⟨(Option.some.inj adds).symm, ‹_›⟩
  · cases adds

theorem checkedSub_of_le {value amount : Nat} (enough : amount ≤ value) :
    checkedSub value amount = some (value - amount) := if_pos enough

theorem checkedSub_eq_some {value amount result : Nat}
    (checks : checkedSub value amount = some result) : result = value - amount ∧ amount ≤ value := by
  unfold checkedSub at checks
  split at checks
  case isTrue enough => exact ⟨(Option.some.inj checks).symm, enough⟩
  case isFalse => cases checks

theorem slice_of_le {start stop : Nat} (ordered : start ≤ stop) (inside : stop ≤ bytes.length) :
    slice bytes start stop = some ((bytes.take stop).drop start) := if_pos ⟨ordered, inside⟩

/-- `bytes[start..]` -/
theorem slice_to_end {start : Nat} (inside : start ≤ bytes.length) :
    slice bytes start bytes.length = some (bytes.drop start) := by
  rw [slice_of_le inside (Nat.le_refl _), List.take_length]

theorem castRef_of_le (size : Nat) (bytes : List UInt8) (fits : size ≤ bytes.length) :
    ∃ header, castRef size bytes = some header := by
  rw [castRef, dif_pos fits]
  exact ⟨_, rfl⟩

theorem castRef_of_lt {size : Nat} (short : bytes.length < size) : castRef size bytes = none :=
  dif_neg (Nat.not_le_of_lt short)

theorem slice_append (front middle back : List UInt8) :
    slice (front ++ (middle ++ back)) front.length (front.length + middle.length) = some middle := by
  have fits : front.length ≤ front.length + middle.length ∧
      front.length + middle.length ≤ (front ++ (middle ++ back)).length := by
    simp
  rw [slice, if_pos fits, List.take_length_add_append, List.take_left, List.drop_left]

theorem setByte_of_lt (bytes : List UInt8) (index : Nat) (inside : index < bytes.length)
    (value : UInt8) :
    setByte bytes index value = some (bytes.set index value) := if_pos inside

theorem word_eq (high low : UInt8) : word high low = high.toNat * 256 + low.toNat := by
  rw [word, ← Nat.shiftLeft_add_eq_or_of_lt (b := low.toNat) (i := 8) low.toNat_lt, Nat.shiftLeft_eq]

theorem word_lt (high low : UInt8) : word high low < 2 ^ 16 := by
  have top := high.toNat_lt
  have bottom := low.toNat_lt
  rw [word_eq]
  omega

theorem be16_toNat (high low : UInt8) : (be16 high low).toNat = word high low := by
  rw [be16, UInt16.toNat_ofNat']
  exact Nat.mod_eq_of_lt (word_lt high low)

/-- A field written with `to_be_bytes` reads back with `from_be`. -/
theorem be16_bytes16 (value : UInt16) : be16 (high16 value) (low16 value) = value := by
  have bound := value.toNat_lt
  rw [← UInt16.toNat_inj, be16_toNat, word_eq, high16, low16, UInt8.toNat_ofNat',
    UInt8.toNat_ofNat', Nat.shiftRight_eq_div_pow]
  omega

theorem be32_bytes32 (value : UInt32) :
    be32 ((bytes32 value).get 0) ((bytes32 value).get 1) ((bytes32 value).get 2)
      ((bytes32 value).get 3) = value := by
  have bound := value.toNat_lt
  rw [← UInt32.toNat_inj, be32, UInt32.toNat_ofNat',
    ← Nat.shiftLeft_add_eq_or_of_lt (word_lt _ _), word_eq, word_eq]
  change (((UInt8.ofNat (value.toNat >>> 24)).toNat * 256 +
    (UInt8.ofNat (value.toNat >>> 16)).toNat) <<< 16 +
    ((UInt8.ofNat (value.toNat >>> 8)).toNat * 256 + (UInt8.ofNat value.toNat).toNat)) % 2 ^ 32 =
      value.toNat
  simp only [UInt8.toNat_ofNat', Nat.shiftRight_eq_div_pow, Nat.shiftLeft_eq]
  omega

theorem castRef_append {size : Nat} (header : Vector UInt8 size) (rest : List UInt8) :
    castRef size (header.toList ++ rest) = some header := by
  have fits : size ≤ (header.toList ++ rest).length := by simp
  have first : (header.toList ++ rest).take size = header.toList :=
    List.take_left' (by simp)
  rw [castRef, dif_pos fits, Option.some.injEq]
  apply Vector.toArray_inj.mp
  simp only [first]
  exact Array.toArray_toList

theorem drop_header {size : Nat} (header : Vector UInt8 size) (rest : List UInt8) :
    (header.toList ++ rest).drop size = rest :=
  List.drop_left' (by simp)

theorem toList_four {α : Type*} (items : Vector α 4) :
    items.toList = [items.get 0, items.get 1, items.get 2, items.get 3] := by
  obtain ⟨⟨list⟩, size⟩ := items
  match list, size with
  | [_, _, _, _], _ => rfl

theorem toList_six {α : Type*} (items : Vector α 6) :
    items.toList =
      [items.get 0, items.get 1, items.get 2, items.get 3, items.get 4, items.get 5] := by
  obtain ⟨⟨list⟩, size⟩ := items
  match list, size with
  | [_, _, _, _, _, _], _ => rfl

theorem eta_four {α : Type*} (items : Vector α 4) :
    #v[items.get 0, items.get 1, items.get 2, items.get 3] = items := by
  rw [← Vector.toList_inj, toList_four items]
  rfl

theorem eta_six {α : Type*} (items : Vector α 6) :
    #v[items.get 0, items.get 1, items.get 2, items.get 3, items.get 4, items.get 5] = items := by
  rw [← Vector.toList_inj, toList_six items]
  rfl

@[simp] theorem utf8_append (first second : String) :
    utf8 (first ++ second) = utf8 first ++ utf8 second := by
  simp [utf8]

/-- `core::str::from_utf8` -/
def fromUtf8 (bytes : List UInt8) : Option String := String.fromUTF8? ⟨bytes.toArray⟩

theorem utf8_fromUtf8 {text : String} (valid : fromUtf8 bytes = some text) : utf8 text = bytes := by
  unfold fromUtf8 String.fromUTF8? at valid
  split at valid
  · rw [Option.some.injEq] at valid
    rw [← valid]
    rfl
  · cases valid

theorem utf8_length (text : String) : (utf8 text).length = text.utf8ByteSize := by
  simp [utf8]

end QoreOS.Library
