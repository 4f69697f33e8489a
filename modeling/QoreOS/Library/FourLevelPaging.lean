import Mathlib.Data.Nat.Bitwise

/-! Four-level address translation as the x86-64 architecture defines it, with
entries and addresses as numbers cut into bit fields. -/

namespace QoreOS.Library

/-- A canonical address: bits 48 to 63 repeat bit 47. -/
structure LinearAddress where
  bits : BitVec 64
  canonical : (bits.setWidth 48).signExtend 64 = bits

/-- An entry of a table `depth` levels above the page tables: at depth 3 it
belongs to the PML4. -/
structure PagingEntry where
  depth : Nat
  word : BitVec 64

/-- The bits of a word from `low` up to, and without, `high`. -/
def bitField (word : BitVec 64) (low high : Nat) : Nat := word.toNat % 2 ^ high / 2 ^ low

/-- An entry at this depth covers so many bits of a linear address. -/
def coveredBits (depth : Nat) : Nat := 12 + 9 * depth

/-- The table to which an entry, or `CR3`, refers. -/
def tableBase (word : BitVec 64) : Nat := bitField word 12 52 * 2 ^ 12

namespace LinearAddress

/-- Nine bits of the address for each depth. -/
def index (linear : LinearAddress) (depth : Nat) : Nat :=
  bitField linear.bits (coveredBits depth) (coveredBits (depth + 1))

def offset (linear : LinearAddress) (depth : Nat) : Nat :=
  bitField linear.bits 0 (coveredBits depth)

end LinearAddress

namespace PagingEntry

/-- Bit 0. -/
def Present (entry : PagingEntry) : Prop := entry.word.getLsbD 0

/-- Bit 7 of a page directory or of the table above it: a page of 2 MiB or of
1 GiB instead of a further table. -/
def LargePage (entry : PagingEntry) : Prop :=
  (entry.depth = 1 ∨ entry.depth = 2) ∧ entry.word.getLsbD 7

/-- Bit 12 of a large page selects its memory type and is no address bit. -/
def Pat (entry : PagingEntry) : Prop := entry.LargePage ∧ entry.word.getLsbD 12

/-- The first address of the page, aligned to its size. -/
def pageBase (entry : PagingEntry) : Nat :=
  bitField entry.word (coveredBits entry.depth) 52 * 2 ^ coveredBits entry.depth

/-- The reserved bits are clear: bit 7 of a PML4 entry, and the bits of a large
page between its PAT bit and its address. -/
def ReservedClear (entry : PagingEntry) : Prop :=
  (entry.depth = 3 → ¬ entry.word.getLsbD 7) ∧
    (entry.LargePage → bitField entry.word 13 (coveredBits entry.depth) = 0)

instance (entry : PagingEntry) : Decidable entry.Present := inferInstanceAs (Decidable (_ = true))

instance (entry : PagingEntry) : Decidable entry.LargePage :=
  inferInstanceAs (Decidable (_ ∧ _ = true))

instance (entry : PagingEntry) : Decidable entry.Pat :=
  inferInstanceAs (Decidable (_ ∧ _ = true))

end PagingEntry

section
variable (memory : Nat → BitVec 64) (linear : LinearAddress)

/-- The entry which a table holds for the address. -/
def entryAt (depth table : Nat) : PagingEntry := ⟨depth, memory (table + 8 * linear.index depth)⟩

/-- The entries which a translation meets, downwards: it ends at the first that
is not present or maps a page. -/
def pathEntries : Nat → Nat → List PagingEntry
  | 0, table => [entryAt memory linear 0 table]
  | depth + 1, table =>
    let entry := entryAt memory linear (depth + 1) table
    entry :: if entry.Present ∧ ¬ entry.LargePage then pathEntries depth (tableBase entry.word) else []

/-- The entry that maps a page at the address, if there is one. -/
def mappingEntry : Nat → Nat → Option PagingEntry
  | 0, table =>
    let entry := entryAt memory linear 0 table
    if entry.Present then some entry else none
  | depth + 1, table =>
    let entry := entryAt memory linear (depth + 1) table
    if ¬ entry.Present then none
    else if entry.LargePage then some entry
    else mappingEntry depth (tableBase entry.word)

/-- The physical address. -/
def physicalAddress (cr3 : BitVec 64) : Option Nat :=
  (mappingEntry memory linear 3 (tableBase cr3)).map fun entry =>
    entry.pageBase + linear.offset entry.depth

end

section
variable {memory : Nat → BitVec 64} {linear : LinearAddress} {depth table : Nat}

/-- In the lower half nothing stands above the translated bits. -/
theorem LinearAddress.lower_half (linear : LinearAddress)
    (clear : linear.bits.toNat % 2 ^ 48 < 2 ^ 47) :
    linear.bits.toNat = linear.bits.toNat % 2 ^ 48 := by
  have msb : (linear.bits.setWidth 48).msb = false := by
    rw [BitVec.msb_eq_false_iff_two_mul_lt, BitVec.toNat_setWidth]
    omega
  have same := congrArg BitVec.toNat linear.canonical
  rw [BitVec.signExtend_eq_setWidth_of_msb_false msb, BitVec.toNat_setWidth, BitVec.toNat_setWidth,
    Nat.mod_eq_of_lt (Nat.lt_trans (Nat.mod_lt _ (by decide)) (by decide))] at same
  exact same.symm

theorem LinearAddress.index_lt (linear : LinearAddress) (depth : Nat) : linear.index depth < 512 := by
  rw [index, bitField, show coveredBits (depth + 1) = coveredBits depth + 9 from rfl, Nat.pow_add,
    Nat.mod_mul_right_div_self]
  exact Nat.mod_lt _ (by decide)

/-- The path descends, and its entries are words of memory. -/
theorem mem_pathEntries {entry : PagingEntry}
    (member : entry ∈ pathEntries memory linear depth table) :
    entry.depth ≤ depth ∧ ∃ address, entry.word = memory address := by
  induction depth generalizing table with
  | zero =>
    obtain rfl : entry = entryAt memory linear 0 table := List.mem_singleton.mp member
    exact ⟨le_rfl, _, rfl⟩
  | succ depth ih =>
    simp only [pathEntries, List.mem_cons] at member
    rcases member with rfl | later
    · exact ⟨le_rfl, _, rfl⟩
    · split at later
      · obtain ⟨below, word⟩ := ih later
        exact ⟨Nat.le_succ_of_le below, word⟩
      · cases later

/-- A translation fails exactly at an entry that is not present. -/
theorem mappingEntry_eq_none :
    mappingEntry memory linear depth table = none ↔
      ∃ entry ∈ pathEntries memory linear depth table, ¬ entry.Present := by
  induction depth generalizing table with
  | zero => simp [mappingEntry, pathEntries]
  | succ depth ih =>
    by_cases present : (entryAt memory linear (depth + 1) table).Present
    · by_cases large : (entryAt memory linear (depth + 1) table).LargePage
      · simp [mappingEntry, pathEntries, present, large]
      · simp [mappingEntry, pathEntries, present, large, ih]
    · simp [mappingEntry, pathEntries, present]

/-- The entry that maps the page lies on the path, is present, and is a page
table's entry or a large page. -/
theorem mappingEntry_eq_some {entry : PagingEntry}
    (found : mappingEntry memory linear depth table = some entry) :
    entry ∈ pathEntries memory linear depth table ∧ entry.Present ∧
      (entry.depth = 0 ∨ entry.LargePage) := by
  induction depth generalizing table with
  | zero =>
    simp only [mappingEntry, Option.ite_none_right_eq_some, Option.some.injEq] at found
    obtain ⟨present, rfl⟩ := found
    exact ⟨List.mem_singleton_self _, present, .inl rfl⟩
  | succ depth ih =>
    by_cases present : (entryAt memory linear (depth + 1) table).Present
    · by_cases large : (entryAt memory linear (depth + 1) table).LargePage
      · simp only [mappingEntry, present, large, not_true_eq_false, ↓reduceIte,
          Option.some.injEq] at found
        subst entry
        exact ⟨List.mem_cons_self, present, .inr large⟩
      · simp only [mappingEntry, present, large, not_true_eq_false, ↓reduceIte] at found
        obtain ⟨member, rest⟩ := ih found
        refine ⟨?_, rest⟩
        simp only [pathEntries, present, large, not_false_eq_true, and_self, ↓reduceIte]
        exact List.mem_cons_of_mem _ member
    · simp [mappingEntry, present] at found

/-- A present large page on the path ends it. -/
theorem mappingEntry_of_large {entry : PagingEntry}
    (member : entry ∈ pathEntries memory linear depth table) (present : entry.Present)
    (large : entry.LargePage) : mappingEntry memory linear depth table = some entry := by
  induction depth generalizing table with
  | zero =>
    obtain rfl : entry = entryAt memory linear 0 table := List.mem_singleton.mp member
    exact if_pos present
  | succ depth ih =>
    simp only [pathEntries, List.mem_cons] at member
    rcases member with rfl | later
    · simp only [mappingEntry, present, large, not_true_eq_false, ↓reduceIte]
    · split at later
      · rename_i leads
        simp only [mappingEntry, leads.1, leads.2, not_true_eq_false, ↓reduceIte]
        exact ih later
      · cases later

end

end QoreOS.Library
