import QoreOS.Library.FourLevelPaging
import QoreOS.Memory.Paging

/-! `walkPageTable` against the four-level translation of the architecture. The
walk keeps bits 12 to 51 of every entry, also of those of large pages, where
bit 12 is the PAT bit. -/

namespace QoreOS.Memory

open QoreOS.Library

/-- No present entry that some address meets has a reserved bit set. -/
def ReservedClear (memory : Words) (cr3 : BitVec 64) : Prop :=
  ∀ (linear : LinearAddress), ∀ entry ∈ pathEntries memory linear 3 (tableBase cr3),
    entry.Present → entry.ReservedClear

/-- The walk returns `some p` exactly when the architecture maps the address to
`p`, and `none` exactly when some entry on the path is not present. -/
structure WalkAgrees (memory : Words) (cr3 : BitVec 64) (linear : LinearAddress) : Prop where
  mapped : ∀ phys : BitVec 64, walkPageTable memory cr3 linear.bits = some phys ↔
    physicalAddress memory linear cr3 = some phys.toNat
  unmapped : walkPageTable memory cr3 linear.bits = none ↔
    ∃ entry ∈ pathEntries memory linear 3 (tableBase cr3), ¬ entry.Present

/-- The mask which the walk applies to the address at the end. -/
def offsetMask : Nat → BitVec 64
  | 0 => 0xFFF#64
  | 1 => 0x1FFFFF#64
  | _ => 0x3FFFFFFF#64

/-- The indices from a depth down. -/
def indicesFrom (virtAddr : BitVec 64) : Nat → List Nat
  | 0 => [((virtAddr >>> coveredBits 0) &&& 0x1FF#64).toNat]
  | depth + 1 =>
    ((virtAddr >>> coveredBits (depth + 1)) &&& 0x1FF#64).toNat :: indicesFrom virtAddr depth

theorem pageIndices_eq (virtAddr : BitVec 64) : pageIndices virtAddr = indicesFrom virtAddr 3 := rfl

theorem tableBase_eq (word : BitVec 64) : (word &&& addressMask).toNat = tableBase word := by
  apply Nat.eq_of_testBit_eq
  intro bit
  rw [BitVec.testBit_toNat, BitVec.getLsbD_and, tableBase, bitField, Nat.testBit_mul_two_pow,
    Nat.testBit_div_two_pow, Nat.testBit_mod_two_pow, BitVec.testBit_toNat]
  by_cases low : 12 ≤ bit
  · rw [Nat.sub_add_cancel low]
    by_cases inside : bit < 64
    · simp [addressMask_getLsbD bit inside, low, Bool.and_comm]
    · simp [BitVec.getLsbD_of_ge word bit (Nat.le_of_not_lt inside)]
  · have inside : bit < 64 := by omega
    simp [addressMask_getLsbD bit inside, low]

theorem index_toNat (linear : LinearAddress) (depth : Nat) :
    ((linear.bits >>> coveredBits depth) &&& 0x1FF#64).toNat = linear.index depth := by
  have mask : (0x1FF#64).toNat = 2 ^ 9 - 1 := rfl
  rw [BitVec.toNat_and, BitVec.toNat_ushiftRight, Nat.shiftRight_eq_div_pow, mask,
    Nat.and_two_pow_sub_one_eq_mod, LinearAddress.index, bitField,
    show coveredBits (depth + 1) = coveredBits depth + 9 by unfold coveredBits; omega, Nat.pow_add,
    Nat.mod_mul_right_div_self]

theorem offset_toNat (linear : LinearAddress) {depth : Nat} (small : depth ≤ 2) :
    (linear.bits &&& offsetMask depth).toNat = linear.offset depth := by
  have mask : (offsetMask depth).toNat = 2 ^ coveredBits depth - 1 := by
    match depth with
    | 0 | 1 | 2 => rfl
  rw [BitVec.toNat_and, mask, Nat.and_two_pow_sub_one_eq_mod, LinearAddress.offset, bitField,
    Nat.pow_zero, Nat.div_one]

theorem bit_iff (word : BitVec 64) {bit : Nat} (inside : bit < 64) :
    word.getLsbD bit ↔ word &&& BitVec.twoPow 64 bit ≠ 0#64 := by
  have power : BitVec.twoPow 64 bit ≠ 0#64 := by
    intro zero
    have one := congrArg (·.getLsbD bit) zero
    simp [inside] at one
  rw [BitVec.and_twoPow]
  split
  · rename_i set
    exact iff_of_true set power
  · rename_i clear
    exact iff_of_false clear (fun different => different rfl)

theorem present_iff {depth : Nat} {word : BitVec 64} :
    (PagingEntry.mk depth word).Present ↔ word &&& 1#64 ≠ 0#64 := bit_iff word (by decide)

theorem largePage_iff {depth level : Nat} {word : BitVec 64} (same : level + depth = 3) :
    (PagingEntry.mk depth word).LargePage ↔
      (level = 1 ∨ level = 2) ∧ word &&& 0x80#64 ≠ 0#64 := by
  have levels : (depth = 1 ∨ depth = 2) ↔ (level = 1 ∨ level = 2) := by omega
  exact and_congr levels (bit_iff word (by decide))

/-- The walk takes the path of the architecture, with its own mask at the end. -/
theorem walkLevels_eq {memory : Words} {linear : LinearAddress} {depth level : Nat}
    {table : BitVec 64} (same : level + depth = 3) :
    walkLevels memory linear.bits level (indicesFrom linear.bits depth) table =
      (mappingEntry memory linear depth table.toNat).map fun entry =>
        (entry.word &&& addressMask) + (linear.bits &&& offsetMask entry.depth) := by
  induction depth generalizing level table with
  | zero =>
    obtain rfl : level = 3 := same
    simp only [indicesFrom, walkLevels, index_toNat, mappingEntry, entryAt, present_iff]
    by_cases present : memory (table.toNat + 8 * linear.index 0) &&& 1#64 = 0#64
    · simp [present]
    · simp [present, offsetMask]
  | succ depth ih =>
    simp only [indicesFrom, walkLevels, index_toNat, mappingEntry, entryAt, present_iff,
      largePage_iff same, not_ne_iff]
    split
    · rfl
    · split
      · rename_i large
        have mask : (if level = 1 then 0x3FFFFFFF#64 else 0x1FFFFF#64) = offsetMask (depth + 1) := by
          rcases large.1 with rfl | rfl
          · obtain rfl : depth = 1 := by omega
            rfl
          · obtain rfl : depth = 0 := by omega
            rfl
        simp only [mask, Option.map_some]
      · rw [ih (by omega), tableBase_eq]

theorem walkPageTable_eq {memory : Words} {cr3 : BitVec 64} {linear : LinearAddress} :
    walkPageTable memory cr3 linear.bits =
      (mappingEntry memory linear 3 (tableBase cr3)).map fun entry =>
        (entry.word &&& addressMask) + (linear.bits &&& offsetMask entry.depth) := by
  rw [walkPageTable, pageIndices_eq, walkLevels_eq rfl, level4Table, tableBase_eq]

/-- Below 2 MiB only the last index differs from 0. -/
theorem pageIndices_low {virtAddr : BitVec 64} (low : virtAddr.toNat < 2 ^ 21) :
    pageIndices virtAddr = [0, 0, 0, ((virtAddr >>> 12) &&& 0x1FF#64).toNat] := by
  have zero : ∀ shift, 21 ≤ shift → ((virtAddr >>> shift) &&& 0x1FF#64).toNat = 0 := by
    intro shift high
    have none : virtAddr.toNat / 2 ^ shift = 0 :=
      Nat.div_eq_of_lt (Nat.lt_of_lt_of_le low (Nat.pow_le_pow_right (by decide) high))
    rw [BitVec.toNat_and, BitVec.toNat_ushiftRight, Nat.shiftRight_eq_div_pow, none, Nat.zero_and]
  rw [pageIndices, zero 39 (by decide), zero 30 (by decide), zero 21 (by decide)]

/-- A canonical address from 2 MiB on has one of the upper indices. -/
theorem pageIndices_high {linear : LinearAddress} (high : 2 ^ 21 ≤ linear.bits.toNat) :
    ¬ [0, 0, 0] <+: pageIndices linear.bits := by
  rintro ⟨rest, split⟩
  have same : [linear.index 3, linear.index 2, linear.index 1, linear.index 0] =
      [0, 0, 0] ++ rest := by
    rw [split, ← index_toNat, ← index_toNat, ← index_toNat, ← index_toNat]
    rfl
  simp only [List.cons_append, List.nil_append, List.cons.injEq, LinearAddress.index, bitField,
    coveredBits] at same
  have lower := linear.lower_half (by omega)
  omega

/-- With its reserved bits clear, the masked word of an entry is the base of its
page, but for the PAT bit. -/
theorem tableBase_page {entry : PagingEntry} (maps : entry.depth = 0 ∨ entry.LargePage)
    (clear : entry.ReservedClear) :
    tableBase entry.word = entry.pageBase + if entry.Pat then 0x1000 else 0 := by
  obtain ⟨depth, word⟩ := entry
  rcases maps with rfl | large
  · have page : ¬ (PagingEntry.mk 0 word).Pat := fun pat => by simpa using pat.1.1
    rw [if_neg page, tableBase, PagingEntry.pageBase, coveredBits, Nat.mul_zero, Nat.add_zero,
      Nat.add_zero]
  · have reserved := clear.2 large
    have pat : (PagingEntry.mk depth word).Pat ↔ word.toNat / 4096 % 2 = 1 := by
      rw [PagingEntry.Pat, and_iff_right large, ← BitVec.testBit_toNat,
        Nat.testBit_eq_decide_div_mod_eq, decide_eq_true_iff]
    simp only [pat, tableBase, PagingEntry.pageBase, bitField, coveredBits] at reserved ⊢
    rcases large.1 with rfl | rfl
    · split <;> omega
    · split <;> omega

theorem walk_toNat {entry : PagingEntry} {linear : LinearAddress}
    (maps : entry.depth = 0 ∨ entry.LargePage) (clear : entry.ReservedClear) :
    ((entry.word &&& addressMask) + (linear.bits &&& offsetMask entry.depth)).toNat =
      entry.pageBase + linear.offset entry.depth + if entry.Pat then 0x1000 else 0 := by
  have small : entry.depth ≤ 2 := by
    rcases maps with zero | large
    · omega
    · have depth := large.1
      omega
  have base : tableBase entry.word < 2 ^ 52 := by
    unfold tableBase bitField
    omega
  have offset : linear.offset entry.depth < 2 ^ 30 := by
    unfold LinearAddress.offset bitField
    calc linear.bits.toNat % 2 ^ coveredBits entry.depth / 2 ^ 0
        < 2 ^ coveredBits entry.depth := by
          rw [Nat.pow_zero, Nat.div_one]
          exact Nat.mod_lt _ (Nat.two_pow_pos _)
      _ ≤ 2 ^ 30 := Nat.pow_le_pow_right (by decide) (by unfold coveredBits; omega)
  rw [BitVec.toNat_add, tableBase_eq, offset_toNat linear small, Nat.mod_eq_of_lt (by omega),
    tableBase_page maps clear]
  omega

/-- `walkPageTable` against the architecture: if no reserved bit is set, the walk
agrees at an address exactly when the page there is not a large one with its PAT
bit set. Such a page the walk moves up by 4096 bytes. -/
theorem walkAgrees_iff {memory : Words} {cr3 : BitVec 64} (clear : ReservedClear memory cr3)
    (linear : LinearAddress) :
    WalkAgrees memory cr3 linear ↔
      ∀ entry ∈ pathEntries memory linear 3 (tableBase cr3), entry.Present → ¬ entry.Pat := by
  have unmapped : walkPageTable memory cr3 linear.bits = none ↔
      ∃ entry ∈ pathEntries memory linear 3 (tableBase cr3), ¬ entry.Present := by
    rw [walkPageTable_eq, Option.map_eq_none_iff, mappingEntry_eq_none]
  cases found : mappingEntry memory linear 3 (tableBase cr3) with
  | none =>
    refine iff_of_true ⟨fun phys => ?_, unmapped⟩ ?_
    · simp [walkPageTable_eq, physicalAddress, found]
    · intro entry member present pat
      simp [mappingEntry_of_large member present pat.1] at found
  | some page =>
    obtain ⟨onPath, present, maps⟩ := mappingEntry_eq_some found
    have value := @walk_toNat page linear maps (clear linear page onPath present)
    have walk : walkPageTable memory cr3 linear.bits =
        some ((page.word &&& addressMask) + (linear.bits &&& offsetMask page.depth)) := by
      rw [walkPageTable_eq, found, Option.map_some]
    have target : physicalAddress memory linear cr3 = some (page.pageBase + linear.offset page.depth) := by
      rw [physicalAddress, found, Option.map_some]
    constructor
    · intro agrees entry member here pat
      obtain rfl : page = entry :=
        Option.some.inj (found.symm.trans (mappingEntry_of_large member here pat.1))
      have same := (agrees.mapped _).mp walk
      rw [target, value, if_pos pat, Option.some.injEq] at same
      omega
    · intro plain
      rw [if_neg (plain page onPath present)] at value
      refine ⟨fun phys => ?_, unmapped⟩
      rw [walk, target, Option.some.injEq, Option.some.injEq, ← BitVec.toNat_inj, value, Nat.add_zero]

/-- One chain of tables at 0x1000, 0x2000 and 0x3000, ending in a page of 2 MiB at
address 0 with its PAT bit set. -/
private def patTables : Words := fun address =>
  if address = 0x1000 then 0x2003#64
  else if address = 0x2000 then 0x3003#64
  else if address = 0x3000 then 0x1083#64
  else 0#64

private theorem patTables_clear : ReservedClear patTables 0x1000#64 := by
  intro linear entry member _
  have small : ∀ depth word, (word : BitVec 64).getLsbD 7 = false →
      (PagingEntry.mk depth word).ReservedClear := by
    intro depth word clear
    have unset : ¬ word.getLsbD 7 := by
      rw [clear]
      decide
    exact ⟨fun _ => unset, fun large => absurd large.2 unset⟩
  rw [pathEntries, List.mem_cons] at member
  rcases member with rfl | later
  · apply small
    have inside := linear.index_lt (2 + 1)
    have base : tableBase 0x1000#64 = 0x1000 := by decide
    rw [base, patTables]
    split
    · decide
    · rw [if_neg (by omega), if_neg (by omega)]
      decide
  · split at later
    · obtain ⟨below, address, word⟩ := mem_pathEntries later
      obtain ⟨depth, word⟩ := entry
      subst word
      simp only [patTables]
      split
      · exact small _ _ (by decide)
      · split
        · exact small _ _ (by decide)
        · split
          · refine ⟨fun top => absurd (top.ge.trans below) (by decide), fun _ => ?_⟩
            have word : (0x1083#64).toNat < 2 ^ 13 := by decide
            exact Nat.div_eq_of_lt (Nat.lt_of_le_of_lt (Nat.mod_le _ _) word)
          · exact small _ _ (by decide)
    · cases later

/-- At 2 MiB nothing is mapped, and the walk says so. -/
theorem walkAgrees_iff_absent : WalkAgrees patTables 0x1000#64 ⟨0x200000#64, by decide⟩ :=
  (walkAgrees_iff patTables_clear _).mpr (by decide)

/-- Address 0 is mapped to 0, but the walk finds it at 0x1000. -/
theorem walkAgrees_fails : ReservedClear patTables 0x1000#64 ∧
    ¬ WalkAgrees patTables 0x1000#64 ⟨0#64, by decide⟩ := by
  refine ⟨patTables_clear, fun agrees => ?_⟩
  have moved := (agrees.mapped 0x1000#64).mp (by decide)
  exact absurd moved (by decide)

end QoreOS.Memory
