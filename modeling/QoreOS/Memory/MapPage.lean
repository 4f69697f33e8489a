import QoreOS.Memory.FrameAllocator
import QoreOS.Memory.Paging

/-! The put-get and frame laws of `mapPage` against `walkPageTable`. -/

namespace QoreOS.Memory

/-- The three upper entries on the path of an address lead to a page table. -/
structure UpperMapped (memory : Words) (cr3 virtAddr : BitVec 64) : Prop where
  pml4 : pml4Entry memory cr3 virtAddr &&& 1#64 ≠ 0#64
  pdpt : pdptEntry memory cr3 virtAddr &&& 1#64 ≠ 0#64
  pdptSmall : pdptEntry memory cr3 virtAddr &&& 0x80#64 = 0#64
  pd : pdEntry memory cr3 virtAddr &&& 1#64 ≠ 0#64
  pdSmall : pdEntry memory cr3 virtAddr &&& 0x80#64 = 0#64

/-- The page table which `mapPage` writes. -/
def pageTable (memory : Words) (cr3 virtAddr : BitVec 64) : BitVec 64 :=
  pdEntry memory cr3 virtAddr &&& addressMask

/-- The two addresses name different pages. -/
def OtherPage (virtAddr other : BitVec 64) : Prop :=
  ∃ bit, 12 ≤ bit ∧ bit ≤ 47 ∧ other.getLsbD bit ≠ virtAddr.getLsbD bit

section
variable {memory : Words} {cr3 virtAddr physFrame : BitVec 64}

theorem mapPage_mapped (mapped : UpperMapped memory cr3 virtAddr) :
    mapPage memory cr3 virtAddr physFrame =
      Function.update memory (entryAddress (pageTable memory cr3 virtAddr) virtAddr 12)
        (physFrame ||| 0b11#64) := by
  simp [mapPage, mapped.pml4, mapped.pdpt, mapped.pdptSmall, mapped.pd, mapped.pdSmall,
    pageTable]

/-- A missing or large upper entry aborts the call with memory untouched. -/
theorem mapPage_unmapped (unmapped : ¬ UpperMapped memory cr3 virtAddr) :
    mapPage memory cr3 virtAddr physFrame = memory := by
  unfold mapPage
  split
  · rfl
  · rename_i pml4
    split
    · rfl
    · rename_i pdpt
      split
      · rfl
      · rename_i pd
        rw [not_or, not_not] at pdpt pd
        exact absurd ⟨pml4, pdpt.1, pdpt.2, pd.1, pd.2⟩ unmapped

theorem UpperMapped.pml4_continues (mapped : UpperMapped memory cr3 virtAddr) :
    Continues 0 (pml4Entry memory cr3 virtAddr) := continues_top mapped.pml4

theorem UpperMapped.pdpt_continues (mapped : UpperMapped memory cr3 virtAddr) :
    Continues 1 (pdptEntry memory cr3 virtAddr) := ⟨mapped.pdpt, by simp [mapped.pdptSmall]⟩

theorem UpperMapped.pd_continues (mapped : UpperMapped memory cr3 virtAddr) :
    Continues 2 (pdEntry memory cr3 virtAddr) := ⟨mapped.pd, by simp [mapped.pdSmall]⟩

theorem UpperMapped.follow_pdpt (mapped : UpperMapped memory cr3 virtAddr) :
    follow memory 0 (level4Table cr3) ((pageIndices virtAddr).take 1) =
      some (pml4Entry memory cr3 virtAddr &&& addressMask) := if_pos mapped.pml4_continues

theorem UpperMapped.follow_pd (mapped : UpperMapped memory cr3 virtAddr) :
    follow memory 0 (level4Table cr3) ((pageIndices virtAddr).take 2) =
      some (pdptEntry memory cr3 virtAddr &&& addressMask) :=
  (if_pos mapped.pml4_continues).trans (if_pos mapped.pdpt_continues)

theorem UpperMapped.follow_pt (mapped : UpperMapped memory cr3 virtAddr) :
    follow memory 0 (level4Table cr3) ((pageIndices virtAddr).take 3) =
      some (pageTable memory cr3 virtAddr) :=
  (if_pos mapped.pml4_continues).trans
    ((if_pos mapped.pdpt_continues).trans (if_pos mapped.pd_continues))

/-- A memory with the same upper entries sends the walk to the same page table. -/
theorem UpperMapped.walk (mapped : UpperMapped memory cr3 virtAddr) {other : Words}
    (pml4 : other (entryAddress (level4Table cr3) virtAddr 39) = pml4Entry memory cr3 virtAddr)
    (pdpt : other (entryAddress (pml4Entry memory cr3 virtAddr &&& addressMask) virtAddr 30) =
      pdptEntry memory cr3 virtAddr)
    (pd : other (entryAddress (pdptEntry memory cr3 virtAddr &&& addressMask) virtAddr 21) =
      pdEntry memory cr3 virtAddr) :
    walkPageTable other cr3 virtAddr = walkLevels other virtAddr 3
      [((virtAddr >>> 12) &&& 0x1FF#64).toNat] (pageTable memory cr3 virtAddr) := by
  unfold entryAddress at pml4 pdpt pd
  unfold walkPageTable pageIndices
  rw [walkLevels_next (by rw [pml4]; exact mapped.pml4_continues), pml4,
    walkLevels_next (by rw [pdpt]; exact mapped.pdpt_continues), pdpt,
    walkLevels_next (by rw [pd]; exact mapped.pd_continues), pd]
  rfl

theorem UpperMapped.reached_pt (mapped : UpperMapped memory cr3 virtAddr) :
    Reached memory cr3 ((pageIndices virtAddr).take 3) (pageTable memory cr3 virtAddr) :=
  ⟨by simp [pageIndices], fun index member =>
    pageIndices_lt virtAddr index (List.mem_of_mem_take member), mapped.follow_pt⟩

/-- In a tree the written entry is read only at the end of the page's own path. -/
theorem read_written (tree : IsTree memory cr3) (mapped : UpperMapped memory cr3 virtAddr)
    {path : List Nat} {index : Nat} {table : BitVec 64} (reached : Reached memory cr3 path table)
    (small : index < 512)
    (same : table.toNat + 8 * index =
      entryAddress (pageTable memory cr3 virtAddr) virtAddr 12) :
    path ++ [index] = pageIndices virtAddr :=
  reached.unique tree mapped.reached_pt small (index_lt virtAddr 12) same

/-- Equal table indices mean equal page numbers. -/
theorem getLsbD_of_indices {other : BitVec 64} (same : pageIndices other = pageIndices virtAddr)
    {bit : Nat} (low : 12 ≤ bit) (high : bit ≤ 47) : other.getLsbD bit = virtAddr.getLsbD bit := by
  simp only [pageIndices, List.cons.injEq, and_true] at same
  have part : ∀ shift, ((other >>> shift) &&& 0x1FF#64).toNat =
      ((virtAddr >>> shift) &&& 0x1FF#64).toNat → ∀ offset, offset < 9 →
      other.getLsbD (shift + offset) = virtAddr.getLsbD (shift + offset) := by
    intro shift fields offset inside
    have bits := congrArg (·.getLsbD offset) (BitVec.eq_of_toNat_eq fields)
    have mask : (0x1FF#64).getLsbD offset = true := by
      have all : ∀ position : Fin 9, (0x1FF#64).getLsbD position = true := by decide
      exact all ⟨offset, inside⟩
    simpa [BitVec.getLsbD_and, BitVec.getLsbD_ushiftRight, mask] using bits
  obtain ⟨pml4, pdpt, pd, pt⟩ := same
  by_cases below21 : bit < 21
  · simpa [Nat.add_sub_cancel' low] using part 12 pt (bit - 12) (by omega)
  by_cases below30 : bit < 30
  · simpa [Nat.add_sub_cancel' (by omega : 21 ≤ bit)] using part 21 pd (bit - 21) (by omega)
  by_cases below39 : bit < 39
  · simpa [Nat.add_sub_cancel' (by omega : 30 ≤ bit)] using part 30 pdpt (bit - 30) (by omega)
  · simpa [Nat.add_sub_cancel' (by omega : 39 ≤ bit)] using part 39 pml4 (bit - 39) (by omega)

/-- The frame law: no other page's walk reads the written entry. -/
theorem walk_mapPage_other (tree : IsTree memory cr3) (mapped : UpperMapped memory cr3 virtAddr)
    {other : BitVec 64} (apart : OtherPage virtAddr other) :
    walkPageTable (mapPage memory cr3 virtAddr physFrame) cr3 other =
      walkPageTable memory cr3 other := by
  rw [mapPage_mapped mapped]
  apply walk_frame
  intro path index table reached small passed
  apply Function.update_of_ne
  intro same
  rw [read_written tree mapped reached small same] at passed
  have equal : pageIndices other = pageIndices virtAddr := (passed.eq_of_length rfl).symm
  obtain ⟨bit, low, high, differ⟩ := apart
  exact differ (getLsbD_of_indices equal low high)

end

/-- Every frame which the allocator returns is a tracked page frame. -/
theorem allocateFrame_tracked {allocator after : BitmapAllocator} {frame : Nat}
    (granted : allocateFrame allocator = some (some frame, after)) :
    ∃ index < bitmapSize * 64, frame = index * pageSize := by
  have scan : ∀ frames : List Nat, scanFrames allocator frames = some (some frame, after) →
      ∃ index < bitmapSize * 64, frame = index * pageSize := by
    intro frames found
    induction frames with
    | nil => simp [scanFrames] at found
    | cons index rest ih =>
      simp only [scanFrames] at found
      split at found
      · rename_i word
        split at found
        · split at found
          · cases found
          · simp only [Option.some.injEq, Prod.mk.injEq] at found
            exact ⟨index, by omega, found.1.symm⟩
        · exact ih found
      · cases found
  exact scan _ granted

/-- A tracked frame survives the flag bits and the address mask. -/
theorem newPte_frame {index : Nat} (tracked : index < bitmapSize * 64) :
    (BitVec.ofNat 64 (index * pageSize) ||| 0b11#64) &&& addressMask =
      BitVec.ofNat 64 (index * pageSize) := by
  have flags : 0b11#64 &&& addressMask = 0#64 := by decide
  rw [BitVec.and_or_distrib_right, flags, BitVec.or_zero]
  apply BitVec.eq_of_getLsbD_eq
  intro bit inside
  rw [BitVec.getLsbD_and, addressMask_getLsbD bit inside, BitVec.getLsbD_ofNat,
    show index * pageSize = index * 2 ^ 12 from rfl, Nat.testBit_mul_two_pow]
  by_cases low : 12 ≤ bit
  · by_cases high : bit < 52
    · simp [low, high]
    · have clear : index.testBit (bit - 12) = false := by
        apply Nat.testBit_lt_two_pow
        calc index < 2 ^ 16 := tracked
          _ ≤ 2 ^ (bit - 12) := Nat.pow_le_pow_right (by decide) (by omega)
      simp [clear]
  · simp [low]

theorem page_offset_toNat (virtAddr : BitVec 64) :
    (virtAddr &&& 0xFFF#64).toNat = virtAddr.toNat % 4096 := by
  rw [BitVec.toNat_and]
  exact Nat.and_two_pow_sub_one_eq_mod virtAddr.toNat 12

theorem newPte_present (physFrame : BitVec 64) : (physFrame ||| 0b11#64) &&& 1#64 ≠ 0#64 := by
  rw [BitVec.and_or_distrib_right]
  intro zero
  have bit := congrArg (·.getLsbD 0) zero
  simp at bit

/-- The put-get law at the mapped address itself. -/
theorem walk_mapPage_same {memory : Words} {cr3 virtAddr : BitVec 64} (tree : IsTree memory cr3)
    (mapped : UpperMapped memory cr3 virtAddr) {index : Nat} (tracked : index < bitmapSize * 64) :
    walkPageTable (mapPage memory cr3 virtAddr (BitVec.ofNat 64 (index * pageSize))) cr3
      virtAddr = some (BitVec.ofNat 64 (index * pageSize + virtAddr.toNat % 4096)) := by
  rw [mapPage_mapped mapped]
  -- In a tree the written entry is none of the three entries above it.
  have keep : ∀ depth step table, depth ≤ 2 → step < 512 →
      follow memory 0 (level4Table cr3) ((pageIndices virtAddr).take depth) = some table →
      Function.update memory (entryAddress (pageTable memory cr3 virtAddr) virtAddr 12)
        (BitVec.ofNat 64 (index * pageSize) ||| 0b11#64) (table.toNat + 8 * step) =
      memory (table.toNat + 8 * step) := by
    intro depth step table upper small reached
    apply Function.update_of_ne
    intro same
    have length : ((pageIndices virtAddr).take depth).length = depth := by
      simp only [List.length_take, pageIndices, List.length_cons, List.length_nil]
      omega
    have paths := read_written tree mapped ⟨by omega, fun other member =>
      pageIndices_lt virtAddr other (List.mem_of_mem_take member), reached⟩ small same
    have lengths := congrArg List.length paths
    rw [List.length_append, length] at lengths
    simp only [pageIndices, List.length_cons, List.length_nil] at lengths
    omega
  rw [mapped.walk (keep 0 _ _ (by omega) (index_lt _ _) rfl)
    (keep 1 _ _ (by omega) (index_lt _ _) mapped.follow_pdpt)
    (keep 2 _ _ (by omega) (index_lt _ _) mapped.follow_pd)]
  have written : Function.update memory
      (entryAddress (pageTable memory cr3 virtAddr) virtAddr 12)
      (BitVec.ofNat 64 (index * pageSize) ||| 0b11#64)
      ((pageTable memory cr3 virtAddr).toNat + 8 * ((virtAddr >>> 12) &&& 0x1FF#64).toNat) =
      BitVec.ofNat 64 (index * pageSize) ||| 0b11#64 := Function.update_self ..
  have last : Continues 3 (BitVec.ofNat 64 (index * pageSize) ||| 0b11#64) :=
    ⟨newPte_present _, by simp⟩
  rw [walkLevels_next (by rw [written]; exact last), written, newPte_frame tracked]
  apply congrArg some
  apply BitVec.eq_of_toNat_eq
  simp only [BitVec.toNat_add, page_offset_toNat, BitVec.toNat_ofNat]
  omega

/-- `mapPage` against `walkPageTable` over a tree of tables: if the upper
entries lead to a page table, the address translates to the granted frame and
no other page's translation changes; otherwise memory is untouched. -/
theorem mapPage_laws {memory : Words} {cr3 virtAddr : BitVec 64}
    {allocator after : BitmapAllocator} {frame : Nat} (tree : IsTree memory cr3)
    (granted : allocateFrame allocator = some (some frame, after)) :
    (UpperMapped memory cr3 virtAddr →
      walkPageTable (mapPage memory cr3 virtAddr (BitVec.ofNat 64 frame)) cr3 virtAddr =
        some (BitVec.ofNat 64 (frame + virtAddr.toNat % 4096)) ∧
      ∀ other, OtherPage virtAddr other →
        walkPageTable (mapPage memory cr3 virtAddr (BitVec.ofNat 64 frame)) cr3 other =
          walkPageTable memory cr3 other) ∧
    (¬ UpperMapped memory cr3 virtAddr →
      mapPage memory cr3 virtAddr (BitVec.ofNat 64 frame) = memory) := by
  obtain ⟨index, tracked, rfl⟩ := allocateFrame_tracked granted
  constructor
  · intro mapped
    exact ⟨walk_mapPage_same tree mapped tracked, fun other => walk_mapPage_other tree mapped⟩
  · exact mapPage_unmapped

/-- One chain of tables at 0x1000, 0x2000, 0x3000 and 0x4000, all at index 0. -/
private def chainTables : Words := fun address =>
  if address = 0x1000 then 0x2003#64
  else if address = 0x2000 then 0x3003#64
  else if address = 0x3000 then 0x4003#64
  else 0#64

private theorem chainTables_follow (path : List Nat) : ∀ (depth : Nat) (table : BitVec 64),
    depth + path.length ≤ 3 → (∀ index ∈ path, index < 512) →
    follow chainTables depth (BitVec.ofNat 64 (0x1000 * (depth + 1))) path = some table →
    path = List.replicate path.length 0 ∧
      table = BitVec.ofNat 64 (0x1000 * (depth + path.length + 1)) := by
  induction path with
  | nil =>
    intro depth table _ _ reached
    exact ⟨rfl, (Option.some.inj reached).symm⟩
  | cons index path ih =>
    intro depth table short inside reached
    have small : index < 512 := inside index (by simp)
    simp only [List.length_cons] at short
    have first : index = 0 := by
      by_contra other
      have absent : chainTables ((BitVec.ofNat 64 (0x1000 * (depth + 1))).toNat + 8 * index) = 0#64 := by
        simp only [BitVec.toNat_ofNat, chainTables]
        rw [if_neg (by omega), if_neg (by omega), if_neg (by omega)]
      simp only [follow, absent] at reached
      exact absurd reached (by simp [Continues])
    subst first
    have step : follow chainTables (depth + 1) (BitVec.ofNat 64 (0x1000 * (depth + 1 + 1))) path =
        some table := by
      have level : depth = 0 ∨ depth = 1 ∨ depth = 2 := by omega
      rcases level with rfl | rfl | rfl <;>
        simpa [follow, chainTables, Continues, addressMask] using reached
    obtain ⟨zeros, target⟩ := ih (depth + 1) table (by omega)
      (fun other member => inside other (by simp [member])) step
    refine ⟨by rw [List.length_cons, List.replicate_succ, ← zeros], ?_⟩
    rw [target, List.length_cons]
    congr 2
    omega

private theorem chainTables_tree : IsTree chainTables 0x1000#64 := by
  intro first second table firstShort secondShort firstInside secondInside one two
  obtain ⟨firstZeros, firstTable⟩ := chainTables_follow first 0 table (by omega) firstInside one
  obtain ⟨secondZeros, secondTable⟩ := chainTables_follow second 0 table (by omega) secondInside two
  have lengths : first.length = second.length := by
    have same := congrArg BitVec.toNat (firstTable.symm.trans secondTable)
    simp only [BitVec.toNat_ofNat] at same
    omega
  rw [firstZeros, secondZeros, lengths]

/-- Mapping the page at 0x7000 onto the only free frame, number 5. -/
theorem mapPage_laws_chain :
    walkPageTable (mapPage chainTables 0x1000#64 0x7123#64 (BitVec.ofNat 64 (5 * 4096)))
      0x1000#64 0x7123#64 = some (BitVec.ofNat 64 (5 * 4096 + 0x123)) := by
  have granted : allocateFrame { frameAllocator with
      bitmap := frameAllocator.bitmap.set 0 0x20#64, highestFrame := 5, freeFrames := 1 } =
      some (some (5 * 4096), _) := rfl
  exact ((mapPage_laws chainTables_tree granted).1 ⟨by decide, by decide, by decide, by decide,
    by decide⟩).1

end QoreOS.Memory
