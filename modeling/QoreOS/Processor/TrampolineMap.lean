import QoreOS.Memory.MapPage
import QoreOS.Memory.Translation
import QoreOS.Processor.Wakeup

/-! What `copy_trampoline` does to the page tables: the first 2 MiB become one
page mapped to itself, and no other translation changes. -/

namespace QoreOS.Processor

open QoreOS.Library QoreOS.Memory

/-- The 64-bit words in memory. -/
def words (memory : ByteMemory) : Words := fun address => BitVec.ofNat 64 (memory.read address 8)

/-- The static tables: pages, whose addresses the processor uses as they are. -/
structure SmpTables where
  smpPdpt : BitVec 64
  smpPd : BitVec 64
  pdptPage : smpPdpt &&& addressMask = smpPdpt
  pdPage : smpPd &&& addressMask = smpPd
  apart : smpPdpt ≠ smpPd

/-- Entry 0 of a table, into which the static table goes if it is missing. -/
def entryOrInject (memory : ByteMemory) (table inject : BitVec 64) : ByteMemory × BitVec 64 :=
  let entry := words memory table.toNat
  if entry &&& 1#64 = 0#64 then
    let memory := memory.write table.toNat 8 (inject ||| 0b11#64).toNat
    (memory, words memory table.toNat)
  else (memory, entry)

/-- The work of `copy_trampoline` on the page tables. -/
def mapTrampoline (cr3 : BitVec 64) (tables : SmpTables) (memory : ByteMemory) : ByteMemory :=
  let pml4 := level4Table cr3
  let (memory, pml4e) := entryOrInject memory pml4 tables.smpPdpt
  let pdpt := pml4e &&& addressMask
  let (memory, pdpte) := entryOrInject memory pdpt tables.smpPd
  if pdpte &&& 0x80#64 = 0#64 then
    let pd := pdpte &&& addressMask
    memory.write pd.toNat 8 (0x000000 ||| 0x83)
  else memory

/-- `copy_trampoline` from its first table to its last store. -/
def mapAndCopyTrampoline (cr3 : BitVec 64) (tables : SmpTables) (statics : Statics)
    (memory : ByteMemory) : ByteMemory :=
  copyTrampoline cr3 statics (mapTrampoline cr3 tables memory)

/-- A table that the trampoline and its configuration do not touch. -/
def Outside (table : BitVec 64) : Prop := table.toNat + 4096 ≤ 0x8000 ∨ 0x8618 ≤ table.toNat

/-- The page tables that `copy_trampoline` is called with: a tree outside the
trampoline's place, to which the zeroed static tables do not belong yet. -/
structure TableTree (memory : ByteMemory) (cr3 : BitVec 64) (tables : SmpTables) : Prop where
  tree : IsTree (words memory) cr3
  outside : ∀ path table, Reached (words memory) cr3 path table →
    Outside table ∧ table ≠ tables.smpPdpt ∧ table ≠ tables.smpPd
  pdptOutside : Outside tables.smpPdpt
  pdOutside : Outside tables.smpPd
  pdptZero : ∀ index < 512, words memory (tables.smpPdpt.toNat + 8 * index) = 0#64
  pdZero : ∀ index < 512, words memory (tables.smpPd.toNat + 8 * index) = 0#64
  /-- A page of 1 GiB at the bottom starts at address 0. -/
  gigabyte : pml4Entry (words memory) cr3 0#64 &&& 1#64 ≠ 0#64 →
    pdptEntry (words memory) cr3 0#64 &&& 1#64 ≠ 0#64 →
    pdptEntry (words memory) cr3 0#64 &&& 0x80#64 ≠ 0#64 →
    pdptEntry (words memory) cr3 0#64 &&& addressMask = 0#64

section Words

variable {memory : ByteMemory} {table target : BitVec 64} {index value : Nat}

/-- Words do not overlap. -/
theorem words_write {address place : Nat} (placeAligned : place % 8 = 0)
    (aligned : address % 8 = 0) : words (memory.write place 8 value) address =
      if address = place then BitVec.ofNat 64 value else words memory address := by
  split
  case isTrue same =>
    subst same
    rw [words, ByteMemory.read_write]
    apply BitVec.eq_of_toNat_eq
    simp only [BitVec.toNat_ofNat]
    omega
  case isFalse differ =>
    rw [words, words, ByteMemory.read_write_of_disjoint]
    omega

theorem words_write_self : words (memory.write table.toNat 8 value) table.toNat = BitVec.ofNat 64 value := by
  rw [words, ByteMemory.read_write]
  apply BitVec.eq_of_toNat_eq
  simp only [BitVec.toNat_ofNat]
  omega

/-- Entry 0 of one table is not an entry of another, nor another entry. -/
theorem words_write_other (targetAligned : target.toNat % 4096 = 0)
    (tableAligned : table.toNat % 4096 = 0) (small : index < 512)
    (differ : table ≠ target ∨ index ≠ 0) :
    words (memory.write target.toNat 8 value) (table.toNat + 8 * index) =
      words memory (table.toNat + 8 * index) := by
  rw [ne_eq, ← BitVec.toNat_inj] at differ
  rw [words_write (by omega) (by omega), if_neg (by omega)]

theorem words_write_table (targetAligned : target.toNat % 4096 = 0)
    (tableAligned : table.toNat % 4096 = 0) (differ : table ≠ target) :
    words (memory.write target.toNat 8 value) table.toNat = words memory table.toNat := by
  have first := @words_write_other memory table target 0 value targetAligned tableAligned
    (by decide) (.inl differ)
  rwa [Nat.mul_zero, Nat.add_zero] at first

end Words

/-- The entries at the bottom of the address space lead through two tables to one
page of 2 MiB at address 0. -/
structure LowChain (memory : Words) (cr3 pdpt pd : BitVec 64) : Prop where
  pml4Leads : Memory.Continues 0 (memory (level4Table cr3).toNat)
  pml4Next : memory (level4Table cr3).toNat &&& addressMask = pdpt
  pdptLeads : Memory.Continues 1 (memory pdpt.toNat)
  pdptNext : memory pdpt.toNat &&& addressMask = pd
  pdPage : memory pd.toNat = 0x83#64

theorem and_mask_of_lt {virtAddr mask : BitVec 64} {bits : Nat} (ones : mask.toNat = 2 ^ bits - 1)
    (low : virtAddr.toNat < 2 ^ bits) : virtAddr &&& mask = virtAddr := by
  apply BitVec.eq_of_toNat_eq
  rw [BitVec.toNat_and, ones, Nat.and_two_pow_sub_one_eq_mod, Nat.mod_eq_of_lt low]

section LowChain

variable {memory : Words} {cr3 pdpt pd virtAddr : BitVec 64} {rest : List Nat}

/-- Continuing at the first entry of a table. -/
theorem walkLevels_first {level : Nat} {table : BitVec 64}
    (leads : Memory.Continues level (memory table.toNat)) :
    walkLevels memory virtAddr level (0 :: rest) table =
      walkLevels memory virtAddr (level + 1) rest (memory table.toNat &&& addressMask) :=
  walkLevels_next leads

theorem walkLevels_absent_first {level : Nat} {table : BitVec 64}
    (absent : memory table.toNat &&& 1#64 = 0#64) :
    walkLevels memory virtAddr level (0 :: rest) table = none := walkLevels_absent absent

theorem walkLevels_gigabyte {table : BitVec 64} (present : memory table.toNat &&& 1#64 ≠ 0#64)
    (large : memory table.toNat &&& 0x80#64 ≠ 0#64) :
    walkLevels memory virtAddr 1 (0 :: rest) table =
      some ((memory table.toNat &&& addressMask) + (virtAddr &&& 0x3FFFFFFF#64)) := by
  rw [walkLevels, Nat.mul_zero, Nat.add_zero]
  simp [present, large]

theorem LowChain.of_entries {pml4e pdpte : BitVec 64}
    (pml4First : memory (level4Table cr3).toNat = pml4e) (pdptFirst : memory pdpt.toNat = pdpte)
    (pdFirst : memory pd.toNat = 0x83#64) (pml4Leads : Memory.Continues 0 pml4e)
    (pml4Next : pml4e &&& addressMask = pdpt) (pdptLeads : Memory.Continues 1 pdpte)
    (pdptNext : pdpte &&& addressMask = pd) : LowChain memory cr3 pdpt pd := by
  subst pml4First pdptFirst
  exact ⟨pml4Leads, pml4Next, pdptLeads, pdptNext, pdFirst⟩

theorem LowChain.walk_pdpt (chain : LowChain memory cr3 pdpt pd)
    (split : pageIndices virtAddr = 0 :: rest) :
    walkPageTable memory cr3 virtAddr = walkLevels memory virtAddr 1 rest pdpt := by
  rw [walkPageTable, split, walkLevels_first chain.pml4Leads, chain.pml4Next]

theorem LowChain.walk_pd (chain : LowChain memory cr3 pdpt pd)
    (split : pageIndices virtAddr = 0 :: 0 :: rest) :
    walkPageTable memory cr3 virtAddr = walkLevels memory virtAddr 2 rest pd := by
  rw [chain.walk_pdpt split, walkLevels_first chain.pdptLeads, chain.pdptNext]

theorem LowChain.walk_low (chain : LowChain memory cr3 pdpt pd)
    (split : pageIndices virtAddr = 0 :: 0 :: 0 :: rest) :
    walkPageTable memory cr3 virtAddr = some (virtAddr &&& 0x1FFFFF#64) := by
  rw [chain.walk_pd split, walkLevels, Nat.mul_zero, Nat.add_zero, chain.pdPage]
  simp [addressMask]

/-- Behind an otherwise empty page directory only the first 2 MiB are mapped. -/
theorem LowChain.walk_emptyPd (chain : LowChain memory cr3 pdpt pd)
    (empty : ∀ index < 512, index ≠ 0 → memory (pd.toNat + 8 * index) = 0#64)
    (upper : [0, 0] <+: pageIndices virtAddr) (high : ¬ [0, 0, 0] <+: pageIndices virtAddr) :
    walkPageTable memory cr3 virtAddr = none := by
  obtain ⟨rest, split⟩ := upper
  have inside := pageIndices_lt virtAddr
  cases rest with
  | nil => simp [pageIndices] at split
  | cons index rest =>
    have other : index ≠ 0 := by
      rintro rfl
      exact high ⟨rest, split⟩
    have absent : memory (pd.toNat + 8 * index) &&& 1#64 = 0#64 := by
      rw [empty index (inside index (by simp [← split])) other]
      rfl
    simp only [List.cons_append, List.nil_append] at split
    rw [chain.walk_pd split.symm, walkLevels_absent absent]

/-- Nor is anything else mapped behind two otherwise empty tables. -/
theorem LowChain.walk_emptyPdpt (chain : LowChain memory cr3 pdpt pd)
    (emptyPdpt : ∀ index < 512, index ≠ 0 → memory (pdpt.toNat + 8 * index) = 0#64)
    (emptyPd : ∀ index < 512, index ≠ 0 → memory (pd.toNat + 8 * index) = 0#64)
    (upper : [0] <+: pageIndices virtAddr) (high : ¬ [0, 0, 0] <+: pageIndices virtAddr) :
    walkPageTable memory cr3 virtAddr = none := by
  by_cases both : [0, 0] <+: pageIndices virtAddr
  · exact chain.walk_emptyPd emptyPd both high
  · obtain ⟨rest, split⟩ := upper
    have inside := pageIndices_lt virtAddr
    cases rest with
    | nil => simp [pageIndices] at split
    | cons index rest =>
      have other : index ≠ 0 := by
        rintro rfl
        exact both ⟨rest, split⟩
      have absent : memory (pdpt.toNat + 8 * index) &&& 1#64 = 0#64 := by
        rw [emptyPdpt index (inside index (by simp [← split])) other]
        rfl
      rw [List.singleton_append] at split
      rw [chain.walk_pdpt split.symm, walkLevels_absent absent]

end LowChain

section Tables

variable {memory : ByteMemory} {cr3 : BitVec 64} {tables : SmpTables} {path : List Nat}
  {table target inject : BitVec 64} {index : Nat}

theorem reached_pml4 (memory : Words) (cr3 : BitVec 64) : Reached memory cr3 [] (level4Table cr3) :=
  ⟨by decide, by simp, rfl⟩

theorem reached_pdpt {memory : Words} {pdpt : BitVec 64}
    (leads : Memory.Continues 0 (memory (level4Table cr3).toNat))
    (next : memory (level4Table cr3).toNat &&& addressMask = pdpt) :
    Reached memory cr3 [0] pdpt := by
  subst next
  exact ⟨by decide, by simp, if_pos leads⟩

theorem reached_pd {memory : Words} {pdpt pd : BitVec 64}
    (pml4Leads : Memory.Continues 0 (memory (level4Table cr3).toNat))
    (pml4Next : memory (level4Table cr3).toNat &&& addressMask = pdpt)
    (pdptLeads : Memory.Continues 1 (memory pdpt.toNat))
    (pdptNext : memory pdpt.toNat &&& addressMask = pd) :
    Reached memory cr3 [0, 0] pd := by
  subst pml4Next pdptNext
  exact ⟨by decide, by simp, (if_pos pml4Leads).trans (if_pos pdptLeads)⟩

theorem SmpTables.pdpt_aligned (tables : SmpTables) : tables.smpPdpt.toNat % 4096 = 0 := by
  rw [← tables.pdptPage]
  exact page_aligned _

theorem SmpTables.pd_aligned (tables : SmpTables) : tables.smpPd.toNat % 4096 = 0 := by
  rw [← tables.pdPage]
  exact page_aligned _

section Inject

variable {page : BitVec 64} (aligned : page &&& addressMask = page)

include aligned

theorem inject_small : (page ||| 0b11#64) &&& 0x80#64 = 0#64 := by
  have masked : addressMask &&& 0x80#64 = 0#64 := by decide
  rw [BitVec.and_or_distrib_right, ← aligned, BitVec.and_assoc, masked, BitVec.and_zero]
  rfl

theorem inject_leads (level : Nat) : Memory.Continues level (page ||| 0b11#64) :=
  ⟨newPte_present page, fun large => large.2 (inject_small aligned)⟩

theorem inject_next : (page ||| 0b11#64) &&& addressMask = page := by
  have flags : 0b11#64 &&& addressMask = 0#64 := by decide
  rw [BitVec.and_or_distrib_right, aligned, flags, BitVec.or_zero]

end Inject

theorem entryOrInject_missing (missing : words memory table.toNat &&& 1#64 = 0#64) :
    entryOrInject memory table inject =
      (memory.write table.toNat 8 (inject ||| 0b11#64).toNat, inject ||| 0b11#64) := by
  simp only [entryOrInject, if_pos missing, words_write_self, BitVec.ofNat_toNat,
    BitVec.setWidth_eq]

theorem entryOrInject_present (present : words memory table.toNat &&& 1#64 ≠ 0#64) :
    entryOrInject memory table inject = (memory, words memory table.toNat) := if_neg present

/-- The static tables are both put in. -/
theorem mapTrampoline_pml4Missing (tree : TableTree memory cr3 tables)
    (missing : words memory (level4Table cr3).toNat &&& 1#64 = 0#64) :
    mapTrampoline cr3 tables memory =
      ((memory.write (level4Table cr3).toNat 8 (tables.smpPdpt ||| 0b11#64).toNat).write
        tables.smpPdpt.toNat 8 (tables.smpPd ||| 0b11#64).toNat).write tables.smpPd.toNat 8 0x83 := by
  have other := (tree.outside [] _ (reached_pml4 _ cr3)).2.1
  have pdptMissing : words (memory.write (level4Table cr3).toNat 8
      (tables.smpPdpt ||| 0b11#64).toNat) tables.smpPdpt.toNat &&& 1#64 = 0#64 := by
    rw [words_write_table (level4_aligned cr3) tables.pdpt_aligned other.symm]
    rw [show words memory tables.smpPdpt.toNat = 0#64 from tree.pdptZero 0 (by decide)]
    rfl
  rw [mapTrampoline, entryOrInject_missing missing]
  simp only [inject_next tables.pdptPage, entryOrInject_missing pdptMissing,
    inject_small tables.pdPage, if_true, inject_next tables.pdPage]
  rfl

section Present

variable {pdpt pd : BitVec 64} (present : words memory (level4Table cr3).toNat &&& 1#64 ≠ 0#64)
  (next : words memory (level4Table cr3).toNat &&& addressMask = pdpt)

include present next

/-- The static page directory is put into the table that is there. -/
theorem mapTrampoline_pdptMissing (missing : words memory pdpt.toNat &&& 1#64 = 0#64) :
    mapTrampoline cr3 tables memory =
      (memory.write pdpt.toNat 8 (tables.smpPd ||| 0b11#64).toNat).write tables.smpPd.toNat 8
        0x83 := by
  subst next
  rw [mapTrampoline, entryOrInject_present present]
  simp only [entryOrInject_missing missing, inject_small tables.pdPage, if_true,
    inject_next tables.pdPage]
  rfl

/-- Below a page of 1 GiB nothing is to be done. -/
theorem mapTrampoline_gigabyte (pdptPresent : words memory pdpt.toNat &&& 1#64 ≠ 0#64)
    (large : words memory pdpt.toNat &&& 0x80#64 ≠ 0#64) :
    mapTrampoline cr3 tables memory = memory := by
  subst next
  rw [mapTrampoline, entryOrInject_present present]
  simp only [entryOrInject_present pdptPresent, if_neg large]

/-- The first entry of the page directory that is there is replaced. -/
theorem mapTrampoline_pd (pdptPresent : words memory pdpt.toNat &&& 1#64 ≠ 0#64)
    (small : words memory pdpt.toNat &&& 0x80#64 = 0#64)
    (pdNext : words memory pdpt.toNat &&& addressMask = pd) :
    mapTrampoline cr3 tables memory = memory.write pd.toNat 8 0x83 := by
  subst next pdNext
  rw [mapTrampoline, entryOrInject_present present]
  simp only [entryOrInject_present pdptPresent, if_pos small]
  rfl

end Present

end Tables

/-- The first 2 MiB are mapped to themselves, and addresses with an upper index
are mapped as before. -/
structure SurgicalMap (before after : Words) (cr3 : BitVec 64) : Prop where
  low : ∀ virtAddr : BitVec 64, virtAddr.toNat < 2 ^ 21 →
    walkPageTable after cr3 virtAddr = some virtAddr
  high : ∀ virtAddr, ¬ [0, 0, 0] <+: pageIndices virtAddr →
    walkPageTable after cr3 virtAddr = walkPageTable before cr3 virtAddr

theorem LowChain.low {memory : Words} {cr3 pdpt pd virtAddr : BitVec 64}
    (chain : LowChain memory cr3 pdpt pd) (low : virtAddr.toNat < 2 ^ 21) :
    walkPageTable memory cr3 virtAddr = some virtAddr := by
  rw [chain.walk_low (pageIndices_low low), and_mask_of_lt rfl low]

section Cases

variable {memory : ByteMemory} {cr3 : BitVec 64} {tables : SmpTables} {after : Words}
  (tree : TableTree memory cr3 tables)
  (kept : ∀ (table : BitVec 64) index, Outside table → index < 512 →
    after (table.toNat + 8 * index) =
      words (mapTrampoline cr3 tables memory) (table.toNat + 8 * index))

include kept in
theorem kept_first {table : BitVec 64} (outside : Outside table) :
    after table.toNat = words (mapTrampoline cr3 tables memory) table.toNat := by
  simpa only [Nat.mul_zero, Nat.add_zero] using kept table 0 outside (by decide)

include tree kept

theorem surgical_pml4Missing (missing : words memory (level4Table cr3).toNat &&& 1#64 = 0#64) :
    SurgicalMap (words memory) after cr3 := by
  have mapped := mapTrampoline_pml4Missing tree missing
  obtain ⟨pml4Outside, notPdpt, notPd⟩ := tree.outside [] _ (reached_pml4 _ cr3)
  have pml4First : after (level4Table cr3).toNat = tables.smpPdpt ||| 0b11#64 := by
    rw [kept_first kept pml4Outside, mapped,
      words_write_table tables.pd_aligned (level4_aligned cr3) notPd,
      words_write_table tables.pdpt_aligned (level4_aligned cr3) notPdpt, words_write_self,
      BitVec.ofNat_toNat, BitVec.setWidth_eq]
  have pdptFirst : after tables.smpPdpt.toNat = tables.smpPd ||| 0b11#64 := by
    rw [kept_first kept tree.pdptOutside, mapped,
      words_write_table tables.pd_aligned tables.pdpt_aligned tables.apart, words_write_self,
      BitVec.ofNat_toNat, BitVec.setWidth_eq]
  have pdFirst : after tables.smpPd.toNat = 0x83#64 := by
    rw [kept_first kept tree.pdOutside, mapped, words_write_self]
  have pdptRest : ∀ index < 512, index ≠ 0 → after (tables.smpPdpt.toNat + 8 * index) = 0#64 := by
    intro index small other
    rw [kept _ _ tree.pdptOutside small, mapped,
      words_write_other tables.pd_aligned tables.pdpt_aligned small (.inr other),
      words_write_other tables.pdpt_aligned tables.pdpt_aligned small (.inr other),
      words_write_other (level4_aligned cr3) tables.pdpt_aligned small (.inr other),
      tree.pdptZero index small]
  have pdRest : ∀ index < 512, index ≠ 0 → after (tables.smpPd.toNat + 8 * index) = 0#64 := by
    intro index small other
    rw [kept _ _ tree.pdOutside small, mapped,
      words_write_other tables.pd_aligned tables.pd_aligned small (.inr other),
      words_write_other tables.pdpt_aligned tables.pd_aligned small (.inr other),
      words_write_other (level4_aligned cr3) tables.pd_aligned small (.inr other),
      tree.pdZero index small]
  have chain : LowChain after cr3 tables.smpPdpt tables.smpPd :=
    .of_entries pml4First pdptFirst pdFirst (inject_leads tables.pdptPage 0)
      (inject_next tables.pdptPage) (inject_leads tables.pdPage 1) (inject_next tables.pdPage)
  refine ⟨fun virtAddr low => chain.low low, fun virtAddr high => ?_⟩
  by_cases upper : [0] <+: pageIndices virtAddr
  · obtain ⟨rest, split⟩ := upper
    rw [chain.walk_emptyPdpt pdptRest pdRest ⟨rest, split⟩ high, walkPageTable, ← split,
      List.singleton_append, walkLevels_absent_first missing]
  · apply walk_frame
    intro path index table reached small passed
    obtain ⟨outside, apartPdpt, apartPd⟩ := tree.outside path table reached
    have differ : path ++ [index] ≠ [0] := fun same => upper (same ▸ passed)
    have other := reached.entry_differs tree.tree (reached_pml4 _ cr3) differ
    rw [kept _ _ outside small, mapped,
      words_write_other tables.pd_aligned reached.aligned small (.inl apartPd),
      words_write_other tables.pdpt_aligned reached.aligned small (.inl apartPdpt),
      words_write_other (level4_aligned cr3) reached.aligned small other]

section Present

variable {pdpt pd : BitVec 64} (present : words memory (level4Table cr3).toNat &&& 1#64 ≠ 0#64)
  (next : words memory (level4Table cr3).toNat &&& addressMask = pdpt)

include present next

theorem surgical_pdptMissing (missing : words memory pdpt.toNat &&& 1#64 = 0#64) :
    SurgicalMap (words memory) after cr3 := by
  have mapped := @mapTrampoline_pdptMissing memory cr3 tables pdpt present next missing
  have pml4Leads := continues_top present
  have pdptReached := reached_pdpt pml4Leads next
  obtain ⟨pml4Outside, _, notPd⟩ := tree.outside [] _ (reached_pml4 _ cr3)
  obtain ⟨pdptOutside, _, pdptNotPd⟩ := tree.outside [0] _ pdptReached
  have notPdpt : level4Table cr3 ≠ pdpt := by
    rintro rfl
    cases (reached_pml4 _ cr3).path_eq tree.tree pdptReached
  have pml4First : after (level4Table cr3).toNat = words memory (level4Table cr3).toNat := by
    rw [kept_first kept pml4Outside, mapped,
      words_write_table tables.pd_aligned (level4_aligned cr3) notPd,
      words_write_table pdptReached.aligned (level4_aligned cr3) notPdpt]
  have pdptFirst : after pdpt.toNat = tables.smpPd ||| 0b11#64 := by
    rw [kept_first kept pdptOutside, mapped,
      words_write_table tables.pd_aligned pdptReached.aligned pdptNotPd, words_write_self,
      BitVec.ofNat_toNat, BitVec.setWidth_eq]
  have pdFirst : after tables.smpPd.toNat = 0x83#64 := by
    rw [kept_first kept tree.pdOutside, mapped, words_write_self]
  have pdRest : ∀ index < 512, index ≠ 0 → after (tables.smpPd.toNat + 8 * index) = 0#64 := by
    intro index small other
    rw [kept _ _ tree.pdOutside small, mapped,
      words_write_other tables.pd_aligned tables.pd_aligned small (.inr other),
      words_write_other pdptReached.aligned tables.pd_aligned small (.inr other),
      tree.pdZero index small]
  have chain : LowChain after cr3 pdpt tables.smpPd :=
    .of_entries pml4First pdptFirst pdFirst pml4Leads next (inject_leads tables.pdPage 1)
      (inject_next tables.pdPage)
  refine ⟨fun virtAddr low => chain.low low, fun virtAddr high => ?_⟩
  by_cases upper : [0, 0] <+: pageIndices virtAddr
  · rw [chain.walk_emptyPd pdRest upper high]
    obtain ⟨rest, split⟩ := upper
    rw [walkPageTable, ← split, List.cons_append, walkLevels_first pml4Leads, next,
      List.singleton_append, walkLevels_absent_first missing]
  · apply walk_frame
    intro path index table reached small passed
    obtain ⟨outside, _, apartPd⟩ := tree.outside path table reached
    have differ : path ++ [index] ≠ [0, 0] := fun same => upper (same ▸ passed)
    have other := reached.entry_differs tree.tree pdptReached differ
    rw [kept _ _ outside small, mapped,
      words_write_other tables.pd_aligned reached.aligned small (.inl apartPd),
      words_write_other pdptReached.aligned reached.aligned small other]

theorem surgical_gigabyte (pdptPresent : words memory pdpt.toNat &&& 1#64 ≠ 0#64)
    (large : words memory pdpt.toNat &&& 0x80#64 ≠ 0#64) :
    SurgicalMap (words memory) after cr3 := by
  have mapped := @mapTrampoline_gigabyte memory cr3 tables pdpt present next pdptPresent large
  have pml4Leads := continues_top present
  have same : ∀ virtAddr, walkPageTable after cr3 virtAddr =
      walkPageTable (words memory) cr3 virtAddr := by
    intro virtAddr
    apply walk_frame
    intro path index table reached small _
    rw [kept _ _ (tree.outside path table reached).1 small, mapped]
  refine ⟨fun virtAddr low => ?_, fun virtAddr _ => same virtAddr⟩
  have bottom : words memory pdpt.toNat &&& addressMask = 0#64 := by
    subst next
    exact tree.gigabyte present pdptPresent large
  rw [same, walkPageTable, pageIndices_low low, walkLevels_first pml4Leads, next,
    walkLevels_gigabyte pdptPresent large, bottom, BitVec.zero_add,
    @and_mask_of_lt _ _ 30 rfl (Nat.lt_trans low (by decide))]

theorem surgical_pd (pdptPresent : words memory pdpt.toNat &&& 1#64 ≠ 0#64)
    (small : words memory pdpt.toNat &&& 0x80#64 = 0#64)
    (pdNext : words memory pdpt.toNat &&& addressMask = pd) :
    SurgicalMap (words memory) after cr3 := by
  have mapped := @mapTrampoline_pd memory cr3 tables pdpt pd present next pdptPresent small pdNext
  have pml4Leads := continues_top present
  have pdptLeads : Memory.Continues 1 (words memory pdpt.toNat) := ⟨pdptPresent, by simp [small]⟩
  have pdptReached := reached_pdpt pml4Leads next
  have pdReached := reached_pd pml4Leads next pdptLeads pdNext
  have others : ∀ path index table, Reached (words memory) cr3 path table → index < 512 →
      path ++ [index] ≠ [0, 0, 0] →
      after (table.toNat + 8 * index) = words memory (table.toNat + 8 * index) := by
    intro path index table reached inside differ
    rw [kept _ _ (tree.outside path table reached).1 inside, mapped,
      words_write_other pdReached.aligned reached.aligned inside
        (reached.entry_differs tree.tree pdReached differ)]
  have pml4First := others [] 0 _ (reached_pml4 _ cr3) (by decide) (by decide)
  have pdptFirst := others [0] 0 _ pdptReached (by decide) (by decide)
  rw [Nat.mul_zero, Nat.add_zero] at pml4First pdptFirst
  have pdFirst : after pd.toNat = 0x83#64 := by
    rw [kept_first kept (tree.outside _ _ pdReached).1, mapped, words_write_self]
  have chain : LowChain after cr3 pdpt pd :=
    .of_entries pml4First pdptFirst pdFirst pml4Leads next pdptLeads pdNext
  refine ⟨fun virtAddr low => chain.low low, fun virtAddr high => ?_⟩
  apply walk_frame
  intro path index table reached inside passed
  exact others path index table reached inside (fun same => high (same ▸ passed))

end Present

omit kept in
/-- The four cases: a missing PML4 entry, a missing PDPT entry, a page of 1 GiB,
and a page directory. -/
theorem surgical (kept : ∀ (table : BitVec 64) index, Outside table → index < 512 →
    after (table.toNat + 8 * index) =
      words (mapTrampoline cr3 tables memory) (table.toNat + 8 * index)) :
    SurgicalMap (words memory) after cr3 := by
  by_cases pml4 : words memory (level4Table cr3).toNat &&& 1#64 = 0#64
  · exact surgical_pml4Missing tree kept pml4
  by_cases pdpt : words memory (words memory (level4Table cr3).toNat &&& addressMask).toNat &&&
      1#64 = 0#64
  · exact surgical_pdptMissing tree kept pml4 rfl pdpt
  by_cases small : words memory (words memory (level4Table cr3).toNat &&& addressMask).toNat &&&
      0x80#64 = 0#64
  · exact surgical_pd tree kept pml4 rfl pdpt small rfl
  · exact surgical_gigabyte tree kept pml4 rfl pdpt small

end Cases

section Copy

variable {memory : ByteMemory} {cr3 : BitVec 64} {tables : SmpTables}

theorem configuration_inside (cr3 : BitVec 64) (statics : Statics) :
    ∀ store ∈ configuration cr3 statics,
      0x8000 ≤ store.address ∧ store.address + store.size ≤ 0x8618 := by
  simp [configuration]

/-- The copy and the stores do not reach the tables. -/
theorem copyTrampoline_kept (statics : Statics) {table : BitVec 64} {index : Nat}
    (outside : Outside table) (small : index < 512) :
    words (copyTrampoline cr3 statics memory) (table.toNat + 8 * index) =
      words memory (table.toNat + 8 * index) := by
  have length : trampoline.length = 161 := by decide +kernel
  unfold Outside at outside
  rw [words, words, ByteMemory.read, copyTrampoline, bytes_stores, ByteMemory.bytes_copy_of_disjoint,
    ByteMemory.read]
  · omega
  · intro store member
    have inside := configuration_inside cr3 statics store member
    omega

theorem mapAndCopyTrampoline_surgical (tree : TableTree memory cr3 tables) (statics : Statics) :
    SurgicalMap (words memory) (words (mapAndCopyTrampoline cr3 tables statics memory)) cr3 :=
  surgical tree fun _ _ outside small => copyTrampoline_kept statics outside small

/-- How the page tables in memory translate for the processors. -/
def walkIn (memory : ByteMemory) : Walk := fun root address =>
  (walkPageTable (words memory) root (BitVec.ofNat 64 address)).map BitVec.toNat

/-- The processors that use the same tables find the first 2 MiB in place. -/
theorem mapAndCopyTrampoline_mapsLow (tree : TableTree memory cr3 tables) (statics : Statics) :
    MapsLow (walkIn (mapAndCopyTrampoline cr3 tables statics memory)) (pageRoot cr3) := by
  intro address low
  have root : level4Table (pageRoot cr3) = level4Table cr3 := by
    rw [show pageRoot cr3 = level4Table cr3 from rfl, level4Table, level4Table, BitVec.and_assoc,
      BitVec.and_self]
  have small : (BitVec.ofNat 64 address).toNat = address := by
    rw [BitVec.toNat_ofNat]
    omega
  have mapped := (mapAndCopyTrampoline_surgical tree statics).low (BitVec.ofNat 64 address)
    (by omega)
  rw [walkPageTable] at mapped
  rw [walkIn, walkPageTable, root, mapped, Option.map_some, small]

/-- `copy_trampoline` over a tree of tables: addresses below 2 MiB are mapped to
themselves, and every canonical address from there on is mapped as before. -/
theorem mapAndCopyTrampoline_walk (tree : TableTree memory cr3 tables) (statics : Statics) :
    (∀ virtAddr : BitVec 64, virtAddr.toNat < 2 ^ 21 →
      walkPageTable (words (mapAndCopyTrampoline cr3 tables statics memory)) cr3 virtAddr =
        some virtAddr) ∧
    ∀ linear : LinearAddress, 2 ^ 21 ≤ linear.bits.toNat →
      walkPageTable (words (mapAndCopyTrampoline cr3 tables statics memory)) cr3 linear.bits =
        walkPageTable (words memory) cr3 linear.bits := by
  have map := mapAndCopyTrampoline_surgical tree statics
  exact ⟨map.low, fun linear high => map.high _ (pageIndices_high high)⟩

end Copy

/-- A blank PML4 at 0x1000 -/
private def blank : ByteMemory := fun _ => 0

private def blankTables : SmpTables where
  smpPdpt := 0x2000
  smpPd := 0x3000
  pdptPage := by decide
  pdPage := by decide
  apart := by decide

private def someStatics : Statics := ⟨0x400000, 0x500000, by decide⟩

private theorem words_blank (address : Nat) : words blank address = 0#64 := by
  have zeros : blank.bytes address 8 = List.replicate 8 0 :=
    (ByteMemory.bytes_eq_replicate 0).mpr fun _ _ _ => rfl
  rw [words, ByteMemory.read, zeros]
  decide

private theorem blank_path {path : List Nat} {table : BitVec 64}
    (follows : Memory.follow (words blank) 0 (level4Table 0x1000#64) path = some table) :
    path = [] ∧ table = 0x1000#64 := by
  cases path with
  | nil => exact ⟨rfl, (Option.some.inj follows).symm⟩
  | cons index path => simp [Memory.follow, words_blank, Memory.Continues] at follows

private theorem blank_tree : TableTree blank 0x1000#64 blankTables where
  tree := by
    intro first second table _ _ _ _ one two
    rw [(blank_path one).1, (blank_path two).1]
  outside := by
    intro path table reached
    obtain ⟨_, rfl⟩ := blank_path reached.follows
    exact ⟨.inl (by decide), by decide, by decide⟩
  pdptOutside := .inl (by decide)
  pdOutside := .inl (by decide)
  pdptZero := fun _ _ => words_blank _
  pdZero := fun _ _ => words_blank _
  gigabyte := by
    intro present
    rw [pml4Entry, words_blank] at present
    exact absurd rfl present

/-- The kernel in a page of 2 MiB. -/
private def kernelTree : ByteMemory :=
  ((blank.write 0x3008 8 0x200083).write 0x2000 8 0x3003).write 0x1000 8 0x2003

private theorem words_kernelTree {address : Nat} (aligned : address % 8 = 0) :
    words kernelTree address = if address = 0x1000 then 0x2003#64
      else if address = 0x2000 then 0x3003#64 else if address = 0x3008 then 0x200083#64 else 0#64 := by
  rw [kernelTree, words_write (by decide) aligned, words_write (by decide) aligned,
    words_write (by decide) aligned, words_blank]

private theorem follow_next {memory : Words} {level base index : Nat} {path : List Nat}
    {table : BitVec 64} (small : base < 2 ^ 64)
    (follows : Memory.follow memory level (BitVec.ofNat 64 base) (index :: path) = some table) :
    Memory.Continues level (memory (base + 8 * index)) ∧
      Memory.follow memory (level + 1) (memory (base + 8 * index) &&& addressMask) path =
        some table := by
  rw [Memory.follow, BitVec.toNat_ofNat, Nat.mod_eq_of_lt small] at follows
  exact Option.ite_none_right_eq_some.mp follows

/-- What an entry of the tree leads to. -/
private theorem kernelTree_next {level base index : Nat} {table : BitVec 64} {path : List Nat}
    (aligned : base % 4096 = 0) (small : base < 2 ^ 64) (inside : index < 512)
    (follows : Memory.follow (words kernelTree) level (BitVec.ofNat 64 base) (index :: path) =
      some table) :
    index = 0 ∧ base = 0x1000 ∧
        Memory.follow (words kernelTree) (level + 1) 0x2000#64 path = some table ∨
      index = 0 ∧ base = 0x2000 ∧
        Memory.follow (words kernelTree) (level + 1) 0x3000#64 path = some table ∨
      base = 0x3000 ∧ Memory.Continues level 0x200083#64 := by
  obtain ⟨leads, follows⟩ := follow_next small follows
  rw [words_kernelTree (by omega)] at leads follows
  by_cases first : base + 8 * index = 0x1000
  · rw [if_pos first] at follows
    exact .inl ⟨by omega, by omega, follows⟩
  · rw [if_neg first] at leads follows
    by_cases second : base + 8 * index = 0x2000
    · rw [if_pos second] at follows
      exact .inr (.inl ⟨by omega, by omega, follows⟩)
    · rw [if_neg second] at leads
      by_cases third : base + 8 * index = 0x3008
      · rw [if_pos third] at leads
        exact .inr (.inr ⟨by omega, leads⟩)
      · rw [if_neg third] at leads
        exact absurd leads.1 (by decide)

/-- The three tables of the tree. -/
private theorem kernelTree_path {path : List Nat} {table : BitVec 64}
    (inside : ∀ index ∈ path, index < 512)
    (follows : Memory.follow (words kernelTree) 0 (level4Table 0x1000#64) path = some table) :
    path = [] ∧ table = 0x1000#64 ∨ path = [0] ∧ table = 0x2000#64 ∨
      path = [0, 0] ∧ table = 0x3000#64 := by
  have root : level4Table 0x1000#64 = 0x1000#64 := by decide
  rw [root] at follows
  match path with
  | [] => exact .inl ⟨rfl, (Option.some.inj follows).symm⟩
  | first :: path =>
    obtain ⟨rfl, -, follows⟩ | ⟨-, other, -⟩ | ⟨other, -⟩ :=
      kernelTree_next (by decide) (by decide) (inside first (by simp)) follows
    · match path with
      | [] => exact .inr (.inl ⟨rfl, (Option.some.inj follows).symm⟩)
      | second :: path =>
        obtain ⟨-, other, -⟩ | ⟨rfl, -, follows⟩ | ⟨other, -⟩ :=
          kernelTree_next (by decide) (by decide) (inside second (by simp)) follows
        · cases other
        · match path with
          | [] => exact .inr (.inr ⟨rfl, (Option.some.inj follows).symm⟩)
          | third :: path =>
            obtain ⟨-, other, -⟩ | ⟨-, other, -⟩ | ⟨-, leads⟩ :=
              kernelTree_next (by decide) (by decide) (inside third (by simp)) follows
            · cases other
            · cases other
            · exact absurd leads (by decide)
        · cases other
    · cases other
    · cases other

private def kernelTables : SmpTables where
  smpPdpt := 0x300000
  smpPd := 0x301000
  pdptPage := by decide
  pdPage := by decide
  apart := by decide

private theorem kernelTree_tree : TableTree kernelTree 0x1000#64 kernelTables where
  tree := by
    intro first second table _ _ one two follows other
    obtain ⟨rfl, rfl⟩ | ⟨rfl, rfl⟩ | ⟨rfl, rfl⟩ := kernelTree_path one follows <;>
      obtain ⟨rfl, same⟩ | ⟨rfl, same⟩ | ⟨rfl, same⟩ := kernelTree_path two other <;>
        first | rfl | exact absurd same (by decide)
  outside := by
    intro path table reached
    obtain ⟨-, rfl⟩ | ⟨-, rfl⟩ | ⟨-, rfl⟩ := kernelTree_path reached.inside reached.follows <;>
      exact ⟨.inl (by decide), by decide, by decide⟩
  pdptOutside := .inr (by decide)
  pdOutside := .inr (by decide)
  pdptZero := by
    intro index small
    change words kernelTree (0x300000 + 8 * index) = 0#64
    rw [words_kernelTree (by omega), if_neg (by omega), if_neg (by omega), if_neg (by omega)]
  pdZero := by
    intro index small
    change words kernelTree (0x301000 + 8 * index) = 0#64
    rw [words_kernelTree (by omega), if_neg (by omega), if_neg (by omega), if_neg (by omega)]
  gigabyte := by
    intro _ _ large
    have first : pml4Entry (words kernelTree) 0x1000#64 0#64 = 0x2003#64 := words_kernelTree (by decide)
    have second : pdptEntry (words kernelTree) 0x1000#64 0#64 = 0x3003#64 := by
      rw [pdptEntry, first]
      exact words_kernelTree (by decide)
    rw [second] at large
    exact absurd rfl large

/-- The processors find the trampoline's page where they run, and the kernel where it was. -/
theorem mapAndCopyTrampoline_kernel :
    walkPageTable (words (mapAndCopyTrampoline 0x1000#64 kernelTables someStatics kernelTree))
        0x1000#64 0x8000#64 = some 0x8000#64 ∧
      walkPageTable (words (mapAndCopyTrampoline 0x1000#64 kernelTables someStatics kernelTree))
        0x1000#64 0x234567#64 = some 0x234567#64 := by
  obtain ⟨low, high⟩ := mapAndCopyTrampoline_walk kernelTree_tree someStatics
  refine ⟨low 0x8000#64 (by decide), (high ⟨0x234567#64, by decide⟩ (by decide)).trans ?_⟩
  decide +kernel

/-- The walk does not look at bits 48 to 63: 2^48, which was not mapped, is
afterwards taken for address 0. -/
theorem mapAndCopyTrampoline_noncanonical : TableTree blank 0x1000#64 blankTables ∧
    ¬ ∀ virtAddr : BitVec 64, 2 ^ 21 ≤ virtAddr.toNat →
      walkPageTable (words (mapAndCopyTrampoline 0x1000#64 blankTables someStatics blank)) 0x1000#64
        virtAddr = walkPageTable (words blank) 0x1000#64 virtAddr := by
  refine ⟨blank_tree, fun same => ?_⟩
  have before : walkPageTable (words blank) 0x1000#64 0x1000000000000#64 = none := by
    rw [walkPageTable, pageIndices, walkLevels_absent]
    rw [words_blank]
    rfl
  have moved := (same 0x1000000000000#64 (by decide)).trans before
  exact absurd moved (by decide +kernel)

/-- A tree of which the cleared `SMP_PDPT` is a part already. -/
private def tablesInUse : ByteMemory := blank.write 0x1028 8 0x300003

private theorem words_tablesInUse {address : Nat} (aligned : address % 8 = 0) :
    words tablesInUse address = if address = 0x1028 then 0x300003#64 else 0#64 := by
  rw [tablesInUse, words_write (by decide) aligned, words_blank]

private theorem tablesInUse_path {path : List Nat} {table : BitVec 64}
    (inside : ∀ index ∈ path, index < 512)
    (follows : Memory.follow (words tablesInUse) 0 (level4Table 0x1000#64) path = some table) :
    path = [] ∧ table = 0x1000#64 ∨ path = [5] ∧ table = 0x300000#64 := by
  have root : level4Table 0x1000#64 = 0x1000#64 := by decide
  rw [root] at follows
  match path with
  | [] => exact .inl ⟨rfl, (Option.some.inj follows).symm⟩
  | first :: path =>
    have small := inside first (by simp)
    obtain ⟨leads, follows⟩ := follow_next (by decide) follows
    rw [words_tablesInUse (by omega)] at leads follows
    by_cases there : 0x1000 + 8 * first = 0x1028
    · obtain rfl : first = 5 := by omega
      rw [if_pos there] at follows
      match path with
      | [] => exact .inr ⟨rfl, (Option.some.inj follows).symm⟩
      | second :: path =>
        have inner := inside second (by simp)
        obtain ⟨leads, -⟩ := follow_next (show 0x300000 < 2 ^ 64 by decide) follows
        rw [words_tablesInUse (by omega), if_neg (by omega)] at leads
        exact absurd leads.1 (by decide)
    · rw [if_neg there] at leads
      exact absurd leads.1 (by decide)

/-- That `SMP_PDPT` is cleared is not enough: where it is in use already, the first 2 MiB appear in
two places. -/
theorem mapAndCopyTrampoline_inUse : IsTree (words tablesInUse) 0x1000#64 ∧
    (∀ index < 512, words tablesInUse (kernelTables.smpPdpt.toNat + 8 * index) = 0#64) ∧
    (∀ index < 512, words tablesInUse (kernelTables.smpPd.toNat + 8 * index) = 0#64) ∧
    ¬ ∀ linear : LinearAddress, 2 ^ 21 ≤ linear.bits.toNat →
      walkPageTable (words (mapAndCopyTrampoline 0x1000#64 kernelTables someStatics tablesInUse))
          0x1000#64 linear.bits =
        walkPageTable (words tablesInUse) 0x1000#64 linear.bits := by
  refine ⟨?_, ?_, ?_, fun same => ?_⟩
  · intro first second table _ _ one two follows other
    obtain ⟨rfl, rfl⟩ | ⟨rfl, rfl⟩ := tablesInUse_path one follows <;>
      obtain ⟨rfl, same⟩ | ⟨rfl, same⟩ := tablesInUse_path two other <;>
        first | rfl | exact absurd same (by decide)
  · intro index small
    change words tablesInUse (0x300000 + 8 * index) = 0#64
    rw [words_tablesInUse (by omega), if_neg (by omega)]
  · intro index small
    change words tablesInUse (0x301000 + 8 * index) = 0#64
    rw [words_tablesInUse (by omega), if_neg (by omega)]
  · have moved := same ⟨0x28000000000#64, by decide⟩ (by decide)
    exact absurd moved (by decide +kernel)

end QoreOS.Processor
