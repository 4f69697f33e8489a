import QoreOS.Memory.AllocationRun
import QoreOS.Memory.MapPage
import QoreOS.Memory.UserUnlock

/-! The address space over a whole run: frames are allocated, pages are mapped to them, and the
tables are opened for ring 3, in any order. -/

namespace QoreOS.Memory

open QoreOS.Library

/-- The two memories hold the same tables above the entries of the page tables. -/
def SameTables (cr3 : BitVec 64) (memory other : Words) : Prop :=
  ∀ path, path.length ≤ 3 → (∀ index ∈ path, index < 512) →
    follow other 0 (level4Table cr3) path = follow memory 0 (level4Table cr3) path

section Tables

variable {cr3 virtAddr physFrame : BitVec 64} {memory other : Words}

/-- A path depends only on the entries on it. -/
theorem follow_congr {level : Nat} {table : BitVec 64} {path : List Nat}
    (agree : ∀ stem index target, stem ++ [index] <+: path →
      follow memory level table stem = some target →
      other (target.toNat + 8 * index) = memory (target.toNat + 8 * index)) :
    follow other level table path = follow memory level table path := by
  induction path generalizing level table with
  | nil => rfl
  | cons index path ih =>
    have here : other (table.toNat + 8 * index) = memory (table.toNat + 8 * index) :=
      agree [] index table (by simp) rfl
    simp only [follow, here]
    split
    · rename_i leads
      apply ih
      intro stem later target inside reached
      refine agree (index :: stem) later target (by simpa using inside) ?_
      simpa [follow, leads] using reached
    · rfl

theorem follow_concat {level index : Nat} {table : BitVec 64} {path : List Nat} :
    follow memory level table (path ++ [index]) = (follow memory level table path).bind fun target =>
      if Continues (level + path.length) (memory (target.toNat + 8 * index)) then
        some (memory (target.toNat + 8 * index) &&& addressMask)
      else none := by
  induction path generalizing level table with
  | nil => rfl
  | cons first path ih =>
    simp only [List.cons_append, follow, ih, List.length_cons, Nat.add_assoc, Nat.add_comm 1]
    split <;> rfl

theorem SameTables.refl (memory : Words) : SameTables cr3 memory memory := fun _ _ _ => rfl

theorem SameTables.trans {third : Words} (one : SameTables cr3 memory other)
    (two : SameTables cr3 other third) : SameTables cr3 memory third :=
  fun path short inside => (two path short inside).trans (one path short inside)

theorem SameTables.isTree (same : SameTables cr3 memory other) (tree : IsTree memory cr3) :
    IsTree other cr3 := by
  intro first second table firstShort secondShort firstInside secondInside one two
  rw [same first firstShort firstInside] at one
  rw [same second secondShort secondInside] at two
  exact tree first second table firstShort secondShort firstInside secondInside one two

theorem SameTables.tableEntry (same : SameTables cr3 memory other) {address : Nat}
    (entry : TableEntry other cr3 address) : TableEntry memory cr3 address := by
  obtain ⟨path, table, index, short, inside, small, reached, rfl⟩ := entry
  exact ⟨path, table, index, short, inside, small, same path short inside ▸ reached, rfl⟩

/-- The upper entries lead to a page table exactly when the path to it exists. -/
theorem upperMapped_iff : UpperMapped memory cr3 virtAddr ↔
    ∃ table, follow memory 0 (level4Table cr3) ((pageIndices virtAddr).take 3) = some table := by
  constructor
  · exact fun mapped => ⟨_, mapped.follow_pt⟩
  · rintro ⟨table, reached⟩
    simp only [pageIndices, List.take_succ_cons, List.take_zero, follow,
      Option.ite_none_right_eq_some] at reached
    obtain ⟨pml4, pdpt, pd, -⟩ := reached
    refine ⟨pml4.1, pdpt.1, ?_, pd.1, ?_⟩
    · by_contra large
      exact pdpt.2 ⟨.inl rfl, large⟩
    · by_contra large
      exact pd.2 ⟨.inr rfl, large⟩

theorem SameTables.upperMapped (same : SameTables cr3 memory other) :
    UpperMapped other cr3 virtAddr ↔ UpperMapped memory cr3 virtAddr := by
  rw [upperMapped_iff, upperMapped_iff, same _ (List.length_take_le ..) fun index member =>
    pageIndices_lt virtAddr index (List.mem_of_mem_take member)]

/-- The walk reads no table that `mapPage` changes. -/
theorem mapPage_sameTables (tree : IsTree memory cr3) :
    SameTables cr3 memory (mapPage memory cr3 virtAddr physFrame) := by
  by_cases mapped : UpperMapped memory cr3 virtAddr
  · rw [mapPage_mapped mapped]
    intro path short inside
    apply follow_congr
    intro stem index target early reached
    apply Function.update_of_ne
    intro written
    have lengths := early.length_le
    rw [List.length_append, List.length_singleton] at lengths
    have small : index < 512 := inside index (early.subset (by simp))
    have stemReached : Reached memory cr3 stem target :=
      ⟨by omega, fun step member => inside step (early.subset (by simp [member])), reached⟩
    have paths := congrArg List.length (read_written tree mapped stemReached small written)
    rw [List.length_append, List.length_singleton] at paths
    have four : (pageIndices virtAddr).length = 4 := rfl
    omega
  · rw [mapPage_unmapped mapped]
    exact SameTables.refl memory

theorem SameButUser.follow (same : SameButUser memory other) (level : Nat) (table : BitVec 64)
    (path : List Nat) : follow other level table path = follow memory level table path := by
  induction path generalizing level table with
  | nil => rfl
  | cons index path ih =>
    have leads : Continues level (other (table.toNat + 8 * index)) ↔
        Continues level (memory (table.toNat + 8 * index)) := by
      unfold Continues
      rw [same.present, same.large]
    simp only [Memory.follow, leads, same.frame, ih]

theorem SameButUser.sameTables (same : SameButUser memory other) : SameTables cr3 memory other :=
  fun path _ _ => same.follow 0 (level4Table cr3) path

/-- `mapPage` changes entries of the tables only. -/
theorem mapPage_tableEntry {address : Nat}
    (changed : mapPage memory cr3 virtAddr physFrame address ≠ memory address) :
    TableEntry memory cr3 address := by
  by_cases mapped : UpperMapped memory cr3 virtAddr
  · rw [mapPage_mapped mapped] at changed
    have written : address = entryAddress (pageTable memory cr3 virtAddr) virtAddr 12 := by
      by_contra differs
      exact changed (Function.update_of_ne differs ..)
    have reached := mapped.reached_pt
    exact ⟨_, _, _, reached.short, reached.inside, index_lt virtAddr 12, reached.follows, written⟩
  · rw [mapPage_unmapped mapped] at changed
    exact absurd rfl changed

/-- Tables to which no second entry leads form a tree. -/
theorem isTree_of_unshared
    (unshared : ∀ first second, memory first &&& 1#64 ≠ 0#64 → memory second &&& 1#64 ≠ 0#64 →
      memory first &&& addressMask = memory second &&& addressMask → first = second)
    (root : ∀ address, memory address &&& 1#64 ≠ 0#64 →
      memory address &&& addressMask ≠ level4Table cr3) : IsTree memory cr3 := by
  intro first
  induction first using List.reverseRecOn with
  | nil =>
    intro second table _ _ _ _ one two
    obtain rfl := Option.some.inj one
    induction second using List.reverseRecOn with
    | nil => rfl
    | append_singleton stem index _ =>
      rw [follow_concat] at two
      obtain ⟨target, -, entry⟩ := Option.bind_eq_some_iff.mp two
      obtain ⟨leads, same⟩ := Option.ite_none_right_eq_some.mp entry
      exact absurd (Option.some.inj same) (root _ leads.1)
  | append_singleton firstStem one ih =>
    intro second table firstShort secondShort firstInside secondInside reached other
    rw [follow_concat] at reached
    obtain ⟨target, stemReached, entry⟩ := Option.bind_eq_some_iff.mp reached
    obtain ⟨leads, same⟩ := Option.ite_none_right_eq_some.mp entry
    induction second using List.reverseRecOn with
    | nil => exact absurd (same.trans other.symm |> Option.some.inj) (root _ leads.1)
    | append_singleton secondStem two _ =>
      rw [follow_concat] at other
      obtain ⟨otherTarget, otherReached, otherEntry⟩ := Option.bind_eq_some_iff.mp other
      obtain ⟨otherLeads, otherSame⟩ := Option.ite_none_right_eq_some.mp otherEntry
      have slot := unshared _ _ leads.1 otherLeads.1
        (Option.some.inj (same.trans otherSame.symm))
      simp only [List.length_append, List.length_singleton, List.mem_append, List.mem_singleton]
        at firstShort secondShort firstInside secondInside
      obtain ⟨rfl, rfl⟩ := entry_injective (follow_aligned (level4_aligned cr3) stemReached)
        (follow_aligned (level4_aligned cr3) otherReached) (firstInside one (.inr rfl))
        (secondInside two (.inr rfl)) slot
      rw [ih secondStem target (by omega) (by omega) (fun index member => firstInside index (.inl member))
        (fun index member => secondInside index (.inl member)) stemReached otherReached]

end Tables

/-- Two addresses lie in the same page exactly when their table indices agree. -/
theorem otherPage_of_indices {virtAddr other : BitVec 64}
    (differ : pageIndices other ≠ pageIndices virtAddr) : OtherPage virtAddr other := by
  by_contra same
  simp only [OtherPage, not_exists, not_and, not_not] at same
  have field : ∀ shift, 12 ≤ shift → shift ≤ 39 →
      (other >>> shift) &&& 0x1FF#64 = (virtAddr >>> shift) &&& 0x1FF#64 := by
    intro shift low high
    apply BitVec.eq_of_getLsbD_eq
    intro bit _
    have mask : 9 ≤ bit → (0x1FF#64).getLsbD bit = false := by
      intro above
      exact Nat.testBit_lt_two_pow (Nat.lt_of_lt_of_le (by decide : 0x1FF < 2 ^ 9)
        (Nat.pow_le_pow_right (by decide) above))
    rw [BitVec.getLsbD_and, BitVec.getLsbD_and, BitVec.getLsbD_ushiftRight,
      BitVec.getLsbD_ushiftRight]
    by_cases inside : bit < 9
    · rw [same (shift + bit) (by omega) (by omega)]
    · rw [mask (Nat.not_lt.mp inside), Bool.and_false, Bool.and_false]
  apply differ
  simp only [pageIndices, field 39 (by decide) (by decide), field 30 (by decide) (by decide),
    field 21 (by decide) (by decide), field 12 (by decide) (by decide)]

section SamePage

variable {memory : Words} {cr3 virtAddr other physFrame : BitVec 64}

/-- Addresses in one page meet the same entries. -/
theorem entryAddress_congr (same : pageIndices other = pageIndices virtAddr) (table : BitVec 64) :
    entryAddress table other 39 = entryAddress table virtAddr 39 ∧
      entryAddress table other 30 = entryAddress table virtAddr 30 ∧
      entryAddress table other 21 = entryAddress table virtAddr 21 ∧
      entryAddress table other 12 = entryAddress table virtAddr 12 := by
  simp only [pageIndices, List.cons.injEq, and_true] at same
  simp only [entryAddress, same, and_self]

theorem mapPage_congr (same : pageIndices other = pageIndices virtAddr) :
    mapPage memory cr3 other physFrame = mapPage memory cr3 virtAddr physFrame := by
  simp only [mapPage, pdEntry, pdptEntry, pml4Entry, entryAddress_congr same]
  rfl

theorem upperMapped_congr (same : pageIndices other = pageIndices virtAddr) :
    UpperMapped memory cr3 other ↔ UpperMapped memory cr3 virtAddr := by
  rw [upperMapped_iff, upperMapped_iff, same]

end SamePage

instance (memory : Words) (cr3 virtAddr : BitVec 64) : Decidable (UpperMapped memory cr3 virtAddr) :=
  decidable_of_iff (pml4Entry memory cr3 virtAddr &&& 1#64 ≠ 0#64 ∧
      pdptEntry memory cr3 virtAddr &&& 1#64 ≠ 0#64 ∧
      pdptEntry memory cr3 virtAddr &&& 0x80#64 = 0#64 ∧
      pdEntry memory cr3 virtAddr &&& 1#64 ≠ 0#64 ∧ pdEntry memory cr3 virtAddr &&& 0x80#64 = 0#64)
    ⟨fun ⟨pml4, pdpt, pdptSmall, pd, pdSmall⟩ => ⟨pml4, pdpt, pdptSmall, pd, pdSmall⟩,
      fun mapped => ⟨mapped.pml4, mapped.pdpt, mapped.pdptSmall, mapped.pd, mapped.pdSmall⟩⟩

/-- A frame that the allocator can hand out. -/
def Tracked (frame : Nat) : Prop := ∃ index < bitmapSize * 64, frame = index * pageSize

/-- What the walk finds after `mapPage` with a frame of the allocator. -/
theorem walk_mapPage {memory : Words} {cr3 virtAddr : BitVec 64} {frame : Nat}
    (tree : IsTree memory cr3) (tracked : Tracked frame) (other : BitVec 64) :
    walkPageTable (mapPage memory cr3 virtAddr (BitVec.ofNat 64 frame)) cr3 other =
      if UpperMapped memory cr3 virtAddr ∧ pageIndices other = pageIndices virtAddr then
        some (BitVec.ofNat 64 (frame + other.toNat % 4096))
      else walkPageTable memory cr3 other := by
  obtain ⟨index, small, rfl⟩ := tracked
  by_cases mapped : UpperMapped memory cr3 virtAddr
  · by_cases same : pageIndices other = pageIndices virtAddr
    · rw [if_pos ⟨mapped, same⟩, ← mapPage_congr same]
      exact walk_mapPage_same tree ((upperMapped_congr same).mpr mapped) small
    · rw [if_neg fun both => same both.2]
      exact walk_mapPage_other tree mapped (otherPage_of_indices same)
  · rw [if_neg fun both => mapped both.1, mapPage_unmapped mapped]

/-- What the kernel may do with its tables. -/
inductive PagingAction where
  | allocate
  | map (virtAddr : BitVec 64) (call : Nat)
  | unlock

/-- The tables and the allocator, with the answers that `allocateFrame` has given so far. -/
structure Paging where
  memory : Words
  allocator : BitmapAllocator
  answers : List (Option Nat)

/-- A page is mapped to the frame that some earlier call of `allocateFrame` has returned. -/
def Paging.step (cr3 : BitVec 64) (paging : Paging) : PagingAction → Option Paging
  | .allocate => do
    let (answer, allocator) ← allocateFrame paging.allocator
    return { paging with allocator := allocator, answers := paging.answers ++ [answer] }
  | .map virtAddr call =>
    match paging.answers[call]? with
    | some (some frame) =>
      some { paging with memory := mapPage paging.memory cr3 virtAddr (BitVec.ofNat 64 frame) }
    | _ => some paging
  | .unlock => some { paging with memory := unlockMmuForRing3 paging.memory cr3 }

/-- An address space without tables: how many frames have been asked for, and which of the
grants stands behind a page. -/
structure AddressSpace where
  granted : Nat
  backing : List Nat → Option Nat

namespace AddressSpace

/-- Nothing has been asked for. -/
def initial : AddressSpace := ⟨0, fun _ => none⟩

/-- The page goes to the frame of a call. -/
def install (space : AddressSpace) (page : List Nat) (call : Nat) : AddressSpace :=
  { space with backing := Function.update space.backing page (some call) }

theorem install_backing (space : AddressSpace) (page : List Nat) (call : Nat) :
    (space.install page call).backing page = some call := Function.update_self ..

theorem install_backing_other (space : AddressSpace) {page other : List Nat} (call : Nat)
    (differ : other ≠ page) : (space.install page call).backing other = space.backing other :=
  Function.update_of_ne differ ..

/-- Of the pages only the `mappable` ones can be mapped, and only to a frame that was granted. -/
def step (frames : List Nat) (mappable : BitVec 64 → Prop) [DecidablePred mappable]
    (space : AddressSpace) : PagingAction → AddressSpace
  | .allocate => { space with granted := space.granted + 1 }
  | .map virtAddr call =>
    if call < min space.granted frames.length ∧ mappable virtAddr then
      space.install (pageIndices virtAddr) call
    else space
  | .unlock => space

/-- A page without a grant is where it was `before`. -/
def translate (frames : List Nat) (before : BitVec 64 → Option (BitVec 64)) (space : AddressSpace)
    (virtAddr : BitVec 64) : Option (BitVec 64) :=
  match space.backing (pageIndices virtAddr) with
  | some call => frames[call]?.map fun frame => BitVec.ofNat 64 (frame + virtAddr.toNat % 4096)
  | none => before virtAddr

theorem translate_backed {frames : List Nat} {before : BitVec 64 → Option (BitVec 64)}
    {space : AddressSpace} {virtAddr : BitVec 64} {call : Nat}
    (backed : space.backing (pageIndices virtAddr) = some call) (inside : call < frames.length) :
    space.translate frames before virtAddr =
      some (BitVec.ofNat 64 (frames[call] + virtAddr.toNat % 4096)) := by
  simp only [translate, backed, List.getElem?_eq_getElem inside, Option.map_some]

end AddressSpace

/-- The tables hold the address space. -/
structure Represents (cr3 : BitVec 64) (tables : Words) (frames : List Nat) (paging : Paging)
    (space : AddressSpace) : Prop where
  same : SameTables cr3 tables paging.memory
  entries : ∀ address, paging.memory address ≠ tables address → TableEntry tables cr3 address
  valid : Valid paging.allocator
  left : (Bitmap.members paging.allocator.bitmap).map (pageSize * ·) = frames.drop space.granted
  answers : paging.answers = (List.range space.granted).map fun call => frames[call]?
  translated : ∀ virtAddr, walkPageTable paging.memory cr3 virtAddr =
    space.translate frames (walkPageTable tables cr3) virtAddr
  backed : ∀ page call, space.backing page = some call → call < frames.length

namespace Represents

variable {cr3 : BitVec 64} {tables : Words} {frames : List Nat} {paging : Paging}
  {space : AddressSpace}

theorem allocate (represents : Represents cr3 tables frames paging space) :
    ∃ after, paging.step cr3 .allocate = some after ∧ Represents cr3 tables frames after
      (space.step frames (UpperMapped tables cr3) .allocate) := by
  have left := represents.left
  have answers : ∀ answer, frames[space.granted]? = answer → paging.answers ++ [answer] =
      (List.range (space.granted + 1)).map fun call => frames[call]? := by
    rintro answer rfl
    rw [represents.answers, List.range_succ, List.map_append, List.map_singleton]
  cases free : Bitmap.members paging.allocator.bitmap with
  | nil =>
    rw [free, List.map_nil] at left
    have behind : frames.length ≤ space.granted := List.drop_eq_nil_iff.mp left.symm
    refine ⟨{ paging with answers := paging.answers ++ [none] }, ?_, { represents with
      left := ?_
      answers := answers none (List.getElem?_eq_none behind) }⟩
    · simp only [Paging.step, allocateFrame_empty represents.valid free]
      rfl
    · rw [free, List.map_nil]
      exact (List.drop_eq_nil_of_le (Nat.le_succ_of_le behind)).symm
  | cons frame rest =>
    obtain ⟨allocator, taken, valid, remaining⟩ := allocateFrame_least represents.valid free
    rw [free, List.map_cons] at left
    have first : frames[space.granted]? = some (pageSize * frame) := by
      rw [← List.head?_drop, ← left, List.head?_cons]
    refine ⟨{ paging with
      allocator := allocator
      answers := paging.answers ++ [some (frame * pageSize)] }, ?_, { represents with
      valid := valid
      left := ?_
      answers := answers _ (by rw [first, Nat.mul_comm]) }⟩
    · simp only [Paging.step, taken]
      rfl
    · rw [remaining]
      change _ = frames.drop (space.granted + 1)
      rw [← List.tail_drop, ← left, List.tail_cons]

/-- The answer of a call that has been made. -/
theorem answer (represents : Represents cr3 tables frames paging space) {call : Nat}
    (asked : call < space.granted) : paging.answers[call]? = some frames[call]? := by
  rw [represents.answers, List.getElem?_map, List.getElem?_range asked, Option.map_some]

/-- Without a grant, or a page table, nothing is mapped. -/
theorem map_refused (represents : Represents cr3 tables frames paging space)
    {virtAddr : BitVec 64} {call : Nat}
    (refused : ¬ (call < min space.granted frames.length ∧ UpperMapped tables cr3 virtAddr)) :
    paging.step cr3 (.map virtAddr call) = some paging := by
  by_cases asked : call < space.granted
  · rw [Paging.step, represents.answer asked]
    by_cases inside : call < frames.length
    · have unmapped : ¬ UpperMapped paging.memory cr3 virtAddr := fun mapped =>
        refused ⟨Nat.lt_min.mpr ⟨asked, inside⟩, represents.same.upperMapped.mp mapped⟩
      rw [List.getElem?_eq_getElem inside]
      simp only [mapPage_unmapped unmapped]
    · rw [List.getElem?_eq_none (Nat.not_lt.mp inside)]
  · have unanswered : paging.answers[call]? = none := by
      rw [represents.answers]
      exact List.getElem?_eq_none (by simpa using asked)
    rw [Paging.step, unanswered]

/-- The page that is mapped goes to its frame, and no other page moves. -/
theorem map_granted (represents : Represents cr3 tables frames paging space)
    (tree : IsTree tables cr3) (tracked : ∀ frame ∈ frames, Tracked frame) {virtAddr : BitVec 64}
    {call : Nat} (inside : call < frames.length) (mapped : UpperMapped tables cr3 virtAddr) :
    Represents cr3 tables frames
      { paging with memory := mapPage paging.memory cr3 virtAddr (BitVec.ofNat 64 frames[call]) }
      (space.install (pageIndices virtAddr) call) := by
  have still : IsTree paging.memory cr3 := represents.same.isTree tree
  refine { represents with
    same := represents.same.trans (mapPage_sameTables still)
    entries := ?_
    translated := ?_
    backed := ?_ }
  · intro address changed
    by_cases here : mapPage paging.memory cr3 virtAddr (BitVec.ofNat 64 frames[call]) address =
        paging.memory address
    · exact represents.entries address fun same => changed (here.trans same)
    · exact represents.same.tableEntry (mapPage_tableEntry here)
  · intro other
    rw [walk_mapPage still (tracked _ (List.getElem_mem inside)), represents.translated]
    by_cases page : pageIndices other = pageIndices virtAddr
    · rw [if_pos ⟨represents.same.upperMapped.mpr mapped, page⟩,
        AddressSpace.translate_backed (page ▸ AddressSpace.install_backing ..) inside]
    · rw [if_neg fun both => page both.2, AddressSpace.translate, AddressSpace.translate,
        AddressSpace.install_backing_other _ _ page]
  · intro page other backs
    by_cases here : page = pageIndices virtAddr
    · rw [here, AddressSpace.install_backing, Option.some.injEq] at backs
      exact backs ▸ inside
    · rw [AddressSpace.install_backing_other _ _ here] at backs
      exact represents.backed page other backs

theorem map (represents : Represents cr3 tables frames paging space) (tree : IsTree tables cr3)
    (tracked : ∀ frame ∈ frames, Tracked frame) (virtAddr : BitVec 64) (call : Nat) :
    ∃ after, paging.step cr3 (.map virtAddr call) = some after ∧ Represents cr3 tables frames after
      (space.step frames (UpperMapped tables cr3) (.map virtAddr call)) := by
  rw [AddressSpace.step]
  split
  · rename_i granted
    obtain ⟨asked, inside⟩ := Nat.lt_min.mp granted.1
    refine ⟨_, ?_, represents.map_granted tree tracked inside granted.2⟩
    rw [Paging.step, represents.answer asked, List.getElem?_eq_getElem inside]
  · rename_i refused
    exact ⟨paging, represents.map_refused refused, represents⟩

/-- Opening the tables for ring 3 moves no page. -/
theorem unlock (represents : Represents cr3 tables frames paging space) :
    Represents cr3 tables frames
      { paging with memory := unlockMmuForRing3 paging.memory cr3 } space := by
  have raised := (unlockMmu_raises paging.memory cr3).sameButUser
  obtain ⟨-, entries, -⟩ := unlockMmu_effect paging.memory cr3
  generalize unlockMmuForRing3 paging.memory cr3 = opened at raised entries ⊢
  refine { represents with
    same := represents.same.trans raised.sameTables
    entries := ?_
    translated := fun virtAddr =>
      (raised.walkPageTable cr3 virtAddr).trans (represents.translated virtAddr) }
  intro address changed
  rcases entries address with same | ⟨entry, -⟩
  · exact represents.entries address fun before => changed (same.trans before)
  · exact represents.same.tableEntry entry

theorem step (represents : Represents cr3 tables frames paging space) (tree : IsTree tables cr3)
    (tracked : ∀ frame ∈ frames, Tracked frame) (action : PagingAction) :
    ∃ after, paging.step cr3 action = some after ∧ Represents cr3 tables frames after
      (space.step frames (UpperMapped tables cr3) action) := by
  cases action with
  | allocate => exact represents.allocate
  | map virtAddr call => exact represents.map tree tracked virtAddr call
  | unlock => exact ⟨_, rfl, represents.unlock⟩

/-- Pages with different grants share no byte. -/
theorem apart (represents : Represents cr3 tables frames paging space)
    (tracked : ∀ frame ∈ frames, Tracked frame) (distinct : frames.Nodup)
    {virtAddr other : BitVec 64} {call another : Nat}
    (backed : space.backing (pageIndices virtAddr) = some call)
    (backedOther : space.backing (pageIndices other) = some another) (differ : call ≠ another) :
    walkPageTable paging.memory cr3 virtAddr ≠ walkPageTable paging.memory cr3 other := by
  have inside := represents.backed _ _ backed
  have insideOther := represents.backed _ _ backedOther
  obtain ⟨frame, small, first⟩ := tracked _ (List.getElem_mem inside)
  obtain ⟨frameOther, smallOther, second⟩ := tracked _ (List.getElem_mem insideOther)
  rw [represents.translated, represents.translated, AddressSpace.translate_backed backed inside,
    AddressSpace.translate_backed backedOther insideOther]
  intro same
  have numbers := congrArg BitVec.toNat (Option.some.inj same)
  simp only [BitVec.toNat_ofNat, first, second, bitmapSize, pageSize] at small smallOther numbers
  have frames : frame = frameOther := by omega
  exact differ ((List.Nodup.getElem_inj_iff distinct).mp (by rw [first, second, frames]))

end Represents

theorem conventionalFrames_tracked (descriptors : List UefiMemoryDescriptor) :
    ∀ frame ∈ conventionalFrames descriptors, Tracked frame := by
  intro frame member
  obtain ⟨index, inside, rfl⟩ := List.mem_map.mp member
  exact ⟨index, List.mem_range.mp (List.mem_of_mem_filter inside), Nat.mul_comm ..⟩

theorem conventionalFrames_nodup (descriptors : List UefiMemoryDescriptor) :
    (conventionalFrames descriptors).Nodup :=
  (List.nodup_range.filter _).map fun _ _ same => Nat.eq_of_mul_eq_mul_left (by decide) same

/-- From the firmware's map on, every run of allocations, mappings and openings for ring 3 in a
tree of tables goes through. Each address then translates as the address space says, pages with
different grants share no byte, and nothing but entries of the tables has changed. -/
theorem paging_run {memory : Ram} {info : BootInfo} {descriptors : List UefiMemoryDescriptor}
    {cr3 : BitVec 64} {tables : Words} (stored : StoredMap memory info descriptors)
    (wellFormed : WellFormedMap descriptors) (tree : IsTree tables cr3) :
    ∃ allocator, init memory info frameAllocator = some (allocator, allocator.freeFrames) ∧
      ∀ actions, ∃ final, run (Paging.step cr3) actions ⟨tables, allocator, []⟩ = some final ∧
        let frames := conventionalFrames descriptors
        let space := actions.foldl (AddressSpace.step frames (UpperMapped tables cr3)) .initial
        (∀ virtAddr, walkPageTable final.memory cr3 virtAddr =
          space.translate frames (walkPageTable tables cr3) virtAddr) ∧
        (∀ virtAddr other call another, space.backing (pageIndices virtAddr) = some call →
          space.backing (pageIndices other) = some another → call ≠ another →
          walkPageTable final.memory cr3 virtAddr ≠ walkPageTable final.memory cr3 other) ∧
        ∀ address, final.memory address ≠ tables address → TableEntry tables cr3 address := by
  obtain ⟨allocator, initialised, valid, frames⟩ := init_spec stored wellFormed
  refine ⟨allocator, initialised, fun actions => ?_⟩
  have tracked := conventionalFrames_tracked descriptors
  have start : Represents cr3 tables (conventionalFrames descriptors) ⟨tables, allocator, []⟩
      .initial := by
    refine ⟨SameTables.refl tables, fun address changed => absurd rfl changed, valid, frames, rfl,
      fun _ => rfl, ?_⟩
    intro page call backed
    cases backed
  have follows : ∀ paging space action,
      Represents cr3 tables (conventionalFrames descriptors) paging space →
      ∃ after, paging.step cr3 action = some after ∧
        Represents cr3 tables (conventionalFrames descriptors) after
          (space.step (conventionalFrames descriptors) (UpperMapped tables cr3) action) :=
    fun _ _ action represents => represents.step tree tracked action
  obtain ⟨final, ran, represents⟩ := run_follows follows actions start
  exact ⟨final, ran, represents.translated, fun virtAddr other call another =>
    represents.apart tracked (conventionalFrames_nodup descriptors), represents.entries⟩

/-- Two conventional pages at 0x5000. -/
private def onePartMap : List UefiMemoryDescriptor := [⟨7, 0x5000, 2⟩]

private def onePartRam : Ram
  | 0 => 7 | 9 => 0x50 | 24 => 2
  | _ => 0

private def onePartInfo : BootInfo where
  framebufferBase := 0
  framebufferSize := 0
  width := 0
  height := 0
  stride := 0
  memoryMapSize := 48
  acpi2RsdpAddr := 0
  memoryMapAddr := 0
  memoryMapDescSize := 48

/-- One path from 0x1000 through 0x2000 and 0x3000 to the page table at 0x4000. -/
private def pathTables (address : Nat) : BitVec 64 :=
  if address = 0x1000 then 0x2003#64
  else if address = 0x2000 then 0x3003#64
  else if address = 0x3000 then 0x4003#64
  else 0#64

private theorem pathTables_present {address : Nat} (present : pathTables address &&& 1#64 ≠ 0#64) :
    address = 0x1000 ∨ address = 0x2000 ∨ address = 0x3000 := by
  by_contra other
  simp only [not_or] at other
  exact present (by simp [pathTables, other])

private theorem pathTables_tree : IsTree pathTables 0x1000#64 := by
  apply isTree_of_unshared
  · intro first second one two same
    rcases pathTables_present one with rfl | rfl | rfl <;>
      rcases pathTables_present two with rfl | rfl | rfl <;>
        first
        | rfl
        | exact absurd same (by decide)
  · intro address present
    rcases pathTables_present present with rfl | rfl | rfl <;> decide

/-- The page at 0x7000 is mapped to the first frame and then opened. -/
theorem paging_run_path : ∃ allocator, init onePartRam onePartInfo frameAllocator =
      some (allocator, allocator.freeFrames) ∧
    ∃ final, run (Paging.step 0x1000#64) [.allocate, .map 0x7123#64 0, .unlock]
        ⟨pathTables, allocator, []⟩ = some final ∧
      walkPageTable final.memory 0x1000#64 0x7123#64 = AddressSpace.translate
        (conventionalFrames onePartMap) (walkPageTable pathTables 0x1000#64)
        ([.allocate, .map 0x7123#64 0, .unlock].foldl (AddressSpace.step
          (conventionalFrames onePartMap) (UpperMapped pathTables 0x1000#64)) .initial)
        0x7123#64 := by
  have stored : StoredMap onePartRam onePartInfo onePartMap := by
    refine ⟨by decide, by decide, ?_⟩
    intro i inside
    match i, inside with
    | 0, _ => rfl
  have wellFormed : WellFormedMap onePartMap :=
    ⟨by decide, by decide, List.pairwise_singleton ..⟩
  obtain ⟨allocator, initialised, runs⟩ := paging_run stored wellFormed pathTables_tree
  obtain ⟨final, ran, translated, -⟩ := runs [.allocate, .map 0x7123#64 0, .unlock]
  exact ⟨allocator, initialised, final, ran, translated 0x7123#64⟩

end QoreOS.Memory
