import Mathlib.Logic.Function.Basic
import Mathlib.Data.List.Basic
import Mathlib.Data.Nat.Bitwise

/-! Four-level page tables in physical memory: the walk and the entry writer of
`memory.rs`. Table pages are identity mapped, so a table pointer is its
physical address. -/

namespace QoreOS.Memory

/-- Physical memory as the tables use it: the 64-bit word at each byte address. -/
abbrev Words := Nat → BitVec 64

/-- Bits 12 to 51, the frame address held by an entry and by `CR3`. -/
def addressMask : BitVec 64 := 0x000FFFFFFFFFF000#64

/-- `Cr3::read`: the frame of the level-4 table. -/
def level4Table (cr3 : BitVec 64) : BitVec 64 := cr3 &&& addressMask

/-- The table indices of an address, from the PML4 down. -/
def pageIndices (virtAddr : BitVec 64) : List Nat :=
  [((virtAddr >>> 39) &&& 0x1FF#64).toNat, ((virtAddr >>> 30) &&& 0x1FF#64).toNat,
    ((virtAddr >>> 21) &&& 0x1FF#64).toNat, ((virtAddr >>> 12) &&& 0x1FF#64).toNat]

/-- The loop of `walkPageTable` over the remaining levels. -/
def walkLevels (memory : Words) (virtAddr : BitVec 64) :
    Nat → List Nat → BitVec 64 → Option (BitVec 64)
  | _, [], table => some (table + (virtAddr &&& 0xFFF#64))
  | level, index :: rest, table =>
    let entry := memory (table.toNat + 8 * index)
    if entry &&& 1#64 = 0#64 then none
    else
      let next := entry &&& addressMask
      if (level = 1 ∨ level = 2) ∧ entry &&& 0x80#64 ≠ 0#64 then
        let offsetMask := if level = 1 then 0x3FFFFFFF#64 else 0x1FFFFF#64
        some (next + (virtAddr &&& offsetMask))
      else walkLevels memory virtAddr (level + 1) rest next

def walkPageTable (memory : Words) (cr3 virtAddr : BitVec 64) : Option (BitVec 64) :=
  walkLevels memory virtAddr 0 (pageIndices virtAddr) (level4Table cr3)

/-- Where `mapPage` and the walk find the entry of `table` for one level. -/
def entryAddress (table : BitVec 64) (virtAddr : BitVec 64) (shift : Nat) : Nat :=
  table.toNat + 8 * ((virtAddr >>> shift) &&& 0x1FF#64).toNat

def pml4Entry (memory : Words) (cr3 virtAddr : BitVec 64) : BitVec 64 :=
  memory (entryAddress (level4Table cr3) virtAddr 39)

def pdptEntry (memory : Words) (cr3 virtAddr : BitVec 64) : BitVec 64 :=
  memory (entryAddress (pml4Entry memory cr3 virtAddr &&& addressMask) virtAddr 30)

def pdEntry (memory : Words) (cr3 virtAddr : BitVec 64) : BitVec 64 :=
  memory (entryAddress (pdptEntry memory cr3 virtAddr &&& addressMask) virtAddr 21)

/-- `mapPage`: each missing or large upper entry aborts without a write. -/
def mapPage (memory : Words) (cr3 virtAddr physFrame : BitVec 64) : Words :=
  if pml4Entry memory cr3 virtAddr &&& 1#64 = 0#64 then memory
  else if pdptEntry memory cr3 virtAddr &&& 1#64 = 0#64 ∨
      pdptEntry memory cr3 virtAddr &&& 0x80#64 ≠ 0#64 then memory
  else if pdEntry memory cr3 virtAddr &&& 1#64 = 0#64 ∨
      pdEntry memory cr3 virtAddr &&& 0x80#64 ≠ 0#64 then memory
  else
    let ptPhys := pdEntry memory cr3 virtAddr &&& addressMask
    let newPte := physFrame ||| 0b11#64
    Function.update memory (entryAddress ptPhys virtAddr 12) newPte

/-- Entries through which a walk goes on to the next table. -/
def Continues (level : Nat) (entry : BitVec 64) : Prop :=
  entry &&& 1#64 ≠ 0#64 ∧ ¬ ((level = 1 ∨ level = 2) ∧ entry &&& 0x80#64 ≠ 0#64)

instance (level : Nat) (entry : BitVec 64) : Decidable (Continues level entry) :=
  inferInstanceAs (Decidable (_ ∧ _))

theorem continues_top {entry : BitVec 64} (present : entry &&& 1#64 ≠ 0#64) : Continues 0 entry :=
  ⟨present, by simp⟩

/-- The table page at the end of an index path, if every entry on the path
leads on. -/
def follow (memory : Words) : Nat → BitVec 64 → List Nat → Option (BitVec 64)
  | _, table, [] => some table
  | level, table, index :: path =>
    let entry := memory (table.toNat + 8 * index)
    if Continues level entry then follow memory (level + 1) (entry &&& addressMask) path else none

/-- The addresses of the entries a walk reads, in order. -/
def reads (memory : Words) : Nat → List Nat → BitVec 64 → List Nat
  | _, [], _ => []
  | level, index :: rest, table =>
    let address := table.toNat + 8 * index
    address :: if Continues level (memory address) then
      reads memory (level + 1) rest (memory address &&& addressMask) else []

/-- No table page is reached by two different index paths. -/
def IsTree (memory : Words) (cr3 : BitVec 64) : Prop :=
  ∀ first second table, first.length ≤ 3 → second.length ≤ 3 →
    (∀ index ∈ first, index < 512) → (∀ index ∈ second, index < 512) →
    follow memory 0 (level4Table cr3) first = some table →
    follow memory 0 (level4Table cr3) second = some table → first = second

/-- A table of the tree and an index path to it. -/
structure Reached (memory : Words) (cr3 : BitVec 64) (path : List Nat) (table : BitVec 64) :
    Prop where
  short : path.length ≤ 3
  inside : ∀ index ∈ path, index < 512
  follows : follow memory 0 (level4Table cr3) path = some table

theorem addressMask_getLsbD (bit : Nat) (inside : bit < 64) :
    addressMask.getLsbD bit = decide (12 ≤ bit ∧ bit < 52) := by
  have all : ∀ position : Fin 64,
      addressMask.getLsbD position = decide (12 ≤ position.val ∧ position.val < 52) := by decide
  exact all ⟨bit, inside⟩

theorem page_aligned (entry : BitVec 64) : (entry &&& addressMask).toNat % 4096 = 0 := by
  have low : (entry.toNat &&& addressMask.toNat) % 2 ^ 12 = 0 := by
    rw [Nat.and_mod_two_pow, show addressMask.toNat % 2 ^ 12 = 0 from rfl, Nat.and_zero]
  simpa [BitVec.toNat_and] using low

theorem index_lt (virtAddr : BitVec 64) (shift : Nat) :
    ((virtAddr >>> shift) &&& 0x1FF#64).toNat < 512 := by
  rw [BitVec.toNat_and]
  exact Nat.lt_of_le_of_lt Nat.and_le_right (by decide)

theorem pageIndices_lt (virtAddr : BitVec 64) : ∀ index ∈ pageIndices virtAddr, index < 512 := by
  intro index member
  simp only [pageIndices, List.mem_cons, List.not_mem_nil, or_false] at member
  rcases member with rfl | rfl | rfl | rfl <;> exact index_lt virtAddr _

/-- The entries of page-aligned tables do not overlap. -/
theorem entry_injective {first second : BitVec 64} {one two : Nat}
    (firstAligned : first.toNat % 4096 = 0) (secondAligned : second.toNat % 4096 = 0)
    (oneSmall : one < 512) (twoSmall : two < 512)
    (same : first.toNat + 8 * one = second.toNat + 8 * two) : first = second ∧ one = two := by
  have tables : first.toNat = second.toNat := by omega
  exact ⟨BitVec.eq_of_toNat_eq tables, by omega⟩

theorem follow_aligned {memory : Words} {level : Nat} {table target : BitVec 64} {path : List Nat}
    (aligned : table.toNat % 4096 = 0) (reached : follow memory level table path = some target) :
    target.toNat % 4096 = 0 := by
  induction path generalizing level table with
  | nil =>
    cases reached
    exact aligned
  | cons index path ih =>
    simp only [follow] at reached
    split at reached
    · exact ih (page_aligned _) reached
    · cases reached

/-- Every address a walk reads is an entry of a table on its own path. -/
theorem follow_of_mem_reads {memory : Words} {level : Nat} {indices : List Nat} {table : BitVec 64}
    {address : Nat} (member : address ∈ reads memory level indices table) :
    ∃ path index rest target, indices = path ++ index :: rest ∧
      follow memory level table path = some target ∧ address = target.toNat + 8 * index := by
  induction indices generalizing level table with
  | nil => simp [reads] at member
  | cons index rest ih =>
    simp only [reads, List.mem_cons] at member
    rcases member with here | later
    · exact ⟨[], index, rest, table, rfl, rfl, here⟩
    · split at later
      · rename_i leads
        obtain ⟨path, found, suffix, target, split, reached, same⟩ := ih later
        refine ⟨index :: path, found, suffix, target, by simp [split], ?_, same⟩
        simp only [follow, leads, ↓reduceIte, reached]
      · simp at later

/-- A walk depends only on the words it reads. -/
theorem walkLevels_congr {memory other : Words} {virtAddr : BitVec 64} {level : Nat}
    {indices : List Nat} {table : BitVec 64}
    (agree : ∀ address ∈ reads memory level indices table, other address = memory address) :
    walkLevels other virtAddr level indices table =
      walkLevels memory virtAddr level indices table := by
  induction indices generalizing level table with
  | nil => rfl
  | cons index rest ih =>
    have here : other (table.toNat + 8 * index) = memory (table.toNat + 8 * index) :=
      agree _ (by simp [reads])
    simp only [walkLevels, here]
    split
    · rfl
    · rename_i present
      split
      · rfl
      · rename_i small
        apply ih
        intro address later
        apply agree
        simp only [reads, List.mem_cons]
        right
        have leads : Continues level (memory (table.toNat + 8 * index)) := ⟨present, small⟩
        simpa [leads] using later

theorem walkLevels_next {memory : Words} {virtAddr table : BitVec 64} {level index : Nat}
    {rest : List Nat} (leads : Continues level (memory (table.toNat + 8 * index))) :
    walkLevels memory virtAddr level (index :: rest) table =
      walkLevels memory virtAddr (level + 1) rest
        (memory (table.toNat + 8 * index) &&& addressMask) := by
  obtain ⟨present, small⟩ := leads
  simp only [walkLevels, present, small, ↓reduceIte]

theorem walkLevels_absent {memory : Words} {virtAddr table : BitVec 64} {level index : Nat}
    {rest : List Nat} (absent : memory (table.toNat + 8 * index) &&& 1#64 = 0#64) :
    walkLevels memory virtAddr level (index :: rest) table = none := if_pos absent

section Tree

variable {memory after : Words} {cr3 virtAddr table target : BitVec 64} {path stem : List Nat}
  {index other : Nat}

theorem level4_aligned (cr3 : BitVec 64) : (level4Table cr3).toNat % 4096 = 0 := page_aligned cr3

theorem Reached.aligned (reached : Reached memory cr3 path table) : table.toNat % 4096 = 0 :=
  follow_aligned (level4_aligned cr3) reached.follows

theorem Reached.path_eq (tree : IsTree memory cr3) (reached : Reached memory cr3 path table)
    (stemReached : Reached memory cr3 stem table) : path = stem :=
  tree path stem table reached.short stemReached.short reached.inside stemReached.inside
    reached.follows stemReached.follows

/-- In a tree an entry ends one path only. -/
theorem Reached.unique (tree : IsTree memory cr3) (reached : Reached memory cr3 path table)
    (stemReached : Reached memory cr3 stem target) (small : index < 512) (otherSmall : other < 512)
    (same : table.toNat + 8 * index = target.toNat + 8 * other) :
    path ++ [index] = stem ++ [other] := by
  obtain ⟨rfl, rfl⟩ := entry_injective reached.aligned stemReached.aligned small otherSmall same
  rw [reached.path_eq tree stemReached]

/-- Different paths end in different entries. -/
theorem Reached.entry_differs (tree : IsTree memory cr3) (reached : Reached memory cr3 path table)
    (stemReached : Reached memory cr3 stem target) (differ : path ++ [index] ≠ stem ++ [other]) :
    table ≠ target ∨ index ≠ other := by
  by_contra both
  rw [not_or, not_not, not_not] at both
  obtain ⟨rfl, rfl⟩ := both
  exact differ (by rw [reached.path_eq tree stemReached])

/-- A walk depends only on the entries on its own path through the tables. -/
theorem walk_frame (agree : ∀ path index table, Reached memory cr3 path table → index < 512 →
      path ++ [index] <+: pageIndices virtAddr →
      after (table.toNat + 8 * index) = memory (table.toNat + 8 * index)) :
    walkPageTable after cr3 virtAddr = walkPageTable memory cr3 virtAddr := by
  apply walkLevels_congr
  intro address member
  obtain ⟨path, index, rest, table, split, follows, rfl⟩ := follow_of_mem_reads member
  have inside := pageIndices_lt virtAddr
  have total := congrArg List.length split
  simp only [pageIndices, List.length_cons, List.length_nil, List.length_append] at total
  rw [split] at inside
  exact agree path index table
    ⟨by omega, fun step member => inside step (by simp [member]), follows⟩ (inside index (by simp))
    ⟨rest, by rw [split, List.append_assoc, List.singleton_append]⟩

end Tree

end QoreOS.Memory
