import Mathlib.Logic.Relation
import QoreOS.Library.ByteMemory
import QoreOS.Library.WhileLoop

/-! The walk of `_start` through the entries of the MADT. -/

namespace QoreOS.Startup

open QoreOS.Library

/-- The locals of the walk, and the bytes of the table it has read so far. -/
structure MadtWalk where
  offset : Nat
  localApicBase : Nat
  ioapicBase : Nat
  reads : List Nat
  deriving DecidableEq

namespace MadtWalk

/-- The cells count from `madt_address`. -/
def after (walk : MadtWalk) (address size : Nat) : MadtWalk :=
  { walk with reads := walk.reads ++ List.range' address size }

variable (table : ByteMemory)

def madtLength : Nat := table.read 4 4

def entryType (offset : Nat) : Nat := table.read offset 1

def entryLen (offset : Nat) : Nat := table.read (offset + 1) 1

def start : MadtWalk :=
  let walk : MadtWalk := ⟨0x2C, table.read 0x24 4, 0, []⟩
  (walk.after 0x24 4).after 4 4

def goesOn (walk : MadtWalk) : Bool := walk.offset < madtLength table

/-- What a turn reads of the entry. -/
def readEntry (walk : MadtWalk) : MadtWalk :=
  let walk := (walk.after walk.offset 1).after (walk.offset + 1) 1
  if entryType table walk.offset = 1 then
    { walk.after (walk.offset + 4) 4 with ioapicBase := table.read (walk.offset + 4) 4 }
  else walk

/-- One turn of the loop. -/
def turn (walk : MadtWalk) : Option MadtWalk := do
  let walk := readEntry table walk
  let offset ← checked (2 ^ 32) (walk.offset + entryLen table walk.offset)
  return { walk with offset }

/-- The walk ends without an overflow and has read nothing behind the table. -/
def StaysInside : Prop :=
  ∃ final, Ends (goesOn table) (turn table) (start table) final ∧
    ∀ cell ∈ final.reads, cell < max (madtLength table) 0x2C

/-- The entry at `offset` has one behind it. -/
def Follows (offset next : Nat) : Prop :=
  offset < madtLength table ∧ next = offset + entryLen table offset

/-- An entry that is longer than nothing, has its fields in the table and ends below
4 GiB. -/
structure EntryFits (offset : Nat) : Prop where
  positive : 0 < entryLen table offset
  header : offset + 1 < madtLength table
  ioapic : entryType table offset = 1 → offset + 8 ≤ madtLength table
  bounded : offset + entryLen table offset < 2 ^ 32

/-- Every entry that starts in the table fits. -/
def EntriesFit (offset : Nat) : Prop :=
  ∀ entry, Relation.ReflTransGen (Follows table) offset entry → entry < madtLength table →
    EntryFits table entry

variable {table} {walk next : MadtWalk} {offset : Nat}

theorem readEntry_offset : (readEntry table walk).offset = walk.offset := by
  simp only [readEntry]
  split <;> rfl

theorem mem_readEntry {cell : Nat} : cell ∈ (readEntry table walk).reads ↔
    cell ∈ walk.reads ∨ cell = walk.offset ∨ cell = walk.offset + 1 ∨
      entryType table walk.offset = 1 ∧ walk.offset + 4 ≤ cell ∧ cell < walk.offset + 8 := by
  by_cases ioapic : entryType table walk.offset = 1
  · simp only [readEntry, after, ioapic, if_true, List.mem_append, List.mem_range'_1, true_and]
    grind
  · simp only [readEntry, after, ioapic, if_false, List.mem_append, List.mem_range'_1, false_and,
      or_false]
    grind

/-- What a turn does, if it does not overflow. -/
theorem turn_eq_some (turned : turn table walk = some next) :
    walk.offset + entryLen table walk.offset < 2 ^ 32 ∧
      next = { readEntry table walk with offset := walk.offset + entryLen table walk.offset } := by
  obtain ⟨offset, sum, same⟩ := Option.bind_eq_some_iff.mp turned
  obtain ⟨rfl, bounded⟩ := checked_eq_some sum
  rw [readEntry_offset] at same bounded
  cases same
  exact ⟨bounded, rfl⟩

theorem turn_of_lt (bounded : walk.offset + entryLen table walk.offset < 2 ^ 32) :
    turn table walk =
      some { readEntry table walk with offset := walk.offset + entryLen table walk.offset } := by
  have same : (readEntry table walk).offset = walk.offset := readEntry_offset
  rw [← same] at bounded
  rw [turn, checked_of_lt bounded, same]
  rfl

theorem goesOn_iff : goesOn table walk = true ↔ walk.offset < madtLength table := decide_eq_true_iff

theorem goesOn_eq_false : goesOn table walk = false ↔ madtLength table ≤ walk.offset := by
  rw [goesOn, decide_eq_false_iff_not, Nat.not_lt]

/-- An entry that fits leads to a later one. -/
theorem entriesFit_next (fits : EntriesFit table offset) (inside : offset < madtLength table) :
    EntryFits table offset ∧ EntriesFit table (offset + entryLen table offset) :=
  ⟨fits offset .refl inside,
    fun entry path => fits entry (.head ⟨inside, rfl⟩ path)⟩

theorem entriesFit_of_next (first : EntryFits table offset)
    (rest : EntriesFit table (offset + entryLen table offset)) : EntriesFit table offset := by
  intro entry path
  rcases path.cases_head with rfl | ⟨next, ⟨_, rfl⟩, path⟩
  · exact fun _ => first
  · exact rest entry path

theorem entriesFit_of_le (outside : madtLength table ≤ offset) : EntriesFit table offset := by
  intro entry path inside
  rcases path.cases_head with rfl | ⟨_, ⟨started, _⟩, _⟩
  · exact absurd inside (Nat.not_lt.mpr outside)
  · exact absurd started (Nat.not_lt.mpr outside)

/-- A walk through entries that fit ends, and everything it reads is in the table. -/
theorem ends_of_entriesFit (fits : EntriesFit table walk.offset)
    (inside : ∀ cell ∈ walk.reads, cell < max (madtLength table) 0x2C) :
    ∃ final, Ends (goesOn table) (turn table) walk final ∧
      ∀ cell ∈ final.reads, cell < max (madtLength table) 0x2C := by
  have walks := @ends_of_variant _ (goesOn table) (turn table) _
    (fun walk => EntriesFit table walk.offset ∧
      ∀ cell ∈ walk.reads, cell < max (madtLength table) 0x2C)
    (fun walk => madtLength table - walk.offset)
    (fun walk invariant goesOn => ?_) ⟨fits, inside⟩
  · obtain ⟨final, ends, ⟨_, holds⟩, _⟩ := walks
    exact ⟨final, ends, holds⟩
  · have started := goesOn_iff.mp goesOn
    obtain ⟨entry, rest⟩ := entriesFit_next invariant.1 started
    refine ⟨_, turn_of_lt entry.bounded, ⟨rest, fun cell member => ?_⟩, ?_⟩
    · have header := entry.header
      rcases mem_readEntry.mp member with before | rfl | rfl | ⟨ioapic, _, last⟩
      · exact invariant.2 cell before
      · omega
      · omega
      · have field := entry.ioapic ioapic
        omega
    · have positive := entry.positive
      change madtLength table - (walk.offset + entryLen table walk.offset) < _
      omega

/-- A walk that ends and stays inside has met entries that fit only. -/
theorem entriesFit_of_ends {final : MadtWalk} (start : 0x2C ≤ walk.offset)
    (ends : Ends (goesOn table) (turn table) walk final)
    (inside : ∀ cell ∈ final.reads, cell < max (madtLength table) 0x2C) :
    EntriesFit table walk.offset := by
  have both : 0x2C ≤ walk.offset →
      EntriesFit table walk.offset ∧ ∀ cell ∈ walk.reads, cell ∈ final.reads := by
    refine ends.backwards (motive := fun walk => 0x2C ≤ walk.offset →
      EntriesFit table walk.offset ∧ ∀ cell ∈ walk.reads, cell ∈ final.reads)
      (fun done _ => ?_) (fun walk next goesOn turned later start => ?_)
    · exact ⟨entriesFit_of_le (goesOn_eq_false.mp done), fun _ member => member⟩
    · have started := goesOn_iff.mp goesOn
      obtain ⟨bounded, rfl⟩ := turn_eq_some turned
      obtain ⟨rest, seen⟩ := later (Nat.le_trans start (Nat.le_add_right ..))
      have read : ∀ cell ∈ (readEntry table walk).reads, cell < madtLength table := by
        intro cell member
        have limit := inside cell (seen cell member)
        omega
      refine ⟨entriesFit_of_next ⟨?_, ?_, ?_, bounded⟩ rest,
        fun cell member => seen cell (mem_readEntry.mpr (.inl member))⟩
      · -- An empty entry would be the next one as well.
        refine Nat.pos_of_ne_zero fun zero => ?_
        change EntriesFit table (walk.offset + entryLen table walk.offset) at rest
        rw [zero, Nat.add_zero] at rest
        exact absurd zero (Nat.ne_of_gt (rest _ .refl started).positive)
      · exact read _ (mem_readEntry.mpr (.inr (.inr (.inl rfl))))
      · intro ioapic
        exact read (walk.offset + 7)
          (mem_readEntry.mpr (.inr (.inr (.inr ⟨ioapic, by omega, by omega⟩))))
  exact (both start).1

theorem StaysInside.entriesFit (stays : StaysInside table) : EntriesFit table 0x2C := by
  obtain ⟨final, ends, inside⟩ := stays
  exact entriesFit_of_ends (Nat.le_refl _) ends inside

/-- The walk ends inside the table just when every entry that it comes to fits. -/
theorem staysInside_iff (table : ByteMemory) : StaysInside table ↔ EntriesFit table 0x2C := by
  constructor
  · exact StaysInside.entriesFit
  · intro fits
    refine ends_of_entriesFit fits fun cell member => ?_
    simp only [start, after, List.mem_append, List.mem_range'_1, List.not_mem_nil,
      false_or] at member
    omega

/-- A table of 46 bytes whose only entry is empty. -/
def emptyEntry : ByteMemory := ByteMemory.write (fun _ => 0) 4 4 0x2E

theorem emptyEntry_loops : ¬ ∀ table, StaysInside table := by
  intro always
  have entry := (always emptyEntry).entriesFit 0x2C .refl (by decide)
  exact absurd entry.positive (by decide)

end MadtWalk

end QoreOS.Startup
