import QoreOS.Library.Alter
import QoreOS.Memory.Paging

/-! `unlockMmuForRing3` of `main.rs`. Four nested loops set the user bit of
every present entry in the tables they are reading, which may be shared or
may contain themselves. The proof describes the final memory in closed form. -/

namespace QoreOS.Memory

open QoreOS.Library

/-- Bit 2, the user bit of an entry. -/
def userBit : BitVec 64 := 0x4#64

/-- The loop over the 512 entries of a page table. -/
def unlockPt (memory : Words) (ptPtr : BitVec 64) : Words :=
  (List.range 512).foldl (fun memory l =>
    let ptEntry := memory (ptPtr.toNat + 8 * l)
    if ptEntry &&& 1#64 ≠ 0#64 then
      Function.update memory (ptPtr.toNat + 8 * l) (ptEntry ||| userBit)
    else memory) memory

/-- The loop over an upper table: `below` is the loop nested in it. -/
def unlockUpper (below : Words → BitVec 64 → Words) (memory : Words) (table : BitVec 64) : Words :=
  (List.range 512).foldl (fun memory i =>
    let entry := memory (table.toNat + 8 * i)
    if entry &&& 1#64 ≠ 0#64 then
      let memory := Function.update memory (table.toNat + 8 * i) (entry ||| userBit)
      if entry &&& 0x80#64 = 0#64 then below memory (entry &&& addressMask) else memory
    else memory) memory

def unlockPd : Words → BitVec 64 → Words := unlockUpper unlockPt
def unlockPdpt : Words → BitVec 64 → Words := unlockUpper unlockPd
def unlockPml4 : Words → BitVec 64 → Words := unlockUpper unlockPdpt

def unlockMmuForRing3 (memory : Words) (cr3 : BitVec 64) : Words :=
  unlockPml4 memory (level4Table cr3)

/-- Present entries met by the loops `depth` levels above the page tables. -/
inductive Visited (memory : Words) : Nat → BitVec 64 → Nat → Prop where
  | entry {depth index : Nat} {table : BitVec 64} (small : index < 512)
      (present : memory (table.toNat + 8 * index) &&& 1#64 ≠ 0#64) :
      Visited memory depth table (table.toNat + 8 * index)
  | nested {depth index address : Nat} {table : BitVec 64} (small : index < 512)
      (present : memory (table.toNat + 8 * index) &&& 1#64 ≠ 0#64)
      (leads : memory (table.toNat + 8 * index) &&& 0x80#64 = 0#64)
      (deeper : Visited memory depth (memory (table.toNat + 8 * index) &&& addressMask) address) :
      Visited memory (depth + 1) table address

/-- The memories agree in everything but user bits. -/
def SameButUser (memory other : Words) : Prop :=
  ∀ address, other address ||| userBit = memory address ||| userBit

theorem SameButUser.refl (memory : Words) : SameButUser memory memory := fun _ => rfl

theorem SameButUser.symm {memory other : Words} (same : SameButUser memory other) :
    SameButUser other memory := fun address => (same address).symm

theorem SameButUser.trans {first second third : Words} (one : SameButUser first second)
    (two : SameButUser second third) : SameButUser first third :=
  fun address => (two address).trans (one address)

/-- A mask without bit 2 reads the same from both memories. -/
theorem SameButUser.mask {memory other : Words} (same : SameButUser memory other) (address : Nat)
    {mask : BitVec 64} (free : userBit &&& mask = 0#64) : other address &&& mask = memory address &&& mask := by
  have both := congrArg (· &&& mask) (same address)
  simpa only [BitVec.and_or_distrib_right, free, BitVec.or_zero] using both

section
variable {memory other : Words}

theorem SameButUser.present (same : SameButUser memory other) (address : Nat) :
    other address &&& 1#64 = memory address &&& 1#64 := same.mask address (by decide)

theorem SameButUser.large (same : SameButUser memory other) (address : Nat) :
    other address &&& 0x80#64 = memory address &&& 0x80#64 := same.mask address (by decide)

theorem SameButUser.frame (same : SameButUser memory other) (address : Nat) :
    other address &&& addressMask = memory address &&& addressMask := same.mask address (by decide)

/-- The walk reads no user bit. -/
theorem SameButUser.walkLevels (same : SameButUser memory other) (virtAddr : BitVec 64)
    (level : Nat) (indices : List Nat) (table : BitVec 64) :
    walkLevels other virtAddr level indices table =
      walkLevels memory virtAddr level indices table := by
  induction indices generalizing level table with
  | nil => rfl
  | cons index rest ih => simp only [Memory.walkLevels, same.present, same.large, same.frame, ih]

theorem SameButUser.walkPageTable (same : SameButUser memory other) (cr3 virtAddr : BitVec 64) :
    walkPageTable other cr3 virtAddr = walkPageTable memory cr3 virtAddr :=
  same.walkLevels ..

/-- Nor does the traversal of the loops depend on user bits. -/
theorem SameButUser.visited (same : SameButUser memory other)
    (visit : Visited memory depth table address) : Visited other depth table address := by
  induction visit with
  | entry small present => exact .entry small (by rwa [same.present])
  | nested small present leads _ ih =>
    exact .nested small (by rwa [same.present]) (by rwa [same.large]) (by rwa [same.frame])

theorem SameButUser.visited_iff (same : SameButUser memory other) :
    Visited other depth table address ↔ Visited memory depth table address :=
  ⟨same.symm.visited, same.visited⟩

end

/-- The user bit is set in exactly the `chosen` words. -/
abbrev RaisedAt (chosen : Nat → Prop) (before after : Words) : Prop :=
  AltersAt (· ||| userBit) chosen before after

theorem user_idempotent (entry : BitVec 64) : entry ||| userBit ||| userBit = entry ||| userBit := by
  rw [BitVec.or_assoc, BitVec.or_self]

theorem RaisedAt.sameButUser {chosen : Nat → Prop} {before after : Words}
    (raised : RaisedAt chosen before after) : SameButUser before after := by
  intro address
  by_cases picked : chosen address
  · rw [(raised address).1 picked, user_idempotent]
  · rw [(raised address).2 picked]

/-- What one round of a loop visits. -/
def VisitedFrom (memory : Words) (depth : Nat) (table : BitVec 64) (index address : Nat) : Prop :=
  memory (table.toNat + 8 * index) &&& 1#64 ≠ 0#64 ∧
    (address = table.toNat + 8 * index ∨ ∃ less, depth = less + 1 ∧
      memory (table.toNat + 8 * index) &&& 0x80#64 = 0#64 ∧
      Visited memory less (memory (table.toNat + 8 * index) &&& addressMask) address)

theorem visited_iff (memory : Words) (depth : Nat) (table : BitVec 64) (address : Nat) :
    Visited memory depth table address ↔
      ∃ index ∈ List.range 512, VisitedFrom memory depth table index address := by
  constructor
  · intro visit
    cases visit with
    | entry small present => exact ⟨_, List.mem_range.mpr small, present, .inl rfl⟩
    | nested small present leads deeper =>
      exact ⟨_, List.mem_range.mpr small, present, .inr ⟨_, rfl, leads, deeper⟩⟩
  · rintro ⟨index, small, present, rfl | ⟨less, rfl, leads, deeper⟩⟩
    · exact .entry (List.mem_range.mp small) present
    · exact .nested (List.mem_range.mp small) present leads deeper

theorem SameButUser.visitedFrom {memory other : Words} (same : SameButUser memory other) :
    VisitedFrom other depth table index address ↔ VisitedFrom memory depth table index address := by
  simp only [VisitedFrom, same.present, same.large, same.frame, same.visited_iff]

/-- A loop whose rounds each raise what they visit raises what the whole loop
visits in the memory before it: later rounds see the same traversal. -/
theorem foldl_raises {round : Words → Nat → Words}
    (raises : ∀ memory index, RaisedAt (VisitedFrom memory depth table index) memory (round memory index))
    (memory : Words) :
    RaisedAt (Visited memory depth table) memory ((List.range 512).foldl round memory) :=
  (AltersAt.foldl (fun memory : Words => memory) user_idempotent raises
    (fun memory index _ _ => (raises memory index).sameButUser.visitedFrom) (List.range 512)
    memory).congr fun address => (visited_iff memory depth table address).symm

theorem unlockPt_raises (memory : Words) (table : BitVec 64) :
    RaisedAt (Visited memory 0 table) memory (unlockPt memory table) := by
  refine foldl_raises ?_ memory
  intro memory index
  dsimp only
  split
  · rename_i present
    apply (AltersAt.update memory _).congr
    intro address
    simp [VisitedFrom, present]
  · rename_i absent
    exact AltersAt.none memory fun address visit => absent visit.1

theorem unlockUpper_raises {below : Words → BitVec 64 → Words} {depth : Nat}
    (raises : ∀ memory table, RaisedAt (Visited memory depth table) memory (below memory table))
    (memory : Words) (table : BitVec 64) :
    RaisedAt (Visited memory (depth + 1) table) memory (unlockUpper below memory table) := by
  refine foldl_raises ?_ memory
  intro memory index
  dsimp only
  split
  · rename_i present
    have own : RaisedAt _ memory _ := AltersAt.update memory (table.toNat + 8 * index)
    split
    · rename_i leads
      apply (own.trans user_idempotent (raises _ _)).congr
      intro address
      rw [own.sameButUser.visited_iff]
      simp [VisitedFrom, present, leads]
    · rename_i large
      apply own.congr
      intro address
      simp [VisitedFrom, present, large]
  · rename_i absent
    exact AltersAt.none memory fun address visit => absent visit.1

/-- The final memory in closed form. -/
theorem unlockMmu_raises (memory : Words) (cr3 : BitVec 64) :
    RaisedAt (Visited memory 3 (level4Table cr3)) memory (unlockMmuForRing3 memory cr3) :=
  unlockUpper_raises (unlockUpper_raises (unlockUpper_raises unlockPt_raises)) memory _

/-- An entry slot of some table which the hardware tables reach. -/
def TableEntry (memory : Words) (cr3 : BitVec 64) (address : Nat) : Prop :=
  ∃ path table index, path.length ≤ 3 ∧ (∀ step ∈ path, step < 512) ∧ index < 512 ∧
    follow memory 0 (level4Table cr3) path = some table ∧ address = table.toNat + 8 * index

theorem Visited.tableEntry {memory : Words} {depth : Nat} {table : BitVec 64} {address : Nat}
    (visit : Visited memory depth table address) (level : Nat) (levels : level + depth = 3) :
    ∃ path target index, path.length ≤ depth ∧ (∀ step ∈ path, step < 512) ∧ index < 512 ∧
      follow memory level table path = some target ∧ address = target.toNat + 8 * index := by
  induction visit generalizing level with
  | entry small present => exact ⟨[], _, _, by simp, by simp, small, rfl, rfl⟩
  | @nested _ index _ _ small present leads deeper ih =>
    obtain ⟨path, target, last, short, inside, lastSmall, reached, same⟩ :=
      ih (level + 1) (by omega)
    refine ⟨index :: path, target, last, by simpa using short, ?_, lastSmall, ?_, same⟩
    · intro step member
      rcases List.mem_cons.mp member with rfl | later
      · exact small
      · exact inside step later
    · have goes : Continues level _ := ⟨present, fun large => large.2 leads⟩
      exact (if_pos goes).trans reached

theorem Visited.present {memory : Words} (visit : Visited memory depth table address) :
    memory address &&& 1#64 ≠ 0#64 := by
  induction visit with
  | entry _ present => exact present
  | nested _ _ _ _ ih => exact ih

/-- Every entry on a successful walk is visited, unless the walk passes a PML4
entry whose reserved bit 7 is set, which the loops skip. -/
theorem visited_of_mem_reads {memory : Words} {virtAddr : BitVec 64} (level depth : Nat)
    {indices : List Nat} {table : BitVec 64} (levels : level + depth = 3)
    (length : indices.length = depth + 1) (small : ∀ index ∈ indices, index < 512)
    (reserved : level = 0 → ∀ index < 512, memory (table.toNat + 8 * index) &&& 0x80#64 = 0#64)
    (walks : (walkLevels memory virtAddr level indices table).isSome)
    {address : Nat} (member : address ∈ reads memory level indices table) :
    Visited memory depth table address := by
  induction indices generalizing level depth table with
  | nil => simp [reads] at member
  | cons index rest ih =>
    have first : index < 512 := small index (by simp)
    have present : memory (table.toNat + 8 * index) &&& 1#64 ≠ 0#64 := by
      intro absent
      simp [walkLevels, absent] at walks
    simp only [reads, List.mem_cons] at member
    rcases member with rfl | later
    · exact .entry first present
    · split at later
      · rename_i goes
        cases depth with
        | zero =>
          have empty : rest = [] := List.eq_nil_of_length_eq_zero (by simpa using length)
          simp [empty, reads] at later
        | succ depth =>
          have leads : memory (table.toNat + 8 * index) &&& 0x80#64 = 0#64 := by
            by_cases top : level = 0
            · exact reserved top index first
            · by_contra large
              exact goes.2 ⟨by omega, large⟩
          rw [walkLevels_next goes] at walks
          exact .nested first present leads (ih (level + 1) depth (by omega) (by simpa using length)
            (fun other member => small other (by simp [member])) (by omega) walks later)
      · simp at later

/-- For any memory and `CR3`: translations are kept, only user bits of present
table entries change, every entry on a translating path is opened unless the
PML4 uses its reserved bit 7, and a second run changes nothing. -/
theorem unlockMmu_effect (memory : Words) (cr3 : BitVec 64) :
    (∀ virtAddr, walkPageTable (unlockMmuForRing3 memory cr3) cr3 virtAddr =
      walkPageTable memory cr3 virtAddr) ∧
    (∀ address, unlockMmuForRing3 memory cr3 address = memory address ∨
      (TableEntry memory cr3 address ∧ memory address &&& 1#64 ≠ 0#64 ∧
        unlockMmuForRing3 memory cr3 address = memory address ||| userBit)) ∧
    ((∀ index < 512, memory ((level4Table cr3).toNat + 8 * index) &&& 0x80#64 = 0#64) →
      ∀ virtAddr, (walkPageTable memory cr3 virtAddr).isSome →
        ∀ address ∈ reads memory 0 (pageIndices virtAddr) (level4Table cr3),
          (unlockMmuForRing3 memory cr3 address).getLsbD 2 = true) ∧
    unlockMmuForRing3 (unlockMmuForRing3 memory cr3) cr3 = unlockMmuForRing3 memory cr3 := by
  have raised := unlockMmu_raises memory cr3
  refine ⟨?_, ?_, ?_, ?_⟩
  · exact fun virtAddr => raised.sameButUser.walkPageTable cr3 virtAddr
  · intro address
    by_cases visit : Visited memory 3 (level4Table cr3) address
    · exact .inr ⟨visit.tableEntry 0 rfl, visit.present, (raised address).1 visit⟩
    · exact .inl ((raised address).2 visit)
  · intro reserved virtAddr walks address member
    have visit := visited_of_mem_reads 0 3 rfl (by rfl) (pageIndices_lt virtAddr)
      (fun _ => reserved) walks member
    rw [(raised address).1 visit, BitVec.getLsbD_or]
    simp [userBit]
  · have second := unlockMmu_raises (unlockMmuForRing3 memory cr3) cr3
    exact raised.again user_idempotent (second.congr fun _ => raised.sameButUser.visited_iff)

end QoreOS.Memory
