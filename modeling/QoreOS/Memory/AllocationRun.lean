import QoreOS.Memory.FrameAllocator

/-! The allocator as a component: the frames it hands out, in order, over any
number of calls, for an arbitrary firmware memory map. -/

namespace QoreOS.Memory

open QoreOS.Library

/-- The bytes a descriptor describes. -/
def UefiMemoryDescriptor.contains (descriptor : UefiMemoryDescriptor) (address : Nat) : Prop :=
  descriptor.physicalStart ≤ address ∧
    address < descriptor.physicalStart + descriptor.numberOfPages * pageSize

instance (descriptor : UefiMemoryDescriptor) (address : Nat) :
    Decidable (descriptor.contains address) :=
  inferInstanceAs (Decidable (_ ∧ _))

/-- A firmware map in the sense of the UEFI specification, in any order. -/
structure WellFormedMap (descriptors : List UefiMemoryDescriptor) : Prop where
  aligned : ∀ descriptor ∈ descriptors, descriptor.physicalStart % pageSize = 0
  ending : ∀ descriptor ∈ descriptors,
    descriptor.physicalStart + descriptor.numberOfPages * pageSize ≤ 2 ^ 64
  disjoint : descriptors.Pairwise fun first second =>
    ∀ address, ¬ (first.contains address ∧ second.contains address)

/-- `memory` holds the descriptors at the stride which `info` announces. -/
structure StoredMap (memory : Ram) (info : BootInfo) (descriptors : List UefiMemoryDescriptor) :
    Prop where
  stride : info.memoryMapDescSize ≠ 0
  count : info.memoryMapSize / info.memoryMapDescSize = descriptors.length
  stored : ∀ i (inside : i < descriptors.length), UefiMemoryDescriptor.read memory
    (info.memoryMapAddr + i * info.memoryMapDescSize) = descriptors[i]

/-- The conventional frames below the tracking limit, lowest address first. -/
def conventionalFrames (descriptors : List UefiMemoryDescriptor) : List Nat :=
  ((List.range (bitmapSize * 64)).filter fun frame =>
    decide (∃ descriptor ∈ descriptors, descriptor.ty = 7 ∧
      descriptor.contains (pageSize * frame))).map (pageSize * ·)

/-- What holds of the allocator between any two of its steps. -/
structure Consistent (allocator : BitmapAllocator) : Prop where
  counted : allocator.freeFrames = (Bitmap.members allocator.bitmap).length
  bounded : ∀ frame ∈ Bitmap.members allocator.bitmap, frame ≤ allocator.highestFrame

/-- A consistent allocator whose scan stays inside the bitmap. -/
structure Valid (allocator : BitmapAllocator) : Prop extends Consistent allocator where
  tracked : allocator.highestFrame < bitmapSize * 64

theorem Valid.initial : Valid frameAllocator where
  counted := by simp [frameAllocator, Bitmap.members_replicate_zero]
  bounded := by simp [frameAllocator, Bitmap.members_replicate_zero]
  tracked := by decide

/-- The frames which the loops of `init` visit for one descriptor. -/
def visited (descriptor : UefiMemoryDescriptor) : List Nat :=
  if descriptor.ty = 7 then
    List.range' (descriptor.physicalStart / pageSize) descriptor.numberOfPages
  else []

theorem mem_visited {descriptor : UefiMemoryDescriptor}
    (aligned : descriptor.physicalStart % pageSize = 0) (frame : Nat) :
    frame ∈ visited descriptor ↔
      descriptor.ty = 7 ∧ descriptor.contains (pageSize * frame) := by
  unfold visited
  by_cases conventional : descriptor.ty = 7
  · simp only [conventional, ↓reduceIte, List.mem_range'_1, true_and,
      UefiMemoryDescriptor.contains, pageSize] at *
    omega
  · simp [conventional]

/-- The nested loops of `init` are one loop over the visited frames. -/
theorem run_freeDescriptor {descriptors : List UefiMemoryDescriptor}
    (ending : ∀ descriptor ∈ descriptors,
      descriptor.physicalStart + descriptor.numberOfPages * pageSize ≤ 2 ^ 64)
    (state : BitmapAllocator × Nat) :
    run freeDescriptor descriptors state = run markFrame (descriptors.flatMap visited) state := by
  induction descriptors generalizing state with
  | nil => rfl
  | cons descriptor rest ih =>
    have below := ending descriptor (by simp)
    have small : descriptor.physicalStart / pageSize + descriptor.numberOfPages < 2 ^ 64 := by
      simp only [pageSize] at *
      omega
    have head : freeDescriptor state descriptor = run markFrame (visited descriptor) state := by
      unfold freeDescriptor visited
      split
      · simp only [small, ↓reduceIte, Nat.add_sub_cancel_left]
      · rfl
    rw [run_cons, head, List.flatMap_cons, run_append]
    congr 1
    funext middle
    exact ih (fun other member => ending other (by simp [member])) middle

theorem visited_nodup {descriptors : List UefiMemoryDescriptor}
    (wellFormed : WellFormedMap descriptors) : (descriptors.flatMap visited).Nodup := by
  rw [List.nodup_flatMap]
  constructor
  · intro descriptor _
    unfold visited
    split
    · exact List.nodup_range'
    · exact List.nodup_nil
  · apply wellFormed.disjoint.imp_of_mem
    intro first second firstMember secondMember apart frame inFirst inSecond
    have one := (mem_visited (wellFormed.aligned first firstMember) frame).mp inFirst
    have two := (mem_visited (wellFormed.aligned second secondMember) frame).mp inSecond
    exact apart (pageSize * frame) ⟨one.2, two.2⟩

/-- One frame not yet free: the bit appears, the counters follow, and the
`i32` counter cannot overflow because it never passes the bitmap's size. -/
theorem markFrame_spec {allocator : BitmapAllocator} (valid : Valid allocator) (frame : Nat)
    (fresh : Bitmap.member allocator.bitmap frame = false) :
    ∃ next, markFrame (allocator, allocator.freeFrames) frame = some (next, next.freeFrames) ∧
      Valid next ∧ ∀ other, Bitmap.member next.bitmap other =
        (decide (frame = other ∧ frame < bitmapSize * 64) || Bitmap.member allocator.bitmap other) := by
  by_cases tracked : frame < bitmapSize * 64
  · have word := word_bound frame tracked
    have room : allocator.freeFrames + 1 < 2 ^ 31 := by
      have bound := Bitmap.members_length_le allocator.bitmap
      rw [← valid.counted] at bound
      simp only [bitmapSize] at bound
      omega
    refine ⟨{
      bitmap := Bitmap.insert allocator.bitmap frame word
      freeFrames := allocator.freeFrames + 1
      highestFrame :=
        if frame > allocator.highestFrame then frame else allocator.highestFrame }, ?_, ?_, ?_⟩
    · simp only [markFrame, tracked, ↓reduceDIte, room, ↓reduceIte]
      rfl
    · refine ⟨⟨?_, ?_⟩, ?_⟩
      · simp [Bitmap.members_insert_length (by decide) _ _ word fresh, valid.counted]
      · intro other member
        rw [Bitmap.mem_members (by decide), Bitmap.member_insert (by decide), Bool.or_eq_true,
          decide_eq_true_eq] at member
        rcases member with rfl | old
        · dsimp only
          split <;> omega
        · have below := valid.bounded other ((Bitmap.mem_members (by decide) _ _).mpr old)
          dsimp only
          split <;> omega
      · have low := valid.tracked
        dsimp only
        split <;> omega
    · intro other
      simp [Bitmap.member_insert (by decide : 0 < 64), tracked]
  · refine ⟨allocator, ?_, valid, ?_⟩
    · simp [markFrame, tracked]
    · simp [tracked]

/-- The whole marking loop over distinct frames none of which is free yet. -/
theorem run_markFrame {frames : List Nat} (distinct : frames.Nodup) {allocator : BitmapAllocator}
    (valid : Valid allocator) (fresh : ∀ frame ∈ frames, Bitmap.member allocator.bitmap frame = false) :
    ∃ final, run markFrame frames (allocator, allocator.freeFrames) =
        some (final, final.freeFrames) ∧
      Valid final ∧ ∀ other, Bitmap.member final.bitmap other =
        (decide (other ∈ frames ∧ other < bitmapSize * 64) ||
          Bitmap.member allocator.bitmap other) := by
  induction frames generalizing allocator with
  | nil => exact ⟨allocator, rfl, valid, by simp⟩
  | cons frame rest ih =>
    obtain ⟨absent, distinct⟩ := List.nodup_cons.mp distinct
    obtain ⟨next, marked, nextValid, nextMember⟩ :=
      markFrame_spec valid frame (fresh frame (by simp))
    have stillFresh : ∀ other ∈ rest, Bitmap.member next.bitmap other = false := by
      intro other member
      have apart : frame ≠ other := fun same => absent (same ▸ member)
      simp [nextMember, apart, fresh other (by simp [member])]
    obtain ⟨final, success, finalValid, finalMember⟩ := ih distinct nextValid stillFresh
    refine ⟨final, by rw [run_cons, marked]; exact success, finalValid, ?_⟩
    intro other
    rw [finalMember, nextMember, ← Bool.or_assoc]
    congr 1
    by_cases same : frame = other
    · subst same; simp [absent]
    · simp [same, Ne.symm same]

/-- `allocateFrame` with no free frame left answers `None` and changes nothing. -/
theorem allocateFrame_empty {allocator : BitmapAllocator} (valid : Valid allocator)
    (empty : Bitmap.members allocator.bitmap = []) :
    allocateFrame allocator = some (none, allocator) := by
  have clear : ∀ frames : List Nat, (∀ frame ∈ frames, frame < bitmapSize * 64) →
      scanFrames allocator frames = some (none, allocator) := by
    intro frames inside
    induction frames with
    | nil => rfl
    | cons frame rest ih =>
      have word := word_bound frame (inside frame (by simp))
      have absent : Bitmap.member allocator.bitmap frame = false := by
        have outside : frame ∉ Bitmap.members allocator.bitmap := by simp [empty]
        simpa [Bitmap.mem_members (by decide : 0 < 64)] using outside
      have test := Bitmap.member_eq_test (by decide) allocator.bitmap frame word
      rw [absent, decide_eq_false_iff_not] at test
      simp only [scanFrames, word, ↓reduceDIte, test, ↓reduceIte]
      exact ih fun other member => inside other (by simp [member])
  apply clear
  intro frame member
  have low := valid.tracked
  have below := List.mem_range.mp member
  omega

/-- No index before the first free frame is free, so the frames up to the highest
one have the same first free one. -/
theorem find_least {allocator : BitmapAllocator} (valid : Valid allocator) {frame : Nat}
    {rest : List Nat} (least : Bitmap.members allocator.bitmap = frame :: rest) :
    (List.range (allocator.highestFrame + 1)).find? (Bitmap.member allocator.bitmap) =
      some frame := by
  have high : frame ≤ allocator.highestFrame := valid.bounded frame (by simp [least])
  have inside : allocator.highestFrame + 1 ≤ bitmapSize * 64 := valid.tracked
  have split : List.range (bitmapSize * 64) = List.range (allocator.highestFrame + 1) ++
      (List.range (bitmapSize * 64 - (allocator.highestFrame + 1))).map
        (allocator.highestFrame + 1 + ·) := by
    rw [← List.range_add, Nat.add_sub_of_le inside]
  have head : (List.range (bitmapSize * 64)).find? (Bitmap.member allocator.bitmap) =
      some frame := by
    rw [← List.head?_filter]
    change (Bitmap.members allocator.bitmap).head? = _
    rw [least]
    rfl
  rw [split, List.find?_append] at head
  cases found : (List.range (allocator.highestFrame + 1)).find? (Bitmap.member allocator.bitmap) with
  | some other => simpa [found] using head
  | none =>
    have present : Bitmap.member allocator.bitmap frame = true := by
      rw [← Bitmap.mem_members (by decide), least]
      simp
    have absent := List.find?_eq_none.mp found frame (List.mem_range.mpr (by omega))
    exact absurd present absent

/-- The scan takes the first free frame which it meets. -/
theorem scanFrames_find {allocator : BitmapAllocator} {frame : Nat} (word : frame / 64 < bitmapSize)
    (positive : allocator.freeFrames ≠ 0) {frames : List Nat}
    (inside : ∀ other ∈ frames, other < bitmapSize * 64)
    (found : frames.find? (Bitmap.member allocator.bitmap) = some frame) :
    scanFrames allocator frames = some (some (frame * pageSize), { allocator with
      bitmap := Bitmap.erase allocator.bitmap frame word
      freeFrames := allocator.freeFrames - 1 }) := by
  induction frames with
  | nil => cases found
  | cons other later ih =>
    have otherWord := word_bound other (inside other (by simp))
    have test := Bitmap.member_eq_test (by decide) allocator.bitmap other otherWord
    rw [List.find?_cons] at found
    cases hit : Bitmap.member allocator.bitmap other with
    | true =>
      have same : other = frame := by simpa [hit] using found
      subst same
      rw [hit, decide_eq_true_eq] at test
      simp only [scanFrames, word, ↓reduceDIte, test, ne_eq, not_false_eq_true, ↓reduceIte,
        positive]
      rfl
    | false =>
      rw [hit, decide_eq_false_iff_not] at test
      simp only [scanFrames, otherWord, ↓reduceDIte, test, ↓reduceIte]
      exact ih (fun next member => inside next (by simp [member])) (by simpa [hit] using found)

/-- `allocateFrame` takes the lowest free frame and only that one. -/
theorem allocateFrame_least {allocator : BitmapAllocator} (valid : Valid allocator)
    {frame : Nat} {rest : List Nat} (least : Bitmap.members allocator.bitmap = frame :: rest) :
    ∃ next, allocateFrame allocator = some (some (frame * pageSize), next) ∧
      Valid next ∧ Bitmap.members next.bitmap = rest := by
  have high : frame ≤ allocator.highestFrame := valid.bounded frame (by simp [least])
  have word : frame / 64 < bitmapSize := word_bound frame (by have := valid.tracked; omega)
  have remaining := Bitmap.members_erase_head (by decide) allocator.bitmap word least
  have positive : allocator.freeFrames = rest.length + 1 := by simp [valid.counted, least]
  refine ⟨{ allocator with
    bitmap := Bitmap.erase allocator.bitmap frame word
    freeFrames := allocator.freeFrames - 1 }, ?_, ⟨⟨?_, ?_⟩, valid.tracked⟩, remaining⟩
  · apply scanFrames_find word (by omega) _ (find_least valid least)
    intro other member
    have below := List.mem_range.mp member
    have low := valid.tracked
    omega
  · simp [remaining, positive]
  · intro other member
    rw [remaining] at member
    exact valid.bounded other (by simp [least, member])

/-- Any number of calls hands out the enumeration of the free frames and then
answers `None` for good. -/
theorem allocateFrames_spec (calls : Nat) {allocator : BitmapAllocator} (valid : Valid allocator) :
    ∃ final, allocateFrames calls allocator = some ((List.range calls).map (fun call =>
        (Bitmap.members allocator.bitmap)[call]?.map (· * pageSize)), final) ∧ Valid final := by
  induction calls generalizing allocator with
  | zero => exact ⟨allocator, rfl, valid⟩
  | succ calls ih =>
    cases free : Bitmap.members allocator.bitmap with
    | nil =>
      obtain ⟨final, success, finalValid⟩ := ih valid
      refine ⟨final, ?_, finalValid⟩
      simp [allocateFrames, allocateFrame_empty valid free, success, free,
        List.range_succ_eq_map, Function.comp_def]
    | cons frame rest =>
      obtain ⟨next, taken, nextValid, remaining⟩ := allocateFrame_least valid free
      obtain ⟨final, success, finalValid⟩ := ih nextValid
      refine ⟨final, ?_, finalValid⟩
      simp [allocateFrames, taken, success, remaining, List.range_succ_eq_map, Function.comp_def]

/-- After `init` the free frames are the conventional frames of the map. -/
theorem init_spec (stored : StoredMap memory info descriptors)
    (wellFormed : WellFormedMap descriptors) :
    ∃ allocator, init memory info frameAllocator = some (allocator, allocator.freeFrames) ∧
      Valid allocator ∧
      (Bitmap.members allocator.bitmap).map (pageSize * ·) = conventionalFrames descriptors := by
  have read : (List.range (info.memoryMapSize / info.memoryMapDescSize)).map (fun i =>
      UefiMemoryDescriptor.read memory (info.memoryMapAddr + i * info.memoryMapDescSize)) =
      descriptors := by
    apply List.ext_getElem
    · simp [stored.count]
    · intro i _ inside
      simpa using stored.stored i inside
  have fresh : ∀ frame ∈ descriptors.flatMap visited,
      Bitmap.member frameAllocator.bitmap frame = false :=
    fun frame _ => Bitmap.member_replicate_zero frame
  obtain ⟨final, success, valid, present⟩ :=
    run_markFrame (visited_nodup wellFormed) Valid.initial fresh
  have small : final.freeFrames * 4096 < 2 ^ 31 := by
    have bound := Bitmap.members_length_le final.bitmap
    rw [← valid.counted] at bound
    simp only [bitmapSize] at bound
    omega
  refine ⟨final, ?_, valid, ?_⟩
  · have marked : run markFrame (descriptors.flatMap visited) (frameAllocator, 0) =
        some (final, final.freeFrames) := success
    simp only [init, stored.stride, ↓reduceIte, read, run_freeDescriptor wellFormed.ending, marked,
      Option.bind_some, small]
  · refine congrArg (List.map _) (List.filter_congr ?_)
    intro frame inside
    have tracked : frame < bitmapSize * 64 := List.mem_range.mp inside
    rw [present, show Bitmap.member frameAllocator.bitmap frame = false from
      Bitmap.member_replicate_zero frame, Bool.or_false, decide_eq_decide]
    simp only [tracked, and_true, List.mem_flatMap]
    constructor
    · rintro ⟨descriptor, member, visits⟩
      exact ⟨descriptor, member, (mem_visited (wellFormed.aligned _ member) frame).mp visits⟩
    · rintro ⟨descriptor, member, conventional⟩
      exact ⟨descriptor, member, (mem_visited (wellFormed.aligned _ member) frame).mpr conventional⟩

/-- After `init` any number of calls hands out the conventional frames of the map
in ascending order and then nothing. -/
theorem init_allocateFrames (stored : StoredMap memory info descriptors)
    (wellFormed : WellFormedMap descriptors) :
    ∃ allocator, init memory info frameAllocator = some (allocator, allocator.freeFrames) ∧
      ∀ calls, ∃ final, allocateFrames calls allocator =
        some ((List.range calls).map (fun call => (conventionalFrames descriptors)[call]?), final) ∧
        Consistent final := by
  obtain ⟨allocator, initialised, valid, frames⟩ := init_spec stored wellFormed
  refine ⟨allocator, initialised, ?_⟩
  intro calls
  obtain ⟨final, success, finalValid⟩ := allocateFrames_spec calls valid
  refine ⟨final, ?_, finalValid.toConsistent⟩
  rw [success, ← frames]
  simp [Nat.mul_comm]

/-- From the zero bitmap, `init` and any number of `allocateFrame` calls hand
out the conventional frames in ascending order, each once, then nothing. No
step underflows or leaves the bitmap, and the counters agree with the bits in
every state, also between two frames of the marking loop. -/
theorem allocation_run (stored : StoredMap memory info descriptors)
    (wellFormed : WellFormedMap descriptors) :
    (∀ frames, frames <+: descriptors.flatMap visited → ∃ state,
      run markFrame frames (frameAllocator, 0) = some state ∧ Consistent state.1) ∧
    ∃ allocator, init memory info frameAllocator = some (allocator, allocator.freeFrames) ∧
      ∀ calls, ∃ final, allocateFrames calls allocator =
        some ((List.range calls).map (fun call => (conventionalFrames descriptors)[call]?), final) ∧
        Consistent final := by
  constructor
  · intro frames earlier
    have distinct := (visited_nodup wellFormed).sublist earlier.sublist
    obtain ⟨final, success, valid, _⟩ := run_markFrame distinct Valid.initial
      (fun frame _ => Bitmap.member_replicate_zero frame)
    exact ⟨_, success, valid.toConsistent⟩
  · exact init_allocateFrames stored wellFormed

/-- A boot-services page above two conventional pages, 48 bytes a descriptor. -/
private def twoEntryMap : List UefiMemoryDescriptor := [⟨4, 0x3000, 1⟩, ⟨7, 0x1000, 2⟩]

private def twoEntryRam : Ram
  | 0 => 4 | 9 => 0x30 | 24 => 1
  | 48 => 7 | 57 => 0x10 | 72 => 2
  | _ => 0

private def twoEntryInfo : BootInfo where
  framebufferBase := 0
  framebufferSize := 0
  width := 0
  height := 0
  stride := 0
  memoryMapSize := 96
  acpi2RsdpAddr := 0
  memoryMapAddr := 0
  memoryMapDescSize := 48

theorem allocation_run_two_entries :
    ∃ allocator, init twoEntryRam twoEntryInfo frameAllocator =
        some (allocator, allocator.freeFrames) ∧
      ∃ final, allocateFrames 3 allocator =
        some ((List.range 3).map (fun call => (conventionalFrames twoEntryMap)[call]?), final) ∧
        Consistent final := by
  have stored : StoredMap twoEntryRam twoEntryInfo twoEntryMap := by
    refine ⟨by decide, by decide, ?_⟩
    intro i inside
    match i, inside with
    | 0, _ => rfl
    | 1, _ => rfl
  have wellFormed : WellFormedMap twoEntryMap := by
    refine ⟨by decide, by decide, ?_⟩
    simp only [twoEntryMap, List.pairwise_cons, List.mem_singleton, forall_eq,
      UefiMemoryDescriptor.contains, pageSize, List.not_mem_nil, false_imp_iff, implies_true,
      List.Pairwise.nil, and_true]
    omega
  obtain ⟨allocator, initialised, answers⟩ := (allocation_run stored wellFormed).2
  exact ⟨allocator, initialised, answers 3⟩

end QoreOS.Memory
