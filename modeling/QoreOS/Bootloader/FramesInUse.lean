import QoreOS.Bootloader.KernelImage
import QoreOS.Memory.AllocationRun

/-! The memory which the bootloader and the trampoline fill, against the frames
which the kernel's allocator hands out. -/

namespace QoreOS.Bootloader

open QoreOS.Library QoreOS.Memory

/-- What a loaded segment or the trampoline page occupies. -/
def ElfFile.inUse (elf : ElfFile) (address : Nat) : Prop :=
  (∃ ph ∈ elf.programHeaders, ph.isLoad ∧ ph.contains address) ∨
    0x8000 ≤ address ∧ address < 0x8000 + pageSize

/-- Some call in some sequence of calls after `init` answers the frame. -/
def HandsOut (memory : Ram) (info : BootInfo) (frame : Nat) : Prop :=
  ∃ allocator totalFree, init memory info frameAllocator = some (allocator, totalFree) ∧
    ∃ calls answers final, allocateFrames calls allocator = some (answers, final) ∧
      some frame ∈ answers

/-- No frame that is handed out overlaps memory in use. -/
def KeepsClear (elf : ElfFile) (memory : Ram) (info : BootInfo) : Prop :=
  ∀ frame, HandsOut memory info frame →
    ∀ address, frame ≤ address → address < frame + pageSize → ¬ elf.inUse address

variable {memory : Ram} {info : BootInfo} {descriptors : List UefiMemoryDescriptor}

theorem mem_conventionalFrames (address : Nat) :
    address ∈ conventionalFrames descriptors ↔
      ∃ frame < bitmapSize * 64, pageSize * frame = address ∧
        ∃ descriptor ∈ descriptors, descriptor.ty = 7 ∧ descriptor.contains (pageSize * frame) := by
  simp only [conventionalFrames, List.mem_map, List.mem_filter, List.mem_range, decide_eq_true_eq]
  constructor
  · rintro ⟨frame, ⟨tracked, conventional⟩, start⟩
    exact ⟨frame, tracked, start, conventional⟩
  · rintro ⟨frame, tracked, start, conventional⟩
    exact ⟨frame, ⟨tracked, conventional⟩, start⟩

/-- Every conventional frame is handed out in time, and no other. -/
theorem handsOut_iff (stored : StoredMap memory info descriptors)
    (wellFormed : WellFormedMap descriptors) (frame : Nat) :
    HandsOut memory info frame ↔ frame ∈ conventionalFrames descriptors := by
  obtain ⟨allocator, initialised, run⟩ := init_allocateFrames stored wellFormed
  constructor
  · rintro ⟨other, totalFree, started, calls, answers, final, allocated, answered⟩
    rw [initialised, Option.some.injEq, Prod.mk.injEq] at started
    obtain ⟨rfl, -⟩ := started
    obtain ⟨last, answersEq, -⟩ := run calls
    rw [allocated, Option.some.injEq, Prod.mk.injEq] at answersEq
    rw [answersEq.1, List.mem_map] at answered
    obtain ⟨call, -, found⟩ := answered
    exact List.mem_of_getElem? found
  · intro member
    obtain ⟨call, found⟩ := List.mem_iff_getElem?.mp member
    obtain ⟨final, allocated, -⟩ := run (call + 1)
    refine ⟨allocator, _, initialised, call + 1, _, final, allocated, ?_⟩
    rw [List.mem_map]
    exact ⟨call, List.mem_range.mpr call.lt_succ_self, found⟩

/-- For every firmware map and every image, the allocator keeps clear of memory
in use exactly when the map reports no such page as conventional memory. -/
theorem keepsClear_iff (elf : ElfFile) (before : Ram)
    (stored : StoredMap (elf.loadKernel before) info descriptors)
    (wellFormed : WellFormedMap descriptors) :
    KeepsClear elf (elf.loadKernel before) info ↔
      ∀ descriptor ∈ descriptors, descriptor.ty = 7 →
        ∀ frame < bitmapSize * 64, descriptor.contains (pageSize * frame) →
          ∀ address, pageSize * frame ≤ address → address < pageSize * frame + pageSize →
            ¬ elf.inUse address := by
  constructor
  · intro clear descriptor member conventional frame tracked contained
    apply clear (pageSize * frame)
    rw [handsOut_iff stored wellFormed, mem_conventionalFrames]
    exact ⟨frame, tracked, rfl, descriptor, member, conventional, contained⟩
  · intro clear start handed
    rw [handsOut_iff stored wellFormed, mem_conventionalFrames] at handed
    obtain ⟨frame, tracked, rfl, descriptor, member, conventional, contained⟩ := handed
    exact clear descriptor member conventional frame tracked contained

/-- A map of one descriptor: the first 636 KiB are conventional memory. -/
def lowMemory : Ram
  | 0 => 7
  | 24 => 159
  | _ => 0

def lowMemoryInfo : BootInfo where
  framebufferBase := 0
  framebufferSize := 0
  width := 0
  height := 0
  stride := 0
  memoryMapSize := 48
  acpi2RsdpAddr := 0
  memoryMapAddr := 0
  memoryMapDescSize := 48

theorem lowMemory_stored :
    StoredMap (ElfFile.smallKernel.loadKernel lowMemory) lowMemoryInfo [⟨7, 0, 159⟩] where
  stride := by decide
  count := by decide
  stored := by
    intro i inside
    match i, inside with
    | 0, _ => rfl

theorem lowMemory_wellFormed : WellFormedMap [⟨7, 0, 159⟩] where
  aligned := by decide
  ending := by decide
  disjoint := List.pairwise_singleton _ _

theorem keepsClear_iff_lowMemory :
    KeepsClear ElfFile.smallKernel (ElfFile.smallKernel.loadKernel lowMemory) lowMemoryInfo ↔
      ∀ descriptor ∈ [(⟨7, 0, 159⟩ : UefiMemoryDescriptor)], descriptor.ty = 7 →
        ∀ frame < bitmapSize * 64, descriptor.contains (pageSize * frame) →
          ∀ address, pageSize * frame ≤ address → address < pageSize * frame + pageSize →
            ¬ ElfFile.smallKernel.inUse address :=
  keepsClear_iff ElfFile.smallKernel lowMemory lowMemory_stored lowMemory_wellFormed

/-- The ninth call answers the page of the trampoline. -/
theorem keepsClear_lowMemory :
    ¬ ∀ (elf : ElfFile) (before : Ram) (info : BootInfo) (descriptors : List UefiMemoryDescriptor),
      StoredMap (elf.loadKernel before) info descriptors → WellFormedMap descriptors →
        KeepsClear elf (elf.loadKernel before) info := by
  intro always
  have clear := always _ _ _ _ lowMemory_stored lowMemory_wellFormed
  have trampoline : HandsOut (ElfFile.smallKernel.loadKernel lowMemory) lowMemoryInfo 0x8000 := by
    rw [handsOut_iff lowMemory_stored lowMemory_wellFormed, mem_conventionalFrames]
    exact ⟨8, by decide, by decide, _, List.mem_singleton_self _, rfl, by decide⟩
  exact clear 0x8000 trampoline 0x8000 (by decide) (by decide) (Or.inr (by decide))

end QoreOS.Bootloader
