import Mathlib.Data.List.GetD
import Mathlib.Data.BitVec
import QoreOS.Bootloader.KernelImage
import QoreOS.Library.LastWrite
import QoreOS.Memory.FrameAllocator

/-! What `efi_main` asks of the firmware and hands over in `BootInfo`, what is written to
memory behind that, and the memory map that the kernel reads then. -/

namespace QoreOS.Bootloader

open QoreOS.Library QoreOS.Memory

abbrev Guid := BitVec 128

def acpi2Guid : Guid := 0x8868e871e4f111d3bc220080c73c8881#128

structure ConfigTableEntry where
  guid : Guid
  address : Nat

/-- The mode and the frame buffer of a graphics output. -/
structure GraphicsOutput where
  base : Nat
  size : Nat
  width : Nat
  height : Nat
  stride : Nat

/-- The answers of the firmware. Each call of `GetMemoryMap` may find another map; an
entry is the descriptor's bytes, at least the 40 of a `MemoryDescriptor`. Descriptors and pools
are aligned to 8 bytes, as UEFI has it, and a pool is memory somewhere. -/
structure Firmware where
  configTable : List ConfigTableEntry
  gopHandle : Option Nat
  openGop : Nat → Option GraphicsOutput
  entrySize : Nat
  maps : Nat → List (List UInt8)
  allocatePool : Nat → Option Nat
  descriptor : 40 ≤ entrySize
  aligned : entrySize % 8 = 0
  pool : ∀ size address, allocatePool size = some address →
    Accessible 8 address ∧ address + size ≤ 2 ^ 64
  sized : ∀ call, ∀ entry ∈ maps call, entry.length = entrySize

namespace Firmware

/-- The ACPI 2.0 table, or 0. -/
def acpiAddress (firmware : Firmware) : Nat :=
  ((firmware.configTable.find? fun entry => entry.guid == acpi2Guid).map (·.address)).getD 0

/-- Without a graphics output the fields keep their zeros. -/
def seizeFramebuffer (firmware : Firmware) (bootInfo : BootInfo) : BootInfo :=
  match firmware.gopHandle.bind firmware.openGop with
  | some gop =>
    { bootInfo with
      framebufferBase := gop.base
      framebufferSize := gop.size
      width := gop.width
      height := gop.height
      stride := gop.stride }
  | none => bootInfo

/-- `map_size` at a call of `GetMemoryMap` -/
def mapSize (firmware : Firmware) (call : Nat) : Nat :=
  (firmware.maps call).length * firmware.entrySize

/-- `memory_map`: it fails when the buffer is too small. -/
def memoryMap (firmware : Firmware) (call : Nat) (buffer size : Nat) (memory : Ram) : Option Ram :=
  if firmware.mapSize call ≤ size then
    some (ByteMemory.copy memory buffer (firmware.maps call).flatten)
  else none

/-- The boot information before the memory map. -/
def bootInfo (firmware : Firmware) : BootInfo :=
  firmware.seizeFramebuffer {
    framebufferBase := 0
    framebufferSize := 0
    width := 0
    height := 0
    stride := 0
    memoryMapSize := 0
    acpi2RsdpAddr := firmware.acpiAddress
    memoryMapAddr := 0
    memoryMapDescSize := 0 }

/-- The first steps of `efi_main`, up to the loading of the kernel. -/
def handOver (firmware : Firmware) (memory : Ram) : Option (Ram × BootInfo) := do
  let bootInfo := firmware.bootInfo
  -- the map grows when the pool is split
  let mmapSize := firmware.mapSize 0
  let mmapAllocSize ← checked (2 ^ 64) (mmapSize + 4096)
  let mmapPtr ← firmware.allocatePool mmapAllocSize
  let memory ← firmware.memoryMap 1 mmapPtr mmapAllocSize memory
  return (memory, { bootInfo with
    memoryMapAddr := mmapPtr
    memoryMapSize := mmapSize
    memoryMapDescSize := firmware.entrySize })

end Firmware

/-- Bytes that are written one behind the other. -/
structure Block where
  address : Nat
  bytes : List UInt8

namespace Block

def store (memory : Ram) (block : Block) : Ram := ByteMemory.copy memory block.address block.bytes

/-- The byte that the block writes to an address. -/
def byteAt (address : Nat) (block : Block) : Option UInt8 :=
  if block.address ≤ address then block.bytes[address - block.address]? else none

theorem store_byteAt (memory : Ram) (block : Block) (address : Nat) :
    block.store memory address = (block.byteAt address).getD (memory address) := by
  unfold store byteAt ByteMemory.copy
  by_cases below : block.address ≤ address
  · rw [if_pos below]
    by_cases inside : address < block.address + block.bytes.length
    · have within : address - block.address < block.bytes.length := by omega
      rw [if_pos ⟨below, inside⟩, List.getElem?_eq_getElem within, Option.getD_some,
        List.getD_eq_getElem _ _ within]
    · rw [if_neg (by omega), List.getElem?_eq_none (by omega), Option.getD_none]
  · rw [if_neg below, if_neg (by omega), Option.getD_none]

end Block

/-- What the load loop writes. -/
def ElfFile.blocks (elf : ElfFile) : List Block :=
  (elf.programHeaders.filter ProgramHeader.isLoad).map fun ph => ⟨ph.virtualAddr, elf.fileBytes ph⟩

theorem ElfFile.loadKernel_blocks (elf : ElfFile) (memory : Ram) :
    elf.loadKernel memory = elf.blocks.foldl (fun memory block => block.store memory) memory := by
  rw [loadKernel, blocks, List.foldl_map, List.foldl_filter]
  rfl

/-- All that writes to memory between `memory_map` and `init`: the load loop, the firmware in
`exit_boot_services`, and the kernel, which first clears the framebuffer. -/
structure Writers where
  elf : ElfFile
  exitBootServices : List Block
  kernel : List Block

namespace Writers

/-- The memory that `init` meets. -/
def atInit (writers : Writers) (info : BootInfo) (memory : Ram) : Ram :=
  let store := fun memory (block : Block) => block.store memory
  let memory := writers.elf.loadKernel memory
  let memory := writers.exitBootServices.foldl store memory
  let memory := ByteMemory.copy memory info.framebufferBase
    (List.replicate info.framebufferSize 0)
  writers.kernel.foldl store memory

/-- The writes in their order. -/
def blocks (writers : Writers) (info : BootInfo) : List Block :=
  writers.elf.blocks ++ writers.exitBootServices ++
    [⟨info.framebufferBase, List.replicate info.framebufferSize 0⟩] ++ writers.kernel

theorem atInit_byte (writers : Writers) (info : BootInfo) (memory : Ram) (address : Nat) :
    writers.atInit info memory address =
      (lastWrite (Block.byteAt address) (writers.blocks info)).getD (memory address) := by
  rw [← foldl_lastWrite (fun memory : Ram => memory address)
    fun block _ memory => Block.store_byteAt memory block address]
  simp only [atInit, blocks, List.foldl_append, ElfFile.loadKernel_blocks, List.foldl_cons,
    List.foldl_nil]
  rfl

end Writers

/-- The descriptors that `init` goes through. -/
def mapDescriptors (memory : Ram) (info : BootInfo) : List UefiMemoryDescriptor :=
  (List.range (info.memoryMapSize / info.memoryMapDescSize)).map fun i =>
    UefiMemoryDescriptor.read memory (info.memoryMapAddr + i * info.memoryMapDescSize)

theorem init_mapDescriptors (memory : Ram) (info : BootInfo) (allocator : BitmapAllocator) :
    init memory info allocator =
      if info.memoryMapDescSize = 0 then none else
        (run freeDescriptor (mapDescriptors memory info) (allocator, 0)).bind
          fun (allocator, totalFree) =>
            if totalFree * 4096 < 2 ^ 31 then some (allocator, totalFree) else none :=
  rfl

/-- The descriptor in the bytes of an entry. -/
def entryDescriptor (entry : List UInt8) : UefiMemoryDescriptor :=
  UefiMemoryDescriptor.read (fun offset => entry.getD offset 0) 0

/-- The bytes of an entry that `init` reads: its type, its start and its number of pages. -/
def IsFieldByte (offset : Nat) : Prop :=
  offset < 4 ∨ 8 ≤ offset ∧ offset < 16 ∨ 24 ≤ offset ∧ offset < 32

section Reads

variable {memory other : Ram} {address start size : Nat}

theorem readLittle_eq_iff : readLittle memory address size = readLittle other start size ↔
    ∀ offset < size, memory (address + offset) = other (start + offset) := by
  induction size generalizing address start with
  | zero => exact iff_of_true rfl fun offset none => absurd none (Nat.not_lt_zero offset)
  | succ size ih =>
    rw [readLittle, readLittle]
    constructor
    · intro same offset inside
      have low := (memory address).toNat_lt
      have lowOther := (other start).toNat_lt
      cases offset with
      | zero =>
        rw [Nat.add_zero, Nat.add_zero]
        exact UInt8.toNat_inj.mp (by omega)
      | succ offset =>
        have higher : readLittle memory (address + 1) size = readLittle other (start + 1) size := by
          omega
        have rest := ih.mp higher offset (Nat.lt_of_succ_lt_succ inside)
        rwa [Nat.add_right_comm, Nat.add_right_comm start] at rest
    · intro same
      have first := same 0 (Nat.zero_lt_succ size)
      rw [Nat.add_zero, Nat.add_zero] at first
      have rest : readLittle memory (address + 1) size = readLittle other (start + 1) size := by
        refine ih.mpr fun offset inside => ?_
        rw [Nat.add_right_comm, Nat.add_right_comm start]
        exact same (offset + 1) (Nat.succ_lt_succ inside)
      rw [first, rest]

/-- Two descriptors are the same when their fields have the same bytes. -/
theorem read_eq_iff :
    UefiMemoryDescriptor.read memory address = UefiMemoryDescriptor.read other start ↔
      ∀ offset, IsFieldByte offset → memory (address + offset) = other (start + offset) := by
  rw [UefiMemoryDescriptor.read, UefiMemoryDescriptor.read, UefiMemoryDescriptor.mk.injEq,
    readLittle_eq_iff, readLittle_eq_iff, readLittle_eq_iff]
  constructor
  · rintro ⟨ty, physicalStart, numberOfPages⟩ offset (inside | ⟨low, high⟩ | ⟨low, high⟩)
    · exact ty offset inside
    · have byte := physicalStart (offset - 8) (by omega)
      rwa [Nat.add_assoc, Nat.add_assoc, Nat.add_sub_cancel' low] at byte
    · have byte := numberOfPages (offset - 24) (by omega)
      rwa [Nat.add_assoc, Nat.add_assoc, Nat.add_sub_cancel' low] at byte
  · intro same
    refine ⟨fun offset inside => same offset (Or.inl inside), fun offset inside => ?_,
      fun offset inside => ?_⟩
    · rw [Nat.add_assoc, Nat.add_assoc]
      exact same (8 + offset) (Or.inr (Or.inl (by omega)))
    · rw [Nat.add_assoc, Nat.add_assoc]
      exact same (24 + offset) (Or.inr (Or.inr (by omega)))

theorem read_entry_iff {entry : List UInt8} :
    UefiMemoryDescriptor.read memory address = entryDescriptor entry ↔
      ∀ offset, IsFieldByte offset → memory (address + offset) = entry.getD offset 0 := by
  rw [entryDescriptor, read_eq_iff]
  simp only [Nat.zero_add]

end Reads

/-- A byte of a list of blocks of one size. -/
theorem getD_flatten {entries : List (List UInt8)} {width : Nat}
    (sized : ∀ entry ∈ entries, entry.length = width) (i : Nat) (inside : i < entries.length)
    {offset : Nat} (within : offset < width) :
    entries.flatten.getD (i * width + offset) 0 = entries[i].getD offset 0 := by
  induction entries generalizing i with
  | nil => cases inside
  | cons entry entries ih =>
    have length := sized entry List.mem_cons_self
    rw [List.flatten_cons]
    cases i with
    | zero =>
      rw [Nat.zero_mul, Nat.zero_add, List.getD_append _ _ _ _ (by omega)]
      rfl
    | succ i =>
      rw [Nat.succ_mul, List.getD_append_right _ _ _ _ (by omega), length]
      rw [show i * width + width + offset - width = i * width + offset by omega]
      exact ih (fun other member => sized other (List.mem_cons_of_mem _ member)) i
        (Nat.lt_of_succ_lt_succ inside)

theorem length_flatten_blocks {entries : List (List UInt8)} {width : Nat}
    (sized : ∀ entry ∈ entries, entry.length = width) :
    entries.flatten.length = entries.length * width := by
  rw [List.length_flatten, List.map_congr_left sized, List.map_const', List.sum_replicate_nat]

section HandOver

variable {firmware : Firmware} {memory after : Ram} {info : BootInfo}

/-- The hand-over announces the map of the first call and leaves that of the second. -/
structure Announces (firmware : Firmware) (memory after : Ram) (info : BootInfo) : Prop where
  filled : after = ByteMemory.copy memory info.memoryMapAddr (firmware.maps 1).flatten
  size : info.memoryMapSize = firmware.mapSize 0
  stride : info.memoryMapDescSize = firmware.entrySize
  acpi : info.acpi2RsdpAddr = firmware.bootInfo.acpi2RsdpAddr
  framebuffer : info.framebufferBase = firmware.bootInfo.framebufferBase
  pool : firmware.allocatePool (firmware.mapSize 0 + 4096) = some info.memoryMapAddr

theorem handOver_some (handed : firmware.handOver memory = some (after, info)) :
    Announces firmware memory after info := by
  simp only [Firmware.handOver, Option.bind_eq_bind, Option.bind_eq_some_iff, Option.pure_def,
    Option.some.injEq, Prod.mk.injEq] at handed
  obtain ⟨mmapAllocSize, sum, mmapPtr, allocated, filled, fills, rfl, rfl⟩ := handed
  obtain ⟨rfl, -⟩ := checked_eq_some sum
  unfold Firmware.memoryMap at fills
  split at fills
  case isTrue => exact ⟨(Option.some.inj fills).symm, rfl, rfl, rfl, rfl, allocated⟩
  case isFalse => cases fills

/-- The kernel is reached when the pool has the buffer and the buffer has room for the map. -/
theorem handOver_exists (memory : Ram) (small : firmware.mapSize 0 + 4096 < 2 ^ 64)
    (allocated : (firmware.allocatePool (firmware.mapSize 0 + 4096)).isSome)
    (room : firmware.mapSize 1 ≤ firmware.mapSize 0 + 4096) :
    ∃ after info, firmware.handOver memory = some (after, info) := by
  obtain ⟨pool, allocated⟩ := Option.isSome_iff_exists.mp allocated
  rw [Firmware.handOver, checked_of_lt small, Option.bind_eq_bind, Option.bind_some, allocated,
    Option.bind_some, Firmware.memoryMap, if_pos room]
  exact ⟨_, _, rfl⟩

/-- Each byte that `memory_map` writes is where `init` looks for it. -/
theorem written_byte (handed : firmware.handOver memory = some (after, info)) (i : Nat)
    (inside : i < (firmware.maps 1).length) {offset : Nat} (field : IsFieldByte offset) :
    after (info.memoryMapAddr + i * info.memoryMapDescSize + offset) =
      (firmware.maps 1)[i].getD offset 0 := by
  obtain ⟨filled, -, stride, -⟩ := handOver_some handed
  have large := firmware.descriptor
  have small : offset < 32 := by
    rcases field with inside | ⟨-, inside⟩ | ⟨-, inside⟩ <;> omega
  have total := length_flatten_blocks (firmware.sized 1)
  have block : (i + 1) * firmware.entrySize ≤ (firmware.maps 1).length * firmware.entrySize :=
    Nat.mul_le_mul_right _ inside
  rw [Nat.succ_mul] at block
  have byte := getD_flatten (firmware.sized 1) i inside (show offset < firmware.entrySize by omega)
  rw [filled, stride]
  refine (if_pos (by omega)).trans (Eq.trans (congrArg (List.getD _ · 0) ?_) byte)
  omega

theorem mapDescriptors_eq (handed : firmware.handOver memory = some (after, info))
    (atInit : Ram) : mapDescriptors atInit info =
      (List.range (firmware.maps 0).length).map fun i =>
        UefiMemoryDescriptor.read atInit (info.memoryMapAddr + i * info.memoryMapDescSize) := by
  obtain ⟨-, size, stride, -⟩ := handOver_some handed
  have large := firmware.descriptor
  have count : info.memoryMapSize / info.memoryMapDescSize = (firmware.maps 0).length := by
    rw [size, stride]
    exact Nat.mul_div_cancel _ (by omega)
  rw [mapDescriptors, count]

/-- The references that `init` makes to the descriptors are what a debug build demands. -/
theorem mapDescriptors_accessible (handed : firmware.handOver memory = some (after, info)) (i : Nat)
    (inside : i < info.memoryMapSize / info.memoryMapDescSize) :
    Accessible 8 (info.memoryMapAddr + i * info.memoryMapDescSize) := by
  obtain ⟨-, size, stride, -, -, allocated⟩ := handOver_some handed
  obtain ⟨⟨-, somewhere, multiple⟩, below⟩ := firmware.pool _ _ allocated
  have positive : 0 < firmware.entrySize := Nat.lt_of_lt_of_le (by decide) firmware.descriptor
  rw [size, stride, Firmware.mapSize, Nat.mul_div_cancel _ positive] at inside
  have within : i * firmware.entrySize < firmware.mapSize 0 :=
    Nat.mul_lt_mul_of_pos_right inside positive
  rw [stride]
  refine ⟨by omega, by omega, ?_⟩
  rw [Nat.add_mod, multiple, Nat.mul_mod, firmware.aligned, Nat.mul_zero]

/-- The `i`-th entry is read as it was written when no later write has changed its fields. -/
theorem read_atInit_iff (handed : firmware.handOver memory = some (after, info))
    (writers : Writers) (i : Nat) (inside : i < (firmware.maps 1).length) :
    UefiMemoryDescriptor.read (writers.atInit info after)
        (info.memoryMapAddr + i * info.memoryMapDescSize) = entryDescriptor (firmware.maps 1)[i] ↔
      ∀ offset, IsFieldByte offset → ∀ value,
        lastWrite (Block.byteAt (info.memoryMapAddr + i * info.memoryMapDescSize + offset))
          (writers.blocks info) = some value → value = (firmware.maps 1)[i].getD offset 0 := by
  rw [read_entry_iff]
  refine forall_congr' fun offset => imp_congr_right fun field => ?_
  rw [writers.atInit_byte, written_byte handed i inside field]
  cases lastWrite (Block.byteAt (info.memoryMapAddr + i * info.memoryMapDescSize + offset))
      (writers.blocks info) with
  | none => exact iff_of_true rfl fun value written => nomatch written
  | some last => simp

/-- The kernel goes through exactly the descriptors that `memory_map` wrote when, and
only when, the map had as many at the first call, and whoever writes to their fields before
the kernel reads them last writes the byte that is there. -/
theorem mapDescriptors_written_iff (firmware : Firmware) (writers : Writers) (memory after : Ram)
    (info : BootInfo) (handed : firmware.handOver memory = some (after, info)) :
    mapDescriptors (writers.atInit info after) info = (firmware.maps 1).map entryDescriptor ↔
      (firmware.maps 0).length = (firmware.maps 1).length ∧
        ∀ i (inside : i < (firmware.maps 1).length), ∀ offset, IsFieldByte offset → ∀ value,
          lastWrite (Block.byteAt (info.memoryMapAddr + i * info.memoryMapDescSize + offset))
            (writers.blocks info) = some value → value = (firmware.maps 1)[i].getD offset 0 := by
  rw [mapDescriptors_eq handed]
  constructor
  · intro same
    have count : (firmware.maps 0).length = (firmware.maps 1).length := by
      have lengths := congrArg List.length same
      rwa [List.length_map, List.length_range, List.length_map] at lengths
    refine ⟨count, fun i inside => (read_atInit_iff handed writers i inside).mp ?_⟩
    have entry := congrArg (fun descriptors => descriptors[i]?) same
    simpa [List.getElem?_range, count, inside] using entry
  · rintro ⟨count, kept⟩
    apply List.ext_getElem
    · rw [List.length_map, List.length_range, List.length_map, count]
    · intro i inside within
      rw [List.length_map] at within
      rw [List.getElem_map, List.getElem_range, List.getElem_map]
      exact (read_atInit_iff handed writers i within).mpr (kept i within)

end HandOver

/-- The 48 bytes of a descriptor. -/
def entryBytes (descriptor : UefiMemoryDescriptor) : List UInt8 :=
  numberBytes 8 descriptor.ty ++ numberBytes 8 descriptor.physicalStart ++ numberBytes 8 0 ++
    numberBytes 8 descriptor.numberOfPages ++ numberBytes 16 0

/-- A firmware without graphics and ACPI, with one map before and one behind the first
allocation of pool memory. -/
def Firmware.bare (before behind : List UefiMemoryDescriptor) : Firmware where
  configTable := []
  gopHandle := none
  openGop := fun _ => none
  entrySize := 48
  maps := fun call => (if call = 0 then before else behind).map entryBytes
  allocatePool := fun size => if size ≤ 0x9D000 then some 0x1000 else none
  descriptor := by decide
  aligned := by decide
  pool := by
    intro size address allocated
    split at allocated
    case isTrue =>
      cases allocated
      exact ⟨by decide, by omega⟩
    case isFalse => cases allocated
  sized := by
    intro call entry member
    obtain ⟨descriptor, -, rfl⟩ := List.mem_map.mp member
    simp [entryBytes, numberBytes_length]

/-- A kernel at 1 MiB that halts, and a firmware that writes nothing behind it. -/
def Writers.elsewhere : Writers where
  elf := ⟨[0xFA, 0xF4], [⟨1, 0, 0x100000, 2, 4096⟩]⟩
  exitBootServices := []
  kernel := []

/-- The boot information with the map of one descriptor in the pool. -/
def steadyInfo : BootInfo where
  framebufferBase := 0
  framebufferSize := 0
  width := 0
  height := 0
  stride := 0
  memoryMapSize := 48
  acpi2RsdpAddr := 0
  memoryMapAddr := 0x1000
  memoryMapDescSize := 48

theorem steadyInfo_elsewhere {address : Nat} (low : address < 0x100000) :
    lastWrite (Block.byteAt address) (Writers.elsewhere.blocks steadyInfo) = none := by
  have blocks : Writers.elsewhere.blocks steadyInfo = [⟨0x100000, [0xFA, 0xF4]⟩, ⟨0, []⟩] := rfl
  have above : Block.byteAt address ⟨0x100000, [0xFA, 0xF4]⟩ = none :=
    if_neg (Nat.not_le.mpr low)
  have empty : Block.byteAt address ⟨0, []⟩ = none := if_pos (Nat.zero_le _)
  rw [blocks, lastWrite_cons, lastWrite_cons, lastWrite_nil, above, empty]
  rfl

/-- The pool comes from memory that the map shows as taken at both calls. -/
theorem mapDescriptors_written_iff_steady : ∃ firmware : Firmware, ∃ memory after,
    firmware.handOver memory = some (after, steadyInfo) ∧
      mapDescriptors (Writers.elsewhere.atInit steadyInfo after) steadyInfo =
        (firmware.maps 1).map entryDescriptor := by
  obtain ⟨after, handed⟩ : ∃ after, (Firmware.bare [⟨7, 0x3000, 156⟩]
      [⟨7, 0x3000, 156⟩]).handOver (fun _ => 0xAF) = some (after, steadyInfo) := by
    rw [Firmware.handOver, checked_of_lt (by decide), Option.bind_eq_bind, Option.bind_some]
    exact ⟨_, rfl⟩
  refine ⟨_, _, after, handed,
    (mapDescriptors_written_iff _ Writers.elsewhere _ _ _ handed).mpr ⟨rfl, ?_⟩⟩
  intro i inside offset field value written
  obtain rfl : i = 0 := Nat.lt_one_iff.mp inside
  have low : offset < 32 := by
    rcases field with inside | ⟨-, inside⟩ | ⟨-, inside⟩ <;> omega
  have below : steadyInfo.memoryMapAddr + 0 * steadyInfo.memoryMapDescSize + offset < 0x100000 := by
    change 0x1000 + 0 * 48 + offset < 0x100000
    omega
  rw [steadyInfo_elsewhere below] at written
  cases written

/-- The allocation splits the only range of free memory, and the kernel does not see the
free part of it. -/
theorem mapDescriptors_dropped : ¬ ∀ (firmware : Firmware) (writers : Writers)
    (memory after : Ram) (info : BootInfo), firmware.handOver memory = some (after, info) →
      mapDescriptors (writers.atInit info after) info = (firmware.maps 1).map entryDescriptor := by
  intro written
  have split : ∃ after info, (Firmware.bare [⟨7, 0x1000, 158⟩]
      [⟨2, 0x1000, 2⟩, ⟨7, 0x3000, 156⟩]).handOver (fun _ => 0xAF) = some (after, info) :=
    handOver_exists _ (by decide) rfl (by decide)
  obtain ⟨after, info, handed⟩ := split
  have same := congrArg List.length (written _ Writers.elsewhere _ after info handed)
  rw [mapDescriptors_eq handed, List.length_map, List.length_range, List.length_map] at same
  exact absurd same (by decide)

end QoreOS.Bootloader
