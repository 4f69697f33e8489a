import Mathlib.Algebra.Group.Nat.Defs
import QoreOS.Library.Bitmap
import QoreOS.Library.Run

/-! The physical frame allocator of `frame_allocator.rs`. A panic of the debug
build (a failed bound, an overflow, a division by zero) answers `none`. -/

namespace QoreOS.Memory

open QoreOS.Library

/-- Physical memory, one byte at each address. -/
abbrev Ram := Nat → UInt8

/-- The little-endian number in the `size` bytes from `address` on. -/
def readLittle (memory : Ram) (address : Nat) : Nat → Nat
  | 0 => 0
  | size + 1 => (memory address).toNat + 256 * readLittle memory (address + 1) size

structure BootInfo where
  framebufferBase : Nat
  framebufferSize : Nat
  width : Nat
  height : Nat
  stride : Nat
  memoryMapSize : Nat
  acpi2RsdpAddr : Nat
  memoryMapAddr : Nat
  memoryMapDescSize : Nat

/-- The fields of a `repr(C)` memory descriptor which the kernel reads. -/
structure UefiMemoryDescriptor where
  ty : Nat
  physicalStart : Nat
  numberOfPages : Nat
deriving DecidableEq

/-- The descriptor stored at an address. -/
def UefiMemoryDescriptor.read (memory : Ram) (address : Nat) : UefiMemoryDescriptor where
  ty := readLittle memory address 4
  physicalStart := readLittle memory (address + 8) 8
  numberOfPages := readLittle memory (address + 24) 8

def pageSize : Nat := 4096
def bitmapSize : Nat := 1024

/-- A one bit marks a free frame. -/
structure BitmapAllocator where
  bitmap : Vector (BitVec 64) bitmapSize
  highestFrame : Nat
  freeFrames : Nat

/-- The static allocator before `init`. -/
def frameAllocator : BitmapAllocator where
  bitmap := Vector.replicate bitmapSize 0#64
  highestFrame := 0
  freeFrames := 0

theorem word_bound (frame : Nat) (tracked : frame < bitmapSize * 64) : frame / 64 < bitmapSize :=
  (Nat.div_lt_iff_lt_mul (by decide)).mpr tracked

/-- The loop body of `init` for one frame; the second component is the `i32`
counter `totalFree`. -/
def markFrame : BitmapAllocator × Nat → Nat → Option (BitmapAllocator × Nat)
  | (allocator, totalFree), frameIdx =>
    if tracked : frameIdx < bitmapSize * 64 then
      have := word_bound frameIdx tracked
      let arrayIdx := frameIdx / 64
      let bitIdx := frameIdx % 64
      if totalFree + 1 < 2 ^ 31 then
        some ({
          bitmap := allocator.bitmap.set arrayIdx (allocator.bitmap[arrayIdx] ||| 1#64 <<< bitIdx)
          freeFrames := allocator.freeFrames + 1
          highestFrame :=
            if frameIdx > allocator.highestFrame then frameIdx else allocator.highestFrame },
          totalFree + 1)
      else none
    else some (allocator, totalFree)

/-- One descriptor of the map; only type 7 (conventional memory) is freed. -/
def freeDescriptor (state : BitmapAllocator × Nat) (descriptor : UefiMemoryDescriptor) :
    Option (BitmapAllocator × Nat) :=
  if descriptor.ty = 7 then
    let startFrame := descriptor.physicalStart / pageSize
    let endFrame := startFrame + descriptor.numberOfPages
    if endFrame < 2 ^ 64 then
      run markFrame (List.range' startFrame (endFrame - startFrame)) state
    else none
  else some state

/-- `init`, returning the allocator and the number of frames it reports. -/
def init (memory : Ram) (info : BootInfo) (allocator : BitmapAllocator) :
    Option (BitmapAllocator × Nat) :=
  if info.memoryMapDescSize = 0 then none else
    let numEntries := info.memoryMapSize / info.memoryMapDescSize
    let descriptors := (List.range numEntries).map fun i =>
      UefiMemoryDescriptor.read memory (info.memoryMapAddr + i * info.memoryMapDescSize)
    (run freeDescriptor descriptors (allocator, 0)).bind fun (allocator, totalFree) =>
      if totalFree * 4096 < 2 ^ 31 then some (allocator, totalFree) else none

/-- The loop of `allocateFrame` over the remaining frame numbers. -/
def scanFrames (allocator : BitmapAllocator) : List Nat → Option (Option Nat × BitmapAllocator)
  | [] => some (none, allocator)
  | i :: rest =>
    let arrayIdx := i / 64
    let bitIdx := i % 64
    if bound : arrayIdx < bitmapSize then
      if allocator.bitmap[arrayIdx] &&& 1#64 <<< bitIdx ≠ 0#64 then
        if allocator.freeFrames = 0 then none
        else some (some (i * pageSize), { allocator with
          bitmap :=
            allocator.bitmap.set arrayIdx (allocator.bitmap[arrayIdx] &&& ~~~(1#64 <<< bitIdx))
          freeFrames := allocator.freeFrames - 1 })
      else scanFrames allocator rest
    else none

def allocateFrame (allocator : BitmapAllocator) : Option (Option Nat × BitmapAllocator) :=
  scanFrames allocator (List.range (allocator.highestFrame + 1))

/-- Repeated calls of `allocateFrame`, with the answers in call order. -/
def allocateFrames : Nat → BitmapAllocator → Option (List (Option Nat) × BitmapAllocator)
  | 0, allocator => some ([], allocator)
  | calls + 1, allocator => do
    let (answer, allocator) ← allocateFrame allocator
    let (answers, allocator) ← allocateFrames calls allocator
    return (answer :: answers, allocator)

end QoreOS.Memory
