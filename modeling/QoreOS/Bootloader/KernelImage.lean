import Mathlib.Data.List.Pairwise
import QoreOS.Library.ByteMemory

/-! The load loop of `efi_main`: it copies the file bytes of every loadable
segment to the segment's address. -/

namespace QoreOS.Bootloader

open QoreOS.Library

structure ProgramHeader where
  type : Nat
  offset : Nat
  virtualAddr : Nat
  fileSize : Nat
  memSize : Nat
deriving DecidableEq

/-- The parsed image: its bytes and what `program_iter` yields. -/
structure ElfFile where
  bytes : List UInt8
  programHeaders : List ProgramHeader

/-- `get_type` answers `Type::Load`. -/
def ProgramHeader.isLoad (ph : ProgramHeader) : Bool := ph.type == 1

/-- The memory which the segment occupies. -/
def ProgramHeader.contains (ph : ProgramHeader) (address : Nat) : Prop :=
  ph.virtualAddr ≤ address ∧ address < ph.virtualAddr + ph.memSize

/-- The memory of the segment for which the file has no bytes. -/
def ProgramHeader.tail (ph : ProgramHeader) (address : Nat) : Prop :=
  ph.virtualAddr + ph.fileSize ≤ address ∧ address < ph.virtualAddr + ph.memSize

namespace ElfFile

variable (elf : ElfFile)

def fileBytes (ph : ProgramHeader) : List UInt8 := (elf.bytes.drop ph.offset).take ph.fileSize

/-- One turn of the loop. -/
def copySegment (memory : ByteMemory) (ph : ProgramHeader) : ByteMemory :=
  if ph.isLoad then memory.copy ph.virtualAddr (elf.fileBytes ph) else memory

def loadKernel (memory : ByteMemory) : ByteMemory := elf.programHeaders.foldl elf.copySegment memory

/-- An executable whose loadable segments lie in the file and apart in memory. -/
structure WellFormed : Prop where
  inFile : ∀ ph ∈ elf.programHeaders, ph.isLoad → ph.offset + ph.fileSize ≤ elf.bytes.length
  sizes : ∀ ph ∈ elf.programHeaders, ph.isLoad → ph.fileSize ≤ ph.memSize
  disjoint : elf.programHeaders.Pairwise fun first second => first.isLoad → second.isLoad →
    ∀ address, ¬ (first.contains address ∧ second.contains address)

/-- Every loadable segment is in memory: its file bytes, then zeros. -/
def Loaded (memory : ByteMemory) : Prop :=
  ∀ ph ∈ elf.programHeaders, ph.isLoad → memory.bytes ph.virtualAddr ph.memSize =
    elf.fileBytes ph ++ List.replicate (ph.memSize - ph.fileSize) 0

/-- The bytes for which the file has no contents were zero all along. -/
def ZeroTails (memory : ByteMemory) : Prop :=
  ∀ ph ∈ elf.programHeaders, ph.isLoad → ∀ address, ph.tail address → memory address = 0

variable {elf}

theorem WellFormed.fileBytes_length (wellFormed : elf.WellFormed) {ph : ProgramHeader}
    (member : ph ∈ elf.programHeaders) (load : ph.isLoad) :
    (elf.fileBytes ph).length = ph.fileSize := by
  have inside := wellFormed.inFile ph member load
  rw [fileBytes, List.length_take, List.length_drop]
  omega

/-- One turn leaves every byte outside the segment's file part as it was. -/
theorem copySegment_other (memory : ByteMemory) (ph : ProgramHeader) (address : Nat)
    (outside : ph.isLoad → address < ph.virtualAddr ∨ ph.virtualAddr + ph.fileSize ≤ address) :
    elf.copySegment memory ph address = memory address := by
  rw [copySegment]
  split
  · rename_i load
    have short : (elf.fileBytes ph).length ≤ ph.fileSize := List.length_take_le _ _
    have apart := outside load
    rw [ByteMemory.copy, if_neg]
    omega
  · rfl

/-- The rest of the loop leaves alone what no remaining segment covers. -/
theorem foldl_copySegment_other (headers : List ProgramHeader) (memory : ByteMemory)
    (address : Nat) (outside : ∀ ph ∈ headers, ph.isLoad →
      address < ph.virtualAddr ∨ ph.virtualAddr + ph.fileSize ≤ address) :
    headers.foldl elf.copySegment memory address = memory address := by
  induction headers generalizing memory with
  | nil => rfl
  | cons ph rest ih =>
    have later := fun other member => outside other (List.mem_cons_of_mem ph member)
    rw [List.foldl_cons, ih _ later]
    exact copySegment_other memory ph address (outside ph List.mem_cons_self)

/-- The loop copies the file bytes of each segment, and later turns keep them. -/
theorem WellFormed.fileBytes_loaded (wellFormed : elf.WellFormed) {ph : ProgramHeader}
    (member : ph ∈ elf.programHeaders) (load : ph.isLoad) (memory : ByteMemory) :
    (elf.loadKernel memory).bytes ph.virtualAddr ph.fileSize = elf.fileBytes ph := by
  obtain ⟨before, after, headers⟩ := List.append_of_mem member
  have size := wellFormed.fileBytes_length member load
  have apart : ∀ other ∈ after, other.isLoad → ∀ address,
      ¬ (ph.contains address ∧ other.contains address) := by
    have pairwise := wellFormed.disjoint
    rw [headers, List.pairwise_append] at pairwise
    intro other later otherLoad
    exact List.rel_of_pairwise_cons pairwise.2.1 later load otherLoad
  have copied : (before.foldl elf.copySegment memory |>.copy ph.virtualAddr
      (elf.fileBytes ph)).bytes ph.virtualAddr ph.fileSize = elf.fileBytes ph := by
    have same := ByteMemory.bytes_copy (before.foldl elf.copySegment memory) ph.virtualAddr
      (elf.fileBytes ph)
    rwa [size] at same
  rw [loadKernel, headers, List.foldl_append, List.foldl_cons, copySegment, if_pos load]
  refine Eq.trans (List.map_congr_left ?_) copied
  intro offset inside
  rw [List.mem_range] at inside
  apply foldl_copySegment_other
  intro other later otherLoad
  have whole := wellFormed.sizes ph member load
  have otherWhole := wellFormed.sizes other (by rw [headers]; simp [later]) otherLoad
  have disjoint := apart other later otherLoad (ph.virtualAddr + offset)
  simp only [ProgramHeader.contains] at disjoint
  omega

/-- Nothing is written behind the file bytes of a segment. -/
theorem WellFormed.tail_loaded (wellFormed : elf.WellFormed) {ph : ProgramHeader}
    (member : ph ∈ elf.programHeaders) (load : ph.isLoad) (memory : ByteMemory) {address : Nat}
    (behind : ph.tail address) : elf.loadKernel memory address = memory address := by
  apply foldl_copySegment_other
  intro other otherMember otherLoad
  have otherWhole := wellFormed.sizes other otherMember otherLoad
  have inside : ph.contains address := ⟨(Nat.le_add_right _ _).trans behind.1, behind.2⟩
  by_cases same : other = ph
  · right
    rw [same]
    exact behind.1
  · have symmetric : Std.Symm fun first second : ProgramHeader =>
        first.isLoad → second.isLoad →
          ∀ address, ¬ (first.contains address ∧ second.contains address) :=
      ⟨fun first second apart load load' cell both => apart load' load cell ⟨both.2, both.1⟩⟩
    have apart := wellFormed.disjoint.forall member otherMember (Ne.symm same) load otherLoad address
    have elsewhere : ¬ other.contains address := fun there => apart ⟨inside, there⟩
    simp only [ProgramHeader.contains] at elsewhere
    omega

/-- Whatever the image, the load loop leaves the segments as the format demands
exactly when the memory behind their file bytes was zero before. -/
theorem loadKernel_loaded_iff (wellFormed : elf.WellFormed) (memory : ByteMemory) :
    elf.Loaded (elf.loadKernel memory) ↔ elf.ZeroTails memory := by
  have segment : ∀ ph ∈ elf.programHeaders, ph.isLoad →
      ((elf.loadKernel memory).bytes ph.virtualAddr ph.memSize =
          elf.fileBytes ph ++ List.replicate (ph.memSize - ph.fileSize) 0 ↔
        ∀ address, ph.tail address → memory address = 0) := by
    intro ph member load
    have sizes := wellFormed.sizes ph member load
    have parts := (elf.loadKernel memory).bytes_add ph.virtualAddr ph.fileSize
      (ph.memSize - ph.fileSize)
    rw [Nat.add_sub_cancel' sizes, wellFormed.fileBytes_loaded member load] at parts
    rw [parts, List.append_cancel_left_eq, ByteMemory.bytes_eq_replicate]
    have stop : ph.virtualAddr + ph.fileSize + (ph.memSize - ph.fileSize) =
        ph.virtualAddr + ph.memSize := by omega
    rw [stop]
    constructor
    · intro zero address behind
      rw [← wellFormed.tail_loaded member load memory behind]
      exact zero address behind.1 behind.2
    · intro zero address start last
      rw [wellFormed.tail_loaded member load memory ⟨start, last⟩]
      exact zero address ⟨start, last⟩
  constructor
  · intro loaded ph member load
    exact (segment ph member load).mp (loaded ph member load)
  · intro zero ph member load
    exact (segment ph member load).mpr (zero ph member load)

/-- A kernel with a code segment of two bytes and, apart from it, a page of
zero-initialised statics. -/
def smallKernel : ElfFile where
  bytes := [0xEB, 0xFE]
  programHeaders := [⟨1, 0, 0x100000, 2, 2⟩, ⟨1, 2, 0x101000, 0, 0x1000⟩]

theorem smallKernel_wellFormed : smallKernel.WellFormed where
  inFile := by decide
  sizes := by decide
  disjoint := by
    simp only [smallKernel, List.pairwise_cons, List.mem_singleton, forall_eq,
      ProgramHeader.contains, List.not_mem_nil, false_imp_iff, implies_true, List.Pairwise.nil,
      and_true]
    omega

theorem loadKernel_loaded_iff_small :
    smallKernel.Loaded (smallKernel.loadKernel fun _ => 0) ↔ smallKernel.ZeroTails fun _ => 0 :=
  loadKernel_loaded_iff smallKernel_wellFormed _

/-- On memory which the firmware left full of ones, a zero-initialised static
starts as ones. -/
theorem loadKernel_not_loaded :
    ¬ ∀ (elf : ElfFile) (memory : ByteMemory), elf.WellFormed →
      elf.Loaded (elf.loadKernel memory) := by
  intro always
  have loaded := always smallKernel (fun _ => 0xFF) smallKernel_wellFormed
    ⟨1, 2, 0x101000, 0, 0x1000⟩ (by decide) (by decide)
  have behind : ProgramHeader.tail ⟨1, 2, 0x101000, 0, 0x1000⟩ 0x101000 := by
    constructor <;> decide
  have member : ⟨1, 2, 0x101000, 0, 0x1000⟩ ∈ smallKernel.programHeaders := by decide
  have kept := smallKernel_wellFormed.tail_loaded member (by decide) (fun _ => 0xFF) behind
  have zero : smallKernel.loadKernel (fun _ => 0xFF) 0x101000 = 0 := by
    have statics : (smallKernel.loadKernel fun _ => 0xFF).bytes 0x101000 0x1000 =
        List.replicate 0x1000 0 := loaded
    exact (ByteMemory.bytes_eq_replicate 0).mp statics _ (by decide) (by decide)
  rw [kept] at zero
  exact absurd zero (by decide)

end ElfFile

end QoreOS.Bootloader
