import QoreOS.Library.Interleaving
import QoreOS.Processor.Trampoline

/-! The broadcast that wakes the application processors: the memory they find,
and where their trampolines lead. -/

namespace QoreOS.Processor

open QoreOS.Library

def trampoline : List UInt8 := [
  -- 16-bit real mode
  0xFA, 0x0F, 0x09, 0x31, 0xC0, 0x8E, 0xD8, 0x8E, 0xC0, 0x8E, 0xD0,
  0x0F, 0x01, 0x16, 0x00, 0x81,
  0x0F, 0x20, 0xC0, 0x66, 0x83, 0xC8, 0x01,
  0x0F, 0x22, 0xC0, 0x66, 0xEA, 0x22, 0x80, 0x00, 0x00, 0x08, 0x00,
  -- 32-bit protected mode
  0xB8, 0x10, 0x00, 0x00, 0x00, 0x8E, 0xD8, 0x8E, 0xC0, 0x8E, 0xD0,
  0x8E, 0xE0, 0x8E, 0xE8, 0x0F, 0x20, 0xE0, 0x83, 0xC8, 0x20, 0x0F,
  0x22, 0xE0, 0xA1, 0x00, 0x85, 0x00, 0x00, 0x0F, 0x22, 0xD8, 0xB9,
  0x80, 0x00, 0x00, 0xC0, 0x0F, 0x32, 0x0D, 0x00, 0x01, 0x00, 0x00,
  0x0F, 0x30, 0x0F, 0x20, 0xC0, 0x0D, 0x00, 0x00, 0x00, 0x80, 0x0F,
  0x22, 0xC0, 0xEA, 0x62, 0x80, 0x00, 0x00, 0x18, 0x00,
  -- 64-bit long mode
  0xB8, 0x10, 0x00, 0x00, 0x00, 0x8E, 0xD8, 0x8E, 0xC0, 0x8E, 0xD0, 0x8E, 0xE0, 0x8E, 0xE8,
  0xB8, 0x00, 0x00, 0x00, 0x00,
  0xF0, 0x0F, 0xC1, 0x04, 0x25, 0x00, 0x86, 0x00, 0x00,
  0xC1, 0xE0, 0x0E,
  0x48, 0x8B, 0x1C, 0x25, 0x08, 0x86, 0x00, 0x00,
  0x48, 0x29, 0xC3,
  0x48, 0x89, 0xDC,
  0x48, 0x31, 0xED,
  0x48, 0x8B, 0x04, 0x25, 0x10, 0x86, 0x00, 0x00,
  0xFF, 0xD0,
  0xFA, 0xF4, 0xEB, 0xFD]

/-- Where the linker has put `AP_STACKS` and `ap_main`. -/
structure Statics where
  apStacks : Nat
  apMain : BitVec 64
  fits : apStacks + 4 * 16384 < 2 ^ 64

/-- What `copy_trampoline` writes around the code: the descriptor table, what
`lgdt` loads, and the four parameters. -/
def configuration (cr3 : BitVec 64) (statics : Statics) : List Store :=
  let gdtBase := 0x8120
  let stackTop := statics.apStacks + 16384 * 4
  [⟨gdtBase + 0, 8, 0x0000000000000000⟩,
    ⟨gdtBase + 8, 8, 0x00CF9A000000FFFF⟩,
    ⟨gdtBase + 16, 8, 0x00CF92000000FFFF⟩,
    ⟨gdtBase + 24, 8, 0x00AF9A000000FFFF⟩,
    ⟨0x8100, 2, 31⟩,
    ⟨0x8102, 4, 0x8120⟩,
    ⟨0x8500, 4, (cr3.setWidth 32).toNat⟩,
    ⟨0x8600, 4, 0⟩,
    ⟨0x8608, 8, stackTop⟩,
    ⟨0x8610, 8, statics.apMain.toNat⟩]

/-- `copy_trampoline` behind its work on the page tables. -/
def copyTrampoline (cr3 : BitVec 64) (statics : Statics) (memory : ByteMemory) : ByteMemory :=
  (configuration cr3 statics).foldl Store.apply (memory.copy 0x8000 trampoline)

/-- The processors that answer the broadcast, by their signatures, run the
trampoline in any order. -/
def bringUp (walk : Walk) (cr3 : BitVec 64) (statics : Statics) (memory : ByteMemory)
    (signatures : List (BitVec 64)) (schedule : List Nat) : ByteMemory × List Core :=
  interleave (fun memory core => core.step walk memory) schedule
    (copyTrampoline cr3 statics memory, signatures.map Core.woken)

/-- The processors at their call of `ap_main` use the page tables of the one that
woke them and have stacks of their own in `AP_STACKS`. -/
structure BroughtUp (cr3 : BitVec 64) (statics : Statics) (cores : List Core) : Prop where
  entry : ∀ core ∈ cores, ∀ target, core.called = some target → target = statics.apMain
  root : ∀ core ∈ cores, core.called.isSome → pageRoot core.cr3 = pageRoot cr3
  inside : ∀ core ∈ cores, core.called.isSome → statics.apStacks + 16384 ≤ core.rsp.toNat ∧
    core.rsp.toNat ≤ statics.apStacks + 4 * 16384
  apart : ∀ (first second : Nat) (core other : Core), first ≠ second →
    cores[first]? = some core → cores[second]? = some other →
    core.called.isSome → other.called.isSome →
    core.rsp.toNat + 16384 ≤ other.rsp.toNat ∨ other.rsp.toNat + 16384 ≤ core.rsp.toNat

/-- The first 2 MiB are mapped to themselves, as `copy_trampoline` sees to it. -/
def MapsLow (walk : Walk) (root : BitVec 64) : Prop :=
  ∀ address, address < 2 ^ 21 → walk root address = some address

/-- An instruction of the trampoline and its bytes. -/
structure Line where
  mode : Mode
  opcode : Opcode
  encoding : List UInt8

def realLines : List Line := [
  ⟨.real16, .cli, [0xFA]⟩,
  ⟨.real16, .wbinvd, [0x0F, 0x09]⟩,
  ⟨.real16, .xorAx, [0x31, 0xC0]⟩,
  ⟨.real16, .movToSeg .ds, [0x8E, 0xD8]⟩,
  ⟨.real16, .movToSeg .es, [0x8E, 0xC0]⟩,
  ⟨.real16, .movToSeg .ss, [0x8E, 0xD0]⟩,
  ⟨.real16, .lgdt 0x8100, [0x0F, 0x01, 0x16, 0x00, 0x81]⟩,
  ⟨.real16, .movFromControl .cr0, [0x0F, 0x20, 0xC0]⟩,
  ⟨.real16, .orEax 1, [0x66, 0x83, 0xC8, 0x01]⟩,
  ⟨.real16, .movToControl .cr0, [0x0F, 0x22, 0xC0]⟩,
  ⟨.real16, .jmpFar 0x8022 0x08, [0x66, 0xEA, 0x22, 0x80, 0x00, 0x00, 0x08, 0x00]⟩]

def protectedLines : List Line := [
  ⟨.protected32, .movEax 0x10, [0xB8, 0x10, 0x00, 0x00, 0x00]⟩,
  ⟨.protected32, .movToSeg .ds, [0x8E, 0xD8]⟩,
  ⟨.protected32, .movToSeg .es, [0x8E, 0xC0]⟩,
  ⟨.protected32, .movToSeg .ss, [0x8E, 0xD0]⟩,
  ⟨.protected32, .movToSeg .fs, [0x8E, 0xE0]⟩,
  ⟨.protected32, .movToSeg .gs, [0x8E, 0xE8]⟩,
  ⟨.protected32, .movFromControl .cr4, [0x0F, 0x20, 0xE0]⟩,
  ⟨.protected32, .orEax 0x20, [0x83, 0xC8, 0x20]⟩,
  ⟨.protected32, .movToControl .cr4, [0x0F, 0x22, 0xE0]⟩,
  ⟨.protected32, .loadEax 0x8500, [0xA1, 0x00, 0x85, 0x00, 0x00]⟩,
  ⟨.protected32, .movToControl .cr3, [0x0F, 0x22, 0xD8]⟩,
  ⟨.protected32, .movEcx 0xC0000080, [0xB9, 0x80, 0x00, 0x00, 0xC0]⟩,
  ⟨.protected32, .rdmsr, [0x0F, 0x32]⟩,
  ⟨.protected32, .orEax 0x100, [0x0D, 0x00, 0x01, 0x00, 0x00]⟩,
  ⟨.protected32, .wrmsr, [0x0F, 0x30]⟩,
  ⟨.protected32, .movFromControl .cr0, [0x0F, 0x20, 0xC0]⟩,
  ⟨.protected32, .orEax 0x80000000, [0x0D, 0x00, 0x00, 0x00, 0x80]⟩,
  ⟨.protected32, .movToControl .cr0, [0x0F, 0x22, 0xC0]⟩,
  ⟨.protected32, .jmpFar 0x8062 0x18, [0xEA, 0x62, 0x80, 0x00, 0x00, 0x18, 0x00]⟩]

def longLines : List Line := [
  ⟨.long64, .movEax 0x10, [0xB8, 0x10, 0x00, 0x00, 0x00]⟩,
  ⟨.long64, .movToSeg .ds, [0x8E, 0xD8]⟩,
  ⟨.long64, .movToSeg .es, [0x8E, 0xC0]⟩,
  ⟨.long64, .movToSeg .ss, [0x8E, 0xD0]⟩,
  ⟨.long64, .movToSeg .fs, [0x8E, 0xE0]⟩,
  ⟨.long64, .movToSeg .gs, [0x8E, 0xE8]⟩,
  ⟨.long64, .movEax 0, [0xB8, 0x00, 0x00, 0x00, 0x00]⟩,
  ⟨.long64, .lockXadd 0x8600, [0xF0, 0x0F, 0xC1, 0x04, 0x25, 0x00, 0x86, 0x00, 0x00]⟩,
  ⟨.long64, .shlEax 14, [0xC1, 0xE0, 0x0E]⟩,
  ⟨.long64, .loadRbx 0x8608, [0x48, 0x8B, 0x1C, 0x25, 0x08, 0x86, 0x00, 0x00]⟩,
  ⟨.long64, .subRbxRax, [0x48, 0x29, 0xC3]⟩,
  ⟨.long64, .movRspRbx, [0x48, 0x89, 0xDC]⟩,
  ⟨.long64, .xorRbpRbp, [0x48, 0x31, 0xED]⟩,
  ⟨.long64, .loadRax 0x8610, [0x48, 0x8B, 0x04, 0x25, 0x10, 0x86, 0x00, 0x00]⟩,
  ⟨.long64, .callRax, [0xFF, 0xD0]⟩]

/-- The instructions up to the call. -/
def lines : List Line := realLines ++ (protectedLines ++ longLines)

theorem trampoline_lines :
    trampoline = lines.flatMap Line.encoding ++ [0xFA, 0xF4, 0xEB, 0xFD] := by
  decide +kernel

/-- The bytes are those of the instruction, whatever follows them. -/
def Line.Decodes (line : Line) : Prop :=
  ∀ rest, decode line.mode (line.encoding ++ rest) = some (line.opcode, line.encoding.length)

/-- What can be read of the configuration. -/
def configured (cr3 : BitVec 64) (statics : Statics) (address size : Nat) : Option Nat :=
  ((configuration cr3 statics).find? fun store => store.address = address ∧ store.size = size).map
    Store.value

/-- Where the lines lead a processor whose loads answer as given. On the way
nothing is written to memory that was not there already, and no other root than
the given one is used. -/
def follow (load : Nat → Nat → Option Nat) (root : BitVec 64) : List Line → Nat → Core → Option Core
  | [], _, core => some core
  | line :: lines, address, core =>
    if core.ip = address ∧ core.mode = line.mode ∧ core.called = none ∧
        (core.paging = false ∨ core.cr3 = root) then
      match core.exec load (address + line.encoding.length) line.opcode with
      | some (next, none) => follow load root lines (address + line.encoding.length) next
      | some (next, some store) =>
        if load store.address store.size = some store.value then
          follow load root lines (address + line.encoding.length) next
        else none
      | none => none
    else none

def loadedRoot (cr3 : BitVec 64) : BitVec 64 := low32 (BitVec.ofNat 64 (cr3.setWidth 32).toNat)

/-- In real mode: the descriptor table, and protection. -/
theorem real_follows (cr3 : BitVec 64) (statics : Statics) (signature : BitVec 64)
    (lines : List Line) :
    follow (configured cr3 statics) (loadedRoot cr3) (realLines ++ lines) 0x8000
      (Core.woken signature) =
    follow (configured cr3 statics) (loadedRoot cr3) lines 0x8022
      { Core.woken signature with
        mode := .protected32, ip := 0x8022, rax := 0x60000011, gdtrLimit := 31, gdtrBase := 0x8120,
        cr0 := 0x60000011 } := by
  simp -implicitDefEqProofs [realLines, follow, Core.woken, Core.exec, Core.dataBase, configured,
    configuration, Core.writeControl, Core.readControl, Core.paging, Core.protection, low32,
    Core.descriptor, Core.codeMode, Core.longModeEnabled]

/-- In protected mode: the page tables, and long mode. -/
theorem protected_follows (cr3 : BitVec 64) (statics : Statics) (signature : BitVec 64)
    (lines : List Line) :
    follow (configured cr3 statics) (loadedRoot cr3) (protectedLines ++ lines) 0x8022
      { Core.woken signature with
        mode := .protected32, ip := 0x8022, rax := 0x60000011, gdtrLimit := 31, gdtrBase := 0x8120,
        cr0 := 0x60000011 } =
    follow (configured cr3 statics) (loadedRoot cr3) lines 0x8062
      { Core.woken signature with
        mode := .long64, ip := 0x8062, rax := 0xE0000011, rcx := 0xC0000080, rdx := 0,
        gdtrLimit := 31, gdtrBase := 0x8120, cr0 := 0xE0000011, cr3 := loadedRoot cr3, cr4 := 0x20,
        efer := 0x100 } := by
  simp -implicitDefEqProofs [protectedLines, follow, Core.woken, Core.exec, Core.dataBase, configured,
    configuration, Core.writeControl, Core.readControl, Core.paging, Core.protection, low32,
    Core.descriptor, Core.codeMode, Core.longModeEnabled, Core.addressExtension, loadedRoot,
    Core.descriptorBase]

/-- A processor at its call. -/
def Core.calling (cr3 : BitVec 64) (statics : Statics) : Core where
  mode := .long64
  ip := statics.apMain.toNat
  rax := statics.apMain
  rbx := BitVec.ofNat 64 (statics.apStacks + 16384 * 4)
  rcx := 0xC0000080
  rdx := 0
  rsp := BitVec.ofNat 64 (statics.apStacks + 16384 * 4)
  rbp := 0
  dsBase := 0
  gdtrLimit := 31
  gdtrBase := 0x8120
  cr0 := 0xE0000011
  cr3 := loadedRoot cr3
  cr4 := 0x20
  efer := 0x100
  called := some statics.apMain

/-- In long mode: the stack and the call. The register that `xadd` adds is 0, so
the counter stays as it is, and every processor takes the topmost stack. -/
theorem long_follows (cr3 : BitVec 64) (statics : Statics) (signature : BitVec 64) :
    follow (configured cr3 statics) (loadedRoot cr3) longLines 0x8062
      { Core.woken signature with
        mode := .long64, ip := 0x8062, rax := 0xE0000011, rcx := 0xC0000080, rdx := 0,
        gdtrLimit := 31, gdtrBase := 0x8120, cr0 := 0xE0000011, cr3 := loadedRoot cr3, cr4 := 0x20,
        efer := 0x100 } = some (Core.calling cr3 statics) := by
  simp -implicitDefEqProofs [longLines, follow, Core.woken, Core.exec, Core.dataBase, configured,
    configuration, Core.paging, low32, Core.descriptor, Core.descriptorBase, Core.calling]

theorem lines_follow (cr3 : BitVec 64) (statics : Statics) (signature : BitVec 64) :
    follow (configured cr3 statics) (loadedRoot cr3) lines 0x8000 (Core.woken signature) =
      some (Core.calling cr3 statics) := by
  rw [lines, real_follows, protected_follows, long_follows]

end QoreOS.Processor
