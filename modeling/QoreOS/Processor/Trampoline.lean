import QoreOS.Library.ByteMemory
import QoreOS.Library.X86

/-! The machine code that takes an application processor from real mode to its
call of `ap_main`: the bytes, and the part of the processor they need. -/

namespace QoreOS.Processor

open QoreOS.Library QoreOS.Library.X86

inductive Mode where
  | real16
  | protected32
  | long64
  deriving DecidableEq

inductive Control where
  | cr0
  | cr3
  | cr4

/-- The instructions of the trampoline, named after their operands. -/
inductive Opcode where
  | cli
  | wbinvd
  | xorAx
  | movToSeg (seg : Seg)
  | lgdt (address : Nat)
  | movFromControl (control : Control)
  | movToControl (control : Control)
  | orEax (value : BitVec 64)
  | jmpFar (offset selector : Nat)
  | movEax (value : BitVec 64)
  | movEcx (value : BitVec 64)
  | loadEax (address : Nat)
  | rdmsr
  | wrmsr
  | lockXadd (address : Nat)
  | shlEax (count : Nat)
  | loadRbx (address : Nat)
  | loadRax (address : Nat)
  | subRbxRax
  | movRspRbx
  | xorRbpRbp
  | callRax

/-- The segment register in a ModR/M byte whose other operand is `ax`. -/
def segOperand : UInt8 → Option Seg
  | 0xC0 => some .es
  | 0xD0 => some .ss
  | 0xD8 => some .ds
  | 0xE0 => some .fs
  | 0xE8 => some .gs
  | _ => none

/-- The control register in a ModR/M byte whose other operand is `eax`. -/
def controlOperand : UInt8 → Option Control
  | 0xC0 => some .cr0
  | 0xD8 => some .cr3
  | 0xE0 => some .cr4
  | _ => none

/-- A byte as an immediate operand of 32 bits. -/
def signExtended (byte : UInt8) : BitVec 64 := (byte.toBitVec.signExtend 32).setWidth 64

def immediate (bytes : List UInt8) : BitVec 64 := BitVec.ofNat 64 (littleEndian bytes)

def decodeReal : List UInt8 → Option (Opcode × Nat)
  | 0xFA :: _ => some (.cli, 1)
  | 0x0F :: 0x09 :: _ => some (.wbinvd, 2)
  | 0x31 :: 0xC0 :: _ => some (.xorAx, 2)
  | 0x8E :: operand :: _ => (segOperand operand).map fun seg => (.movToSeg seg, 2)
  | 0x0F :: 0x01 :: 0x16 :: a :: b :: _ => some (.lgdt (littleEndian [a, b]), 5)
  | 0x0F :: 0x20 :: operand :: _ =>
    (controlOperand operand).map fun control => (.movFromControl control, 3)
  | 0x0F :: 0x22 :: operand :: _ =>
    (controlOperand operand).map fun control => (.movToControl control, 3)
  | 0x66 :: 0x83 :: 0xC8 :: a :: _ => some (.orEax (signExtended a), 4)
  | 0x66 :: 0xEA :: a :: b :: c :: d :: e :: f :: _ =>
    some (.jmpFar (littleEndian [a, b, c, d]) (littleEndian [e, f]), 8)
  | _ => none

def decodeProtected : List UInt8 → Option (Opcode × Nat)
  | 0xB8 :: a :: b :: c :: d :: _ => some (.movEax (immediate [a, b, c, d]), 5)
  | 0xB9 :: a :: b :: c :: d :: _ => some (.movEcx (immediate [a, b, c, d]), 5)
  | 0x8E :: operand :: _ => (segOperand operand).map fun seg => (.movToSeg seg, 2)
  | 0x0F :: 0x20 :: operand :: _ =>
    (controlOperand operand).map fun control => (.movFromControl control, 3)
  | 0x0F :: 0x22 :: operand :: _ =>
    (controlOperand operand).map fun control => (.movToControl control, 3)
  | 0x0F :: 0x30 :: _ => some (.wrmsr, 2)
  | 0x0F :: 0x32 :: _ => some (.rdmsr, 2)
  | 0x83 :: 0xC8 :: a :: _ => some (.orEax (signExtended a), 3)
  | 0x0D :: a :: b :: c :: d :: _ => some (.orEax (immediate [a, b, c, d]), 5)
  | 0xA1 :: a :: b :: c :: d :: _ => some (.loadEax (littleEndian [a, b, c, d]), 5)
  | 0xEA :: a :: b :: c :: d :: e :: f :: _ =>
    some (.jmpFar (littleEndian [a, b, c, d]) (littleEndian [e, f]), 7)
  | _ => none

def decodeLong : List UInt8 → Option (Opcode × Nat)
  | 0xB8 :: a :: b :: c :: d :: _ => some (.movEax (immediate [a, b, c, d]), 5)
  | 0x8E :: operand :: _ => (segOperand operand).map fun seg => (.movToSeg seg, 2)
  | 0xF0 :: 0x0F :: 0xC1 :: 0x04 :: 0x25 :: a :: b :: c :: d :: _ =>
    some (.lockXadd (littleEndian [a, b, c, d]), 9)
  | 0xC1 :: 0xE0 :: a :: _ => some (.shlEax a.toNat, 3)
  | 0x48 :: 0x8B :: 0x1C :: 0x25 :: a :: b :: c :: d :: _ =>
    some (.loadRbx (littleEndian [a, b, c, d]), 8)
  | 0x48 :: 0x8B :: 0x04 :: 0x25 :: a :: b :: c :: d :: _ =>
    some (.loadRax (littleEndian [a, b, c, d]), 8)
  | 0x48 :: 0x29 :: 0xC3 :: _ => some (.subRbxRax, 3)
  | 0x48 :: 0x89 :: 0xDC :: _ => some (.movRspRbx, 3)
  | 0x48 :: 0x31 :: 0xED :: _ => some (.xorRbpRbp, 3)
  | 0xFF :: 0xD0 :: _ => some (.callRax, 2)
  | _ => none

/-- The instruction at the head of the bytes, and its length. -/
def decode : Mode → List UInt8 → Option (Opcode × Nat)
  | .real16, bytes => decodeReal bytes
  | .protected32, bytes => decodeProtected bytes
  | .long64, bytes => decodeLong bytes

/-- An application processor, as far as the trampoline uses it; `ip` is the
linear address of the next instruction. Behind its call it is no longer in the
trampoline. -/
structure Core where
  mode : Mode
  ip : Nat
  rax : BitVec 64
  rbx : BitVec 64
  rcx : BitVec 64
  rdx : BitVec 64
  rsp : BitVec 64
  rbp : BitVec 64
  dsBase : Nat
  gdtrLimit : Nat
  gdtrBase : Nat
  cr0 : BitVec 64
  cr3 : BitVec 64
  cr4 : BitVec 64
  efer : BitVec 64
  called : Option (BitVec 64)

/-- A write to memory. -/
structure Store where
  address : Nat
  size : Nat
  value : Nat

def Store.apply (memory : ByteMemory) (store : Store) : ByteMemory :=
  memory.write store.address store.size store.value

/-- The page-table root in `CR3` -/
def pageRoot (cr3 : BitVec 64) : BitVec 64 := cr3 &&& 0x000FFFFFFFFFF000

/-- The low half of a register. -/
def low32 (value : BitVec 64) : BitVec 64 := value &&& 0xFFFFFFFF

namespace Core

/-- After INIT and a SIPI with vector 8; `signature` is what INIT leaves in `edx`. -/
def woken (signature : BitVec 64) : Core where
  mode := .real16
  ip := 0x8000
  rax := 0
  rbx := 0
  rcx := 0
  rdx := signature
  rsp := 0
  rbp := 0
  dsBase := 0
  gdtrLimit := 0xFFFF
  gdtrBase := 0
  cr0 := 0x60000010
  cr3 := 0
  cr4 := 0
  efer := 0
  called := none

def protection (core : Core) : Bool := core.cr0.getLsbD 0

def paging (core : Core) : Bool := core.cr0.getLsbD 31

def longModeEnabled (core : Core) : Bool := core.efer.getLsbD 8

def addressExtension (core : Core) : Bool := core.cr4.getLsbD 5

/-- The linear base of data accesses. -/
def dataBase (core : Core) : Nat := if core.mode = .long64 then 0 else core.dsBase

variable (load : Nat → Nat → Option Nat)

/-- A present descriptor of the table that `lgdt` has announced. -/
def descriptor (core : Core) (selector : Nat) : Option (BitVec 64) := do
  let offset := selector / 8 * 8
  if offset = 0 ∨ core.gdtrLimit < offset + 7 then none
  else
    let descriptor ← load (core.gdtrBase + offset) 8
    let descriptor := BitVec.ofNat 64 descriptor
    if descriptor.getLsbD 47 then some descriptor else none

def descriptorBase (descriptor : BitVec 64) : Nat :=
  (descriptor.extractLsb' 16 24).toNat + (descriptor.extractLsb' 56 8).toNat * 2 ^ 24

/-- The kind of code behind a code descriptor; 16-bit segments are not in use. -/
def codeMode (core : Core) (descriptor : BitVec 64) : Option Mode :=
  if !descriptor.getLsbD 43 then none
  else if descriptor.getLsbD 53 && core.longModeEnabled && core.paging then some .long64
  else if descriptor.getLsbD 54 then some .protected32
  else none

def readControl (core : Core) : Control → BitVec 64
  | .cr0 => core.cr0
  | .cr3 => core.cr3
  | .cr4 => core.cr4

/-- Paging needs protection, and in long mode also `CR4.PAE`. -/
def writeControl (core : Core) (value : BitVec 64) : Control → Option Core
  | .cr0 =>
    let next := { core with cr0 := value }
    if next.paging && (!next.protection || next.longModeEnabled && !next.addressExtension) then none
    else some next
  | .cr3 => some { core with cr3 := value }
  | .cr4 => some { core with cr4 := value }

/-- One instruction, with `next` the address behind it. A fault gives nothing. -/
def exec (core : Core) (next : Nat) : Opcode → Option (Core × Option Store)
  | .cli => some ({ core with ip := next }, none)
  | .wbinvd => some ({ core with ip := next }, none)
  | .xorAx => some ({ core with ip := next, rax := core.rax &&& ~~~0xFFFF }, none)
  | .movToSeg seg => do
    let selector := (core.rax &&& 0xFFFF).toNat
    let base ← if core.mode = .real16 then some (16 * selector)
      else (core.descriptor load selector).map descriptorBase
    some ({ core with ip := next, dsBase := if seg = .ds then base else core.dsBase }, none)
  | .lgdt address => do
    let limit ← load (core.dataBase + address) 2
    let base ← load (core.dataBase + address + 2) 4
    some ({ core with ip := next, gdtrLimit := limit, gdtrBase := base % 2 ^ 24 }, none)
  | .movFromControl control =>
    some ({ core with ip := next, rax := low32 (core.readControl control) }, none)
  | .movToControl control => do
    let core ← core.writeControl (low32 core.rax) control
    some ({ core with ip := next }, none)
  | .orEax value => some ({ core with ip := next, rax := low32 core.rax ||| value }, none)
  | .jmpFar offset selector => do
    if !core.protection then none
    else
      let descriptor ← core.descriptor load selector
      let mode ← core.codeMode descriptor
      some ({ core with mode := mode, ip := offset }, none)
  | .movEax value => some ({ core with ip := next, rax := value }, none)
  | .movEcx value => some ({ core with ip := next, rcx := value }, none)
  | .loadEax address => do
    let value ← load (core.dataBase + address) 4
    some ({ core with ip := next, rax := BitVec.ofNat 64 value }, none)
  | .rdmsr =>
    if low32 core.rcx = 0xC0000080 then
      some ({ core with ip := next, rax := low32 core.efer, rdx := core.efer >>> 32 }, none)
    else none
  | .wrmsr =>
    if low32 core.rcx = 0xC0000080 then
      some ({ core with ip := next, efer := low32 core.rdx <<< 32 ||| low32 core.rax }, none)
    else none
  | .lockXadd address => do
    let old ← load (core.dataBase + address) 4
    some ({ core with ip := next, rax := BitVec.ofNat 64 old }, some {
      address := core.dataBase + address
      size := 4
      value := (old + (low32 core.rax).toNat) % 2 ^ 32 })
  | .shlEax count => some ({ core with ip := next, rax := low32 (low32 core.rax <<< count) }, none)
  | .loadRbx address => do
    let value ← load (core.dataBase + address) 8
    some ({ core with ip := next, rbx := BitVec.ofNat 64 value }, none)
  | .loadRax address => do
    let value ← load (core.dataBase + address) 8
    some ({ core with ip := next, rax := BitVec.ofNat 64 value }, none)
  | .subRbxRax => some ({ core with ip := next, rbx := core.rbx - core.rax }, none)
  | .movRspRbx => some ({ core with ip := next, rsp := core.rbx }, none)
  | .xorRbpRbp => some ({ core with ip := next, rbp := 0 }, none)
  | .callRax => some ({ core with ip := core.rax.toNat, called := some core.rax }, none)

end Core

/-- How the page tables below a root translate an address. -/
abbrev Walk := BitVec 64 → Nat → Option Nat

namespace Core

variable (walk : Walk)

def translate (core : Core) (address : Nat) : Option Nat :=
  if core.paging then walk (pageRoot core.cr3) address else some address

def load (memory : ByteMemory) (core : Core) (address size : Nat) : Option Nat :=
  (core.translate walk address).map fun place => memory.read place size

def fetch (memory : ByteMemory) (core : Core) : Option (Opcode × Nat) := do
  let place ← core.translate walk core.ip
  decode core.mode (memory.bytes place 15)

/-- Fetch and execute; the memory bus carries out one step after the other. -/
def cycle (memory : ByteMemory) (core : Core) : Option (Core × ByteMemory) := do
  let (opcode, length) ← core.fetch walk memory
  let (next, store) ← core.exec (core.load walk memory) (core.ip + length) opcode
  match store with
  | none => some (next, memory)
  | some store =>
    let place ← core.translate walk store.address
    some (next, memory.write place store.size store.value)

/-- A step in the trampoline; a fault stops the processor for good. -/
def step (memory : ByteMemory) (core : Core) : Core × ByteMemory :=
  if core.called.isSome then (core, memory) else (core.cycle walk memory).getD (core, memory)

end Core

namespace Core

/-- A first part that still gives its value, and so on. -/
theorem bind_mono {α β : Type} {first second : Option α} {next after : α → Option β} {result : β}
    (found : first.bind next = some result) (same : ∀ value, first = some value → second = some value)
    (rest : ∀ value, next value = some result → after value = some result) :
    second.bind after = some result := by
  rw [Option.bind_eq_some_iff] at found ⊢
  obtain ⟨value, there, ends⟩ := found
  exact ⟨value, same value there, rest value ends⟩

variable {core : Core} {load other : Nat → Nat → Option Nat}

theorem descriptor_mono (agree : ∀ address size value, load address size = some value →
      other address size = some value) {selector : Nat} {descriptor : BitVec 64}
    (found : core.descriptor load selector = some descriptor) :
    core.descriptor other selector = some descriptor := by
  unfold Core.descriptor at found ⊢
  dsimp only at found ⊢
  split at found
  · cases found
  · rename_i inside
    rw [if_neg inside]
    exact bind_mono found (agree _ _) fun _ ends => ends

/-- Better informed loads change nothing. -/
theorem exec_mono (agree : ∀ address size value, load address size = some value →
      other address size = some value) {next : Nat} {opcode : Opcode} {result : Core × Option Store}
    (executes : core.exec load next opcode = some result) :
    core.exec other next opcode = some result := by
  cases opcode with
  | movToSeg seg =>
    by_cases real : core.mode = .real16
    · simp only [exec, Option.bind_eq_bind, if_pos real] at executes ⊢
      exact executes
    · simp only [exec, Option.bind_eq_bind, if_neg real] at executes ⊢
      refine bind_mono executes (fun base found => ?_) fun _ ends => ends
      rw [Option.map_eq_some_iff] at found ⊢
      obtain ⟨descriptor, there, same⟩ := found
      exact ⟨descriptor, descriptor_mono agree there, same⟩
  | jmpFar offset selector =>
    cases safe : core.protection with
    | false => simp [exec, safe] at executes
    | true =>
      simp only [exec, safe, Bool.not_true, Bool.false_eq_true, ↓reduceIte] at executes ⊢
      exact bind_mono executes (fun _ found => descriptor_mono agree found) fun _ ends => ends
  | lgdt address =>
    simp only [exec, Option.bind_eq_bind] at executes ⊢
    refine bind_mono executes (agree _ _) fun limit loads => ?_
    exact bind_mono loads (agree _ _) fun _ ends => ends
  | loadEax address =>
    simp only [exec, Option.bind_eq_bind] at executes ⊢
    exact bind_mono executes (agree _ _) fun _ ends => ends
  | loadRbx address =>
    simp only [exec, Option.bind_eq_bind] at executes ⊢
    exact bind_mono executes (agree _ _) fun _ ends => ends
  | loadRax address =>
    simp only [exec, Option.bind_eq_bind] at executes ⊢
    exact bind_mono executes (agree _ _) fun _ ends => ends
  | lockXadd address =>
    simp only [exec, Option.bind_eq_bind] at executes ⊢
    exact bind_mono executes (agree _ _) fun _ ends => ends
  | _ => exact executes

end Core

end QoreOS.Processor
