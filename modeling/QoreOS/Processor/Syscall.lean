import QoreOS.Library.X86

/-! The segment selectors, the drop to ring 3, and the stub behind `syscall`. -/

namespace QoreOS.Processor

open QoreOS.Library QoreOS.Library.X86

/-- The descriptors that `gdt.rs` adds. -/
inductive Descriptor where
  | kernelCodeSegment
  | kernelDataSegment
  | tssSegment
  | userCodeSegment
  | userDataSegment

def Descriptor.slots : Descriptor → Nat
  | .tssSegment => 2
  | _ => 1

def Descriptor.rpl : Descriptor → UInt16
  | .userCodeSegment => 3
  | .userDataSegment => 3
  | _ => 0

/-- The descriptor table of the `x86_64` crate; `used` counts the entries. -/
structure GdtCrate where
  Table : Type
  new : Table
  addEntry : Table → Descriptor → UInt16 × Table
  used : Table → Nat

/-- The crate's own account of it: eight entries, the first of which is null;
a selector gives the place of the entry and the privilege of the descriptor. -/
structure GdtCrate.Documented (crate : GdtCrate) : Prop where
  new : crate.used crate.new = 1
  used : ∀ table descriptor, crate.used table + descriptor.slots ≤ 8 →
    crate.used (crate.addEntry table descriptor).2 = crate.used table + descriptor.slots
  selector : ∀ table descriptor, crate.used table + descriptor.slots ≤ 8 →
    (crate.addEntry table descriptor).1 = UInt16.ofNat (8 * crate.used table) ||| descriptor.rpl

structure Selectors where
  codeSelector : UInt16
  dataSelector : UInt16
  tssSelector : UInt16
  userCode : UInt16
  userData : UInt16

/-- The selectors of `GDT` -/
def GdtCrate.selectors (crate : GdtCrate) : Selectors :=
  let gdt := crate.new
  let (codeSelector, gdt) := crate.addEntry gdt .kernelCodeSegment
  let (dataSelector, gdt) := crate.addEntry gdt .kernelDataSegment
  let (tssSelector, gdt) := crate.addEntry gdt .tssSegment
  let (userCode, gdt) := crate.addEntry gdt .userCodeSegment
  let (userData, _) := crate.addEntry gdt .userDataSegment
  { codeSelector := codeSelector
    dataSelector := dataSelector
    tssSelector := tssSelector
    userCode := userCode
    userData := userData }

/-- The selectors with which `main.rs` calls `drop_to_usermode`. -/
def Selectors.uCode (selectors : Selectors) : UInt16 := selectors.userCode &&& 0xFFFC ||| 3

def Selectors.uData (selectors : Selectors) : UInt16 := selectors.userData &&& 0xFFFC ||| 3

def wrmsr (eax edx : UInt32) : UInt64 := edx.toUInt64 <<< 32 ||| eax.toUInt64

/-- `syscall::init`; `rdmsr` gives it the low half of `EFER` alone. -/
def init (msrs : Msrs) (syscallEntry : UInt64)
    (kernelCodeSel _kernelDataSel userCodeSel _userDataSel : UInt16) : Msrs :=
  let efer := msrs.efer.toUInt32.toUInt64 ||| 1
  let starHigh := (userCodeSel &&& 0xFFFC) - 16
  let star := kernelCodeSel.toUInt64 <<< 32 ||| starHigh.toUInt64 <<< 48
  let lstar := syscallEntry
  let fmask := 0x200
  { efer := wrmsr efer.toUInt32 (efer >>> 32).toUInt32
    star := wrmsr star.toUInt32 (star >>> 32).toUInt32
    lstar := wrmsr lstar.toUInt32 (lstar >>> 32).toUInt32
    fmask := wrmsr fmask.toUInt32 (fmask >>> 32).toUInt32 }

/-- The registers as `main.rs` has them set up. -/
def GdtCrate.msrs (crate : GdtCrate) (msrs : Msrs) (syscallEntry : UInt64) : Msrs :=
  let selectors := crate.selectors
  init msrs syscallEntry selectors.codeSelector selectors.dataSelector selectors.userCode
    selectors.userData

def dropToUsermode : List Instruction :=
  [.movToSeg .ds .rsi,
    .movToSeg .es .rsi,
    .movToSeg .fs .rsi,
    .movToSeg .gs .rsi,
    .push .rsi,
    .push .rcx,
    .pushImm 0x002,
    .push .rdi,
    .push .rdx,
    .iretq]

def syscallEntry : List Instruction :=
  [.push .rcx,
    .push .r11,
    .push .rax, .push .rdi, .push .rsi, .push .rdx,
    .push .r8, .push .r9, .push .r10,
    .mov .rcx .rdx,
    .mov .rdx .rsi,
    .mov .rsi .rdi,
    .mov .rdi .rax,
    .movFromSeg .rax .ds,
    .push .rax,
    .movImm16 .rax 0x10,
    .movToSeg .ds .rax, .movToSeg .es .rax, .movToSeg .fs .rax, .movToSeg .gs .rax,
    .call,
    .mov .r12 .rax,
    .pop .rax,
    .movToSeg .ds .rax, .movToSeg .es .rax, .movToSeg .fs .rax, .movToSeg .gs .rax,
    .pop .r10, .pop .r9, .pop .r8,
    .pop .rdx, .pop .rsi, .pop .rdi, .pop .rax,
    .mov .rax .r12,
    .pop .r11, .pop .rcx,
    .sysretq]

/-- What `syscall_handler` makes of the machine when it is called with these
arguments. -/
abbrev Handler := (syscallNum arg1 arg2 arg3 : UInt64) → State → State

/-- The C calling convention -/
def Handler.callee (syscallHandler : Handler) (state : State) : State :=
  syscallHandler (state.regs .rdi) (state.regs .rsi) (state.regs .rdx) (state.regs .rcx) state

/-- `syscall` in front of `next`, the stub, and `sysretq`. -/
def roundTrip (msrs : Msrs) (syscallHandler : Handler) (user : State) (next : UInt64) :
    Option State := do
  let kernel ← user.syscall msrs next
  run (State.step msrs syscallHandler.callee) syscallEntry kernel

/-- The user program goes on behind its system call, with the result of the
handler in `rax` and in the segments it was started with; of the other registers
some may be `clobbered`. -/
structure Continues (selectors : Selectors) (syscallHandler : Handler) (clobbered : List Reg)
    (user : State) (next : UInt64) (after : State) : Prop where
  rip : after.rip = next
  rax : ∃ called, after.regs .rax = (syscallHandler (user.regs .rax) (user.regs .rdi)
    (user.regs .rsi) (user.regs .rdx) called).regs .rax
  others : ∀ reg, reg ∉ clobbered → after.regs reg = user.regs reg
  cs : after.segs .cs = selectors.uCode

/-- As the user program counts on it. -/
structure Resumes (selectors : Selectors) (syscallHandler : Handler) (user : State) (next : UInt64)
    (after : State) : Prop
    extends Continues selectors syscallHandler [.rax, .rcx, .r11] user next after where
  ss : after.segs .ss = selectors.uData

variable {crate : GdtCrate}

theorem GdtCrate.Documented.addEntry (documented : crate.Documented) {table : crate.Table} {place : Nat}
    (filled : crate.used table = place) (descriptor : Descriptor) (room : place + descriptor.slots ≤ 8) :
    (crate.addEntry table descriptor).1 = UInt16.ofNat (8 * place) ||| descriptor.rpl ∧
      crate.used (crate.addEntry table descriptor).2 = place + descriptor.slots := by
  subst filled
  exact ⟨documented.selector table descriptor room, documented.used table descriptor room⟩

/-- The order in which `gdt.rs` adds its descriptors decides the selectors. -/
theorem selectors_eq (documented : crate.Documented) : crate.selectors =
    { codeSelector := 0x08, dataSelector := 0x10, tssSelector := 0x18, userCode := 0x2B,
      userData := 0x33 } := by
  obtain ⟨code, filled⟩ := documented.addEntry documented.new .kernelCodeSegment (by decide)
  obtain ⟨data, filled⟩ := documented.addEntry filled .kernelDataSegment (by decide)
  obtain ⟨tss, filled⟩ := documented.addEntry filled .tssSegment (by decide)
  obtain ⟨userCode, filled⟩ := documented.addEntry filled .userCodeSegment (by decide)
  obtain ⟨userData, filled⟩ := documented.addEntry filled .userDataSegment (by decide)
  simp only [GdtCrate.selectors, code, data, tss, userCode, userData]
  rfl

variable {msrs : Msrs} {callee : State → State}

variable (msrs callee) in
/-- The drop loads the two selectors it is given. -/
theorem dropToUsermode_run (state : State) : ∃ after,
    run (State.step msrs callee) dropToUsermode state = some after ∧
    after.segs .cs = (state.regs .rdi).toUInt16 ∧ after.segs .ss = (state.regs .rsi).toUInt16 ∧
    after.rip = state.regs .rdx ∧ after.regs .rsp = state.regs .rcx := by
  obtain ⟨loaded, loads, same⟩ : ∃ loaded, run (State.step msrs callee) (dropToUsermode.take 4)
    state = some loaded ∧ loaded.regs = state.regs := ⟨_, rfl, rfl⟩
  rw [← same]
  have stacked := (((((Stacked.nil loaded).push (by simp) (loaded.regs .rsi)).push (by simp)
    (loaded.regs .rcx)).push (by simp) 0x002).push (by simp) (loaded.regs .rdi)).push (by simp)
    (loaded.regs .rdx)
  generalize filled_eq : ((((loaded.push (loaded.regs .rsi)).push (loaded.regs .rcx)).push
    0x002).push (loaded.regs .rdi)).push (loaded.regs .rdx) = filled at stacked
  have ran : run (State.step msrs callee) dropToUsermode state = some filled.iretq := by
    rw [← List.take_append_drop 4 dropToUsermode, run_append, loads, Option.bind_some, ← filled_eq]
    rfl
  refine ⟨_, ran, ?_, ?_, ?_, ?_⟩
  · simp [State.iretq, stacked.words 1 _ rfl]
  · simp [State.iretq, stacked.words 4 _ rfl]
  · exact stacked.words 0 _ rfl
  · simp [State.iretq, stacked.words 3 _ rfl]

/-- What `main.rs` hands over is what ring 3 starts with. -/
theorem dropToUsermode_installs (selectors : Selectors) {state : State}
    (code : state.regs .rdi = selectors.uCode.toUInt64)
    (data : state.regs .rsi = selectors.uData.toUInt64) : ∃ after,
    run (State.step msrs callee) dropToUsermode state = some after ∧
    after.segs .cs = selectors.uCode ∧ after.segs .ss = selectors.uData := by
  obtain ⟨after, ran, cs, ss, -⟩ := dropToUsermode_run msrs callee state
  rw [code, UInt16.toUInt16_toUInt64] at cs
  rw [data, UInt16.toUInt16_toUInt64] at ss
  exact ⟨after, ran, cs, ss⟩

end QoreOS.Processor
