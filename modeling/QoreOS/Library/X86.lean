import QoreOS.Library.ByteMemory
import QoreOS.Library.Run

/-! The part of an x86-64 processor which system calls exercise: general and
segment registers, the stack in memory, and the changes of privilege. -/

namespace QoreOS.Library.X86

inductive Reg where
  | rax | rbx | rcx | rdx | rsi | rdi | rbp | rsp
  | r8 | r9 | r10 | r11 | r12 | r13 | r14 | r15
  deriving DecidableEq

inductive Seg where
  | cs | ss | ds | es | fs | gs
  deriving DecidableEq

/-- The registers that a C function may leave with any value. -/
def Reg.callerSaved : Reg → Bool
  | .rax | .rcx | .rdx | .rsi | .rdi | .r8 | .r9 | .r10 | .r11 => true
  | _ => false

structure State where
  regs : Reg → UInt64
  segs : Seg → UInt16
  rip : UInt64
  rflags : UInt64
  memory : ByteMemory

/-- The model-specific registers behind `syscall` and `sysret`. -/
structure Msrs where
  efer : UInt64
  star : UInt64
  lstar : UInt64
  fmask : UInt64

inductive Instruction where
  | push (reg : Reg)
  | pushImm (value : UInt64)
  | pop (reg : Reg)
  | mov (target source : Reg)
  | movFromSeg (target : Reg) (source : Seg)
  | movImm16 (target : Reg) (value : UInt16)
  | movToSeg (target : Seg) (source : Reg)
  | call
  | iretq
  | sysretq
  deriving DecidableEq

namespace State

def setReg (state : State) (reg : Reg) (value : UInt64) : State :=
  { state with regs := Function.update state.regs reg value }

/-- Write the low 16 bits of a register. -/
def setLow16 (state : State) (reg : Reg) (value : UInt16) : State :=
  state.setReg reg (state.regs reg &&& ~~~0xFFFF ||| value.toUInt64)

def setSeg (state : State) (seg : Seg) (value : UInt16) : State :=
  { state with segs := Function.update state.segs seg value }

/-- A quadword of the stack. -/
def word (state : State) (index : Nat) : UInt64 :=
  UInt64.ofNat (state.memory.read (state.regs .rsp + UInt64.ofNat (8 * index)).toNat 8)

def push (state : State) (value : UInt64) : State :=
  let rsp := state.regs .rsp - 8
  { state.setReg .rsp rsp with memory := state.memory.write rsp.toNat 8 value.toNat }

def pop (state : State) (reg : Reg) : State :=
  (state.setReg .rsp (state.regs .rsp + 8)).setReg reg (state.word 0)

/-- `syscall`, with `next` the address of the instruction behind it. -/
def syscall (msrs : Msrs) (next : UInt64) (state : State) : Option State :=
  if msrs.efer &&& 1 = 0 then none
  else
    let selector := (msrs.star >>> 32).toUInt16
    let state := (state.setReg .rcx next).setReg .r11 state.rflags
    some { (state.setSeg .cs (selector &&& 0xFFFC)).setSeg .ss (selector + 8) with
      rip := msrs.lstar
      rflags := state.rflags &&& ~~~msrs.fmask }

/-- `sysretq`; the flags that it cannot load read as the processor fixes them. -/
def sysretq (msrs : Msrs) (state : State) : Option State :=
  if msrs.efer &&& 1 = 0 ∨ state.segs .cs &&& 3 ≠ 0 then none
  else
    let selector := (msrs.star >>> 48).toUInt16
    some { (state.setSeg .cs (selector + 16 ||| 3)).setSeg .ss (selector + 8 ||| 3) with
      rip := state.regs .rcx
      rflags := state.regs .r11 &&& 0x3C7FD7 ||| 2 }

def iretq (state : State) : State :=
  let loaded := (state.setSeg .cs (state.word 1).toUInt16).setSeg .ss (state.word 4).toUInt16
  { loaded.setReg .rsp (state.word 3) with
    rip := state.word 0
    rflags := state.word 2 }

/-- The interrupt flag and the I/O privilege level. -/
def guarded (state : State) : UInt64 := state.rflags &&& 0x3200

/-- An interrupt gate is entered from ring 3, on the stack for ring 0. -/
def takeInterrupt (state : State) (stack : UInt64) (selector : UInt16) (next : UInt64) : State :=
  let inner := state.setReg .rsp (stack &&& ~~~15)
  let framed := ((((inner.push (state.segs .ss).toUInt64).push (state.regs .rsp)).push
    state.rflags).push (state.segs .cs).toUInt64).push next
  { (framed.setSeg .cs selector).setSeg .ss 0 with rflags := state.rflags &&& ~~~0x14300 }

/-- One instruction; `callee` is what a called function does from its entry to
its return. -/
def step (msrs : Msrs) (callee : State → State) (state : State) : Instruction → Option State
  | .push reg => some (state.push (state.regs reg))
  | .pushImm value => some (state.push value)
  | .pop reg => some (state.pop reg)
  | .mov target source => some (state.setReg target (state.regs source))
  | .movFromSeg target source => some (state.setLow16 target (state.segs source))
  | .movImm16 target value => some (state.setLow16 target value)
  | .movToSeg target source => some (state.setSeg target (state.regs source).toUInt16)
  | .call => some (callee state)
  | .iretq => some state.iretq
  | .sysretq => state.sysretq msrs

end State

/-- What the C ABI promises: the callee-saved registers, and the `frame`
quadwords which the caller has on the stack. -/
structure FollowsAbi (frame : Nat) (before after : State) : Prop where
  saved : ∀ reg, reg.callerSaved = false → after.regs reg = before.regs reg
  segs : after.segs = before.segs
  stack : ∀ index, index < frame → before.memory.read
    (before.regs .rsp + UInt64.ofNat (8 * index)).toNat 8 = after.memory.read
    (before.regs .rsp + UInt64.ofNat (8 * index)).toNat 8

/-- What is promised of an interrupt handler: all registers, and the frame that the processor has
pushed. -/
structure FollowsInterruptAbi (before after : State) : Prop where
  regs : after.regs = before.regs
  segs : after.segs = before.segs
  stack : ∀ index, index < 5 → before.memory.read
    (before.regs .rsp + UInt64.ofNat (8 * index)).toNat 8 = after.memory.read
    (before.regs .rsp + UInt64.ofNat (8 * index)).toNat 8

/-- The values pushed since the stack pointer was `base`, the last one first. -/
structure Stacked (state : State) (base : UInt64) (values : List UInt64) : Prop where
  top : state.regs .rsp + UInt64.ofNat (8 * values.length) = base
  words : ∀ index value, values[index]? = some value → state.word index = value

variable {state : State} {base : UInt64} {values : List UInt64}

theorem quadwords_apart (address : UInt64) {index : Nat} (above : 0 < index)
    (room : 8 * index < 2 ^ 64) :
    address.toNat + 8 ≤ (address + UInt64.ofNat (8 * index)).toNat ∨
      (address + UInt64.ofNat (8 * index)).toNat + 8 ≤ address.toNat := by
  have small := address.toNat_lt
  rw [UInt64.toNat_add, UInt64.toNat_ofNat', Nat.mod_eq_of_lt room]
  omega

/-- Stack addresses from the one below. -/
theorem address_succ (address : UInt64) (index : Nat) :
    address - 8 + UInt64.ofNat (8 * (index + 1)) = address + UInt64.ofNat (8 * index) := by
  have eight : UInt64.ofNat 8 = 8 := rfl
  rw [Nat.mul_succ, UInt64.ofNat_add, UInt64.add_comm (UInt64.ofNat _), ← UInt64.add_assoc, eight,
    UInt64.sub_add_cancel]

theorem address_add (address : UInt64) (index : Nat) :
    address + 8 + UInt64.ofNat (8 * index) = address + UInt64.ofNat (8 * (index + 1)) := by
  have eight : UInt64.ofNat 8 = 8 := rfl
  rw [Nat.mul_succ, UInt64.ofNat_add, UInt64.add_assoc, UInt64.add_comm 8, eight]

namespace State

@[simp] theorem setReg_regs (state : State) (reg other : Reg) (value : UInt64) :
    (state.setReg reg value).regs other = if other = reg then value else state.regs other :=
  Function.update_apply ..

@[simp] theorem setLow16_regs (state : State) (reg other : Reg) (value : UInt16) :
    (state.setLow16 reg value).regs other =
      if other = reg then state.regs reg &&& ~~~0xFFFF ||| value.toUInt64 else state.regs other :=
  Function.update_apply ..

@[simp] theorem setSeg_segs (state : State) (seg other : Seg) (value : UInt16) :
    (state.setSeg seg value).segs other = if other = seg then value else state.segs other :=
  Function.update_apply ..

@[simp] theorem setReg_segs (state : State) (reg : Reg) (value : UInt64) :
    (state.setReg reg value).segs = state.segs := rfl

@[simp] theorem setLow16_segs (state : State) (reg : Reg) (value : UInt16) :
    (state.setLow16 reg value).segs = state.segs := rfl

@[simp] theorem setSeg_regs (state : State) (seg : Seg) (value : UInt16) :
    (state.setSeg seg value).regs = state.regs := rfl

@[simp] theorem push_regs (state : State) (value : UInt64) (reg : Reg) :
    (state.push value).regs reg = if reg = .rsp then state.regs .rsp - 8 else state.regs reg :=
  Function.update_apply ..

@[simp] theorem push_segs (state : State) (value : UInt64) : (state.push value).segs = state.segs :=
  rfl

@[simp] theorem pop_regs (state : State) (reg other : Reg) :
    (state.pop reg).regs other = if other = reg then state.word 0
      else if other = .rsp then state.regs .rsp + 8 else state.regs other := by
  rw [pop, setReg_regs, setReg_regs]

@[simp] theorem pop_segs (state : State) (reg : Reg) : (state.pop reg).segs = state.segs := rfl

theorem sysretq_some {msrs : Msrs} {state : State} (armed : msrs.efer &&& 1 ≠ 0)
    (ring0 : state.segs .cs &&& 3 = 0) : ∃ after, state.sysretq msrs = some after ∧
    after.regs = state.regs ∧ after.rip = state.regs .rcx ∧
    after.segs .cs = (msrs.star >>> 48).toUInt16 + 16 ||| 3 ∧
    after.segs .ss = (msrs.star >>> 48).toUInt16 + 8 ||| 3 :=
  ⟨_, if_neg (not_or.mpr ⟨armed, not_not.mpr ring0⟩), rfl, rfl, rfl, rfl⟩

theorem push_word_zero (state : State) (value : UInt64) : (state.push value).word 0 = value := by
  have small := value.toNat_lt
  have address : (state.push value).regs .rsp + UInt64.ofNat (8 * 0) = state.regs .rsp - 8 := by
    rw [push_regs, if_pos rfl]
    exact UInt64.add_zero _
  rw [word, address, push, ByteMemory.read_write, Nat.mod_eq_of_lt (by omega), UInt64.ofNat_toNat]

theorem push_word_succ (state : State) (value : UInt64) {index : Nat}
    (room : 8 * (index + 1) < 2 ^ 64) : (state.push value).word (index + 1) = state.word index := by
  have apart := quadwords_apart (state.regs .rsp - 8) (Nat.succ_pos index) room
  rw [address_succ] at apart
  rw [word, push_regs, if_pos rfl, address_succ, push, ByteMemory.read_write_of_disjoint apart, word]

end State

theorem Stacked.nil (state : State) : Stacked state (state.regs .rsp) [] := by
  constructor
  · exact UInt64.add_zero _
  · intro index value found
    cases found

theorem Stacked.push (stacked : Stacked state base values)
    (room : 8 * (values.length + 1) ≤ 2 ^ 64) (value : UInt64) :
    Stacked (state.push value) base (value :: values) := by
  constructor
  · rw [State.push_regs, if_pos rfl, List.length_cons, address_succ]
    exact stacked.top
  · intro index other found
    cases index with
    | zero =>
      cases found
      exact state.push_word_zero value
    | succ index =>
      rw [List.getElem?_cons_succ] at found
      have inside := (List.getElem?_eq_some_iff.mp found).1
      rw [State.push_word_succ _ _ (by omega)]
      exact stacked.words index other found

theorem Stacked.pop {value : UInt64} (stacked : Stacked state base (value :: values)) {reg : Reg}
    (other : reg ≠ .rsp) :
    (state.pop reg).regs reg = value ∧ Stacked (state.pop reg) base values := by
  have rsp : (state.pop reg).regs .rsp = state.regs .rsp + 8 := by
    rw [State.pop_regs, if_neg other.symm, if_pos rfl]
  refine ⟨?_, ?_, ?_⟩
  · rw [State.pop_regs, if_pos rfl]
    exact stacked.words 0 value rfl
  · rw [rsp, address_add]
    exact stacked.top
  · intro index found there
    have same : (state.pop reg).word index = state.word (index + 1) := by
      rw [State.word, rsp, address_add]
      rfl
    rw [same]
    exact stacked.words (index + 1) found there

/-- What neither moves the stack pointer nor writes to memory keeps the stack. -/
theorem Stacked.keep {after : State} (stacked : Stacked state base values)
    (rsp : after.regs .rsp = state.regs .rsp) (memory : after.memory = state.memory) :
    Stacked after base values := by
  constructor
  · rw [rsp]
    exact stacked.top
  · intro index value found
    rw [State.word, rsp, memory]
    exact stacked.words index value found

theorem Stacked.called {after : State} (stacked : Stacked state base values)
    (abi : FollowsAbi values.length state after) : Stacked after base values := by
  have rsp := abi.saved .rsp rfl
  constructor
  · rw [rsp]
    exact stacked.top
  · intro index value found
    have inside := (List.getElem?_eq_some_iff.mp found).1
    rw [State.word, rsp, ← abi.stack index inside]
    exact stacked.words index value found

/-- A handler in between, and the interrupted program goes on. -/
theorem iretq_takeInterrupt {handler : State → State}
    (abi : ∀ before, FollowsInterruptAbi before (handler before)) (state : State) (stack : UInt64)
    (selector : UInt16) (next : UInt64) :
    let back := (handler (state.takeInterrupt stack selector next)).iretq
    back.regs = state.regs ∧ back.segs = state.segs ∧ back.rip = next ∧
      back.rflags = state.rflags := by
  have framed := ((((((Stacked.nil (state.setReg .rsp (stack &&& ~~~15))).push (by simp)
    (state.segs .ss).toUInt64).push (by simp) (state.regs .rsp)).push (by simp) state.rflags).push
    (by simp) (state.segs .cs).toUInt64).push (by simp) next)
  have entered : Stacked (state.takeInterrupt stack selector next) _ _ := framed.keep rfl rfl
  have promised := abi (state.takeInterrupt stack selector next)
  have left := entered.called ⟨fun _ _ => by rw [promised.regs], promised.segs, promised.stack⟩
  generalize handler (state.takeInterrupt stack selector next) = returned at promised left
  have regs : ∀ reg, reg ≠ .rsp → returned.regs reg = state.regs reg := by
    intro reg other
    rw [promised.regs]
    simp [State.takeInterrupt, State.setSeg, State.push, State.setReg, other]
  have segs : ∀ seg, seg ≠ .cs → seg ≠ .ss → returned.segs seg = state.segs seg := by
    intro seg code stack
    rw [promised.segs]
    simp [State.takeInterrupt, State.setSeg, State.push, State.setReg, code, stack]
  refine ⟨?_, ?_, left.words 0 _ rfl, left.words 2 _ rfl⟩
  · funext reg
    rcases eq_or_ne reg .rsp with rfl | other
    · simp [State.iretq, left.words 3 _ rfl]
    · simp [State.iretq, other, regs]
  · funext seg
    rcases eq_or_ne seg .ss with rfl | notStack
    · simp [State.iretq, left.words 4 _ rfl]
    · rcases eq_or_ne seg .cs with rfl | notCode
      · simp [State.iretq, left.words 1 _ rfl]
      · simp [State.iretq, notStack, notCode, segs]

variable (msrs : Msrs) (callee : State → State)

/-- Registers saved one after the other. -/
theorem run_pushes (stacked : Stacked state base values) (regs : List Reg)
    (others : Reg.rsp ∉ regs) (room : 8 * (values.length + regs.length) ≤ 2 ^ 64) : ∃ after,
    run (State.step msrs callee) (regs.map .push) state = some after ∧
    Stacked after base ((regs.map state.regs).reverse ++ values) ∧
    (∀ reg, reg ≠ .rsp → after.regs reg = state.regs reg) ∧ after.segs = state.segs := by
  induction regs generalizing state values with
  | nil => exact ⟨state, rfl, stacked, fun _ _ => rfl, rfl⟩
  | cons reg regs ih =>
    rw [List.mem_cons, not_or] at others
    rw [List.length_cons] at room
    obtain ⟨after, ran, saved, same, segs⟩ := ih (stacked.push (by omega) (state.regs reg)) others.2
      (by rw [List.length_cons]; omega)
    refine ⟨after, ran, ?_, ?_, segs⟩
    · have kept : regs.map (state.push (state.regs reg)).regs = regs.map state.regs := by
        apply List.map_congr_left
        intro other member
        rw [State.push_regs, if_neg]
        rintro rfl
        exact others.2 member
      rw [kept] at saved
      simpa using saved
    · intro other apart
      rw [same other apart, State.push_regs, if_neg apart]

/-- Registers restored one after the other, from what `saved` holds for them. -/
theorem run_pops {saved : Reg → UInt64} (regs : List Reg) (others : Reg.rsp ∉ regs)
    (stacked : Stacked state base (regs.map saved ++ values)) : ∃ after,
    run (State.step msrs callee) (regs.map .pop) state = some after ∧
    Stacked after base values ∧
    (∀ reg, reg ≠ .rsp → after.regs reg = if reg ∈ regs then saved reg else state.regs reg) ∧
    after.segs = state.segs := by
  induction regs generalizing state with
  | nil => exact ⟨state, rfl, stacked, fun _ _ => rfl, rfl⟩
  | cons reg regs ih =>
    rw [List.mem_cons, not_or] at others
    obtain ⟨popped, rest⟩ := Stacked.pop stacked (Ne.symm others.1)
    obtain ⟨after, ran, left, same, segs⟩ := ih others.2 rest
    refine ⟨after, ran, left, ?_, segs⟩
    intro other apart
    rw [same other apart]
    by_cases later : other ∈ regs
    · rw [if_pos later, if_pos (List.mem_cons_of_mem reg later)]
    · rw [if_neg later]
      by_cases now : other = reg
      · rw [now, popped, if_pos List.mem_cons_self]
      · rw [if_neg (by rw [List.mem_cons, not_or]; exact ⟨now, later⟩)]
        rw [State.pop_regs, if_neg now, if_neg apart]

/-- Segment registers loaded one after the other. -/
theorem run_loads (state : State) (segs : List Seg) (source : Reg) : ∃ after,
    run (State.step msrs callee) (segs.map (.movToSeg · source)) state = some after ∧
    after.regs = state.regs ∧ after.memory = state.memory ∧
    ∀ seg, seg ∉ segs → after.segs seg = state.segs seg := by
  induction segs generalizing state with
  | nil => exact ⟨state, rfl, rfl, rfl, fun _ _ => rfl⟩
  | cons seg segs ih =>
    obtain ⟨after, ran, regs, memory, same⟩ := ih (state.setSeg seg (state.regs source).toUInt16)
    refine ⟨after, ran, regs, memory, ?_⟩
    intro other apart
    rw [List.mem_cons, not_or] at apart
    rw [same other apart.2, State.setSeg_segs, if_neg apart.1]

end QoreOS.Library.X86
