import QoreOS.Processor.RoundTrip

/-! The machine behind the drop to ring 3: what a user program that leaves the kernel's code and
tables alone, the keyboard and the mouse can still bring about. -/

namespace QoreOS.Processor

open QoreOS.Library QoreOS.Library.X86

/-- The privilege from which the gates of `IDT` may be entered by an instruction. -/
def gateLevel : Nat → Option Nat
  | 3 => some 0
  | 8 => some 0
  | 32 => some 0
  | 33 => some 3
  | 44 => some 3
  | 0x80 => some 3
  | _ => none

/-- What the kernel has set up: the selectors, the registers behind `syscall`, its handler and the
stacks on which it may be called, the handlers of the interrupts and the stack for them. -/
structure Setup where
  selectors : Selectors
  msrs : Msrs
  syscallHandler : Handler
  stackFits : UInt64 → Bool
  handlers : Nat → State → State
  privilegeStack : UInt64

/-- A user program, and the interrupts of the hardware that have been handled since the drop. -/
structure UserMode where
  state : State
  served : List Nat

/-- A turn of the program, with what one of its instructions does, a system call or a software
interrupt, or an interrupt of the hardware. -/
inductive UserAct where
  | run (effect : State → State)
  | syscall (next : UInt64)
  | int (vector : Nat) (next : UInt64)
  | irq (vector : Nat)

namespace Setup

/-- What the processor lets an instruction do in ring 3: the code segment and the guarded flags stay,
and there is one other stack segment to be loaded. -/
def Unprivileged (setup : Setup) (before after : State) : Prop :=
  after.segs .cs = before.segs .cs ∧
    (after.segs .ss = before.segs .ss ∨ after.segs .ss = setup.selectors.uData) ∧
      after.guarded = before.guarded

instance (setup : Setup) (before after : State) : Decidable (setup.Unprivileged before after) :=
  inferInstanceAs (Decidable (_ ∧ _))

/-- A handler and its `iretq`, which refuses what is not a segment for ring 3. -/
def interrupt (setup : Setup) (vector : Nat) (next : UInt64) (state : State) : Option State :=
  let back := (setup.handlers vector
    (state.takeInterrupt setup.privilegeStack setup.selectors.codeSelector next)).iretq
  if back.segs .cs = setup.selectors.uCode ∧ back.segs .ss = setup.selectors.uData then some back
  else none

/-- There is no handler for a fault but that of the double fault, which panics. -/
def step (setup : Setup) (user : UserMode) : UserAct → Option UserMode
  | .run effect =>
    if setup.Unprivileged user.state (effect user.state) then
      some { user with state := effect user.state }
    else none
  | .syscall next =>
    -- the stub calls the handler on the program's own stack
    if setup.stackFits (user.state.regs .rsp) then do
      let state ← roundTrip setup.msrs setup.syscallHandler user.state next
      return { user with state := state }
    else none
  | .int vector next =>
    if gateLevel vector = some 3 then do
      let state ← setup.interrupt vector next user.state
      return { user with state := state }
    else none
  | .irq vector =>
    if user.state.rflags &&& 0x200 = 0 then some user
    else if (gateLevel vector).isSome then do
      let state ← setup.interrupt vector user.state.rip user.state
      return { state := state, served := user.served ++ [vector] }
    else none

end Setup

/-- The kernel's own set-up. -/
def GdtCrate.setup (crate : GdtCrate) (msrs : Msrs) (entry : UInt64) (syscallHandler : Handler)
    (stackFits : UInt64 → Bool) (handlers : Nat → State → State) (privilegeStack : UInt64) : Setup where
  selectors := crate.selectors
  msrs := crate.msrs msrs entry
  syscallHandler := syscallHandler
  stackFits := stackFits
  handlers := handlers
  privilegeStack := privilegeStack

/-- In ring 3, with interrupts off and no right to turn them on. -/
structure Confined (selectors : Selectors) (user : UserMode) : Prop where
  code : user.state.segs .cs = selectors.uCode
  guarded : user.state.guarded = 0
  served : user.served = []

section Flags

variable {msrs : Msrs} {syscallHandler : Handler}

theorem sysretq_rflags {state after : State} (left : state.sysretq msrs = some after) :
    after.rflags = after.regs .r11 &&& 0x3C7FD7 ||| 2 := by
  unfold State.sysretq at left
  split at left
  · cases left
  · cases left
    rfl

/-- The flags come back from `r11`. -/
theorem syscallEntry_rflags {callee : State → State} {state after : State}
    (ran : run (State.step msrs callee) syscallEntry state = some after) :
    after.rflags = after.regs .r11 &&& 0x3C7FD7 ||| 2 := by
  have last : syscallEntry = syscallEntry.dropLast ++ [.sysretq] := rfl
  rw [last, run_concat, Option.bind_eq_some_iff] at ran
  obtain ⟨left, -, leaves⟩ := ran
  exact sysretq_rflags leaves

/-- What `sysretq` loads leaves guarded flags that are clear as they are. -/
theorem guarded_kept {flags : UInt64} (guarded : flags &&& 0x3200 = 0) :
    (flags &&& 0x3C7FD7 ||| 2) &&& 0x3200 = 0 := by
  have split : (flags &&& 0x3C7FD7 ||| 2) &&& 0x3200 =
      flags &&& 0x3C7FD7 &&& 0x3200 ||| 2 &&& 0x3200 :=
    UInt64.eq_of_toBitVec_eq BitVec.and_or_distrib_right
  rw [split, UInt64.and_assoc, UInt64.and_comm 0x3C7FD7, ← UInt64.and_assoc, guarded]
  decide

theorem interrupts_off {flags : UInt64} (guarded : flags &&& 0x3200 = 0) : flags &&& 0x200 = 0 := by
  have part : (0x200 : UInt64) = 0x3200 &&& 0x200 := by decide
  rw [part, ← UInt64.and_assoc, guarded, UInt64.zero_and]

/-- The drop loads the flags that it has pushed. -/
theorem dropToUsermode_rflags {callee : State → State} {state after : State}
    (ran : run (State.step msrs callee) dropToUsermode state = some after) : after.rflags = 2 := by
  have last : dropToUsermode = dropToUsermode.take 6 ++ [.pushImm 0x002, .push .rdi, .push .rdx] ++
      [.iretq] := rfl
  rw [last, run_concat, run_append, Option.bind_eq_some_iff] at ran
  obtain ⟨framed, pushes, returns⟩ := ran
  obtain ⟨earlier, -, pushes⟩ := Option.bind_eq_some_iff.mp pushes
  cases pushes
  cases returns
  change State.word _ 2 = 2
  rw [State.push_word_succ _ _ (by decide), State.push_word_succ _ _ (by decide),
    State.push_word_zero]

end Flags

section Confinement

variable {crate : GdtCrate} {msrs : Msrs} {entry : UInt64} {syscallHandler : Handler}
  {stackFits : UInt64 → Bool} {handlers : Nat → State → State} {privilegeStack : UInt64}

/-- A system call comes back, with the flags that cannot be guarded and a foreign stack segment. -/
theorem syscall_returns (documented : crate.Documented) (msrs : Msrs) (entry : UInt64)
    (abi : ∀ num arg1 arg2 arg3 before, stackFits (before.regs .rsp + 80) = true →
      FollowsAbi 10 before (syscallHandler num arg1 arg2 arg3 before)) {user : State}
    (fit : stackFits (user.regs .rsp) = true) (next : UInt64) : ∃ after,
    roundTrip (crate.msrs msrs entry) syscallHandler user next = some after ∧
      after.segs .cs = crate.selectors.uCode ∧ after.segs .ss = 0x23 ∧ after.rip = next ∧
        after.rflags = user.rflags &&& 0x3C7FD7 ||| 2 := by
  obtain ⟨armed, kernelCode, userCode⟩ := msrs_armed documented msrs entry
  obtain ⟨kernel, entered, regs, cs⟩ := syscall_some armed user next
  have ring0 : kernel.segs .cs &&& 3 = 0 := by
    rw [cs, kernelCode]
    decide
  have top : kernel.regs .rsp = user.regs .rsp := by
    rw [regs, if_neg (by decide), if_neg (by decide)]
  obtain ⟨called, after, ran, final, rip, code, stack⟩ := syscallEntry_run armed
    (fun _ _ _ _ before same => abi _ _ _ _ before (same.trans top ▸ fit)) ring0
  have flags := syscallEntry_rflags ran
  refine ⟨after, ?_, ?_, ?_, ?_, ?_⟩
  · rw [roundTrip, entered, Option.bind_eq_bind, Option.bind_some, ran]
  · rw [code, userCode, selectors_eq documented]
    rfl
  · rw [stack, userCode]
    rfl
  · rw [rip, regs]
    rfl
  · rw [flags, final .r11, if_neg (by decide), regs, if_pos rfl]

/-- The code segment that `sysretq` loads is that of the drop, its stack segment is not. -/
theorem foreign_stack (documented : crate.Documented) : (0x23 : UInt16) ≠ crate.selectors.uData := by
  rw [selectors_eq documented]
  decide

section Interrupts

variable (abi : ∀ vector before, FollowsInterruptAbi before (handlers vector before))
include abi

/-- A handler comes back unless the stack segment is foreign. -/
theorem interrupt_eq (setup : Setup) (same : setup.handlers = handlers) (vector : Nat)
    (next : UInt64) {user : State} (code : user.segs .cs = setup.selectors.uCode) :
    (setup.interrupt vector next user = none ∧ user.segs .ss ≠ setup.selectors.uData) ∨
      ∃ back, setup.interrupt vector next user = some back ∧ user.segs .ss = setup.selectors.uData ∧
        back.regs = user.regs ∧ back.segs = user.segs ∧ back.rip = next ∧
          back.rflags = user.rflags := by
  subst same
  obtain ⟨regs, segs, rip, rflags⟩ := iretq_takeInterrupt (abi vector) user setup.privilegeStack
    setup.selectors.codeSelector next
  simp only [Setup.interrupt, segs, code, true_and]
  by_cases stack : user.segs .ss = setup.selectors.uData
  · rw [if_pos stack]
    exact Or.inr ⟨_, rfl, stack, regs, segs, rip, rflags⟩
  · rw [if_neg stack]
    exact Or.inl ⟨rfl, stack⟩

variable (documented : crate.Documented)
  (callAbi : ∀ num arg1 arg2 arg3 before, stackFits (before.regs .rsp + 80) = true →
    FollowsAbi 10 before (syscallHandler num arg1 arg2 arg3 before))
include documented callAbi

/-- No turn leads out of the confinement. -/
theorem Confined.step {user next : UserMode} (confined : Confined crate.selectors user)
    (act : UserAct)
    (stepped : (crate.setup msrs entry syscallHandler stackFits handlers privilegeStack).step user act =
      some next) : Confined crate.selectors next := by
  obtain ⟨code, guarded, served⟩ := confined
  cases act with
  | run effect =>
    simp only [Setup.step, Option.ite_none_right_eq_some] at stepped
    obtain ⟨⟨sameCode, -, sameFlags⟩, done⟩ := stepped
    cases done
    exact ⟨sameCode.trans code, sameFlags.trans guarded, served⟩
  | syscall after =>
    obtain ⟨fit, stepped⟩ := Option.ite_none_right_eq_some.mp stepped
    obtain ⟨state, back, backCode, -, -, flags⟩ := syscall_returns documented msrs entry
      callAbi fit after
    simp only [GdtCrate.setup, back, Option.bind_eq_bind, Option.bind_some] at stepped
    cases stepped
    refine ⟨backCode, ?_, served⟩
    rw [State.guarded, flags]
    exact guarded_kept guarded
  | int vector after =>
    simp only [Setup.step, Option.ite_none_right_eq_some, Option.bind_eq_bind,
      Option.bind_eq_some_iff] at stepped
    obtain ⟨-, state, back, done⟩ := stepped
    cases done
    rcases interrupt_eq abi (crate.setup msrs entry syscallHandler stackFits handlers privilegeStack) rfl
      vector after code with ⟨stuck, -⟩ | ⟨other, there, -, -, segs, -, flags⟩
    · exact absurd (stuck.symm.trans back) (by simp)
    · obtain rfl := Option.some.inj (there.symm.trans back)
      have sameFlags : other.guarded = user.state.guarded := congrArg (· &&& 0x3200) flags
      exact ⟨(congrFun segs .cs).trans code, sameFlags.trans guarded, served⟩
  | irq vector =>
    simp only [Setup.step, if_pos (interrupts_off guarded)] at stepped
    cases stepped
    exact ⟨code, guarded, served⟩

/-- The drop is for good. Whatever the user program and the hardware do behind it, the program stays
in ring 3 with interrupts off, so that neither the keyboard nor the mouse is ever handled again; each
system call, on a stack that the handler leaves alone, comes back to it, and behind a system call any
software interrupt is the end. -/
theorem ring3_confined {state : State} (code : state.regs .rdi = crate.selectors.uCode.toUInt64)
    (data : state.regs .rsi = crate.selectors.uData.toUInt64) : ∃ dropped,
    run (State.step (crate.msrs msrs entry) syscallHandler.callee) dropToUsermode state =
        some dropped ∧
      ∀ acts user, run (crate.setup msrs entry syscallHandler stackFits handlers privilegeStack).step acts
          ⟨dropped, []⟩ = some user →
        Confined crate.selectors user ∧
          (stackFits (user.state.regs .rsp) = true → ∀ next, ∃ back,
            (crate.setup msrs entry syscallHandler stackFits handlers privilegeStack).step user
                (.syscall next) = some back ∧
              back.state.rip = next ∧
                ∀ vector behind, (crate.setup msrs entry syscallHandler stackFits handlers
                  privilegeStack).step back (.int vector behind) = none) := by
  obtain ⟨dropped, ran, cs, -⟩ := dropToUsermode_installs crate.selectors code data
  have flags := dropToUsermode_rflags ran
  have confined : Confined crate.selectors ⟨dropped, []⟩ :=
    ⟨cs, by rw [State.guarded, flags]; decide, rfl⟩
  refine ⟨dropped, ran, fun acts user reached => ?_⟩
  have kept : Confined crate.selectors user :=
    run_preserves (fun _ act _ holds stepped => holds.step abi documented callAbi act stepped) acts
      confined reached
  refine ⟨kept, fun fit next => ?_⟩
  obtain ⟨back, returns, backCode, backStack, rip, -⟩ := syscall_returns documented msrs entry callAbi
    fit next
  refine ⟨{ user with state := back }, ?_, rip, fun vector behind => ?_⟩
  · simp only [Setup.step, GdtCrate.setup, if_pos fit, returns, Option.bind_eq_bind, Option.bind_some]
    rfl
  · have stuck : (crate.setup msrs entry syscallHandler stackFits handlers privilegeStack).interrupt vector
        behind back = none := by
      rcases interrupt_eq abi (crate.setup msrs entry syscallHandler stackFits handlers privilegeStack) rfl
        vector behind backCode with ⟨stuck, -⟩ | ⟨-, -, stack, -⟩
      · exact stuck
      · exact absurd (backStack.symm.trans stack) (foreign_stack documented)
    simp only [Setup.step, stuck, Option.bind_eq_bind, Option.bind_none, ite_self]

end Interrupts

end Confinement

/-- A handler that does nothing. -/
def idleHandlers : Nat → State → State := fun _ state => state

theorem idleHandlers_abi (vector : Nat) (before : State) :
    FollowsInterruptAbi before (idleHandlers vector before) := ⟨rfl, rfl, fun _ _ => rfl⟩

/-- The processor at the drop, with interrupts on. -/
def dropping : State where
  regs := fun
    | .rdi => 0x2B
    | .rsi => 0x33
    | .rdx => 0x400000
    | _ => 0x10000
  segs := fun _ => 0x10
  rip := 0x200000
  rflags := 0x202
  memory := fun _ => 0

/-- Anywhere but in the framebuffer. -/
def outsideScreen (top : UInt64) : Bool :=
  top.toNat ≤ 0x80000000 || 0x80000000 + 1024 * 768 * 4 + 80 ≤ top.toNat

theorem ring3_confined_idle : ∃ dropped,
    run (State.step (GdtCrate.counted.msrs ⟨0, 0, 0, 0⟩ 0x300000) unknownSyscall.callee)
        dropToUsermode dropping = some dropped ∧
      ∀ acts user, run (GdtCrate.counted.setup ⟨0, 0, 0, 0⟩ 0x300000 unknownSyscall outsideScreen
          idleHandlers 0x90000).step acts ⟨dropped, []⟩ = some user →
        Confined GdtCrate.counted.selectors user ∧
          (outsideScreen (user.state.regs .rsp) = true → ∀ next, ∃ back,
            (GdtCrate.counted.setup ⟨0, 0, 0, 0⟩ 0x300000 unknownSyscall outsideScreen idleHandlers
                0x90000).step user (.syscall next) = some back ∧
              back.state.rip = next ∧
                ∀ vector behind, (GdtCrate.counted.setup ⟨0, 0, 0, 0⟩ 0x300000 unknownSyscall
                  outsideScreen idleHandlers 0x90000).step back (.int vector behind) = none) :=
  ring3_confined idleHandlers_abi GdtCrate.counted_documented
    (fun num arg1 arg2 arg3 before _ => unknownSyscall_abi num arg1 arg2 arg3 before) rfl rfl

end QoreOS.Processor
