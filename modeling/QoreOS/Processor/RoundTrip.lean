import QoreOS.Processor.Syscall

/-! A system call from ring 3 and back: what the stub restores, and what not. -/

namespace QoreOS.Processor

open QoreOS.Library QoreOS.Library.X86

/-- The two halves make up the register again. -/
theorem wrmsr_halves (value : UInt64) : wrmsr value.toUInt32 (value >>> 32).toUInt32 = value := by
  have small := value.toNat_lt
  have high : (value >>> 32).toUInt32.toUInt64.toNat = value.toNat / 2 ^ 32 := by
    simp [Nat.shiftRight_eq_div_pow]
    omega
  have low : value.toUInt32.toUInt64.toNat = value.toNat % 2 ^ 32 := by simp
  have shifted : ((value >>> 32).toUInt32.toUInt64 <<< 32).toNat = value.toNat / 2 ^ 32 * 2 ^ 32 := by
    rw [UInt64.toNat_shiftLeft, high, Nat.shiftLeft_eq]
    change value.toNat / 2 ^ 32 * 2 ^ 32 % 2 ^ 64 = _
    omega
  rw [← UInt64.toNat_inj, wrmsr, UInt64.toNat_or, shifted, low, ← Nat.shiftLeft_eq,
    ← Nat.shiftLeft_add_eq_or_of_lt (Nat.mod_lt _ (by decide)), Nat.shiftLeft_eq]
  omega

theorem enabled (value : UInt64) : (value ||| 1) &&& 1 ≠ 0 := by
  have one : (value ||| 1) &&& 1 = 1 := by
    apply UInt64.eq_of_toBitVec_eq
    ext index small
    rw [UInt64.toBitVec_and, UInt64.toBitVec_or, BitVec.getElem_and, BitVec.getElem_or]
    cases (1 : UInt64).toBitVec[index] <;> simp
  rw [one]
  decide

def savedRegs : List Reg := [.rcx, .r11, .rax, .rdi, .rsi, .rdx, .r8, .r9, .r10]

/-- From the saved registers to the kernel's data segments. -/
def passing : List Instruction :=
  [.mov .rcx .rdx, .mov .rdx .rsi, .mov .rsi .rdi, .mov .rdi .rax, .movFromSeg .rax .ds]

def loading : List Instruction := [.ds, .es, .fs, .gs].map fun seg => .movToSeg seg .rax

def restoredRegs : List Reg := [.r10, .r9, .r8, .rdx, .rsi, .rdi, .rax]

def returnRegs : List Reg := [.r11, .rcx]

/-- The stub up to the handler's return. -/
def calling : List Instruction :=
  savedRegs.map .push ++ (passing ++ (.push .rax :: .movImm16 .rax 0x10 :: (loading ++ [.call])))

def returning : List Instruction :=
  .mov .r12 .rax :: .pop .rax :: (loading ++
    (restoredRegs.map .pop ++ (.mov .rax .r12 :: (returnRegs.map .pop ++ [.sysretq]))))

theorem syscallEntry_parts : syscallEntry = calling ++ returning := rfl

variable {msrs : Msrs} {state : State}

/-- The handler's arguments, in the registers of the C convention. -/
structure Passes (before after : State) : Prop where
  rdi : after.regs .rdi = before.regs .rax
  rsi : after.regs .rsi = before.regs .rdi
  rdx : after.regs .rdx = before.regs .rsi
  rcx : after.regs .rcx = before.regs .rdx

/-- The registers which a C function keeps, but for the stack pointer. -/
def KeepsSaved (before after : State) : Prop :=
  ∀ reg, reg.callerSaved = false → reg ≠ .rsp → after.regs reg = before.regs reg

theorem run_passing (msrs : Msrs) (callee : State → State) (state : State) : ∃ after,
    run (State.step msrs callee) passing state = some after ∧ Passes state after ∧
    KeepsSaved state after ∧ after.regs .rsp = state.regs .rsp ∧ after.memory = state.memory ∧
    after.segs = state.segs := by
  refine ⟨_, rfl, ⟨rfl, rfl, rfl, rfl⟩, ?_, rfl, rfl, rfl⟩
  intro reg saved apart
  cases reg <;> first | rfl | contradiction

/-- The handler is called with its arguments, above it what the stub has saved. -/
theorem run_calling (msrs : Msrs) {syscallHandler : Handler} (state : State)
    (abi : ∀ num arg1 arg2 arg3 before, before.regs .rsp + 80 = state.regs .rsp →
      FollowsAbi 10 before (syscallHandler num arg1 arg2 arg3 before)) : ∃ called word returned,
    run (State.step msrs syscallHandler.callee) calling state = some returned ∧
    returned = syscallHandler (state.regs .rax) (state.regs .rdi) (state.regs .rsi)
      (state.regs .rdx) called ∧
    Stacked returned (state.regs .rsp)
      (word :: (restoredRegs.map state.regs ++ (returnRegs.map state.regs ++ []))) ∧
    KeepsSaved state returned ∧ returned.segs .cs = state.segs .cs := by
  obtain ⟨saved, saves, stacked, same, saved_segs⟩ := run_pushes msrs syscallHandler.callee
    (Stacked.nil state) savedRegs (by decide) (by simp [savedRegs])
  have frame : (savedRegs.map state.regs).reverse ++ [] =
      restoredRegs.map state.regs ++ (returnRegs.map state.regs ++ []) := rfl
  rw [frame] at stacked
  obtain ⟨moved, moves, passes, keeps, top, memory, moved_segs⟩ :=
    run_passing msrs syscallHandler.callee saved
  have pushed := (stacked.keep top memory).push (by simp [restoredRegs, returnRegs])
    (moved.regs .rax)
  obtain ⟨called, loads, called_regs, called_memory, called_segs⟩ := run_loads msrs
    syscallHandler.callee ((moved.push (moved.regs .rax)).setLow16 .rax 0x10) [.ds, .es, .fs, .gs]
    .rax
  have filled := pushed.keep (by rw [called_regs]; rfl) called_memory
  have arguments : syscallHandler.callee called = syscallHandler (state.regs .rax)
      (state.regs .rdi) (state.regs .rsi) (state.regs .rdx) called := by
    simp only [Handler.callee, called_regs, State.setLow16_regs, State.push_regs, reduceCtorEq,
      ↓reduceIte, passes.rdi, passes.rsi, passes.rdx, passes.rcx, ne_eq, not_false_eq_true, same]
  have bound : FollowsAbi 10 called (syscallHandler.callee called) := abi _ _ _ _ _ filled.top
  refine ⟨called, _, _, ?_, arguments, filled.called bound, ?_, ?_⟩
  · simp only [calling, run_append, saves, moves, Option.bind_some, run_cons, State.step, loading,
      loads, run_nil]
  · intro reg safe apart
    have other : reg ≠ .rax := by
      rintro rfl
      cases safe
    rw [bound.saved reg safe, called_regs, State.setLow16_regs, if_neg other, State.push_regs,
      if_neg apart, keeps reg safe apart, same reg apart]
  · rw [bound.segs, called_segs .cs (by decide), State.setLow16_segs, State.push_segs, moved_segs,
      saved_segs]

/-- What the stub then gives back: the handler's result in `rax`, and also in
`r12`. -/
theorem run_returning {callee : State → State} {base word : UInt64} {saved : Reg → UInt64}
    (armed : msrs.efer &&& 1 ≠ 0) (ring0 : state.segs .cs &&& 3 = 0)
    (stacked : Stacked state base
      (word :: (restoredRegs.map saved ++ (returnRegs.map saved ++ [])))) : ∃ after,
    run (State.step msrs callee) returning state = some after ∧
    (∀ reg, after.regs reg = if reg = .rax ∨ reg = .r12 then state.regs .rax
      else if reg = .rsp then base
      else if reg.callerSaved then saved reg else state.regs reg) ∧
    after.rip = saved .rcx ∧
    after.segs .cs = (msrs.star >>> 48).toUInt16 + 16 ||| 3 ∧
    after.segs .ss = (msrs.star >>> 48).toUInt16 + 8 ||| 3 := by
  have parked : Stacked (state.setReg .r12 (state.regs .rax)) base
      (word :: (restoredRegs.map saved ++ (returnRegs.map saved ++ []))) := stacked.keep rfl rfl
  obtain ⟨-, popped⟩ := parked.pop (show Reg.rax ≠ .rsp by decide)
  obtain ⟨back, loads, back_regs, memory, back_segs⟩ := run_loads msrs callee
    ((state.setReg .r12 (state.regs .rax)).pop .rax) [.ds, .es, .fs, .gs] .rax
  obtain ⟨restored, restores, rest, restored_regs, restored_segs⟩ := run_pops msrs callee
    restoredRegs (by decide) (popped.keep (by rw [back_regs]) memory)
  obtain ⟨left, leaves, empty, left_regs, left_segs⟩ := run_pops msrs callee returnRegs (by decide)
    (rest.keep (show (restored.setReg .rax (restored.regs .r12)).regs .rsp = _ from rfl) rfl)
  have regs : ∀ reg, left.regs reg = if reg = .rax ∨ reg = .r12 then state.regs .rax
      else if reg = .rsp then base
      else if reg.callerSaved then saved reg else state.regs reg := by
    intro reg
    by_cases top : reg = .rsp
    · subst top
      have reached := empty.top
      rw [List.length_nil, Nat.mul_zero] at reached
      exact (UInt64.add_zero _).symm.trans reached
    · rw [left_regs reg top, State.setReg_regs, restored_regs .r12 (by decide),
        restored_regs reg top, back_regs]
      cases reg <;> simp [returnRegs, restoredRegs, Reg.callerSaved] at top ⊢
  have cs : left.segs .cs &&& 3 = 0 := by
    rw [left_segs, State.setReg_segs, restored_segs, back_segs .cs (by decide), State.pop_segs,
      State.setReg_segs]
    exact ring0
  obtain ⟨after, returns, after_regs, rip, after_segs⟩ := State.sysretq_some armed cs
  refine ⟨after, ?_, ?_, ?_, after_segs⟩
  · have parks : State.step msrs callee state (.mov .r12 .rax) =
        some (state.setReg .r12 (state.regs .rax)) := rfl
    have pops : State.step msrs callee (state.setReg .r12 (state.regs .rax)) (.pop .rax) =
        some ((state.setReg .r12 (state.regs .rax)).pop .rax) := rfl
    have answers : State.step msrs callee restored (.mov .rax .r12) =
        some (restored.setReg .rax (restored.regs .r12)) := rfl
    have leaves_ring : State.step msrs callee left .sysretq = some after := returns
    rw [returning, run_next parks, run_next pops, run_append, loading, loads, Option.bind_some,
      run_append, restores, Option.bind_some, run_next answers, run_append, leaves,
      Option.bind_some, run_next leaves_ring, run_nil]
  · rw [after_regs]
    exact regs
  · rw [rip, regs]
    rfl

/-- The stub gives back every register but `rax` and `r12`. -/
theorem syscallEntry_run (armed : msrs.efer &&& 1 ≠ 0) {syscallHandler : Handler}
    (abi : ∀ num arg1 arg2 arg3 before, before.regs .rsp + 80 = state.regs .rsp →
      FollowsAbi 10 before (syscallHandler num arg1 arg2 arg3 before)) (ring0 : state.segs .cs &&& 3 = 0) :
    ∃ called after,
    run (State.step msrs syscallHandler.callee) syscallEntry state = some after ∧
    (∀ reg, after.regs reg = if reg = .rax ∨ reg = .r12 then
      (syscallHandler (state.regs .rax) (state.regs .rdi) (state.regs .rsi) (state.regs .rdx)
        called).regs .rax else state.regs reg) ∧
    after.rip = state.regs .rcx ∧
    after.segs .cs = (msrs.star >>> 48).toUInt16 + 16 ||| 3 ∧
    after.segs .ss = (msrs.star >>> 48).toUInt16 + 8 ||| 3 := by
  obtain ⟨called, word, returned, calls, same, stacked, kept, cs⟩ := run_calling msrs state abi
  obtain ⟨after, returns, regs, rest⟩ := run_returning armed (cs ▸ ring0) stacked
  refine ⟨called, after, ?_, ?_, rest⟩
  · rw [syscallEntry_parts, run_append, calls, Option.bind_some, returns]
  · intro reg
    rw [regs reg, ← same]
    by_cases result : reg = .rax ∨ reg = .r12
    · rw [if_pos result, if_pos result]
    · rw [if_neg result, if_neg result]
      by_cases top : reg = .rsp
      · rw [if_pos top, top]
      · rw [if_neg top]
        cases safe : reg.callerSaved with
        | true => rfl
        | false => exact kept reg safe top

variable {crate : GdtCrate}

/-- `syscall` is enabled, and the selectors it and `sysret` start from. -/
theorem msrs_armed (documented : crate.Documented) (msrs : Msrs) (syscallEntry : UInt64) :
    (crate.msrs msrs syscallEntry).efer &&& 1 ≠ 0 ∧
    ((crate.msrs msrs syscallEntry).star >>> 32).toUInt16 = 0x08 ∧
    ((crate.msrs msrs syscallEntry).star >>> 48).toUInt16 = 0x18 := by
  simp only [GdtCrate.msrs, selectors_eq documented, init, wrmsr_halves]
  exact ⟨enabled _, by decide, by decide⟩

theorem syscall_some {msrs : Msrs} (armed : msrs.efer &&& 1 ≠ 0) (user : State) (next : UInt64) :
    ∃ kernel, user.syscall msrs next = some kernel ∧
    (∀ reg, kernel.regs reg = if reg = .r11 then user.rflags
      else if reg = .rcx then next else user.regs reg) ∧
    kernel.segs .cs = (msrs.star >>> 32).toUInt16 &&& 0xFFFC := by
  refine ⟨_, if_neg armed, ?_, rfl⟩
  intro reg
  simp

/-- Where a system call leads: the user program goes on with another `r12` and
another stack segment. -/
theorem roundTrip_result (documented : crate.Documented) (msrs : Msrs) (syscallEntry : UInt64)
    {syscallHandler : Handler} (abi : ∀ num arg1 arg2 arg3 before, FollowsAbi 10 before
      (syscallHandler num arg1 arg2 arg3 before)) (user : State) (next : UInt64) : ∃ after,
    roundTrip (crate.msrs msrs syscallEntry) syscallHandler user next = some after ∧
    Continues crate.selectors syscallHandler [.rax, .rcx, .r11, .r12] user next after ∧
    after.regs .r12 = after.regs .rax ∧ after.segs .ss = 0x23 := by
  obtain ⟨armed, kernelCode, userCode⟩ := msrs_armed documented msrs syscallEntry
  obtain ⟨kernel, entered, regs, cs⟩ := syscall_some armed user next
  have ring0 : kernel.segs .cs &&& 3 = 0 := by
    rw [cs, kernelCode]
    decide
  obtain ⟨called, after, ran, final, rip, finalCs, finalSs⟩ :=
    syscallEntry_run armed (fun _ _ _ _ before _ => abi _ _ _ _ before) ring0
  refine ⟨after, ?_, ⟨?_, ⟨called, ?_⟩, ?_, ?_⟩, ?_, ?_⟩
  · rw [roundTrip, entered, Option.bind_eq_bind, Option.bind_some, ran]
  · rw [rip, regs]
    rfl
  · rw [final .rax]
    simp [regs]
  · intro reg apart
    simp only [List.mem_cons, List.not_mem_nil, or_false, not_or] at apart
    rw [final, if_neg (not_or.mpr ⟨apart.1, apart.2.2.2⟩), regs, if_neg apart.2.2.1,
      if_neg apart.2.1]
  · rw [finalCs, userCode, selectors_eq documented]
    rfl
  · rw [final .r12, final .rax, if_pos (Or.inr rfl), if_pos (Or.inl rfl)]
  · rw [finalSs, userCode]
    rfl

/-- No system call resumes the user program as it was. -/
theorem roundTrip_never_resumes (documented : crate.Documented) (msrs : Msrs)
    (syscallEntry : UInt64) {syscallHandler : Handler}
    (abi : ∀ num arg1 arg2 arg3 before, FollowsAbi 10 before
      (syscallHandler num arg1 arg2 arg3 before)) (user : State) (next : UInt64) : ∃ after,
    roundTrip (crate.msrs msrs syscallEntry) syscallHandler user next = some after ∧
    ¬ Resumes crate.selectors syscallHandler user next after ∧
    Continues crate.selectors syscallHandler [.rax, .rcx, .r11, .r12] user next after ∧
    after.regs .r12 = after.regs .rax ∧ after.segs .ss = 0x23 := by
  obtain ⟨after, ran, continues, parked, ss⟩ :=
    roundTrip_result documented msrs syscallEntry abi user next
  refine ⟨after, ran, ?_, continues, parked, ss⟩
  intro resumes
  have other := resumes.ss
  rw [ss, selectors_eq documented] at other
  revert other
  decide

/-- A table that is only counted. -/
def GdtCrate.counted : GdtCrate where
  Table := Nat
  new := 1
  addEntry := fun used descriptor =>
    (UInt16.ofNat (8 * used) ||| descriptor.rpl, used + descriptor.slots)
  used := id

theorem GdtCrate.counted_documented : counted.Documented where
  new := rfl
  used := fun _ _ _ => rfl
  selector := fun _ _ _ => rfl

/-- `syscall_handler` for an unknown number. -/
def unknownSyscall : Handler := fun _ _ _ _ state => state.setReg .rax 0

theorem unknownSyscall_abi (num arg1 arg2 arg3 : UInt64) (before : State) :
    FollowsAbi 10 before (unknownSyscall num arg1 arg2 arg3 before) := by
  refine ⟨?_, rfl, fun _ _ => rfl⟩
  intro reg safe
  cases reg <;> first | rfl | cases safe

/-- A user program that keeps a value in `r12`. -/
def userProgram : State where
  regs := fun reg => if reg = .r12 then 0x1234 else 0x8000
  segs := fun _ => 0x33
  rip := 0x400000
  rflags := 0x202
  memory := fun _ => 0

theorem roundTrip_never_resumes_unknown : ∃ after,
    roundTrip (GdtCrate.counted.msrs ⟨0, 0, 0, 0⟩ 0x200000) unknownSyscall userProgram 0x400002 =
      some after ∧
    ¬ Resumes GdtCrate.counted.selectors unknownSyscall userProgram 0x400002 after ∧
    Continues GdtCrate.counted.selectors unknownSyscall [.rax, .rcx, .r11, .r12] userProgram 0x400002
      after ∧
    after.regs .r12 = after.regs .rax ∧ after.segs .ss = 0x23 :=
  roundTrip_never_resumes GdtCrate.counted_documented ⟨0, 0, 0, 0⟩ 0x200000 unknownSyscall_abi
    userProgram 0x400002

/-- The value in `r12` is lost, and the stack segment is not the user's. -/
theorem roundTrip_clobbers : ∃ after,
    roundTrip (GdtCrate.counted.msrs ⟨0, 0, 0, 0⟩ 0x200000) unknownSyscall userProgram 0x400002 =
      some after ∧
    after.regs .r12 ≠ userProgram.regs .r12 ∧ after.segs .ss ≠ GdtCrate.counted.selectors.uData ∧
    ¬ Resumes GdtCrate.counted.selectors unknownSyscall userProgram 0x400002 after := by
  obtain ⟨after, ran, continues, parked, ss⟩ := roundTrip_result GdtCrate.counted_documented
    ⟨0, 0, 0, 0⟩ 0x200000 unknownSyscall_abi userProgram 0x400002
  obtain ⟨called, result⟩ := continues.rax
  have lost : after.regs .r12 ≠ userProgram.regs .r12 := by
    rw [parked, result, unknownSyscall, State.setReg_regs, if_pos rfl]
    decide
  have foreign : after.segs .ss ≠ GdtCrate.counted.selectors.uData := by
    rw [ss]
    decide
  exact ⟨after, ran, lost, foreign, fun resumes => foreign resumes.ss⟩

end QoreOS.Processor
