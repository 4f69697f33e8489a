import QoreOS.Startup.DriverRules

/-! The queue pointers of a driver are null until its `init` has allocated the
queues, and nothing records that it did not. The slices made of them stop the
kernel, so that no later call goes through one. -/

namespace QoreOS.Startup

open QoreOS.Library QoreOS.Storage Port Program

/-- `Nvme::init` finds a controller, and it stops within the time allowed. -/
def NvmeResets (registers : Nat → Nat → UInt32) : Prop :=
  registers 0x1C 0 ≠ 0xFFFFFFFF ∧
    ∃ turn ≤ 10000000, (registers 0x1C (turn + 1) &&& 1 == 0) = true

/-- The audio controller leaves its reset within the time allowed. -/
def HdaResets (registers : Nat → Nat → UInt32) : Prop :=
  ∃ turn ≤ 10000000, (registers 0x08 turn &&& 1 != 0) = true

section Resets

variable {registers : Nat → Nat → UInt32} {broken : Port → Prop}

theorem perform_keeps (action : Action) :
    Ensures (fun port => port.registers = registers) (perform action)
      (fun _ port => port.registers = registers) broken :=
  ensures_act fun _ same => same

/-- A read takes the next answer of its register and leaves the others alone. -/
theorem readReg_takes (offset : Nat) :
    Ensures (fun port => port.registers = registers) (readReg offset)
      (fun value port => value = registers offset 0 ∧ port.registers =
        Function.update registers offset fun turn => registers offset (turn + 1)) broken := by
  apply ensures_act
  rintro port rfl
  exact ⟨rfl, rfl⟩

/-- A loop over a register ends well only if one of the answers it gets is right. -/
theorem waitFor_reads (offset : Nat) (test : UInt32 → Bool) (bound : Nat) :
    Ensures (fun port => port.registers = registers)
      (waitFor (do return test (← readReg offset)) bound)
      (fun found _ => found = true → ∃ turn ≤ bound, test (registers offset turn) = true) broken := by
  have tested : ∀ {registers : Nat → Nat → UInt32},
      Ensures (fun port => port.registers = registers) (do return test (← readReg offset))
        (fun found port => found = test (registers offset 0) ∧ port.registers =
          Function.update registers offset fun turn => registers offset (turn + 1)) broken := by
    intro registers
    refine ensures_bind (readReg_takes offset) fun value => ensures_pure ?_
    rintro port ⟨rfl, rest⟩
    exact ⟨rfl, rest⟩
  induction bound generalizing registers with
  | zero =>
    rw [waitFor_zero]
    refine ensures_weaken tested (fun _ same => same) ?_ fun _ damage => damage
    rintro found port ⟨rfl, -⟩ right
    exact ⟨0, Nat.le_refl 0, right⟩
  | succ bound ih =>
    rw [waitFor_succ]
    refine ensures_bind tested fun found => ensures_given fun first => ?_
    cases found with
    | true => exact ensures_pure fun _ _ _ => ⟨0, Nat.zero_le _, first.symm⟩
    | false =>
      refine ensures_weaken ih (fun _ same => same) ?_ fun _ damage => damage
      intro found port later right
      obtain ⟨turn, bounded, shown⟩ := later right
      rw [Function.update_self] at shown
      exact ⟨turn + 1, Nat.succ_le_succ bounded, shown⟩

/-- `init` goes on behind its first two exits only if the controller resets. -/
theorem nvmeReset_decides :
    Ensures (fun port => port.registers = registers) nvmeReset
      (fun goesOn _ => goesOn = true → NvmeResets registers) broken := by
  refine ensures_bind (readReg_takes 0x1C) fun testRead => ensures_given fun first => ?_
  by_cases absent : testRead = 0xFFFFFFFF
  · rw [if_pos absent]
    exact ensures_pure fun _ _ impossible => absurd impossible Bool.false_ne_true
  · rw [if_neg absent]
    refine ensures_bind (readReg_takes 0x14) fun cc => ensures_given fun _ => ?_
    refine ensures_bind (perform_keeps _) fun _ => ?_
    refine ensures_weaken (waitFor_reads 0x1C (fun value => value &&& 1 == 0) 10000000)
      (fun _ same => same) ?_ fun _ damage => damage
    intro goesOn _ decided right
    obtain ⟨turn, bounded, stops⟩ := decided right
    rw [Function.update_of_ne (by decide), Function.update_self] at stops
    exact ⟨first ▸ absent, turn, bounded, stops⟩

theorem hdaReset_decides :
    Ensures (fun port => port.registers = registers) hdaReset
      (fun goesOn _ => goesOn = true → HdaResets registers) broken := by
  refine ensures_bind (readReg_takes 0x00) fun gcap => ensures_given fun _ => ?_
  refine ensures_bind (perform_keeps _) fun _ => ?_
  refine ensures_bind (perform_keeps _) fun _ => ?_
  refine ensures_bind (waitFor_reads 0x08 (fun value => value &&& 1 != 0) 10000000) fun awake => ?_
  cases awake with
  | true =>
    apply ensures_pure
    intro port decided right
    obtain ⟨turn, bounded, wakes⟩ := decided right
    rw [Function.update_of_ne (by decide)] at wakes
    exact ⟨turn, bounded, wakes⟩
  | false =>
    have printed : ∀ {before : Port → Prop}, Ensures before
        (terminalPrint "> HDA ERROR: CONTROLLER RESET TIMEOUT!\n" 0xEF4444) (fun _ _ => True)
        broken := ensures_act fun _ _ => trivial
    refine ensures_bind printed fun _ => ensures_pure fun _ _ impossible => ?_
    exact absurd impossible Bool.false_ne_true

theorem notNull_halts {α : Type} {pointer : Nat} {next : Unit → Program Port α}
    {before : Port → Prop} (null : pointer = 0) :
    Ensures before (notNull pointer >>= next) (fun _ _ => False) (fun _ => True) := by
  refine ensures_orPanic (fun found given => ?_) fun _ _ _ => trivial
  rw [if_pos null] at given
  cases given

/-- A drive whose `init` has returned early stops the kernel at its first use. -/
theorem startNvme_halts {devices : Devices} (present : devices.nvme = true)
    (failed : ¬ NvmeResets registers) :
    Ensures (fun port => port.registers = registers) (startNvme devices) (fun _ _ => False)
      (fun _ => True) := by
  unfold startNvme
  rw [if_pos present]
  refine ensures_bind (perform_keeps _) fun _ => ?_
  have initialized : Ensures (fun port => port.registers = registers)
      (nvmeInit (Nvme.new devices.nvmeBar0))
      (fun drive _ => drive = Nvme.new devices.nvmeBar0) (fun _ => True) := by
    refine ensures_bind nvmeReset_decides fun goesOn => ensures_fact fun decided => ?_
    cases goesOn with
    | true => exact absurd (decided rfl) failed
    | false => exact ensures_pure fun _ _ => rfl
  refine ensures_bind initialized fun drive => ensures_fact fun untouched => ?_
  subst untouched
  have stops : Ensures (fun _ => True) (identifyController (Nvme.new devices.nvmeBar0))
      (fun _ _ => False) (fun _ => True) := by
    refine ensures_bind (ensures_trivial allocPage) fun page => ?_
    exact notNull_halts rfl
  exact ensures_bind stops fun _ => ensures_fact False.elim

/-- So does an audio controller. -/
theorem startHda_halts {devices : Devices} (present : devices.hda = true)
    (failed : ¬ HdaResets registers) :
    Ensures (fun port => port.registers = registers) (startHda devices) (fun _ _ => False)
      (fun _ => True) := by
  unfold startHda
  rw [if_pos present]
  have initialized : Ensures (fun port => port.registers = registers)
      (hdaInit (IntelHda.new devices.hdaBar0))
      (fun hda _ => hda = IntelHda.new devices.hdaBar0) (fun _ => True) := by
    refine ensures_bind hdaReset_decides fun goesOn => ensures_fact fun decided => ?_
    cases goesOn with
    | true => exact absurd (decided rfl) failed
    | false => exact ensures_pure fun _ _ => rfl
  refine ensures_bind initialized fun hda => ensures_fact fun untouched => ?_
  subst untouched
  have stops : Ensures (fun _ => True) (playTone (IntelHda.new devices.hdaBar0))
      (fun _ _ => False) (fun _ => True) := by
    refine ensures_bind (ensures_trivial prepareTone) fun streamOffset => ?_
    refine ensures_bind (notNull_halts rfl) fun _ => ensures_fact False.elim
  exact ensures_bind stops fun _ => ensures_fact False.elim

end Resets

/-- Start-up and the system calls behind it go through no null pointer, whatever
the hardware answers and the heap refuses: a device that does not leave its reset
in time stops the kernel where it is first used. -/
theorem kernelRun_sound (devices : Devices) (lbas : List UInt64) (nvme hda : Answers) :
    (SoundTrace (kernelRun devices lbas nvme hda).1.trace ∧
        SoundTrace (kernelRun devices lbas nvme hda).2.trace) ∧
      (devices.nvme = true → ¬ NvmeResets nvme.registers →
        ((startNvme devices).exec ⟨nvme, []⟩).1 = none) ∧
      (devices.hda = true → ¬ HdaResets hda.registers →
        ((startHda devices).exec ⟨hda, []⟩).1 = none) := by
  have empty : SoundTrace [] := List.forall_mem_nil _
  have started : SoundTrace ((startNvme devices).exec ⟨nvme, []⟩).2.trace :=
    ensures_exec (startNvme_careful devices) empty
  have played : SoundTrace ((startHda devices).exec ⟨hda, []⟩).2.trace :=
    ensures_exec (startHda_careful devices) empty
  have called : ∀ drive port, SoundTrace port.trace → SoundTrace
      ((lbas.foldlM syscallReadSector drive : Program Port (Option Nvme)).exec port).2.trace := by
    intro drive port sound
    exact ensures_exec (ensures_foldlM syscallReadSector_careful lbas drive) sound
  refine ⟨?_, fun present failed => ?_, fun present failed => ?_⟩
  · unfold kernelRun
    cases outcome : (startNvme devices).exec ⟨nvme, []⟩ with
    | mk result port =>
      rw [outcome] at started
      cases result with
      | none => exact ⟨started, empty⟩
      | some result =>
        obtain ⟨drive, text⟩ := result
        dsimp only
        cases sounded : (startHda devices).exec ⟨hda, []⟩ with
        | mk result other =>
          rw [sounded] at played
          cases result with
          | none => exact ⟨started, played⟩
          | some result => exact ⟨called drive port started, played⟩
  · exact exec_none (startNvme_halts present failed) rfl
  · exact exec_none (startHda_halts present failed) rfl

end QoreOS.Startup
