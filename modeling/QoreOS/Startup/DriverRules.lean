import QoreOS.Startup.Drivers

/-! What each function of the two drivers does to memory: whatever the hardware
answers, it goes through no null pointer. A debug build stops before it would. -/

namespace QoreOS.Startup

open QoreOS.Library QoreOS.Storage Port Program

/-- The action does not go through the null pointer. -/
def Action.Sound (action : Action) : Prop := action.through ≠ some 0

def SoundTrace (trace : List Action) : Prop := ∀ action ∈ trace, action.Sound

/-- The program keeps the trace sound, be it up to a panic. -/
def Careful {α : Type} (program : Program Port α) : Prop :=
  Ensures (fun port => SoundTrace port.trace) program (fun _ port => SoundTrace port.trace)
    (fun port => SoundTrace port.trace)

section Careful

variable {α β : Type} {program : Program Port α} {next : α → Program Port β}

theorem careful_pure (value : α) : Careful (pure value : Program Port α) :=
  ensures_pure fun _ sound => sound

theorem careful_bind (first : Careful program) (rest : ∀ value, Careful (next value)) :
    Careful (program >>= next) :=
  ensures_bind first rest

theorem careful_act {step : Port → α × Port}
    (keeps : ∀ port, SoundTrace port.trace → SoundTrace (step port).2.trace) :
    Careful (.act step) :=
  ensures_act keeps

theorem careful_orPanic {value : Option α} (rest : ∀ found, value = some found → Careful (next found)) :
    Careful (Program.orPanic value >>= next) :=
  ensures_orPanic rest fun _ _ sound => sound

/-- Behind the check the pointer is not null. -/
theorem careful_notNull {pointer : Nat} {next : Unit → Program Port β}
    (rest : pointer ≠ 0 → Careful (next ())) : Careful (notNull pointer >>= next) := by
  refine careful_orPanic fun found given => rest ?_
  rintro rfl
  cases given

theorem SoundTrace.record {port : Port} (sound : SoundTrace port.trace) {action : Action}
    (through : action.Sound) : SoundTrace (port.record action).trace := by
  intro other member
  rcases List.mem_append.mp member with old | new
  · exact sound other old
  · exact List.mem_singleton.mp new ▸ through

theorem careful_perform {action : Action} (through : action.Sound) : Careful (perform action) :=
  careful_act fun _ sound => sound.record through

theorem careful_writeReg (offset value : Nat) : Careful (writeReg offset value) :=
  careful_perform nofun

theorem careful_terminalPrint (text : String) (color : UInt32) : Careful (terminalPrint text color) :=
  careful_perform nofun

theorem careful_readReg (offset : Nat) : Careful (readReg offset) :=
  careful_act fun _ sound => sound

theorem careful_allocZeroed (size : Nat) : Careful (allocZeroed size) :=
  careful_act fun _ sound => sound.record nofun

theorem careful_allocPage : Careful allocPage :=
  careful_act fun _ sound => sound.record nofun

variable {pointer : Nat} (there : pointer ≠ 0)

include there

theorem careful_load (offset : Nat) : Careful (load pointer offset) :=
  careful_perform fun null => there (Option.some.inj null)

theorem careful_store (offset value : Nat) : Careful (store pointer offset value) :=
  careful_perform fun null => there (Option.some.inj null)

theorem careful_submit (index : Nat) (command : NvmeCmd) :
    Careful (perform (.submit pointer index command)) :=
  careful_perform fun null => there (Option.some.inj null)

theorem careful_completed (index : Nat) : Careful (completed pointer index) := by
  refine careful_bind (careful_act fun port sound => sound.record ?_) fun _ => careful_pure _
  exact fun null => there (Option.some.inj null)

theorem careful_forM_load (offsets : List Nat) (start : Nat) :
    Careful (offsets.forM fun i => load pointer (start + i)) :=
  ensures_forM offsets fun i => careful_load there (start + i)

theorem careful_forM_load_zero (offsets : List Nat) : Careful (offsets.forM (load pointer)) :=
  ensures_forM offsets fun i => careful_load there i

omit there

theorem careful_waitFor {test : Program Port Bool} (careful : Careful test) (bound : Nat) :
    Careful (waitFor test bound) :=
  ensures_waitFor careful bound

theorem careful_pollReg (offset : Nat) (test : UInt32 → Bool) (bound : Nat) :
    Careful (waitFor (do return test (← readReg offset)) bound) :=
  careful_waitFor (careful_bind (careful_readReg offset) fun _ => careful_pure _) bound

end Careful

section Drive

theorem adminCommand_careful {nvme : Nvme} (asq : nvme.asqPtr ≠ 0) (acq : nvme.acqPtr ≠ 0)
    (slot : Nat) (command : NvmeCmd) : Careful (adminCommand nvme slot command) := by
  refine careful_bind (careful_submit asq slot command) fun _ => ?_
  refine careful_bind (careful_writeReg _ _) fun _ => ?_
  refine careful_bind (careful_waitFor (careful_completed acq slot) _) fun _ => ?_
  exact careful_writeReg _ _

theorem nvmeConfigure_careful (nvme : Nvme) : Careful (nvmeConfigure nvme) := by
  refine careful_bind (careful_allocZeroed _) fun asqPtr => ?_
  refine careful_bind (careful_allocZeroed _) fun acqPtr => ?_
  refine careful_bind (careful_allocZeroed _) fun iosqPtr => ?_
  refine careful_bind (careful_allocZeroed _) fun iocqPtr => ?_
  refine careful_bind (careful_writeReg _ _) fun _ => ?_
  refine careful_bind (careful_writeReg _ _) fun _ => ?_
  refine careful_bind (careful_writeReg _ _) fun _ => ?_
  refine careful_bind (careful_writeReg _ _) fun _ => ?_
  refine careful_bind (careful_pollReg _ _ _) fun started => ?_
  cases started with
  | false => exact careful_pure _
  | true =>
    refine careful_notNull fun asq => ?_
    refine careful_notNull fun acq => ?_
    refine careful_bind (adminCommand_careful asq acq _ _) fun _ => ?_
    refine careful_bind (adminCommand_careful asq acq _ _) fun _ => ?_
    refine careful_bind (careful_terminalPrint _ _) fun _ => ?_
    exact careful_pure _

theorem nvmeReset_careful : Careful nvmeReset := by
  refine careful_bind (careful_readReg _) fun testRead => ?_
  split
  · exact careful_pure _
  · refine careful_bind (careful_readReg _) fun cc => ?_
    refine careful_bind (careful_writeReg _ _) fun _ => ?_
    exact careful_pollReg _ _ _

theorem nvmeInit_careful (nvme : Nvme) : Careful (nvmeInit nvme) := by
  refine careful_bind nvmeReset_careful fun goesOn => ?_
  cases goesOn with
  | true => exact nvmeConfigure_careful nvme
  | false => exact careful_pure nvme

theorem identifyController_careful (nvme : Nvme) : Careful (identifyController nvme) := by
  refine careful_bind careful_allocPage fun page => ?_
  refine careful_notNull fun asq => ?_
  refine careful_bind (careful_submit asq _ _) fun _ => ?_
  refine careful_bind (careful_writeReg _ _) fun _ => ?_
  refine careful_notNull fun acq => ?_
  refine careful_bind (careful_waitFor (careful_completed acq _) _) fun identified => ?_
  cases identified with
  | false => exact careful_pure _
  | true =>
    refine careful_notNull fun data => ?_
    refine careful_bind (careful_forM_load data _ 24) fun _ => ?_
    refine careful_bind (careful_forM_load data _ 4) fun _ => ?_
    refine careful_bind (careful_terminalPrint _ _) fun _ => ?_
    refine careful_bind (careful_terminalPrint _ _) fun _ => ?_
    refine careful_bind (careful_terminalPrint _ _) fun _ => ?_
    refine careful_bind (careful_terminalPrint _ _) fun _ => ?_
    refine careful_bind (careful_terminalPrint _ _) fun _ => ?_
    exact careful_writeReg _ _

theorem readSector_careful (nvme : Nvme) (lba : UInt64) : Careful (readSector nvme lba) := by
  refine careful_bind careful_allocPage fun page => ?_
  refine careful_notNull fun iosq => ?_
  refine careful_notNull fun iocq => ?_
  refine careful_bind (careful_store iocq _ _) fun _ => ?_
  refine careful_bind (careful_submit iosq _ _) fun _ => ?_
  refine careful_bind (careful_writeReg _ _) fun _ => ?_
  refine careful_bind (careful_waitFor (careful_completed iocq _) _) fun _ => ?_
  refine careful_bind (careful_writeReg _ _) fun _ => ?_
  refine careful_notNull fun data => ?_
  refine careful_bind (careful_forM_load_zero data _) fun _ => ?_
  exact careful_pure _

theorem readVolume_careful (drive : Nvme) : Careful (readVolume drive) := by
  refine careful_bind (readSector_careful _ _) fun first => ?_
  refine careful_orPanic fun volume _ => ?_
  refine careful_orPanic fun rootLba _ => ?_
  split
  · refine careful_bind (readSector_careful _ _) fun second => ?_
    dsimp only
    split
    · refine careful_orPanic fun payloadLba _ => ?_
      refine careful_bind (readSector_careful _ _) fun third => ?_
      split
      · exact careful_bind (careful_terminalPrint _ _) fun _ => careful_pure _
      · exact careful_pure _
    · exact careful_pure _
  · exact careful_pure _

theorem startNvme_careful (devices : Devices) : Careful (startNvme devices) := by
  unfold startNvme
  split
  · refine careful_bind (careful_terminalPrint _ _) fun _ => ?_
    refine careful_bind (nvmeInit_careful _) fun drive => ?_
    refine careful_bind (identifyController_careful drive) fun _ => ?_
    exact careful_bind (readVolume_careful drive) fun _ => careful_pure _
  · exact careful_pure _

theorem syscallReadSector_careful (drive : Option Nvme) (lba : UInt64) :
    Careful (syscallReadSector drive lba) := by
  refine careful_bind (careful_terminalPrint _ _) fun _ => ?_
  cases drive with
  | none => exact careful_bind (careful_terminalPrint _ _) fun _ => careful_pure _
  | some drive =>
    refine careful_bind (readSector_careful drive lba) fun _ => ?_
    refine careful_bind (careful_allocZeroed _) fun _ => ?_
    refine careful_notNull fun _ => ?_
    exact careful_bind (careful_terminalPrint _ _) fun _ => careful_pure _

end Drive

section Audio

theorem hdaReset_careful : Careful hdaReset := by
  refine careful_bind (careful_readReg _) fun _ => ?_
  refine careful_bind (careful_terminalPrint _ _) fun _ => ?_
  refine careful_bind (careful_writeReg _ _) fun _ => ?_
  refine careful_bind (careful_pollReg _ _ _) fun awake => ?_
  cases awake with
  | true => exact careful_pure _
  | false => exact careful_bind (careful_terminalPrint _ _) fun _ => careful_pure _

theorem hdaConfigure_careful (hda : IntelHda) : Careful (hdaConfigure hda) := by
  refine careful_bind (careful_terminalPrint _ _) fun _ => ?_
  refine careful_bind (careful_allocZeroed _) fun corbPtr => ?_
  refine careful_bind (careful_allocZeroed _) fun rirbPtr => ?_
  iterate 14 refine careful_bind (careful_writeReg _ _) fun _ => ?_
  refine careful_bind (careful_terminalPrint _ _) fun _ => ?_
  refine careful_bind (careful_readReg _) fun statests => ?_
  split
  · exact careful_bind (careful_terminalPrint _ _) fun _ => careful_pure _
  · exact careful_pure _

theorem hdaInit_careful (hda : IntelHda) : Careful (hdaInit hda) := by
  refine careful_bind hdaReset_careful fun goesOn => ?_
  cases goesOn with
  | true => exact hdaConfigure_careful hda
  | false => exact careful_pure hda

theorem sendCorbCmd_careful (hda : IntelHda) (cmd : Nat) : Careful (sendCorbCmd hda cmd) := by
  refine careful_notNull fun corb => ?_
  refine careful_bind (careful_readReg _) fun wp => ?_
  refine careful_orPanic fun next _ => ?_
  refine careful_bind (careful_store corb _ _) fun _ => ?_
  exact careful_writeReg _ _

/-- The first sample is stored at the pointer itself, so that its check is one of
the pointer. -/
theorem samples_careful (audioBuf : Nat) :
    Careful ((List.range (bufferSize / 2)).forM fun i => do
      notNull (audioBuf + i * 2)
      store audioBuf (i * 2) (sample i)) := by
  have turns : ∀ i < bufferSize / 2, Ensures
      (fun port => (0 < i → audioBuf ≠ 0) ∧ SoundTrace port.trace)
      (do notNull (audioBuf + i * 2); store audioBuf (i * 2) (sample i))
      (fun _ port => (0 < i + 1 → audioBuf ≠ 0) ∧ SoundTrace port.trace)
      (fun port => SoundTrace port.trace) := by
    intro i _
    refine ensures_given fun earlier => ?_
    refine ensures_orPanic (fun found given => ?_) fun _ _ sound => sound
    have there : audioBuf ≠ 0 := by
      rintro rfl
      rcases Nat.eq_zero_or_pos i with rfl | later
      · cases given
      · exact earlier later rfl
    exact ensures_weaken (careful_store there (i * 2) (sample i)) (fun _ sound => sound)
      (fun _ _ sound => ⟨fun _ => there, sound⟩) fun _ sound => sound
  exact ensures_weaken (ensures_forM_range _ turns)
    (fun _ sound => ⟨fun impossible => absurd impossible (Nat.lt_irrefl 0), sound⟩)
    (fun _ _ holds => holds.2) fun _ sound => sound

theorem prepareTone_careful : Careful prepareTone := by
  refine careful_bind (careful_allocZeroed _) fun audioBuf => ?_
  refine careful_bind (samples_careful audioBuf) fun _ => ?_
  refine careful_bind (careful_allocZeroed _) fun bdlPtr => ?_
  refine careful_notNull fun bdl => ?_
  iterate 4 refine careful_bind (careful_store bdl _ _) fun _ => ?_
  refine careful_bind (careful_readReg _) fun gcap => ?_
  refine careful_bind (careful_writeReg _ _) fun _ => ?_
  refine careful_bind (careful_writeReg _ _) fun _ => ?_
  refine careful_bind (careful_pollReg _ (fun value => value.toUInt8 &&& 1 != 0) _) fun _ => ?_
  refine careful_bind (careful_writeReg _ _) fun _ => ?_
  refine careful_bind (careful_pollReg _ (fun value => value.toUInt8 &&& 1 == 0) _) fun _ => ?_
  iterate 5 refine careful_bind (careful_writeReg _ _) fun _ => ?_
  exact careful_pure _

theorem playTone_careful (hda : IntelHda) : Careful (playTone hda) := by
  refine careful_bind prepareTone_careful fun streamOffset => ?_
  iterate 7 refine careful_bind (sendCorbCmd_careful hda _) fun _ => ?_
  refine careful_bind (careful_readReg _) fun sdctl => ?_
  refine careful_bind (careful_writeReg _ _) fun _ => ?_
  refine careful_bind (careful_writeReg _ _) fun _ => ?_
  exact careful_terminalPrint _ _

theorem startHda_careful (devices : Devices) : Careful (startHda devices) := by
  unfold startHda
  split
  · refine careful_bind (hdaInit_careful _) fun hda => ?_
    exact careful_bind (playTone_careful hda) fun _ => careful_pure _
  · exact careful_pure _

end Audio

end QoreOS.Startup
