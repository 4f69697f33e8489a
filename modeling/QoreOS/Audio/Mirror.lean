import QoreOS.Audio.Hda

/-! The audio driver at the controller does what it does action by action: for each of its runs
there are answers to which the other model performs the same accesses. -/

namespace QoreOS.Audio

open QoreOS.Library QoreOS.Startup

/-- An access of the driver: a read, or an action, whose stores have a width. -/
inductive Access where
  | read
  | act (action : Action) (width : Nat)

namespace Access

def action : Access → Option Action
  | read => none
  | act action _ => some action

/-- The access at the machine with the controller. -/
def apply (machine : Machine) : Access → Machine
  | act (.writeReg offset value) _ => { machine with hda := machine.hda.write offset value }
  | act (.store pointer offset value) width =>
    { machine with memory := machine.memory.write (pointer + offset) width value }
  | act (.alloc size address) _ =>
    { machine with memory := machine.memory.copy address (List.replicate size 0) }
  | act (.print text color) _ => { machine with console := machine.console ++ [(text, color)] }
  | _ => machine

/-- The events that are due come first. -/
def onBus (bus : Bus Machine Event) (access : Access) : Bus Machine Event :=
  { bus.settle Machine.react with device := access.apply (bus.settle Machine.react).device }

end Access

/-- Whatever is to be met behind it, there are answers to which the program does, action by action,
the same accesses as the driver at the controller, and ends alike. -/
def Mirrors {α β : Type} (program : Program Port α) (driver : Driver β) (alike : α → β → Prop) : Prop :=
  ∀ bus, ∃ accesses : List Access, (driver.exec bus).2 = accesses.foldl Access.onBus bus ∧
    match (driver.exec bus).1 with
    | some value => ∃ found, alike found value ∧ ∀ rest : Answers, ∃ answers : Answers, ∀ trace,
        program.exec ⟨answers, trace⟩ =
          (some found, ⟨rest, trace ++ accesses.filterMap Access.action⟩)
    | none => ∃ answers left : Answers, ∀ trace,
        program.exec ⟨answers, trace⟩ = (none, ⟨left, trace ++ accesses.filterMap Access.action⟩)

/-- Answers that tell nothing. -/
def silent : Answers where
  registers _ _ := 0
  statuses _ := 0
  pages _ _ := 0
  addresses _ := 0

/-- The next read of the register tells the word. -/
def telling (rest : Answers) (offset : Nat) (word : UInt32) : Answers where
  registers := Function.update rest.registers offset fun turn =>
    turn.casesOn word (rest.registers offset)
  statuses := rest.statuses
  pages := rest.pages
  addresses := rest.addresses

theorem readReg_telling (rest : Answers) (offset : Nat) (word : UInt32) (trace : List Action) :
    (Port.readReg offset).exec ⟨telling rest offset word, trace⟩ = (some word, ⟨rest, trace⟩) := by
  have told : (telling rest offset word).registers offset =
      fun turn => turn.casesOn word (rest.registers offset) := Function.update_self ..
  have later : Function.update (telling rest offset word).registers offset (fun turn =>
      (telling rest offset word).registers offset (turn + 1)) = rest.registers := by
    rw [told]
    exact (Function.update_idem ..).trans (Function.update_eq_self offset rest.registers)
  rw [Port.readReg, Program.exec_act]
  dsimp only
  rw [later, told]
  rfl

section Rules

variable {α β γ δ : Type} {program : Program Port α} {driver : Driver β} {alike : α → β → Prop}

theorem mirrors_pure {found : α} {value : β} (same : alike found value) :
    Mirrors (pure found) (pure value) alike := by
  intro bus
  refine ⟨[], rfl, found, same, fun rest => ⟨rest, fun trace => ?_⟩⟩
  rw [List.filterMap_nil, List.append_nil]
  rfl

theorem mirrors_bind {next : α → Program Port γ} {follow : β → Driver δ} {both : γ → δ → Prop}
    (first : Mirrors program driver alike)
    (rest : ∀ found value, alike found value → Mirrors (next found) (follow value) both) :
    Mirrors (program >>= next) (driver >>= follow) both := by
  intro bus
  obtain ⟨accesses, reached, outcome⟩ := first bus
  rw [Program.exec_bind]
  cases result : driver.exec bus with
  | mk value middle =>
    rw [result] at reached outcome
    dsimp only at reached outcome
    cases value with
    | none =>
      obtain ⟨answers, left, runs⟩ := outcome
      refine ⟨accesses, reached, answers, left, fun trace => ?_⟩
      rw [Program.exec_bind, runs]
    | some value =>
      obtain ⟨found, same, runs⟩ := outcome
      obtain ⟨more, ended, last⟩ := rest found value same middle
      refine ⟨accesses ++ more, ?_, ?_⟩
      · rw [List.foldl_append, ← reached]
        exact ended
      dsimp only
      cases final : ((follow value).exec middle).1 with
      | none =>
        rw [final] at last
        obtain ⟨answers, left, later⟩ := last
        obtain ⟨start, runs⟩ := runs answers
        refine ⟨start, left, fun trace => ?_⟩
        rw [Program.exec_bind, runs]
        dsimp only
        rw [later, List.filterMap_append, List.append_assoc]
      | some other =>
        rw [final] at last
        obtain ⟨finish, good, later⟩ := last
        refine ⟨finish, good, fun tail => ?_⟩
        obtain ⟨answers, later⟩ := later tail
        obtain ⟨start, runs⟩ := runs answers
        refine ⟨start, fun trace => ?_⟩
        rw [Program.exec_bind, runs]
        dsimp only
        rw [later, List.filterMap_append, List.append_assoc]

theorem mirrors_weaken {other : α → β → Prop} (mirrors : Mirrors program driver alike)
    (weaker : ∀ found value, alike found value → other found value) :
    Mirrors program driver other := by
  intro bus
  obtain ⟨accesses, reached, outcome⟩ := mirrors bus
  refine ⟨accesses, reached, ?_⟩
  cases final : (driver.exec bus).1 with
  | none =>
    rw [final] at outcome
    exact outcome
  | some value =>
    rw [final] at outcome
    obtain ⟨found, same, runs⟩ := outcome
    exact ⟨found, weaker found value same, runs⟩

/-- Both panic where a value is missing. -/
theorem mirrors_orPanic (value : Option α) :
    Mirrors (Program.orPanic value) (Program.orPanic value) Eq := by
  intro bus
  refine ⟨[], rfl, ?_⟩
  rw [Program.exec_orPanic]
  cases value with
  | none =>
    refine ⟨silent, silent, fun trace => ?_⟩
    rw [Program.exec_orPanic, List.filterMap_nil, List.append_nil]
  | some value =>
    refine ⟨value, rfl, fun rest => ⟨rest, fun trace => ?_⟩⟩
    rw [Program.exec_orPanic, List.filterMap_nil, List.append_nil]

theorem mirrors_notNull (pointer : Nat) :
    Mirrors (Program.notNull pointer) (Program.notNull pointer) fun _ _ => True :=
  mirrors_weaken (mirrors_orPanic _) fun _ _ _ => trivial

theorem mirrors_waitFor {test : Program Port Bool} {look : Driver Bool} (mirrors : Mirrors test look Eq)
    (turns : Nat) : Mirrors (Program.waitFor test turns) (Program.waitFor look turns) Eq := by
  induction turns with
  | zero =>
    rw [Program.waitFor_zero, Program.waitFor_zero]
    exact mirrors
  | succ turns ih =>
    rw [Program.waitFor_succ, Program.waitFor_succ]
    refine mirrors_bind mirrors fun found value same => ?_
    subst same
    cases found with
    | true => exact mirrors_pure rfl
    | false => exact ih

theorem mirrors_forM {ι : Type} {body : ι → Program Port PUnit} {follow : ι → Driver PUnit}
    (items : List ι) (each : ∀ item, Mirrors (body item) (follow item) fun _ _ => True) :
    Mirrors (items.forM body) (items.forM follow) fun _ _ => True := by
  induction items with
  | nil => exact mirrors_pure trivial
  | cons item items ih => exact mirrors_bind (each item) fun _ _ _ => ih

/-- An action that asks for nothing. -/
theorem mirrors_perform {action : Action} (width : Nat) {driver : Driver PUnit}
    (does : ∀ bus, driver.exec bus = (some (), Access.onBus bus (.act action width))) :
    Mirrors (Port.perform action) driver fun _ _ => True := by
  intro bus
  refine ⟨[.act action width], by rw [does]; rfl, ?_⟩
  rw [does]
  exact ⟨(), trivial, fun rest => ⟨rest, fun trace => rfl⟩⟩

theorem mirrors_writeReg (offset value : Nat) :
    Mirrors (Port.writeReg offset value) (Driver.writeReg offset value) fun _ _ => True :=
  mirrors_perform 0 fun _ => rfl

theorem mirrors_terminalPrint (text : String) (color : UInt32) :
    Mirrors (Port.terminalPrint text color) (Driver.terminalPrint text color) fun _ _ => True :=
  mirrors_perform 0 fun _ => rfl

theorem mirrors_store (pointer offset width value : Nat) :
    Mirrors (Port.store pointer offset value) (Driver.store (pointer + offset) width value)
      fun _ _ => True :=
  mirrors_perform width fun _ => rfl

/-- A look at a register, of which some word tells the same. -/
theorem mirrors_read {look : Machine → β} {alike : UInt32 → β → Prop} (offset : Nat)
    (told : ∀ machine : Machine, ∃ word, alike word (look machine)) :
    Mirrors (Port.readReg offset) (Bus.access Machine.react fun machine => (look machine, machine))
      alike := by
  intro bus
  obtain ⟨word, same⟩ := told (bus.settle Machine.react).device
  refine ⟨[.read], rfl, word, same, fun rest => ?_⟩
  exact ⟨telling rest offset word, fun trace => by
    rw [readReg_telling, List.filterMap_cons_none rfl, List.filterMap_nil, List.append_nil]⟩

/-- A read of a register, of which the driver at the controller keeps the lower bytes. -/
theorem mirrors_readReg (offset : Nat) {size : Nat} (small : size ≤ 4) :
    Mirrors (Port.readReg offset) (Driver.readReg offset size)
      fun word value => word.toNat % 256 ^ size = value := by
  refine mirrors_read offset fun machine => ⟨UInt32.ofNat (machine.hda.read offset), ?_⟩
  rw [UInt32.toNat_ofNat']
  exact Nat.mod_mod_of_dvd _ (Nat.pow_dvd_pow 256 small)

/-- Both wait for the same bit. -/
theorem mirrors_waitBit {test : UInt32 → Bool} (offset bit : Nat) (value : Bool) (turns : Nat)
    (tests : ∀ word, test (UInt32.ofNat word) = (word.testBit bit == value)) :
    Mirrors (Program.waitFor (do return test (← Port.readReg offset)) turns)
      (Driver.waitBit offset bit value turns) Eq := by
  have looked : Mirrors (Port.readReg offset)
      (Bus.access Machine.react fun machine =>
        ((machine.hda.read offset).testBit bit == value, machine))
      fun word found => test word = found :=
    mirrors_read offset fun machine => ⟨_, tests (machine.hda.read offset)⟩
  refine mirrors_waitFor ?_ turns
  rw [← bind_pure (Bus.access Machine.react _)]
  exact mirrors_bind looked fun _ _ same => mirrors_pure same

theorem mirrors_allocZeroed (address size : Nat) :
    Mirrors (Port.allocZeroed size) (Driver.allocZeroed address size)
      fun pointer value => pointer = address ∧ value = address := by
  intro bus
  refine ⟨[.act (.alloc size address) 0], rfl, address, ⟨rfl, rfl⟩, fun rest => ?_⟩
  exact ⟨{ rest with addresses := fun call => call.casesOn address rest.addresses }, fun trace => rfl⟩

end Rules

section IntelHda

variable {allocation : Allocation} {hda : IntelHda}

theorem lowBit_eq (word : Nat) : UInt32.ofNat word &&& 1 = if word.testBit 0 then 1 else 0 := by
  have bit : (UInt32.ofNat word &&& 1).toNat = word % 2 := by
    rw [UInt32.toNat_and, UInt32.toNat_ofNat']
    exact (Nat.and_one_is_mod _).trans (Nat.mod_mod_of_dvd word (by decide))
  rw [← UInt32.toNat_inj, bit, Nat.testBit_zero]
  rcases Nat.mod_two_eq_zero_or_one word with even | odd
  · rw [even]; rfl
  · rw [odd]; rfl

theorem lowByteBit_eq (word : Nat) :
    (UInt32.ofNat word).toUInt8 &&& 1 = if word.testBit 0 then 1 else 0 := by
  have bit := congrArg UInt32.toUInt8 (lowBit_eq word)
  rw [apply_ite UInt32.toUInt8] at bit
  exact (UInt32.toUInt8_and _ 1).symm.trans bit

theorem lowBit_set (word : Nat) : (UInt32.ofNat word &&& 1 != 0) = (word.testBit 0 == true) := by
  rw [lowBit_eq]
  cases word.testBit 0 <;> rfl

theorem lowByteBit_set (word : Nat) :
    ((UInt32.ofNat word).toUInt8 &&& 1 != 0) = (word.testBit 0 == true) := by
  rw [lowByteBit_eq]
  cases word.testBit 0 <;> rfl

theorem lowByteBit_clear (word : Nat) :
    ((UInt32.ofNat word).toUInt8 &&& 1 == 0) = (word.testBit 0 == false) := by
  rw [lowByteBit_eq]
  cases word.testBit 0 <;> rfl

theorem reset_mirrors : Mirrors hdaReset Driver.reset Eq := by
  refine mirrors_bind (mirrors_readReg 0x00 (by decide)) fun _ _ _ => ?_
  refine mirrors_bind (mirrors_terminalPrint _ _) fun _ _ _ => ?_
  refine mirrors_bind (mirrors_writeReg 0x08 1) fun _ _ _ => ?_
  refine mirrors_bind (mirrors_waitBit 0x08 0 true _ lowBit_set) fun found awake same => ?_
  subst same
  cases found with
  | true => exact mirrors_pure rfl
  | false => exact mirrors_bind (mirrors_terminalPrint _ _) fun _ _ _ => mirrors_pure rfl

theorem configure_mirrors :
    Mirrors (hdaConfigure hda) (Driver.configure allocation hda) Eq := by
  refine mirrors_bind (mirrors_terminalPrint _ _) fun _ _ _ => ?_
  refine mirrors_bind (mirrors_allocZeroed allocation.corb 4096) fun corbPtr _ same => ?_
  obtain ⟨rfl, rfl⟩ := same
  refine mirrors_bind (mirrors_allocZeroed allocation.rirb 4096) fun rirbPtr _ same => ?_
  obtain ⟨rfl, rfl⟩ := same
  refine mirrors_bind (mirrors_writeReg 0x4C 0) fun _ _ _ => ?_
  refine mirrors_bind (mirrors_writeReg 0x5C 0) fun _ _ _ => ?_
  refine mirrors_bind (mirrors_writeReg 0x40 _) fun _ _ _ => ?_
  refine mirrors_bind (mirrors_writeReg 0x44 _) fun _ _ _ => ?_
  refine mirrors_bind (mirrors_writeReg 0x50 _) fun _ _ _ => ?_
  refine mirrors_bind (mirrors_writeReg 0x54 _) fun _ _ _ => ?_
  refine mirrors_bind (mirrors_writeReg 0x4E 0x02) fun _ _ _ => ?_
  refine mirrors_bind (mirrors_writeReg 0x5E 0x02) fun _ _ _ => ?_
  refine mirrors_bind (mirrors_writeReg 0x4A _) fun _ _ _ => ?_
  refine mirrors_bind (mirrors_writeReg 0x4A 0) fun _ _ _ => ?_
  refine mirrors_bind (mirrors_writeReg 0x48 0) fun _ _ _ => ?_
  refine mirrors_bind (mirrors_writeReg 0x58 _) fun _ _ _ => ?_
  refine mirrors_bind (mirrors_writeReg 0x4C _) fun _ _ _ => ?_
  refine mirrors_bind (mirrors_writeReg 0x5C _) fun _ _ _ => ?_
  refine mirrors_bind (mirrors_terminalPrint _ _) fun _ _ _ => ?_
  refine mirrors_bind (mirrors_readReg 0x0E (by decide)) fun word statests same => ?_
  have present : word.toUInt16 = 0 ↔ statests = 0 := by
    rw [← UInt16.toNat_inj, ← same]
    exact Iff.rfl
  by_cases none : statests = 0
  · rw [if_neg (not_not_intro (present.mpr none)), if_neg (not_not_intro none)]
    exact mirrors_pure rfl
  · rw [if_pos (mt present.mp none), if_pos none]
    exact mirrors_bind (mirrors_terminalPrint _ _) fun _ _ _ => mirrors_pure rfl

/-- `IntelHda::init`. -/
theorem init_mirrors : Mirrors (hdaInit hda) (Driver.init allocation hda) Eq := by
  refine mirrors_bind reset_mirrors fun found awake same => ?_
  subst same
  cases found with
  | true => exact configure_mirrors
  | false => exact mirrors_pure rfl

theorem sendCorbCmd_mirrors (cmd : Nat) :
    Mirrors (Startup.sendCorbCmd hda cmd) (Driver.sendCorbCmd hda cmd) fun _ _ => True := by
  refine mirrors_bind (mirrors_notNull _) fun _ _ _ => ?_
  refine mirrors_bind (mirrors_readReg 0x48 (by decide)) fun word wp same => ?_
  subst same
  refine mirrors_bind (mirrors_orPanic _) fun next _ same => ?_
  subst same
  rw [Nat.mul_comm 4]
  exact mirrors_bind (mirrors_store _ _ _ _) fun _ _ _ => mirrors_writeReg 0x48 _

theorem sample_mirrors (audioBuf i : Nat) :
    Mirrors (do
      Program.notNull (audioBuf + i * 2)
      Port.store audioBuf (i * 2) (sample i))
      (do
      Program.notNull (audioBuf + 2 * i)
      Driver.store (audioBuf + 2 * i) 2 (sample i)) fun _ _ => True := by
  rw [Nat.mul_comm 2]
  exact mirrors_bind (mirrors_notNull _) fun _ _ _ => mirrors_store _ _ _ _

theorem prepareTone_mirrors :
    Mirrors prepareTone (Driver.writeSamples allocation >>= fun placed =>
      Driver.prepareStream placed.2) fun streamOffset place => streamOffset = place := by
  rw [Driver.writeSamples, prepareTone]
  simp only [bind_assoc, pure_bind]
  refine mirrors_bind (mirrors_allocZeroed allocation.audioBuf bufferSize) fun audioBuf _ same => ?_
  obtain ⟨rfl, rfl⟩ := same
  refine mirrors_bind (mirrors_forM _ (sample_mirrors _)) fun _ _ _ => ?_
  refine mirrors_bind (mirrors_allocZeroed allocation.bdl 4096) fun bdlPtr _ same => ?_
  obtain ⟨rfl, rfl⟩ := same
  refine mirrors_bind (mirrors_notNull _) fun _ _ _ => ?_
  refine mirrors_bind (mirrors_store _ 0 _ _) fun _ _ _ => ?_
  refine mirrors_bind (mirrors_store _ 4 _ _) fun _ _ _ => ?_
  refine mirrors_bind (mirrors_store _ 8 _ _) fun _ _ _ => ?_
  refine mirrors_bind (mirrors_store _ 12 _ _) fun _ _ _ => ?_
  rw [Driver.prepareStream]
  refine mirrors_bind (mirrors_readReg 0x00 (by decide)) fun word gcap same => ?_
  subst same
  rw [show word.toNat % 256 ^ 4 = word.toNat from Nat.mod_eq_of_lt word.toNat_lt]
  refine mirrors_bind (mirrors_writeReg _ 0) fun _ _ _ => ?_
  refine mirrors_bind (mirrors_writeReg _ 1) fun _ _ _ => ?_
  refine mirrors_bind (mirrors_waitBit _ 0 true _ lowByteBit_set) fun _ _ _ => ?_
  refine mirrors_bind (mirrors_writeReg _ 0) fun _ _ _ => ?_
  refine mirrors_bind (mirrors_waitBit _ 0 false _ lowByteBit_clear) fun _ _ _ => ?_
  refine mirrors_bind (mirrors_writeReg _ _) fun _ _ _ => ?_
  refine mirrors_bind (mirrors_writeReg _ _) fun _ _ _ => ?_
  refine mirrors_bind (mirrors_writeReg _ _) fun _ _ _ => ?_
  refine mirrors_bind (mirrors_writeReg _ _) fun _ _ _ => ?_
  refine mirrors_bind (mirrors_writeReg _ _) fun _ _ _ => ?_
  exact mirrors_pure rfl

theorem startStream_mirrors (streamOffset : Nat) :
    Mirrors (do
      let sdctl ← Port.readReg streamOffset
      let sdctl := sdctl.toUInt8.toNat ||| 1 <<< 4
      Port.writeReg streamOffset sdctl
      Port.writeReg streamOffset (sdctl ||| 1 <<< 1)
      Port.terminalPrint "> HDA: DMA OUTPUT FIRED. 440HZ TONE STREAMING!\n" 0xF59E0B)
      (Driver.startStream streamOffset) fun _ _ => True := by
  refine mirrors_bind (mirrors_readReg streamOffset (by decide)) fun word sdctl same => ?_
  subst same
  refine mirrors_bind (mirrors_writeReg _ _) fun _ _ _ => ?_
  refine mirrors_bind (mirrors_writeReg _ _) fun _ _ _ => ?_
  exact mirrors_terminalPrint _ _

/-- `IntelHda::play_tone`. -/
theorem playTone_mirrors :
    Mirrors (Startup.playTone hda) (Driver.playTone allocation hda) fun _ _ => True := by
  rw [Driver.playTone, ← bind_assoc]
  refine mirrors_bind prepareTone_mirrors fun streamOffset _ same => ?_
  subst same
  have verbs : Mirrors (Driver.toneVerbs.forM (Startup.sendCorbCmd hda))
      (Driver.toneVerbs.forM (Driver.sendCorbCmd hda)) fun _ _ => True :=
    mirrors_forM _ sendCorbCmd_mirrors
  have both := mirrors_bind verbs fun _ _ _ => startStream_mirrors streamOffset
  simp only [Driver.toneVerbs, List.forM, bind_assoc, pure_bind] at both ⊢
  exact both

/-- The audio block of `_start` for a controller that was found. -/
theorem startHda_mirrors {devices : Devices} (found : devices.hda = true) :
    Mirrors (startHda devices) (Driver.startAudio allocation devices.hdaBar0)
      fun hda other => hda = some other := by
  rw [startHda, if_pos found]
  refine mirrors_bind init_mirrors fun hda _ same => ?_
  subst same
  exact mirrors_bind playTone_mirrors fun _ _ _ => mirrors_pure rfl

end IntelHda

end QoreOS.Audio
