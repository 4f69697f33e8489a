import QoreOS.Input.Ps2

/-! The initialisation of the mouse, over a controller that works at its own pace. -/

namespace QoreOS.Input

open QoreOS.Library

namespace Ps2

/-- `wait_write`; the loop's end does not show whether the buffer is empty. -/
def waitWrite (ps2 : Ps2) (pace : Nat → Nat) : Ps2 :=
  (await step (fun ps2 => ps2.status &&& 2 == 0) (100000 - 1) pace ps2).2

/-- `wait_read` -/
def waitRead (ps2 : Ps2) (pace : Nat → Nat) : Ps2 :=
  (await step (fun ps2 => ps2.status &&& 1 == 1) (100000 - 1) pace ps2).2

/-- `mouse_write`, with the pace of the controller in its two waits. -/
def mouseWrite (ps2 : Ps2) (first second : Nat → Nat) (data : UInt8) : Ps2 :=
  let ps2 := (ps2.waitWrite first).writeCommand 0xD4
  (ps2.waitWrite second).writeData data

/-- `mouse_read` -/
def mouseRead (ps2 : Ps2) (pace : Nat → Nat) : UInt8 × Ps2 := (ps2.waitRead pace).readData

/-- `mouse::init` with the command of `_start` before it; the two answers of the mouse and the
controller at the end. The controller takes `pace wait turn` steps in a turn of a wait. -/
def initMouse (ps2 : Ps2) (pace : Nat → Nat → Nat) : UInt8 × UInt8 × Ps2 :=
  let ps2 := ps2.writeCommand 0xAE
  let ps2 := (ps2.waitWrite (pace 0)).writeCommand 0xA8
  let ps2 := (ps2.waitWrite (pace 1)).writeCommand 0x20
  let (status, ps2) := (ps2.waitRead (pace 2)).readData
  let status := status ||| (1 : UInt8) <<< 1
  let status := status &&& ~~~((1 : UInt8) <<< 5)
  let ps2 := (ps2.waitWrite (pace 3)).writeCommand 0x60
  let ps2 := (ps2.waitWrite (pace 4)).writeData status
  let ps2 := ps2.mouseWrite (pace 5) (pace 6) 0xF6
  let (first, ps2) := ps2.mouseRead (pace 7)
  let ps2 := ps2.mouseWrite (pace 8) (pace 9) 0xF4
  let (second, ps2) := ps2.mouseRead (pace 10)
  (first, second, ps2)

/-- Nothing is on its way in either direction. -/
structure Quiet (ps2 : Ps2) : Prop where
  input : ps2.input = none
  output : ps2.output = none
  outbox : ps2.mouse.outbox = []
  keyboard : ps2.keyboard = []

variable {ps2 final : Ps2} {pace : Nat → Nat}

theorem Quiet.step (quiet : Quiet ps2) : ps2.step = ps2 := by
  simp [Ps2.step, sendKeyboard, quiet.input, quiet.output, quiet.outbox, quiet.keyboard]

/-- A controller with an answer in its output buffer and nothing to take waits for the read. -/
theorem step_full {source : Source} (input : ps2.input = none) (output : ps2.output = some source) :
    ps2.step = ps2 := by
  simp [Ps2.step, sendMouse, sendKeyboard, input, output]

theorem status_input (ps2 : Ps2) : (ps2.status &&& 2 == 0) = ps2.input.isNone := by
  obtain ⟨config, input, addressee, output, latch, mouse, keyboard, edges⟩ := ps2
  cases input <;> rcases output with _ | ⟨_ | _⟩ <;> simp [status] <;> decide

theorem status_output (ps2 : Ps2) : (ps2.status &&& 1 == 1) = ps2.output.isSome := by
  obtain ⟨config, input, addressee, output, latch, mouse, keyboard, edges⟩ := ps2
  cases input <;> rcases output with _ | ⟨_ | _⟩ <;> simp [status] <;> decide

theorem waitWrite_quiet (quiet : Quiet ps2) (pace : Nat → Nat) : ps2.waitWrite pace = ps2 := by
  have already : step^[0] ps2 = ps2 := rfl
  rw [waitWrite, await_settled (Nat.zero_le _) already quiet.step (fun _ => nofun)]

/-- What was written is taken within the wait. -/
theorem waitWrite_taken (written : ps2.input.isSome = true) (taken : ps2.step = final)
    (settled : final.step = final) (prompt : Prompt (100000 - 1) 1 pace) :
    ps2.waitWrite pace = final := by
  have once : step^[1] ps2 = final := taken
  rw [waitWrite, await_settled prompt once settled]
  intro earlier before
  obtain rfl : earlier = 0 := by omega
  rw [Function.iterate_zero_apply, status_input, ← Option.not_isSome, written]
  rfl

/-- An answer is there within the wait. -/
theorem waitRead_answered {steps : Nat} (reached : Ps2.step^[steps] ps2 = final)
    (settled : final.step = final) (prompt : Prompt (100000 - 1) steps pace)
    (early : ∀ earlier, earlier < steps → (Ps2.step^[earlier] ps2).output = none) :
    ps2.waitRead pace = final := by
  rw [waitRead, await_settled prompt reached settled]
  intro earlier before
  rw [status_output, early earlier before]
  rfl

/-- The controller takes each command and each byte, and the mouse answers, before the loops give
up: one step for each byte written, and another for the mouse's answer. -/
def Timely (pace : Nat → Nat → Nat) : Prop := ∀ wait, Prompt (100000 - 1) 2 (pace wait)

theorem Timely.one {pace : Nat → Nat → Nat} (timely : Timely pace) (wait : Nat) :
    Prompt (100000 - 1) 1 (pace wait) := Nat.le_trans (by decide) (timely wait)

/-- A command is sent to the mouse and answered. -/
theorem mouse_answers {before : Ps2} {first second third : Nat → Nat}
    (ready : before.waitWrite first = ps2) (quiet : Quiet ps2) (clock : ps2.config &&& 0x20 = 0)
    {command : UInt8} {streaming : Bool} {commands : List UInt8}
    (obeyed : ps2.mouse.obey command = ⟨streaming, commands, [0xFA]⟩)
    (prompt : Prompt (100000 - 1) 1 second)
    (answers : Prompt (100000 - 1) 2 third) :
    (before.mouseWrite first second command).mouseRead third = (0xFA, { ps2 with
      addressee := .keyboard
      latch := 0xFA
      mouse := ⟨streaming, commands, []⟩
      edges := ps2.edges ++ line ps2.config .mouse }) := by
  have addressed : ((before.waitWrite first).writeCommand 0xD4).waitWrite second =
      { ps2 with addressee := .mouse } := by
    rw [ready]
    have taken : (ps2.writeCommand 0xD4).step = { ps2 with addressee := .mouse } := by
      simp [Ps2.step, writeCommand, acceptCommand, quiet.input]
    exact waitWrite_taken rfl taken (Quiet.step ⟨quiet.input, quiet.output, quiet.outbox, quiet.keyboard⟩) prompt
  rw [mouseRead, mouseWrite, addressed]
  let heard : Ps2 := { ps2 with
    addressee := .keyboard
    mouse := ⟨streaming, commands, [0xFA]⟩ }
  let answered : Ps2 := { ps2 with
    addressee := .keyboard
    output := some .mouse
    latch := 0xFA
    mouse := ⟨streaming, commands, []⟩
    edges := ps2.edges ++ line ps2.config .mouse }
  have hears : (writeData { ps2 with addressee := .mouse } command).step = heard := by
    simp [Ps2.step, writeData, acceptData, obeyed, heard, quiet.input]
  have answer : heard.step = answered := by
    simp [Ps2.step, heard, sendMouse, quiet.input, quiet.output, clock, put, answered]
  have waited : (writeData { ps2 with addressee := .mouse } command).waitRead third = answered := by
    have reached : Ps2.step^[2] (writeData { ps2 with addressee := .mouse } command) = answered := by
      rw [Function.iterate_succ_apply, Function.iterate_one, hears, answer]
    refine waitRead_answered reached (step_full quiet.input rfl) answers ?_
    intro earlier before
    obtain rfl | rfl : earlier = 0 ∨ earlier = 1 := by omega
    · exact quiet.output
    · rw [Function.iterate_one, hears]
      exact quiet.output
  rw [waited, readData]
  simp [answered, quiet.output]

/-- The configuration byte after both devices have been enabled. -/
def enabled (config : UInt8) : UInt8 := config &&& ~~~0x10 &&& ~~~0x20

/-- The configuration byte at the end: both devices are heard, and the mouse may interrupt. -/
def configured (config : UInt8) : UInt8 := config &&& 0xCF ||| 2

theorem configured_bits (config : UInt8) :
    (enabled config ||| (1 : UInt8) <<< 1) &&& ~~~((1 : UInt8) <<< 5) = configured config ∧
      configured config &&& 0x20 = 0 ∧ configured config &&& 0x10 = 0 ∧
      configured config &&& 2 ≠ 0 ∧ configured config &&& 1 = config &&& 1 ∧
      enabled config &&& 1 = config &&& 1 := by
  have every : ∀ code : Fin 256,
      (enabled (UInt8.ofNat code) ||| (1 : UInt8) <<< 1) &&& ~~~((1 : UInt8) <<< 5) =
          configured (UInt8.ofNat code) ∧
        configured (UInt8.ofNat code) &&& 0x20 = 0 ∧ configured (UInt8.ofNat code) &&& 0x10 = 0 ∧
        configured (UInt8.ofNat code) &&& 2 ≠ 0 ∧
        configured (UInt8.ofNat code) &&& 1 = UInt8.ofNat code &&& 1 ∧
        enabled (UInt8.ofNat code) &&& 1 = UInt8.ofNat code &&& 1 := by
    decide +kernel
  have here := every ⟨config.toNat, config.toNat_lt⟩
  rwa [UInt8.ofNat_toNat] at here

/-- The controller after `initMouse`. -/
def handedOver (ps2 : Ps2) : Ps2 :=
  { ps2 with
    config := configured ps2.config
    addressee := .keyboard
    latch := 0xFA
    mouse := { streaming := true, commands := ps2.mouse.commands ++ [0xF6, 0xF4], outbox := [] }
    edges := ps2.edges ++ line ps2.config .keyboard ++ [12, 12] }

/-- A command that only changes the controller's settings. -/
theorem waitWrite_setting {command : UInt8} (kept : Quiet final)
    (accepted : (ps2.writeCommand command).acceptCommand command = final)
    (prompt : Prompt (100000 - 1) 1 pace) :
    (ps2.writeCommand command).waitWrite pace = final :=
  waitWrite_taken rfl accepted kept.step prompt

/-- With a controller that nobody else is using, at whatever pace it works within the loops'
bounds, the mouse gets exactly its two commands and answers both, and the controller is left
with nothing on its way. -/
theorem initMouse_handedOver (quiet : Quiet ps2) {pace : Nat → Nat → Nat} (timely : Timely pace) :
    ps2.initMouse pace = (0xFA, 0xFA, ps2.handedOver) := by
  obtain ⟨final, clock, -, interrupts, -, same⟩ := configured_bits ps2.config
  have stays : ∀ config latch addressee edges,
      Quiet { ps2 with config := config, latch := latch, addressee := addressee, edges := edges } :=
    fun _ _ _ _ => ⟨quiet.input, quiet.output, quiet.outbox, quiet.keyboard⟩
  let opened : Ps2 := { ps2 with config := ps2.config &&& ~~~0x10 }
  let auxiliary : Ps2 := { ps2 with config := enabled ps2.config }
  have opens : (ps2.writeCommand 0xAE).waitWrite (pace 0) = opened := by
    apply waitWrite_setting (stays ..) _ (timely.one 0)
    simp [acceptCommand, writeCommand, quiet.input]
  have enables : (opened.writeCommand 0xA8).waitWrite (pace 1) = auxiliary := by
    apply waitWrite_setting (stays ..) _ (timely.one 1)
    simp [acceptCommand, writeCommand, opened, enabled, quiet.input]
  let answered : Ps2 := { auxiliary with
    output := some .keyboard
    latch := enabled ps2.config
    edges := ps2.edges ++ line ps2.config .keyboard }
  let read : Ps2 := { answered with output := none }
  have reads : (auxiliary.writeCommand 0x20).waitRead (pace 2) = answered := by
    have once : Ps2.step^[1] (auxiliary.writeCommand 0x20) = answered := by
      simp [Ps2.step, acceptCommand, writeCommand, put, auxiliary, answered, line, same,
        quiet.input, quiet.output]
    apply waitRead_answered once (step_full quiet.input rfl) (timely.one 2)
    intro earlier before
    obtain rfl : earlier = 0 := by omega
    exact quiet.output
  have readQuiet : Quiet read := ⟨quiet.input, rfl, quiet.outbox, quiet.keyboard⟩
  let addressed : Ps2 := { read with addressee := .config }
  have addresses : (read.writeCommand 0x60).waitWrite (pace 4) = addressed := by
    have addressedQuiet : Quiet addressed := ⟨quiet.input, rfl, quiet.outbox, quiet.keyboard⟩
    apply waitWrite_setting addressedQuiet _ (timely.one 4)
    simp [acceptCommand, writeCommand, read, answered, addressed, auxiliary, quiet.input]
  let written : Ps2 := { read with config := configured ps2.config, addressee := .keyboard }
  have writtenQuiet : Quiet written := ⟨quiet.input, rfl, quiet.outbox, quiet.keyboard⟩
  have writes : (addressed.writeData (configured ps2.config)).waitWrite (pace 5) = written := by
    apply waitWrite_taken rfl _ writtenQuiet.step (timely.one 5)
    simp [Ps2.step, acceptData, writeData, read, answered, addressed, auxiliary, written, quiet.input]
  have defaults : written.mouse.obey 0xF6 = ⟨false, ps2.mouse.commands ++ [0xF6], [0xFA]⟩ := by
    simp [Ps2Mouse.obey, written, read, answered, auxiliary, quiet.outbox]
  have first := mouse_answers writes writtenQuiet clock defaults (timely.one 6) (timely 7)
  let told : Ps2 := { written with
    addressee := .keyboard
    latch := 0xFA
    mouse := ⟨false, ps2.mouse.commands ++ [0xF6], []⟩
    edges := written.edges ++ line written.config .mouse }
  have toldQuiet : Quiet told := ⟨quiet.input, rfl, rfl, quiet.keyboard⟩
  have reports : told.mouse.obey 0xF4 = ⟨true, ps2.mouse.commands ++ [0xF6, 0xF4], [0xFA]⟩ := by
    simp [Ps2Mouse.obey, told]
  have second := mouse_answers (waitWrite_quiet toldQuiet (pace 8)) toldQuiet clock reports
    (timely.one 9) (timely 10)
  have raised : line (configured ps2.config) .mouse = [12] := if_pos interrupts
  have fetched : answered.readData = (enabled ps2.config, read) := rfl
  unfold initMouse
  simp only [opens, enables, reads, fetched, waitWrite_quiet readQuiet, addresses, final, first]
  change (0xFA, (mouseRead (mouseWrite told (pace 8) (pace 9) 0xF4) (pace 10))) = _
  rw [second]
  simp [handedOver, told, written, read, answered, auxiliary, raised, quiet.input, quiet.output]

/-- The controller as the firmware leaves it, with both interrupts off. -/
def firmware : Ps2 where
  config := 0x74
  input := none
  addressee := .keyboard
  output := none
  latch := 0
  mouse := ⟨false, [], []⟩
  keyboard := []
  edges := []

theorem firmware_quiet : Quiet firmware := ⟨rfl, rfl, rfl, rfl⟩

/-- A controller that takes its time only before the first look of each loop. -/
theorem steady_timely : Timely fun _ _ => 2 := fun _ => prompt_of_first (fun _ => 2) (Nat.le_refl 2)

theorem initMouse_firmware : firmware.initMouse (fun _ _ => 2) = (0xFA, 0xFA, firmware.handedOver) :=
  initMouse_handedOver firmware_quiet steady_timely

end Ps2

end QoreOS.Input
