import QoreOS.Storage.Controller

/-! `init` with a controller that keeps to the specification: it leaves driver
and controller in step. -/

namespace QoreOS.Storage

open QoreOS.Library

/-- The I/O queues between two calls, when the driver has counted `count` calls. -/
def ioPair (nvme : Nvme) (count : Nat) : QueuePair where
  submission := nvme.iosqPtr
  sqSize := 16
  sqHead := count % 16
  sqTail := count % 16
  completion := nvme.iocqPtr
  cqSize := 16
  cqHead := count % 16
  cqTail := count % 16
  phase := count / 16 % 2 == 0
  stage := .idle

/-- Driver and controller keep the same pace; only the phase tag is the
controller's own. -/
structure Serving (count : Nat) (nvme : Nvme) (machine : Machine Controller) : Prop where
  tail : nvme.iosqTail = count % 16
  head : nvme.iocqHead = count % 16
  submission : ∃ queue, machine.memory.commands.read nvme.iosqPtr = some queue ∧ queue.length = 16
  completion : ∃ queue, machine.memory.completions.read nvme.iocqPtr = some queue ∧
    queue.length = 16
  running : machine.device.Running
  alone : machine.device.Alone 1
  pair : machine.device.pairs 1 = some (ioPair nvme count)

/-- A controller as the firmware leaves it: it answers, and has no queues while
it is not ready. -/
structure Controller.Present (controller : Controller) : Prop where
  answers : controller.csts ≠ 0xFFFFFFFF
  reset : controller.csts &&& 1 = 0 →
    controller.completionQueue = none ∧ controller.pairs = fun _ => none

/-- The controller after it has been stopped. -/
def Controller.stopped (controller : Controller) (cc csts : UInt32) : Controller :=
  { controller with
    cc := cc
    csts := csts
    completionQueue := none
    pairs := fun _ => none }

theorem clear_bit (word : UInt32) : (word &&& ~~~1) &&& 1 = 0 := by
  have none_left : ~~~(1 : UInt32) &&& 1 = 0 := by decide
  rw [UInt32.and_assoc, none_left, UInt32.and_zero]

theorem set_bit (word : UInt32) : (word ||| 1) &&& 1 = 1 := by
  rw [← UInt32.toNat_inj, UInt32.toNat_and, UInt32.toNat_or]
  change (word.toNat ||| 1) &&& 1 = 1
  rw [Nat.and_or_distrib_right, Nat.and_one_is_mod]
  rcases Nat.mod_two_eq_zero_or_one word.toNat with even | odd
  · rw [even]; rfl
  · rw [odd]; rfl

namespace Controller

variable {controller : Controller} {memory : Memory} {pace : Nat → Nat} {bound : Nat}

theorem step_none (running : Running controller) (none_busy : controller.busyPair = none) :
    step ⟨controller, memory⟩ = ⟨controller, memory⟩ := by
  simp only [step, Running.eq_1 controller ▸ running, bne_self_eq_false, Bool.false_eq_true,
    if_false, none_busy]

/-- Clearing `CC.EN` stops the controller before the driver gives up. -/
theorem await_stopped (memory : Memory) (present : controller.Present) {cc : UInt32} (disabled : cc &&& 1 = 0)
    (prompt : Prompt bound 3 pace) :
    ∃ csts, csts &&& 1 = 0 ∧
      await step (fun machine => hardware.readReg machine.device 0x1C &&& 1 == 0) bound pace
        ⟨{ controller with cc := cc }, memory⟩ = (true, ⟨controller.stopped cc csts, memory⟩) := by
  have rest : ∀ csts : UInt32, csts &&& 1 = 0 →
      step ⟨controller.stopped cc csts, memory⟩ = ⟨controller.stopped cc csts, memory⟩ := by
    intro csts down
    apply step_none
    · exact down.trans disabled.symm
    · rfl
  by_cases ready : controller.csts &&& 1 = 0
  · obtain ⟨queue, pairs⟩ := present.reset ready
    have same : { controller with cc := cc } = controller.stopped cc controller.csts := by
      rw [stopped, ← queue, ← pairs]
    refine ⟨controller.csts, ready, ?_⟩
    have zero := Function.iterate_zero_apply step
      (⟨controller.stopped cc controller.csts, memory⟩ : Machine Controller)
    rw [same, await_settled (Nat.le_trans (Nat.zero_le 3) prompt) zero (rest _ ready)]
    · exact Prod.ext (beq_iff_eq.mpr ready) rfl
    · intro earlier before
      cases before
  · have down := clear_bit controller.csts
    refine ⟨controller.csts &&& ~~~1, down, ?_⟩
    have one : step^[1] ⟨{ controller with cc := cc }, memory⟩ =
        ⟨controller.stopped cc (controller.csts &&& ~~~1), memory⟩ := by
      have changes : (controller.csts &&& 1 != cc &&& 1) = true := by
        rw [disabled]
        exact bne_iff_ne.mpr ready
      rw [Function.iterate_one, step, if_pos changes, follow, if_pos disabled, stopped]
    rw [await_settled (Nat.le_trans (by decide : 1 ≤ 3) prompt) one (rest _ down)]
    · exact Prod.ext (beq_iff_eq.mpr down) rfl
    · intro earlier before
      obtain rfl : earlier = 0 := by omega
      exact beq_eq_false_iff_ne.mpr ready

/-- The controller after it has come up with its admin queues. -/
def started (controller : Controller) : Controller :=
  { controller with
    csts := controller.csts ||| 1
    pairs := Function.update controller.pairs 0 (some (QueuePair.create
      controller.asq ((controller.aqa &&& 0xFFF).toNat + 1)
      controller.acq ((controller.aqa >>> 16 &&& 0xFFF).toNat + 1))) }

theorem started_pair (controller : Controller) : controller.started.pairs 0 =
    some (QueuePair.create controller.asq ((controller.aqa &&& 0xFFF).toNat + 1)
      controller.acq ((controller.aqa >>> 16 &&& 0xFFF).toNat + 1)) := by
  simp only [started, Function.update_self]

theorem started_other {other : Nat} (apart : other ≠ 0) :
    controller.started.pairs other = controller.pairs other := Function.update_of_ne apart ..

theorem await_started (memory : Memory) (down : controller.csts &&& 1 = 0) (enabled : controller.cc &&& 1 = 1)
    (empty : controller.pairs = fun _ => none) (prompt : Prompt bound 3 pace) :
    await step (fun machine => hardware.readReg machine.device 0x1C &&& 1 != 0) bound pace
      ⟨controller, memory⟩ = (true, ⟨controller.started, memory⟩) := by
  have up : controller.started.csts &&& 1 = 1 := set_bit controller.csts
  have one : step^[1] ⟨controller, memory⟩ = ⟨controller.started, memory⟩ := by
    have changes : (controller.csts &&& 1 != controller.cc &&& 1) = true := by
      rw [down, enabled]
      rfl
    have nonzero : ¬ controller.cc &&& 1 = 0 := by
      rw [enabled]
      decide
    rw [Function.iterate_one, step, if_pos changes, follow, if_neg nonzero, started]
  have rest : step ⟨controller.started, memory⟩ = ⟨controller.started, memory⟩ := by
    apply step_none
    · exact up.trans enabled.symm
    · rw [busyPair, started, empty]
      rfl
  rw [await_settled (Nat.le_trans (by decide : 1 ≤ 3) prompt) one rest]
  · have nonzero : controller.started.csts &&& 1 ≠ 0 := by
      rw [up]
      decide
    exact Prod.ext (bne_iff_ne.mpr nonzero) rfl
  · intro earlier before
    obtain rfl : earlier = 0 := by omega
    exact bne_eq_false_iff_eq.mpr down

end Controller

/-- The admin queues after `slot` commands, before they wrap. -/
def adminPair (nvme : Nvme) (slot : Nat) : QueuePair where
  submission := nvme.asqPtr
  sqSize := 16
  sqHead := slot
  sqTail := slot
  completion := nvme.acqPtr
  cqSize := 16
  cqHead := slot
  cqTail := slot
  phase := true
  stage := .idle

/-- The admin queues are in step, and the entries still to come are clear. -/
structure Commanding (slot : Nat) (nvme : Nvme) (machine : Machine Controller) : Prop where
  submission : ∃ queue, machine.memory.commands.read nvme.asqPtr = some queue ∧ queue.length = 16
  completion : ∃ queue, machine.memory.completions.read nvme.acqPtr = some queue ∧
    queue.length = 16 ∧ ∀ index entry, slot ≤ index → queue[index]? = some entry →
      entry.status &&& 0x01 = 0
  running : machine.device.Running
  alone : machine.device.Alone 0
  pair : machine.device.pairs 0 = some (adminPair nvme slot)

/-- What an admin command leaves behind, besides the admin queues. -/
structure Commanded (nvme : Nvme) (machine : Machine Controller) (effect : Controller)
    (next : Machine Controller) : Prop where
  completionQueue : next.device.completionQueue = effect.completionQueue
  pair : next.device.pairs 1 = effect.pairs 1
  blocks : next.device.blocks = effect.blocks
  commands : ∀ pointer, pointer ≠ nvme.asqPtr →
    next.memory.commands.read pointer = machine.memory.commands.read pointer
  completions : ∀ pointer, pointer ≠ nvme.acqPtr →
    next.memory.completions.read pointer = machine.memory.completions.read pointer

/-- The admin queues with a command behind the doorbell. -/
def waitingAdmin (nvme : Nvme) (slot : Nat) : QueuePair :=
  { adminPair nvme slot with sqTail := slot + 1 }

theorem Commanding.rung {slot : Nat} {nvme : Nvme} {machine : Machine Controller}
    (commanding : Commanding slot nvme machine) (memory : Memory) :
    Controller.hardware.write ⟨machine.device, memory⟩ 0x1000 (slot + 1) =
      ⟨machine.device.setPair 0 (waitingAdmin nvme slot), memory⟩ := by
  change (⟨machine.device.ring 0 _, memory⟩ : Machine Controller) = _
  rw [Controller.ring_eq commanding.pair]
  rfl

/-- The controller has yet to fetch the command in the slot. -/
theorem Commanding.pending {slot : Nat} {nvme : Nvme} {machine : Machine Controller}
    {command : NvmeCmd} {effect : Controller} {memory : Memory} {sq : List NvmeCmd}
    (commanding : Commanding slot nvme machine) (small : slot < 15)
    (executes : ∀ other, (machine.device.setPair 0 other).executeAdmin command =
      (0, effect.setPair 0 other))
    (steady : effect.Running) (alone : effect.Alone 0)
    (submission : memory.commands.read nvme.asqPtr = some sq) (found : sq[slot]? = some command) :
    Controller.Pending (machine.device.setPair 0 (waitingAdmin nvme slot)) memory 0
      (waitingAdmin nvme slot) command 0 effect memory where
  running := commanding.running
  alone := commanding.alone.setPair _
  small := by decide
  found := Controller.setPair_pairs ..
  idle := rfl
  waiting := Nat.ne_of_lt (Nat.lt_succ_self slot)
  single := Nat.mod_eq_of_lt (Nat.succ_lt_succ small)
  room := by
    change (slot + 1) % 16 ≠ slot
    omega
  read := by
    change memory.command nvme.asqPtr slot = some command
    rw [Memory.command_of_read submission]
    exact found
  executes := by
    intro other
    rw [Controller.execute, if_pos rfl, Controller.setPair_twice, executes]
  steady := steady
  aloneAfter := alone
  quiet := rfl

/-- An admin command which the controller carries out. -/
theorem Nvme.adminCommand_commanding {slot : Nat} {nvme : Nvme} {machine : Machine Controller}
    {pace : Nat → Nat} {command : NvmeCmd} {effect : Controller}
    (commanding : Commanding slot nvme machine) (small : slot < 15)
    (prompt : Prompt 10000000 3 pace)
    (executes : ∀ other, (machine.device.setPair 0 other).executeAdmin command =
      (0, effect.setPair 0 other))
    (steady : effect.Running) (alone : effect.Alone 0) :
    ∃ next, nvme.adminCommand Controller.hardware pace machine slot command = some next ∧
      Commanding (slot + 1) nvme next ∧ Commanded nvme machine effect next := by
  obtain ⟨sq, submission, sqLength⟩ := commanding.submission
  obtain ⟨cq, completion, cqLength, clear⟩ := commanding.completion
  have sqInside : slot < sq.length := by omega
  have cqInside : slot < cq.length := by omega
  have next_slot : (slot + 1) % 16 = slot + 1 := Nat.mod_eq_of_lt (by omega)
  obtain ⟨old, present⟩ : ∃ old, cq[slot]? = some old := ⟨_, List.getElem?_eq_getElem cqInside⟩
  let memory : Memory := { machine.memory with
    commands := machine.memory.commands.write nvme.asqPtr (sq.set slot command) }
  have written : memory.commands.read nvme.asqPtr = some (sq.set slot command) :=
    Heap.read_write submission _
  have pending := commanding.pending small executes steady alone written
    (List.getElem?_set_self sqInside)
  have awaited := Controller.await_command prompt pending completion present
    (clear slot old (Nat.le_refl slot) present)
  let waiting := waitingAdmin nvme slot
  let entry := waiting.taken.report 0 command 0
  let rest := effect.served 0 waiting.taken command 0
  let posted : Memory := { memory with
    completions := machine.memory.completions.write nvme.acqPtr (cq.set slot entry) }
  have looped : await Controller.hardware.step (Machine.completed nvme.acqPtr slot) 10000000 pace
      (Controller.hardware.write ⟨machine.device, memory⟩ 0x1000 (slot + 1)) =
        (true, ⟨rest, posted⟩) := by
    rw [commanding.rung]
    exact awaited
  let final : QueuePair := { waiting.taken.posted with cqHead := slot + 1 }
  have acknowledged : Controller.hardware.write ⟨rest, posted⟩ 0x1004 (slot + 1) =
      ⟨rest.setPair 0 final, posted⟩ := by
    change (⟨rest.ring 0 _, posted⟩ : Machine Controller) = _
    rw [Controller.ring_eq (Controller.served_pairs ..)]
  have called := adminCommand_eq submission sqInside completion cqInside looped
  rw [acknowledged] at called
  refine ⟨_, called, ⟨?_, ?_, steady, ?_, ?_⟩, ⟨rfl, ?_, rfl, ?_, ?_⟩⟩
  · exact ⟨_, written, by rw [List.length_set, sqLength]⟩
  · refine ⟨_, Heap.read_write completion _, by rw [List.length_set, cqLength], ?_⟩
    intro index other later found
    rw [List.getElem?_set_ne (by omega)] at found
    exact clear index other (by omega) found
  · exact (alone.served waiting.taken command 0).setPair final
  · refine (Controller.setPair_pairs ..).trans (congrArg some ?_)
    have phase : (if slot + 1 = 16 then !true else true) = true := if_neg (by omega)
    exact congrArg₂ (fun cqTail phase => QueuePair.mk nvme.asqPtr 16 (slot + 1) (slot + 1)
      nvme.acqPtr 16 (slot + 1) cqTail phase .idle) next_slot phase
  · exact (Controller.setPair_other Nat.one_ne_zero).trans (Controller.served_other Nat.one_ne_zero)
  · intro pointer apart
    exact Heap.read_write_of_ne (Ne.symm apart) _
  · intro pointer apart
    exact Heap.read_write_of_ne (Ne.symm apart) _

/-- The four allocations are fresh and apart from each other. -/
structure Allocated (nvme : Nvme) (memory : Memory) : Prop where
  asq : memory.commands.read nvme.asqPtr = some (List.replicate 16 NvmeCmd.zeroed)
  acq : memory.completions.read nvme.acqPtr = some (List.replicate 16 NvmeCompletion.zeroed)
  iosq : memory.commands.read nvme.iosqPtr = some (List.replicate 16 NvmeCmd.zeroed)
  iocq : memory.completions.read nvme.iocqPtr = some (List.replicate 16 NvmeCompletion.zeroed)
  commands : nvme.iosqPtr ≠ nvme.asqPtr
  completions : nvme.iocqPtr ≠ nvme.acqPtr

theorem Nvme.allocQueues_allocated (nvme : Nvme) (memory : Memory) :
    Allocated (nvme.allocQueues memory).1 (nvme.allocQueues memory).2 where
  asq := Heap.read_alloc_old (Heap.read_alloc ..) _
  acq := Heap.read_alloc_old (Heap.read_alloc ..) _
  iosq := Heap.read_alloc ..
  iocq := Heap.read_alloc ..
  commands := by
    change (memory.commands ++ [_]).length + 1 ≠ memory.commands.length + 1
    rw [List.length_append, List.length_singleton]
    omega
  completions := by
    change (memory.completions ++ [_]).length + 1 ≠ memory.completions.length + 1
    rw [List.length_append, List.length_singleton]
    omega

/-- Both admin commands of `init` are about queue 1 and its 16 entries. -/
theorem create_fields : ((15 : UInt32) <<< 16 ||| 1) &&& 0xFFFF = 1 ∧
    (((15 : UInt32) <<< 16 ||| 1) >>> 16).toNat + 1 = 16 ∧
    ((0x05 : UInt32) ||| (1 : UInt32) <<< 16) &&& 0xFF = 0x05 ∧
    ((0x01 : UInt32) ||| (2 : UInt32) <<< 16) &&& 0xFF = 0x01 := by decide

theorem executeAdmin_completionQueue (controller : Controller) (nvme : Nvme) (other : QueuePair) :
    (controller.setPair 0 other).executeAdmin nvme.createCompletionQueue =
      (0, { controller with completionQueue := some (nvme.iocqPtr, 16) }.setPair 0 other) := by
  obtain ⟨qid, size, opcode, -⟩ := create_fields
  simp only [Controller.executeAdmin, Nvme.createCompletionQueue, qid, size, opcode,
    bne_self_eq_false, Bool.false_eq_true, if_false, if_true]
  rfl

theorem executeAdmin_submissionQueue (controller : Controller) (nvme : Nvme) (other : QueuePair)
    (created : controller.completionQueue = some (nvme.iocqPtr, 16)) :
    (controller.setPair 0 other).executeAdmin nvme.createSubmissionQueue =
      (0, (controller.setPair 1 (QueuePair.create nvme.iosqPtr 16 nvme.iocqPtr 16)).setPair 0 other) := by
  obtain ⟨qid, size, -, opcode⟩ := create_fields
  have found : (controller.setPair 0 other).completionQueue = some (nvme.iocqPtr, 16) := created
  change controller.completionQueue = _ at found
  simp only [Controller.executeAdmin, Nvme.createSubmissionQueue, qid, size, opcode, found,
    bne_self_eq_false, Bool.false_eq_true, if_false, if_true, Controller.setPair,
    Function.update_comm (show (0 : Nat) ≠ 1 by decide)]
  rfl

theorem Controller.alone_of_only {controller : Controller} {qid : Nat}
    (only : ∀ other, other ≠ qid → controller.pairs other = none) : controller.Alone qid := by
  intro other pair apart found
  rw [only other apart] at found
  cases found

/-- The configuration enables the controller and gives the admin queues 16
entries each. -/
theorem enable_fields : UInt32.ofNat (1 <<< 0 ||| 6 <<< 16 ||| 4 <<< 20) &&& 1 = 1 ∧
    (UInt32.ofNat ((Nvme.numEntries - 1) <<< 16 ||| (Nvme.numEntries - 1)) &&& 0xFFF).toNat + 1 =
      16 ∧
    (UInt32.ofNat ((Nvme.numEntries - 1) <<< 16 ||| (Nvme.numEntries - 1)) >>> 16 &&& 0xFFF).toNat +
      1 = 16 := by decide

/-- The way of an `init` none of whose loops gives up. -/
def Nvme.Initialises {State : Type} (nvme ready : Nvme) (hardware : Hardware State)
    (pace : Nat → Nat → Nat) (machine second : Machine State) : Prop :=
  ∃ queues stopped started first, hardware.readReg machine.device 0x1C ≠ 0xFFFFFFFF ∧
    await hardware.step (fun machine => hardware.readReg machine.device 0x1C &&& 1 == 0) 10000000
      (pace 0) (hardware.write machine 0x14
        (hardware.readReg machine.device 0x14 &&& ~~~1).toNat) = (true, stopped) ∧
    nvme.allocQueues stopped.memory = (ready, queues) ∧
    await hardware.step (fun machine => hardware.readReg machine.device 0x1C &&& 1 != 0) 10000000
      (pace 1) (configured hardware ready ⟨stopped.device, queues⟩) = (true, started) ∧
    ready.adminCommand hardware (pace 2) started 0 ready.createCompletionQueue = some first ∧
    ready.adminCommand hardware (pace 3) first 1 ready.createSubmissionQueue = some second

theorem Nvme.Initialises.init {State : Type} {nvme ready : Nvme} {hardware : Hardware State}
    {pace : Nat → Nat → Nat} {machine second : Machine State}
    (initialises : nvme.Initialises ready hardware pace machine second) :
    nvme.init hardware pace machine = some (ready, second) := by
  obtain ⟨queues, stopped, started, first, answers, stops, allocates, starts, creates, submits⟩ :=
    initialises
  exact init_eq answers stops allocates starts creates submits

/-- `init` brings up both pairs of queues, apart from each other. -/
theorem Nvme.init_commanding {controller : Controller} (present : controller.Present)
    (memory : Memory) (bar0 : Nat) {pace : Nat → Nat → Nat}
    (prompt : ∀ loop, Prompt 10000000 3 (pace loop)) :
    ∃ nvme machine,
      (Nvme.new bar0).Initialises nvme Controller.hardware pace ⟨controller, memory⟩ machine ∧
      Commanding 2 nvme machine ∧ nvme.iosqPtr ≠ nvme.asqPtr ∧ nvme.iocqPtr ≠ nvme.acqPtr ∧
      Serving 0 nvme machine ∧ machine.device.blocks = controller.blocks := by
  let cc := controller.cc &&& ~~~1
  obtain ⟨csts, down, stopping⟩ := Controller.await_stopped memory present
    (clear_bit controller.cc) (prompt 0)
  have disabled : Controller.hardware.write ⟨controller, memory⟩ 0x14
      (Controller.hardware.readReg controller 0x14 &&& ~~~1).toNat =
        ⟨{ controller with cc := cc }, memory⟩ := by
    change (⟨{ controller with cc := UInt32.ofNat cc.toNat }, memory⟩ : Machine Controller) = _
    rw [UInt32.ofNat_toNat]
  obtain ⟨nvme, queues, allocates⟩ : ∃ nvme queues,
      (Nvme.new bar0).allocQueues memory = (nvme, queues) := ⟨_, _, rfl⟩
  have allocated := (Nvme.new bar0).allocQueues_allocated memory
  rw [allocates] at allocated
  have tail : nvme.iosqTail = 0 := congrArg (fun result => result.1.iosqTail) allocates.symm
  have head : nvme.iocqHead = 0 := congrArg (fun result => result.1.iocqHead) allocates.symm
  let enabled : Controller := { controller.stopped cc csts with
    aqa := UInt32.ofNat ((numEntries - 1) <<< 16 ||| (numEntries - 1))
    asq := nvme.asqPtr
    acq := nvme.acqPtr
    cc := UInt32.ofNat (1 <<< 0 ||| 6 <<< 16 ||| 4 <<< 20) }
  obtain ⟨on, sqSize, cqSize⟩ := enable_fields
  have starting := enabled.await_started queues down on rfl (prompt 1)
  have pair : enabled.started.pairs 0 = some (adminPair nvme 0) := by
    rw [Controller.started_pair, sqSize, cqSize]
    rfl
  have commanding : Commanding 0 nvme ⟨enabled.started, queues⟩ := by
    refine ⟨⟨_, allocated.asq, List.length_replicate⟩, ⟨_, allocated.acq, List.length_replicate, ?_⟩,
      ?_, ?_, pair⟩
    · intro index entry _ found
      obtain rfl := List.eq_of_mem_replicate (List.mem_of_getElem? found)
      decide
    · exact (set_bit csts).trans on.symm
    · apply Controller.alone_of_only
      intro other apart
      exact Controller.started_other apart
  obtain ⟨first, created, commanding, left⟩ := adminCommand_commanding commanding (by decide)
    (prompt 2) (executeAdmin_completionQueue enabled.started nvme) commanding.running
    commanding.alone
  obtain ⟨second, submitted, ready, kept⟩ := adminCommand_commanding commanding (by decide)
    (prompt 3) (fun other => executeAdmin_submissionQueue first.device nvme other left.completionQueue)
    commanding.running (commanding.alone.setIdle rfl)
  have served : second.device.pairs 1 = some (ioPair nvme 0) := by
    rw [kept.pair]
    exact Controller.setPair_pairs ..
  refine ⟨nvme, second, ?_, ready, allocated.commands, allocated.completions,
    ⟨tail, head, ?_, ?_, ready.running, ?_, served⟩, ?_⟩
  · have stops := disabled.symm ▸ stopping
    exact ⟨_, _, _, _, present.answers, stops, allocates, starting, created, submitted⟩
  · refine ⟨List.replicate 16 NvmeCmd.zeroed, ?_, by rw [List.length_replicate]⟩
    rw [kept.commands _ allocated.commands, left.commands _ allocated.commands]
    exact allocated.iosq
  · refine ⟨List.replicate 16 NvmeCompletion.zeroed, ?_, by rw [List.length_replicate]⟩
    rw [kept.completions _ allocated.completions, left.completions _ allocated.completions]
    exact allocated.iocq
  · intro other idle _ found
    by_cases admin : other = 0
    · subst admin
      rw [ready.pair, Option.some.injEq] at found
      subst found
      simp [QueuePair.busy, adminPair]
    · exact ready.alone other idle admin found
  · rw [kept.blocks]
    exact left.blocks

/-- After `init` driver and controller are in step, and the I/O queues are empty. -/
theorem Nvme.init_serving {controller : Controller} (present : controller.Present)
    (memory : Memory) (bar0 : Nat) {pace : Nat → Nat → Nat}
    (prompt : ∀ loop, Prompt 10000000 3 (pace loop)) :
    ∃ nvme machine, (Nvme.new bar0).init Controller.hardware pace ⟨controller, memory⟩ =
        some (nvme, machine) ∧
      Serving 0 nvme machine ∧ machine.device.blocks = controller.blocks := by
  obtain ⟨nvme, machine, initialises, -, -, -, serving, blocks⟩ :=
    Nvme.init_commanding present memory bar0 prompt
  exact ⟨nvme, machine, initialises.init, serving, blocks⟩

end QoreOS.Storage
