import QoreOS.Storage.Completion

/-! `identify_controller`, and a controller that says who it is. -/

namespace QoreOS.Storage

open QoreOS.Library

/-- `b >= 32 && b <= 126` -/
def isPrintable (byte : UInt8) : Bool := 32 ≤ byte && byte ≤ 126

theorem utf8EncodeChar_ascii {byte : UInt8} (ascii : byte.toNat < 128) :
    String.utf8EncodeChar (Char.ofNat byte.toNat) = [byte] := by
  have every : ∀ code : Fin 128,
      String.utf8EncodeChar (Char.ofNat code) = [UInt8.ofNat code] := by decide +kernel
  rw [every ⟨byte.toNat, ascii⟩, UInt8.ofNat_toNat]

/-- ASCII bytes are the text of their codes. -/
theorem fromUtf8_ascii {bytes : List UInt8} (ascii : ∀ byte ∈ bytes, byte.toNat < 128) :
    fromUtf8 bytes = some (String.ofList (bytes.map fun byte => Char.ofNat byte.toNat)) := by
  have codes : (bytes.map fun byte => Char.ofNat byte.toNat).flatMap String.utf8EncodeChar =
      bytes := by
    induction bytes with
    | nil => rfl
    | cons byte bytes ih =>
      rw [List.map_cons, List.flatMap_cons, utf8EncodeChar_ascii (ascii byte (by simp)),
        ih fun other member => ascii other (by simp [member]), List.singleton_append]
  have encoded : (String.ofList (bytes.map fun byte => Char.ofNat byte.toNat)).toByteArray =
      ⟨bytes.toArray⟩ := by
    rw [String.toByteArray_ofList, List.utf8Encode, codes]
    exact ByteArray.ext List.data_toByteArray
  unfold fromUtf8 String.fromUTF8?
  rw [dif_pos (encoded ▸ String.isValidUTF8 _), Option.some.injEq]
  exact String.toByteArray_inj.mp encoded.symm

namespace Nvme

/-- The command in slot 2 of the admin queue. -/
def identifyCommand (dataPtr : Nat) : NvmeCmd :=
  { NvmeCmd.zeroed with
    cdw0 := (0x06 : UInt32) ||| (0xAA : UInt32) <<< 16
    prp1 := dataPtr
    cdw10 := 1 }

/-- The printable bytes of a field of the identification page. -/
def printableField (data : List UInt8) (start length : Nat) : Option (List UInt8) := do
  let field ← slice data start (start + length)
  some (field.filter isPrintable)

/-- What is printed about the controller, if both fields are texts. -/
def identification (modelBytes serialBytes : List UInt8) : List (String × UInt32) :=
  match fromUtf8 modelBytes, fromUtf8 serialBytes with
  | some modelStr, some serialStr =>
    [("\n> SILICON IDENTIFIED -> ", 0x3B82F6), (modelStr, 0x10B981), (" (SN: ", 0x3B82F6),
      (serialStr, 0x10B981), (")\n", 0x3B82F6)]
  | _, _ => []

variable {State : Type}

def identifyController (nvme : Nvme) (hardware : Hardware State) (pace : Nat → Nat)
    (machine : Machine State) : Option (List (String × UInt32) × Machine State) := do
  let (dataPtr, pages) := machine.memory.pages.alloc (List.replicate 4096 0)
  let memory ← { machine.memory with pages := pages }.setCommand nvme.asqPtr 2
    (identifyCommand dataPtr)
  let machine := hardware.write { device := machine.device, memory := memory } 0x1000 3
  let _ ← machine.memory.completion nvme.acqPtr 2
  let (seen, machine) := await hardware.step (Machine.completed nvme.acqPtr 2) 10000000 pace machine
  if seen = false then return ([], machine)
  let data ← machine.memory.pages.read dataPtr
  let modelBytes ← printableField data 24 40
  let serialBytes ← printableField data 4 20
  some (identification modelBytes serialBytes, hardware.write machine 0x1004 3)

end Nvme

namespace Controller

/-- The controller is about to carry out an Identify command for itself. -/
def identifies (machine : Machine Controller) : Option (QueuePair × NvmeCmd) := do
  let pair ← machine.device.pairs 0
  match pair.stage with
  | .fetched command =>
    if machine.device.csts &&& 1 = machine.device.cc &&& 1 ∧ command.cdw0 &&& 0xFF = 0x06 ∧
        command.cdw10 &&& 0xFF = 1 then some (pair, command)
    else none
  | _ => none

/-- A controller that also serves Identify: it fills the page of the command. -/
def identifyingStep (identity : Vector UInt8 4096) (machine : Machine Controller) :
    Machine Controller :=
  match identifies machine with
  | some (pair, command) =>
    { device := machine.device.setPair 0 { pair with stage := .executed command 0 }
      memory := { machine.memory with
        pages := machine.memory.pages.write command.prp1 identity.toList } }
  | none => step machine

def identifying (identity : Vector UInt8 4096) : Hardware Controller :=
  { hardware with step := identifyingStep identity }

variable {identity : Vector UInt8 4096} {machine : Machine Controller}

theorem identifyingStep_none (quiet : identifies machine = none) :
    identifyingStep identity machine = step machine := by
  rw [identifyingStep, quiet]

/-- The admin queues have nothing to do. -/
structure AdminIdle (machine : Machine Controller) : Prop where
  running : machine.device.Running
  idle : ∀ pair, machine.device.pairs 0 = some pair → pair.busy = false

theorem AdminIdle.identifies (rests : AdminIdle machine) : identifies machine = none := by
  unfold Controller.identifies
  cases found : machine.device.pairs 0 with
  | none => rfl
  | some pair =>
    have idle := rests.idle pair found
    rw [Option.bind_eq_bind, Option.bind_some]
    split
    case h_1 command fetched =>
      rw [QueuePair.busy, fetched] at idle
      cases idle
    case h_2 => rfl

theorem busyPair_some {controller : Controller} {qid : Nat} {pair : QueuePair}
    (busy : controller.busyPair = some (qid, pair)) :
    (qid = 0 ∨ qid = 1) ∧ controller.pairs qid = some pair ∧ pair.busy = true := by
  obtain ⟨other, member, chosen⟩ := List.exists_of_findSome?_eq_some busy
  rw [Option.bind_eq_bind, Option.bind_eq_some_iff] at chosen
  obtain ⟨found, present, chosen⟩ := chosen
  split at chosen
  case isTrue works =>
    cases chosen
    exact ⟨by simpa using member, present, works⟩
  case isFalse => cases chosen

/-- What a step of the work on a pair can do. -/
theorem serve_cases {qid : Nat} {pair : QueuePair} {after : Machine Controller}
    (served : serve machine qid pair = some after) :
    (∃ command, machine.memory.command pair.submission pair.sqHead = some command ∧
      pair.stage = .idle ∧ after = ⟨machine.device.setPair qid
        { pair with sqHead := (pair.sqHead + 1) % pair.sqSize, stage := .fetched command },
        machine.memory⟩) ∨
    (∃ command statusCode, pair.stage = .fetched command ∧
      (machine.device.execute qid command machine.memory).1 = statusCode ∧
      after = ⟨(machine.device.execute qid command machine.memory).2.device.setPair qid
        { pair with stage := .executed command statusCode },
        (machine.device.execute qid command machine.memory).2.memory⟩) ∨
    (∃ log completions, after = ⟨{ machine.device.setPair qid pair.posted with log := log },
      { machine.memory with completions := completions }⟩) := by
  unfold serve at served
  split at served
  case h_1 idle =>
    simp only [QueuePair.fetch, Option.bind_eq_bind, Option.bind_eq_some_iff,
      Option.some.injEq] at served
    obtain ⟨fetched, ⟨command, read, rfl⟩, rfl⟩ := served
    exact .inl ⟨command, read, idle, rfl⟩
  case h_2 command fetched =>
    cases served
    exact .inr (.inl ⟨command, _, fetched, rfl, rfl⟩)
  case h_3 command statusCode executed =>
    split at served
    · cases served
    · simp only [Memory.setCompletion, Option.bind_eq_bind, Option.bind_eq_some_iff,
        Option.some.injEq] at served
      obtain ⟨memory, ⟨queue, read, written⟩, rfl⟩ := served
      split at written
      · cases written
        exact .inr (.inr ⟨_, _, rfl⟩)
      · cases written

/-- Work on the I/O queues leaves the admin queues alone. -/
theorem AdminIdle.step (rests : AdminIdle machine) : AdminIdle (step machine) := by
  unfold Controller.step
  rw [if_neg (by rw [rests.running]; simp)]
  cases busy : machine.device.busyPair with
  | none => exact rests
  | some work =>
    obtain ⟨qid, pair⟩ := work
    obtain ⟨rfl | rfl, found, works⟩ := busyPair_some busy
    · rw [rests.idle pair found] at works
      cases works
    · change AdminIdle ((serve machine 1 pair).getD machine)
      cases served : serve machine 1 pair with
      | none => exact rests
      | some after =>
        rw [Option.getD_some]
        rcases serve_cases served with ⟨command, -, -, rfl⟩ | ⟨command, statusCode, -, -, rfl⟩ |
            ⟨log, completions, rfl⟩
        · exact ⟨rests.running, rests.idle⟩
        · exact ⟨rests.running, rests.idle⟩
        · exact ⟨rests.running, rests.idle⟩

/-- No Identify command is in sight: none has been fetched, and none is in any queue. -/
structure Unasked (machine : Machine Controller) : Prop where
  stage : machine.device.Running → ∀ pair command, machine.device.pairs 0 = some pair →
    pair.stage = .fetched command → command.cdw0 &&& 0xFF ≠ 0x06
  commands : ∀ pointer index command, machine.memory.command pointer index = some command →
    command.cdw0 &&& 0xFF ≠ 0x06

theorem Unasked.identifies (unasked : Unasked machine) : identifies machine = none := by
  unfold Controller.identifies
  cases found : machine.device.pairs 0 with
  | none => rfl
  | some pair =>
    rw [Option.bind_eq_bind, Option.bind_some]
    split
    case h_1 command fetched =>
      exact if_neg fun asked => unasked.stage asked.1 pair command found fetched asked.2.1
    case h_2 => rfl

theorem execute_commands (controller : Controller) (qid : Nat) (command : NvmeCmd)
    (memory : Memory) :
    (controller.execute qid command memory).2.memory.commands = memory.commands := by
  unfold execute executeIo
  split
  · rfl
  · dsimp only
    repeat' split
    all_goals rfl

/-- A step on one pair of queues changes no other pair, unless it is an admin command. -/
theorem Unasked.setPair (unasked : Unasked machine) {qid : Nat} {pair : QueuePair}
    {log : List (NvmeCmd × NvmeCompletion)} {memory : Memory}
    (commands : memory.commands = machine.memory.commands)
    (stage : ∀ command, pair.stage = .fetched command → command.cdw0 &&& 0xFF ≠ 0x06) :
    Unasked ⟨{ machine.device.setPair qid pair with log := log }, memory⟩ := by
  refine ⟨?_, ?_⟩
  · intro running other command present fetched
    by_cases admin : qid = 0
    · subst admin
      obtain rfl : pair = other :=
        Option.some.inj ((setPair_pairs machine.device 0 pair).symm.trans present)
      exact stage command fetched
    · exact unasked.stage running other command
        ((setPair_other (Ne.symm admin)).symm.trans present) fetched
  · intro pointer index command found
    rw [Memory.command, commands] at found
    exact unasked.commands pointer index command found

theorem Unasked.step (unasked : Unasked machine) : Unasked (step machine) := by
  unfold Controller.step
  split
  case isTrue changes =>
    refine ⟨?_, unasked.commands⟩
    intro _ pair command found fetched
    simp only [follow] at found
    split at found
    · cases found
    · simp only [Function.update_self, Option.some.injEq] at found
      rw [← found] at fetched
      cases fetched
  case isFalse steady =>
    have running : machine.device.Running := by simpa [Running] using steady
    cases busy : machine.device.busyPair with
    | none => exact unasked
    | some work =>
      obtain ⟨qid, pair⟩ := work
      obtain ⟨small, found, -⟩ := busyPair_some busy
      change Unasked ((serve machine qid pair).getD machine)
      cases served : serve machine qid pair with
      | none => exact unasked
      | some after =>
        rw [Option.getD_some]
        rcases serve_cases served with ⟨command, read, -, rfl⟩ |
            ⟨command, statusCode, -, -, rfl⟩ | ⟨log, completions, rfl⟩
        · refine unasked.setPair rfl ?_
          rintro other ⟨⟩
          exact unasked.commands _ _ command read
        · have commands := execute_commands machine.device qid command machine.memory
          rcases small with rfl | rfl
          · refine ⟨?_, ?_⟩
            · intro _ other asked present stage
              obtain rfl := Option.some.inj ((setPair_pairs ..).symm.trans present)
              cases stage
            · intro pointer index asked present
              rw [Memory.command, commands] at present
              exact unasked.commands pointer index asked present
          · refine unasked.setPair commands ?_
            rintro other ⟨⟩
        · refine unasked.setPair rfl ?_
          rintro other ⟨⟩

theorem await_identifying (identity : Vector UInt8 4096) (test : Machine Controller → Bool)
    (bound : Nat) (pace : Nat → Nat) (unasked : Unasked machine) :
    await (identifying identity).step test bound pace machine =
        await hardware.step test bound pace machine ∧
      Unasked (await hardware.step test bound pace machine).2 :=
  ⟨await_agrees (fun _ holds => identifyingStep_none holds.identifies) (fun _ holds => holds.step)
    bound pace unasked, await_keeps (fun _ holds => Unasked.step holds) bound pace unasked⟩

/-- The doorbells are no part of what the controller has fetched. -/
theorem Unasked.ring (unasked : Unasked machine) {qid : Nat} {doorbell : QueuePair → QueuePair}
    (same : ∀ pair, (doorbell pair).stage = pair.stage) :
    Unasked ⟨machine.device.ring qid doorbell, machine.memory⟩ := by
  refine ⟨?_, unasked.commands⟩
  intro running pair command present fetched
  by_cases admin : qid = 0
  · subst admin
    simp only [Controller.ring, Function.update_self, Option.map_eq_some_iff] at present
    obtain ⟨old, found, rfl⟩ := present
    exact unasked.stage running old command found ((same old).symm.trans fetched)
  · simp only [Controller.ring, Function.update_of_ne (Ne.symm admin)] at present
    exact unasked.stage running pair command present fetched

theorem Unasked.setCommand (unasked : Unasked machine) {pointer index : Nat} {command : NvmeCmd}
    (other : command.cdw0 &&& 0xFF ≠ 0x06) {memory : Memory}
    (written : machine.memory.setCommand pointer index command = some memory) :
    Unasked ⟨machine.device, memory⟩ := by
  simp only [Memory.setCommand, Option.bind_eq_bind, Option.bind_eq_some_iff,
    Option.ite_none_right_eq_some, Option.some.injEq] at written
  obtain ⟨queue, read, inside, rfl⟩ := written
  refine ⟨unasked.stage, ?_⟩
  intro found place asked present
  by_cases same : pointer = found
  · subst same
    rw [Memory.command_of_read (Heap.read_write read _), List.getElem?_set] at present
    by_cases hit : index = place
    · rw [if_pos hit, if_pos (hit ▸ inside), Option.some.injEq] at present
      rw [← present]
      exact other
    · rw [if_neg hit] at present
      exact unasked.commands pointer place asked ((Memory.command_of_read read).trans present)
  · rw [Memory.command, Heap.read_write_of_ne same] at present
    exact unasked.commands found place asked present

variable {nvme : Nvme} {pace : Nat → Nat}

@[simp] theorem identifying_write : (identifying identity).write = hardware.write := rfl

@[simp] theorem identifying_readReg : (identifying identity).readReg = hardware.readReg := rfl

theorem adminCommand_identifying (identity : Vector UInt8 4096) (nvme : Nvme) (pace : Nat → Nat)
    (unasked : Unasked machine) (slot : Nat) {command : NvmeCmd}
    (other : command.cdw0 &&& 0xFF ≠ 0x06) :
    nvme.adminCommand (identifying identity) pace machine slot command =
        nvme.adminCommand hardware pace machine slot command ∧
      ∀ next, nvme.adminCommand hardware pace machine slot command = some next → Unasked next := by
  unfold Nvme.adminCommand
  cases written : machine.memory.setCommand nvme.asqPtr slot command with
  | none => exact ⟨rfl, fun _ called => nomatch called⟩
  | some memory =>
    have submitted : Unasked (hardware.write ⟨machine.device, memory⟩ 0x1000 (slot + 1)) :=
      (unasked.setCommand other written).ring fun _ => rfl
    obtain ⟨same, waited⟩ := await_identifying identity (Machine.completed nvme.acqPtr slot)
      10000000 pace submitted
    simp only [Option.bind_eq_bind, Option.bind_some, identifying_write, same]
    generalize await hardware.step _ _ _ _ = result at waited
    obtain ⟨seen, after⟩ := result
    refine ⟨trivial, ?_⟩
    intro next called
    obtain ⟨entry, -, called⟩ := Option.bind_eq_some_iff.mp called
    cases called
    exact waited.ring fun _ => rfl

theorem Unasked.allocQueues (unasked : Unasked machine) (nvme : Nvme) :
    Unasked ⟨machine.device, (nvme.allocQueues machine.memory).2⟩ := by
  refine ⟨unasked.stage, ?_⟩
  intro pointer index command found
  obtain ⟨queue, read, present⟩ := Option.bind_eq_some_iff.mp found
  have zeroed : queue = List.replicate Nvme.numEntries NvmeCmd.zeroed →
      command.cdw0 &&& 0xFF ≠ 0x06 := by
    rintro rfl
    obtain rfl := List.eq_of_mem_replicate (List.mem_of_getElem? present)
    decide
  rcases Heap.read_alloc_cases read with earlier | same
  · rcases Heap.read_alloc_cases earlier with old | same
    · exact unasked.commands pointer index command (Option.bind_eq_some_iff.mpr ⟨queue, old, present⟩)
    · exact zeroed same
  · exact zeroed same

/-- A controller that is being stopped has left all commands behind. -/
theorem Present.unasked {controller : Controller} (present : controller.Present)
    {memory : Memory} (fresh : memory.commands = []) {cc : UInt32} (disabled : cc &&& 1 = 0) :
    Unasked ⟨{ controller with cc := cc }, memory⟩ := by
  refine ⟨?_, ?_⟩
  · intro running pair command found _
    obtain ⟨-, empty⟩ := present.reset (running.trans disabled)
    change controller.pairs 0 = some pair at found
    rw [empty] at found
    cases found
  · intro pointer index command found
    rw [Memory.command, fresh] at found
    cases pointer with
    | zero => cases found
    | succ place => cases found

/-- Until it is asked who it is, the controller comes up as any other. -/
theorem initialises_identifying {controller : Controller} (present : controller.Present)
    {memory : Memory} (fresh : memory.commands = []) {pace : Nat → Nat → Nat} {ready : Nvme}
    {second : Machine Controller}
    (initialises : nvme.Initialises ready hardware pace ⟨controller, memory⟩ second) :
    nvme.Initialises ready (identifying identity) pace ⟨controller, memory⟩ second := by
  obtain ⟨queues, stopped, started, first, answers, stops, allocates, starts, creates, submits⟩ :=
    initialises
  have stopping : Unasked (hardware.write ⟨controller, memory⟩ 0x14
      (hardware.readReg controller 0x14 &&& ~~~1).toNat) := by
    change Unasked ⟨{ controller with cc := UInt32.ofNat (controller.cc &&& ~~~1).toNat }, memory⟩
    rw [UInt32.ofNat_toNat]
    exact present.unasked fresh (clear_bit controller.cc)
  let disabled := hardware.write ⟨controller, memory⟩ 0x14
    (hardware.readReg controller 0x14 &&& ~~~1).toNat
  let isDown : Machine Controller → Bool := fun machine =>
    hardware.readReg machine.device 0x1C &&& 1 == 0
  let isUp : Machine Controller → Bool := fun machine =>
    hardware.readReg machine.device 0x1C &&& 1 != 0
  obtain ⟨sameStop, unaskedStop⟩ := await_identifying identity isDown 10000000 (pace 0) stopping
  have down := @await_tested _ hardware.step isDown disabled 10000000 (pace 0)
  rw [stops] at sameStop unaskedStop down
  have starting : Unasked (Nvme.configured hardware ready ⟨stopped.device, queues⟩) := by
    have allocated := unaskedStop.allocQueues nvme
    rw [allocates] at allocated
    refine ⟨?_, allocated.commands⟩
    intro running
    obtain ⟨on, -, -⟩ := enable_fields
    have zero : stopped.device.csts &&& 1 = 0 := beq_iff_eq.mp down.symm
    have one : stopped.device.csts &&& 1 = 1 := running.trans on
    rw [zero] at one
    cases one
  obtain ⟨sameStart, unaskedStart⟩ := await_identifying identity isUp 10000000 (pace 1) starting
  rw [starts] at sameStart unaskedStart
  obtain ⟨-, -, completionOpcode, submissionOpcode⟩ := create_fields
  have createsQueue : ready.createCompletionQueue.cdw0 &&& 0xFF ≠ 0x06 := by
    rw [Nvme.createCompletionQueue, completionOpcode]
    decide
  have submitsQueue : ready.createSubmissionQueue.cdw0 &&& 0xFF ≠ 0x06 := by
    rw [Nvme.createSubmissionQueue, submissionOpcode]
    decide
  obtain ⟨sameFirst, unaskedFirst⟩ :=
    adminCommand_identifying identity ready (pace 2) unaskedStart 0 createsQueue
  obtain ⟨sameSecond, -⟩ :=
    adminCommand_identifying identity ready (pace 3) (unaskedFirst first creates) 1 submitsQueue
  exact ⟨queues, stopped, started, first, answers, sameStop, allocates, sameStart,
    sameFirst.trans creates, sameSecond.trans submits⟩

theorem identifyingStep_apart {pair : QueuePair} (found : machine.device.pairs 0 = some pair)
    (apart : ∀ command, pair.stage ≠ .fetched command) :
    identifyingStep identity machine = step machine := by
  apply identifyingStep_none
  simp only [identifies, found, Option.bind_eq_bind, Option.bind_some]

theorem identifyCommand_fields (dataPtr : Nat) :
    (Nvme.identifyCommand dataPtr).cdw0 &&& 0xFF = 0x06 ∧
      (Nvme.identifyCommand dataPtr).cdw10 &&& 0xFF = 1 := by
  have fields : ((0x06 : UInt32) ||| (0xAA : UInt32) <<< 16) &&& 0xFF = 0x06 ∧
      (1 : UInt32) &&& 0xFF = 1 := by decide
  exact fields

/-- Three steps fetch the Identify command, fill its page and report it. -/
theorem serve_identify {device : Controller} {memory posted : Memory} (pair : QueuePair)
    {dataPtr : Nat} (running : device.Running) (alone : device.Alone 0) (idle : pair.stage = .idle)
    (waiting : pair.sqHead ≠ pair.sqTail) (single : (pair.sqHead + 1) % pair.sqSize = pair.sqTail)
    (room : (pair.cqTail + 1) % pair.cqSize ≠ pair.cqHead)
    (read : memory.command pair.submission pair.sqHead = some (Nvme.identifyCommand dataPtr))
    (posts : Memory.setCompletion { memory with
      pages := memory.pages.write dataPtr identity.toList } pair.completion pair.cqTail
      (pair.taken.report 0 (Nvme.identifyCommand dataPtr) 0) = some posted) :
    let start : Machine Controller := ⟨device.setPair 0 pair, memory⟩
    let rest : Machine Controller :=
      ⟨device.served 0 pair.taken (Nvme.identifyCommand dataPtr) 0, posted⟩
    (identifyingStep identity)^[3] start = rest ∧ identifyingStep identity rest = rest ∧
      ∀ earlier, earlier < 3 →
        ((identifyingStep identity)^[earlier] start).memory.completions = memory.completions := by
  intro start rest
  let command := Nvme.identifyCommand dataPtr
  let filled : Memory := { memory with pages := memory.pages.write dataPtr identity.toList }
  have first : identifyingStep identity start =
      ⟨device.setPair 0 (fetchedPair pair command), memory⟩ := by
    have none_fetched : ∀ command, pair.stage ≠ .fetched command := by
      intro command
      rw [idle]
      exact nofun
    rw [identifyingStep_apart (setPair_pairs ..) none_fetched]
    apply step_serve (running.setPair 0 _) (alone.setPair _) (by decide) (setPair_pairs ..)
    · simp [QueuePair.busy, waiting]
    · simp only [serve, idle, QueuePair.fetch, read, single, Option.bind_eq_bind, Option.bind_some,
        setPair_twice]
      rfl
  have second : identifyingStep identity ⟨device.setPair 0 (fetchedPair pair command), memory⟩ =
      ⟨device.setPair 0 (executedPair pair command 0), filled⟩ := by
    obtain ⟨opcode, page⟩ := identifyCommand_fields dataPtr
    have asked : identifies ⟨device.setPair 0 (fetchedPair pair command), memory⟩ =
        some (fetchedPair pair command, command) := by
      simp only [identifies, setPair_pairs, Option.bind_eq_bind, Option.bind_some]
      exact if_pos ⟨running, opcode, page⟩
    rw [identifyingStep, asked]
    dsimp only
    rw [setPair_twice]
    rfl
  have third : identifyingStep identity ⟨device.setPair 0 (executedPair pair command 0), filled⟩ =
      rest := by
    have reporting : ∀ other, (executedPair pair command 0).stage ≠ .fetched other := by
      rintro other ⟨⟩
    rw [identifyingStep_apart (setPair_pairs ..) reporting]
    apply step_serve (running.setPair 0 _) (alone.setPair _) (by decide) (setPair_pairs ..)
    · rfl
    · refine (if_neg room).trans ?_
      change (filled.setCompletion _ _ _).bind _ = _
      have entry : filled.setCompletion (executedPair pair command 0).completion
          (executedPair pair command 0).cqTail
          ((executedPair pair command 0).report 0 command 0) = some posted := posts
      rw [entry, Option.bind_some, setPair_twice]
      rfl
  have last : identifyingStep identity rest = rest := by
    have resting : ∀ other, pair.taken.posted.stage ≠ .fetched other := by
      rintro other ⟨⟩
    rw [identifyingStep_apart (served_pairs ..) resting]
    apply step_idle posted (running.served ..) (alone.served _ command 0) (by decide)
      (served_pairs ..)
    simp [QueuePair.busy, QueuePair.posted, QueuePair.taken]
  refine ⟨?_, last, ?_⟩
  · simp only [Function.iterate_succ_apply, Function.iterate_zero_apply, first, second, third]
  · intro earlier before
    obtain rfl | rfl | rfl : earlier = 0 ∨ earlier = 1 ∨ earlier = 2 := by omega
    · rfl
    · rw [Function.iterate_one, first]
    · rw [Function.iterate_succ_apply, Function.iterate_one, first, second]

/-- The printable characters of a field of the page. -/
def fieldText (identity : Vector UInt8 4096) (start length : Nat) : String :=
  String.ofList ((((identity.toList.take (start + length)).drop start).filter isPrintable).map
    fun byte => Char.ofNat byte.toNat)

/-- What a controller with this identification page is printed as. -/
def shownAs (identity : Vector UInt8 4096) : List (String × UInt32) :=
  [("\n> SILICON IDENTIFIED -> ", 0x3B82F6), (fieldText identity 24 40, 0x10B981),
    (" (SN: ", 0x3B82F6), (fieldText identity 4 20, 0x10B981), (")\n", 0x3B82F6)]

/-- The filtered fields are texts. -/
theorem identification_shownAs (identity : Vector UInt8 4096) :
    Nvme.identification (((identity.toList.take 64).drop 24).filter isPrintable)
      (((identity.toList.take 24).drop 4).filter isPrintable) = shownAs identity := by
  have ascii : ∀ field : List UInt8, ∀ byte ∈ field.filter isPrintable, byte.toNat < 128 := by
    intro field byte member
    obtain ⟨-, shown⟩ := List.mem_filter.mp member
    simp only [isPrintable, Bool.and_eq_true, decide_eq_true_eq] at shown
    have high : byte.toNat ≤ 126 := shown.2
    omega
  rw [Nvme.identification, fromUtf8_ascii (ascii _), fromUtf8_ascii (ascii _)]
  rfl

/-- The controller is identified in time; the I/O queues are left as they were. -/
theorem identifyController_serving (identity : Vector UInt8 4096) {count : Nat} (commanding : Commanding 2 nvme machine)
    (serving : Serving count nvme machine) (submissions : nvme.iosqPtr ≠ nvme.asqPtr)
    (completions : nvme.iocqPtr ≠ nvme.acqPtr) (prompt : Prompt 10000000 3 pace) :
    ∃ next, nvme.identifyController (identifying identity) pace machine =
        some (shownAs identity, next) ∧
      Serving count nvme next ∧ AdminIdle next ∧ next.device.blocks = machine.device.blocks := by
  obtain ⟨sq, submission, sqLength⟩ := commanding.submission
  obtain ⟨cq, completion, cqLength, clear⟩ := commanding.completion
  have sqInside : 2 < sq.length := by omega
  have cqInside : 2 < cq.length := by omega
  let dataPtr := machine.memory.pages.length + 1
  let command := Nvme.identifyCommand dataPtr
  let pages := machine.memory.pages ++ [List.replicate 4096 0]
  let memory : Memory :=
    { machine.memory with
      pages := pages
      commands := machine.memory.commands.write nvme.asqPtr (sq.set 2 command) }
  let pair := waitingAdmin nvme 2
  let entry := pair.taken.report 0 command 0
  let filled : Memory := { memory with pages := pages.write dataPtr identity.toList }
  let posted : Memory := { filled with
    completions := machine.memory.completions.write nvme.acqPtr (cq.set 2 entry) }
  let rest := machine.device.served 0 pair.taken command 0
  have fresh : pages.read dataPtr = some (List.replicate 4096 0) :=
    Heap.read_alloc machine.memory.pages _
  have read : memory.command nvme.asqPtr 2 = some command := by
    rw [Memory.command_of_read (Heap.read_write submission _)]
    exact List.getElem?_set_self sqInside
  have unfilled : filled.completions.read nvme.acqPtr = some cq := completion
  have posts := Memory.setCompletion_of_read unfilled cqInside entry
  have room : (2 + 1) % 16 ≠ 2 := by decide
  obtain ⟨reached, settled, unwritten⟩ := serve_identify pair commanding.running commanding.alone
    rfl (Nat.ne_of_lt (Nat.lt_succ_self 2)) rfl room read posts
  obtain ⟨old, present⟩ : ∃ old, cq[2]? = some old := ⟨_, List.getElem?_eq_getElem cqInside⟩
  have looped : await (identifying identity).step (Machine.completed nvme.acqPtr 2) 10000000 pace
      ((identifying identity).write ⟨machine.device, memory⟩ 0x1000 3) = (true, ⟨rest, posted⟩) := by
    rw [identifying_write, commanding.rung, identifying]
    rw [await_settled prompt reached settled]
    · rw [completed_of_read (Heap.read_write completion _) (List.getElem?_set_self cqInside),
        report_status]
      rfl
    · intro earlier before
      have unchanged : (((identifyingStep identity)^[earlier] ⟨machine.device.setPair 0 pair,
          memory⟩).memory.completions).read nvme.acqPtr = some cq := by
        rw [unwritten earlier before]
        exact completion
      rw [completed_of_read unchanged present, clear 2 old (Nat.le_refl 2) present]
      rfl
  let final : QueuePair := { pair.taken.posted with cqHead := 3 }
  have acknowledged : hardware.write ⟨rest, posted⟩ 0x1004 3 = ⟨rest.setPair 0 final, posted⟩ := by
    change (⟨rest.ring 0 _, posted⟩ : Machine Controller) = _
    rw [ring_eq (served_pairs ..)]
  let paged : Memory := { machine.memory with pages := pages }
  have queue : paged.commands.read nvme.asqPtr = some sq := submission
  have written : paged.setCommand nvme.asqPtr 2 command = some memory :=
    Memory.setCommand_of_read queue sqInside command
  have watched : memory.completion nvme.acqPtr 2 = some old :=
    (Memory.completion_of_read completion).trans present
  have data : posted.pages.read dataPtr = some identity.toList := Heap.read_write fresh _
  have field : ∀ start length, start + length ≤ 4096 →
      Nvme.printableField identity.toList start length =
        some (((identity.toList.take (start + length)).drop start).filter isPrintable) := by
    intro start length inside
    rw [Nvme.printableField, slice_of_le (Nat.le_add_right ..) (by rwa [Vector.length_toList])]
    rfl
  have called : nvme.identifyController (identifying identity) pace machine =
      some (shownAs identity, ⟨rest.setPair 0 final, posted⟩) := by
    unfold Nvme.identifyController
    change (paged.setCommand nvme.asqPtr 2 command).bind _ = _
    rw [written, Option.bind_some]
    change (memory.completion nvme.acqPtr 2).bind _ = _
    rw [watched, Option.bind_some, looped]
    change (posted.pages.read dataPtr).bind _ = _
    rw [data, Option.bind_some, field 24 40 (by decide), Option.bind_eq_bind, Option.bind_some,
      field 4 20 (by decide), Option.bind_some, identifying_write, acknowledged,
      identification_shownAs]
  have idle : pair.taken.posted.busy = false := by
    simp [QueuePair.busy, QueuePair.posted, QueuePair.taken]
  have idleAfter : final.busy = false := idle
  have alone : rest.Alone 1 := serving.alone.setIdle idle
  refine ⟨_, called, ⟨serving.tail, serving.head, ?_, ?_, serving.running, alone.setIdle idleAfter,
    ?_⟩, ⟨serving.running, ?_⟩, rfl⟩
  · obtain ⟨queue, found, length⟩ := serving.submission
    exact ⟨queue, (Heap.read_write_of_ne submissions.symm _).trans found, length⟩
  · obtain ⟨queue, found, length⟩ := serving.completion
    exact ⟨queue, (Heap.read_write_of_ne completions.symm _).trans found, length⟩
  · exact (setPair_other Nat.one_ne_zero).trans
      ((served_other Nat.one_ne_zero).trans serving.pair)
  · intro other found
    obtain rfl := Option.some.inj ((setPair_pairs ..).symm.trans found)
    exact idleAfter

theorem AdminIdle.ring (rests : AdminIdle machine) (doorbell : QueuePair → QueuePair)
    (memory : Memory) : AdminIdle ⟨machine.device.ring 1 doorbell, memory⟩ :=
  ⟨rests.running, rests.idle⟩

theorem AdminIdle.iterate (rests : AdminIdle machine) (count : Nat) :
    AdminIdle (hardware.step^[count] machine) :=
  Function.Iterate.rec AdminIdle rests (fun _ holds => AdminIdle.step holds) count

theorem AdminIdle.identifying (identity : Vector UInt8 4096) (rests : AdminIdle machine)
    (count : Nat) :
    (identifying identity).step^[count] machine = hardware.step^[count] machine :=
  iterate_agrees (fun _ holds => identifyingStep_none holds.identifies) (fun _ holds => holds.step)
    rests count

theorem AdminIdle.memory (rests : AdminIdle machine) (memory : Memory) :
    AdminIdle ⟨machine.device, memory⟩ :=
  ⟨rests.running, rests.idle⟩

theorem clear_identifying (identity : Vector UInt8 4096) (rests : AdminIdle machine) (nvme : Nvme)
    (pace : ReadPace) :
    nvme.clear (identifying identity) pace machine = nvme.clear hardware pace machine ∧
      ∀ dataPtr after, nvme.clear hardware pace machine = some (dataPtr, after) →
        AdminIdle after := by
  unfold Nvme.clear
  have same : ∀ memory, (identifying identity).step^[pace.cleared] ⟨machine.device, memory⟩ =
      hardware.step^[pace.cleared] ⟨machine.device, memory⟩ :=
    fun memory => (rests.memory memory).identifying identity pace.cleared
  simp only [same]
  refine ⟨trivial, ?_⟩
  intro dataPtr after called
  obtain ⟨previous, -, called⟩ := Option.bind_eq_some_iff.mp called
  obtain ⟨memory, -, called⟩ := Option.bind_eq_some_iff.mp called
  cases called
  exact (rests.memory memory).iterate pace.cleared

theorem submit_identifying (identity : Vector UInt8 4096) (rests : AdminIdle machine) (nvme : Nvme)
    (pace : ReadPace) (command : NvmeCmd) :
    nvme.submit (identifying identity) pace machine command =
        nvme.submit hardware pace machine command ∧
      ∀ after, nvme.submit hardware pace machine command = some after → AdminIdle after := by
  unfold Nvme.submit
  have same : ∀ memory, (identifying identity).step^[pace.stored] ⟨machine.device, memory⟩ =
      hardware.step^[pace.stored] ⟨machine.device, memory⟩ :=
    fun memory => (rests.memory memory).identifying identity pace.stored
  simp only [same, identifying_write]
  refine ⟨trivial, ?_⟩
  intro after called
  obtain ⟨memory, -, called⟩ := Option.bind_eq_some_iff.mp called
  cases called
  exact ((rests.memory memory).iterate pace.stored).ring _ _

theorem observe_identifying (identity : Vector UInt8 4096) (rests : AdminIdle machine) (nvme : Nvme)
    (pace : ReadPace) :
    nvme.observe (identifying identity) pace machine = nvme.observe hardware pace machine ∧
      ∀ observed after, nvme.observe hardware pace machine = some (observed, after) →
        AdminIdle after := by
  unfold Nvme.observe
  have same : ∀ test, await (identifying identity).step test 20000000 pace.turns machine =
      await hardware.step test 20000000 pace.turns machine := fun test =>
    await_agrees (fun _ holds => identifyingStep_none holds.identifies) (fun _ holds => holds.step)
      20000000 pace.turns rests
  have waited : ∀ test, AdminIdle (await hardware.step test 20000000 pace.turns machine).2 :=
    fun test => await_keeps (fun _ holds => AdminIdle.step holds) 20000000 pace.turns rests
  simp only [same, (waited _).identifying identity pace.left]
  refine ⟨trivial, ?_⟩
  intro observed after called
  obtain ⟨entry, -, called⟩ := Option.bind_eq_some_iff.mp called
  cases called
  exact (waited _).iterate pace.left

/-- While the admin queues rest, sectors are read as from any other controller. -/
theorem readSector_identifying (identity : Vector UInt8 4096) (rests : AdminIdle machine)
    (nvme : Nvme) (pace : ReadPace) (lba : UInt64) :
    nvme.readSector (identifying identity) pace machine lba =
        nvme.readSector hardware pace machine lba ∧
      ∀ reading after next, nvme.readSector hardware pace machine lba =
        some (reading, after, next) → AdminIdle next := by
  obtain ⟨sameClear, cleared⟩ := clear_identifying identity rests nvme pace
  unfold Nvme.readSector
  rw [sameClear]
  cases clears : nvme.clear hardware pace machine with
  | none => exact ⟨rfl, nofun⟩
  | some result =>
    obtain ⟨dataPtr, first⟩ := result
    dsimp only [Option.bind_eq_bind, Option.bind_some]
    obtain ⟨sameSubmit, submitted⟩ := submit_identifying identity (cleared _ _ clears) nvme pace
      (Nvme.readCommand nvme.iosqTail dataPtr lba)
    rw [sameSubmit]
    cases submits : nvme.submit hardware pace first
        (Nvme.readCommand nvme.iosqTail dataPtr lba) with
    | none => exact ⟨rfl, nofun⟩
    | some second =>
      dsimp only [Option.bind_eq_bind, Option.bind_some]
      obtain ⟨sameObserve, observed⟩ := observe_identifying identity (submitted _ submits) nvme pace
      rw [sameObserve]
      cases observes : nvme.observe hardware pace second with
      | none => exact ⟨rfl, nofun⟩
      | some result =>
        obtain ⟨entry, third⟩ := result
        dsimp only [Option.bind_eq_bind, Option.bind_some]
        have rung := (observed _ _ observes).ring
          (fun pair => { pair with cqHead := (nvme.iocqHead + 1) % 16 }) third.memory
        rw [identifying_write]
        have same : (identifying identity).step^[pace.acknowledged]
            (hardware.write third 0x100C ((nvme.iocqHead + 1) % 16)) =
          hardware.step^[pace.acknowledged]
            (hardware.write third 0x100C ((nvme.iocqHead + 1) % 16)) :=
          rung.identifying identity pace.acknowledged
        rw [same]
        refine ⟨rfl, ?_⟩
        intro reading after next called
        obtain ⟨page, -, called⟩ := Option.bind_eq_some_iff.mp called
        obtain ⟨sector, -, called⟩ := Option.bind_eq_some_iff.mp called
        cases called
        exact rung.iterate pace.acknowledged

end Controller

end QoreOS.Storage
