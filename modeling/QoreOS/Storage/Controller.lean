import QoreOS.Storage.Nvme

/-! A controller that keeps to the specification: it fetches a command, executes
it and posts its completion, one step after the other, and inverts the phase
tag each time the completion queue wraps. -/

namespace QoreOS.Storage

open QoreOS.Library

inductive Stage where
  | idle
  | fetched (command : NvmeCmd)
  | executed (command : NvmeCmd) (statusCode : UInt16)
  deriving DecidableEq

/-- A submission queue with its completion queue, as the controller sees them;
the doorbells are `sqTail` and `cqHead`. -/
structure QueuePair where
  submission : Nat
  sqSize : Nat
  sqHead : Nat
  sqTail : Nat
  completion : Nat
  cqSize : Nat
  cqHead : Nat
  cqTail : Nat
  phase : Bool
  stage : Stage
  deriving DecidableEq

namespace QueuePair

def create (submission sqSize completion cqSize : Nat) : QueuePair where
  submission := submission
  sqSize := sqSize
  sqHead := 0
  sqTail := 0
  completion := completion
  cqSize := cqSize
  cqHead := 0
  cqTail := 0
  phase := true
  stage := .idle

def busy (pair : QueuePair) : Bool :=
  pair.stage != .idle || pair.sqHead != pair.sqTail

def fetch (pair : QueuePair) (memory : Memory) : Option QueuePair := do
  let command ← memory.command pair.submission pair.sqHead
  some { pair with sqHead := (pair.sqHead + 1) % pair.sqSize, stage := .fetched command }

/-- The entry that reports a command; its lowest status bit is the phase tag. -/
def report (pair : QueuePair) (qid : Nat) (command : NvmeCmd) (statusCode : UInt16) :
    NvmeCompletion where
  cdw0 := 0
  reserved := 0
  sqhead := UInt16.ofNat pair.sqHead
  sqid := UInt16.ofNat qid
  cid := (command.cdw0 >>> 16).toUInt16
  status := statusCode <<< 1 ||| if pair.phase then 1 else 0

/-- The pair after it has posted an entry. -/
def posted (pair : QueuePair) : QueuePair :=
  { pair with
    cqTail := (pair.cqTail + 1) % pair.cqSize
    phase := if pair.cqTail + 1 = pair.cqSize then !pair.phase else pair.phase
    stage := .idle }

/-- The pair after it has fetched its one waiting command. -/
def taken (pair : QueuePair) : QueuePair := { pair with sqHead := pair.sqTail }

end QueuePair

/-- `pairs` holds the admin queues under 0 and the I/O queues under 1; `log`
lists the I/O commands with the entries posted for them. -/
structure Controller where
  cc : UInt32
  csts : UInt32
  aqa : UInt32
  asq : Nat
  acq : Nat
  completionQueue : Option (Nat × Nat)
  pairs : Nat → Option QueuePair
  blocks : List Sector
  log : List (NvmeCmd × NvmeCompletion)

namespace Controller

def readReg (controller : Controller) (offset : Nat) : UInt32 :=
  match offset with
  | 0x14 => controller.cc
  | 0x1C => controller.csts
  | 0x24 => controller.aqa
  | _ => 0

def ring (controller : Controller) (qid : Nat) (doorbell : QueuePair → QueuePair) : Controller :=
  { controller with
    pairs := Function.update controller.pairs qid ((controller.pairs qid).map doorbell) }

def writeReg (controller : Controller) (offset value : Nat) : Controller :=
  match offset with
  | 0x14 => { controller with cc := UInt32.ofNat value }
  | 0x24 => { controller with aqa := UInt32.ofNat value }
  | 0x28 => { controller with asq := value }
  | 0x30 => { controller with acq := value }
  | 0x1000 => controller.ring 0 fun pair => { pair with sqTail := value }
  | 0x1004 => controller.ring 0 fun pair => { pair with cqHead := value }
  | 0x1008 => controller.ring 1 fun pair => { pair with sqTail := value }
  | 0x100C => controller.ring 1 fun pair => { pair with cqHead := value }
  | _ => controller

/-- `CSTS.RDY` follows `CC.EN`; a reset drops all queues. -/
def follow (controller : Controller) : Controller :=
  if controller.cc &&& 1 = 0 then
    { controller with
      csts := controller.csts &&& ~~~1
      completionQueue := none
      pairs := fun _ => none }
  else
    { controller with
      csts := controller.csts ||| 1
      pairs := Function.update controller.pairs 0 (some (QueuePair.create
        controller.asq ((controller.aqa &&& 0xFFF).toNat + 1)
        controller.acq ((controller.aqa >>> 16 &&& 0xFFF).toNat + 1))) }

/-- Create the completion queue or the submission queue; other admin commands
are refused as invalid. -/
def executeAdmin (controller : Controller) (command : NvmeCmd) : UInt16 × Controller :=
  let qid := command.cdw10 &&& 0xFFFF
  let size := (command.cdw10 >>> 16).toNat + 1
  if qid != 1 then (0x101, controller)
  else if command.cdw0 &&& 0xFF = 0x05 then
    (0, { controller with completionQueue := some (command.prp1, size) })
  else if command.cdw0 &&& 0xFF = 0x01 then
    match controller.completionQueue with
    | some (completion, cqSize) =>
      (0, { controller with
        pairs := Function.update controller.pairs 1
          (some (QueuePair.create command.prp1 size completion cqSize)) })
    | none => (0x100, controller)
  else (0x01, controller)

/-- Read blocks into the page behind `prp1`. -/
def executeIo (controller : Controller) (command : NvmeCmd) (memory : Memory) : UInt16 × Memory :=
  let lba := command.cdw10.toNat + 2 ^ 32 * command.cdw11.toNat
  let count := command.cdw12.toNat % 2 ^ 16 + 1
  if command.cdw0 &&& 0xFF != 0x02 then (0x01, memory)
  else if command.nsid != 1 then (0x0B, memory)
  else if lba + count ≤ controller.blocks.length then
    let data := ((controller.blocks.drop lba).take count).flatMap Vector.toList
    match memory.pages.read command.prp1 with
    | some page => (0, { memory with
        pages := memory.pages.write command.prp1 (data ++ page.drop data.length) })
    | none => (0x04, memory)
  else (0x80, memory)

def execute (controller : Controller) (qid : Nat) (command : NvmeCmd) (memory : Memory) :
    UInt16 × Machine Controller :=
  if qid = 0 then
    let (statusCode, controller) := controller.executeAdmin command
    (statusCode, { device := controller, memory := memory })
  else
    let (statusCode, memory) := controller.executeIo command memory
    (statusCode, { device := controller, memory := memory })

def setPair (controller : Controller) (qid : Nat) (pair : QueuePair) : Controller :=
  { controller with pairs := Function.update controller.pairs qid (some pair) }

/-- The next step of the work on a busy pair. A completion is not posted into a
full queue. -/
def serve (machine : Machine Controller) (qid : Nat) (pair : QueuePair) :
    Option (Machine Controller) :=
  match pair.stage with
  | .idle => do
    let pair ← pair.fetch machine.memory
    some { machine with device := machine.device.setPair qid pair }
  | .fetched command =>
    let (statusCode, after) := machine.device.execute qid command machine.memory
    some { after with
      device := after.device.setPair qid { pair with stage := .executed command statusCode } }
  | .executed command statusCode => do
    if (pair.cqTail + 1) % pair.cqSize = pair.cqHead then none
    else
      let entry := pair.report qid command statusCode
      let memory ← machine.memory.setCompletion pair.completion pair.cqTail entry
      let controller := machine.device.setPair qid pair.posted
      let log := if qid = 0 then controller.log else controller.log ++ [(command, entry)]
      some { device := { controller with log := log }, memory := memory }

def busyPair (controller : Controller) : Option (Nat × QueuePair) :=
  [0, 1].findSome? fun qid => do
    let pair ← controller.pairs qid
    if pair.busy then some (qid, pair) else none

def step (machine : Machine Controller) : Machine Controller :=
  if machine.device.csts &&& 1 != machine.device.cc &&& 1 then
    { machine with device := machine.device.follow }
  else
    match machine.device.busyPair with
    | some (qid, pair) => (serve machine qid pair).getD machine
    | none => machine

def hardware : Hardware Controller where
  readReg := readReg
  writeReg := writeReg
  step := step

variable {device effect : Controller} {memory executed posted : Memory} {qid : Nat}
  {pair : QueuePair} {command : NvmeCmd} {statusCode : UInt16}

/-- The register says what the controller was told. -/
def Running (controller : Controller) : Prop :=
  controller.csts &&& 1 = controller.cc &&& 1

/-- No pair but `qid` has work to do. -/
def Alone (controller : Controller) (qid : Nat) : Prop :=
  ∀ other pair, other ≠ qid → controller.pairs other = some pair → pair.busy = false

@[simp] theorem setPair_pairs (controller : Controller) (qid : Nat) (pair : QueuePair) :
    (controller.setPair qid pair).pairs qid = some pair := Function.update_self ..

theorem setPair_other {other : Nat} (apart : other ≠ qid) :
    (device.setPair qid pair).pairs other = device.pairs other := Function.update_of_ne apart ..

theorem setPair_twice (controller : Controller) (qid : Nat) (first second : QueuePair) :
    (controller.setPair qid first).setPair qid second = controller.setPair qid second := by
  rw [setPair, setPair, Function.update_idem, setPair]

theorem ring_eq (found : device.pairs qid = some pair) (doorbell : QueuePair → QueuePair) :
    device.ring qid doorbell = device.setPair qid (doorbell pair) := by
  rw [ring, found, Option.map_some, setPair]

theorem Alone.setPair (alone : Alone device qid) (pair : QueuePair) :
    Alone (device.setPair qid pair) qid := by
  intro other found apart same
  rw [setPair_other apart] at same
  exact alone other found apart same

theorem Alone.setIdle (alone : Alone device qid) {other : Nat} (idle : pair.busy = false) :
    Alone (device.setPair other pair) qid := by
  intro another found apart same
  by_cases hit : another = other
  · subst hit
    rw [setPair_pairs, Option.some.injEq] at same
    exact same ▸ idle
  · rw [setPair_other hit] at same
    exact alone another found apart same

theorem Running.setPair (running : Running device) (qid : Nat) (pair : QueuePair) :
    Running (device.setPair qid pair) := running

theorem busyPair_eq (alone : Alone device qid) (found : device.pairs qid = some pair)
    (small : qid < 2) :
    device.busyPair = if pair.busy then some (qid, pair) else none := by
  have others : ∀ other, other ≠ qid → (do
      let pair ← device.pairs other
      if pair.busy then some (other, pair) else none) = none := by
    intro other apart
    cases present : device.pairs other with
    | none => rfl
    | some idle => simp [alone other idle apart present]
  have own : (do
      let pair ← device.pairs qid
      if pair.busy then some (qid, pair) else none) =
        if pair.busy then some (qid, pair) else none := by
    rw [found]
    rfl
  obtain rfl | rfl : qid = 0 ∨ qid = 1 := by omega
  · rw [busyPair, List.findSome?_cons, own, List.findSome?_cons, others 1 (by decide)]
    cases pair.busy <;> rfl
  · rw [busyPair, List.findSome?_cons, others 0 (by decide), List.findSome?_cons, own]
    cases pair.busy <;> rfl

theorem step_serve (running : Running device) (alone : Alone device qid) (small : qid < 2)
    (found : device.pairs qid = some pair) (busy : pair.busy = true) {after : Machine Controller}
    (served : serve ⟨device, memory⟩ qid pair = some after) : step ⟨device, memory⟩ = after := by
  simp only [step, Running.eq_1 device ▸ running, bne_self_eq_false, Bool.false_eq_true, if_false,
    busyPair_eq alone found small, busy, if_true, served, Option.getD_some]

theorem step_idle (memory : Memory) (running : Running device) (alone : Alone device qid) (small : qid < 2)
    (found : device.pairs qid = some pair) (idle : pair.busy = false) :
    step ⟨device, memory⟩ = ⟨device, memory⟩ := by
  simp only [step, Running.eq_1 device ▸ running, bne_self_eq_false, Bool.false_eq_true, if_false,
    busyPair_eq alone found small, idle]

/-- How a pair with one waiting command comes to rest. -/
def served (controller : Controller) (qid : Nat) (pair : QueuePair) (command : NvmeCmd)
    (statusCode : UInt16) : Controller :=
  { controller.setPair qid pair.posted with
    log := if qid = 0 then controller.log
      else controller.log ++ [(command, pair.report qid command statusCode)] }

theorem served_pairs (controller : Controller) (qid : Nat) (pair : QueuePair) (command : NvmeCmd)
    (statusCode : UInt16) :
    (controller.served qid pair command statusCode).pairs qid = some pair.posted :=
  Function.update_self ..

theorem served_other {other : Nat} (apart : other ≠ qid) :
    (device.served qid pair command statusCode).pairs other = device.pairs other :=
  Function.update_of_ne apart ..

theorem Running.served (running : Running device) (qid : Nat) (pair : QueuePair)
    (command : NvmeCmd) (statusCode : UInt16) :
    Running (device.served qid pair command statusCode) := running

theorem Alone.served (alone : Alone device qid) (pair : QueuePair) (command : NvmeCmd)
    (statusCode : UInt16) : Alone (device.served qid pair command statusCode) qid :=
  alone.setPair pair.posted

/-- A pair with one waiting command whose execution turns the controller into
`effect` and the memory into `executed`. -/
structure Pending (device : Controller) (memory : Memory) (qid : Nat) (pair : QueuePair)
    (command : NvmeCmd) (statusCode : UInt16) (effect : Controller) (executed : Memory) : Prop where
  running : Running device
  alone : Alone device qid
  small : qid < 2
  found : device.pairs qid = some pair
  idle : pair.stage = .idle
  waiting : pair.sqHead ≠ pair.sqTail
  single : (pair.sqHead + 1) % pair.sqSize = pair.sqTail
  room : (pair.cqTail + 1) % pair.cqSize ≠ pair.cqHead
  read : memory.command pair.submission pair.sqHead = some command
  executes : ∀ other, (device.setPair qid other).execute qid command memory =
    (statusCode, ⟨effect.setPair qid other, executed⟩)
  steady : Running effect
  aloneAfter : Alone effect qid
  quiet : executed.completions = memory.completions

/-- Work on the command stops short of its completion. -/
def fetchedPair (pair : QueuePair) (command : NvmeCmd) : QueuePair :=
  { pair with sqHead := pair.sqTail, stage := .fetched command }

def executedPair (pair : QueuePair) (command : NvmeCmd) (statusCode : UInt16) : QueuePair :=
  { pair with sqHead := pair.sqTail, stage := .executed command statusCode }

theorem Pending.fetches
    (pending : Pending device memory qid pair command statusCode effect executed) :
    step ⟨device, memory⟩ = ⟨device.setPair qid (fetchedPair pair command), memory⟩ := by
  apply step_serve pending.running pending.alone pending.small pending.found
  · simp [QueuePair.busy, pending.waiting]
  · simp only [serve, pending.idle, QueuePair.fetch, pending.read, pending.single,
      Option.bind_eq_bind, Option.bind_some]
    rfl

theorem Pending.executesNext
    (pending : Pending device memory qid pair command statusCode effect executed) :
    step ⟨device.setPair qid (fetchedPair pair command), memory⟩ =
      ⟨effect.setPair qid (executedPair pair command statusCode), executed⟩ := by
  apply step_serve (pending.running.setPair qid _) (pending.alone.setPair _) pending.small
    (setPair_pairs ..)
  · rfl
  · simp only [serve, fetchedPair, pending.executes, setPair_twice]
    rfl

/-- Three steps fetch, execute and post a waiting command; then the controller
rests. The completion queue is only written by the last one. -/
theorem serve_command (pending : Pending device memory qid pair command statusCode effect executed)
    (posts : executed.setCompletion pair.completion pair.cqTail
      (pair.taken.report qid command statusCode) = some posted) :
    let rest : Machine Controller := ⟨effect.served qid pair.taken command statusCode, posted⟩
    step^[3] ⟨device, memory⟩ = rest ∧ step rest = rest ∧
      ∀ earlier, earlier < 3 →
        (step^[earlier] ⟨device, memory⟩).memory.completions = memory.completions := by
  intro rest
  have first := pending.fetches
  have second := pending.executesNext
  have third : step ⟨effect.setPair qid (executedPair pair command statusCode), executed⟩ = rest := by
    apply step_serve (pending.steady.setPair qid _) (pending.aloneAfter.setPair _) pending.small
      (setPair_pairs ..)
    · rfl
    · refine (if_neg pending.room).trans ?_
      change (executed.setCompletion _ _ _).bind _ = _
      have entry : executed.setCompletion (executedPair pair command statusCode).completion
          (executedPair pair command statusCode).cqTail
          ((executedPair pair command statusCode).report qid command statusCode) =
            some posted := posts
      rw [entry, Option.bind_some, setPair_twice]
      rfl
  have last : step rest = rest := by
    apply step_idle posted (pending.steady.served ..) (pending.aloneAfter.served _ command statusCode)
      pending.small (served_pairs ..)
    simp [QueuePair.busy, QueuePair.posted, QueuePair.taken]
  refine ⟨?_, last, ?_⟩
  · simp only [Function.iterate_succ_apply, Function.iterate_zero_apply, first, second, third]
  · intro earlier before
    obtain rfl | rfl | rfl : earlier = 0 ∨ earlier = 1 ∨ earlier = 2 := by omega
    · rfl
    · rw [Function.iterate_one, first]
    · rw [Function.iterate_succ_apply, Function.iterate_one, first, second, pending.quiet]

theorem completed_of_read {machine : Machine Controller} {pointer index : Nat}
    {queue : List NvmeCompletion} {entry : NvmeCompletion}
    (found : machine.memory.completions.read pointer = some queue)
    (present : queue[index]? = some entry) :
    machine.completed pointer index = (entry.status &&& 0x01 != 0) := by
  rw [Machine.completed, Memory.completion_of_read found, present]

/-- The status code stands above the phase tag. -/
theorem report_status (pair : QueuePair) (qid : Nat) (command : NvmeCmd) (statusCode : UInt16) :
    ((pair.report qid command statusCode).status &&& 0x01 != 0) = pair.phase := by
  have low : ∀ tag : UInt16, (statusCode <<< (1 : UInt16) ||| tag) &&& 0x01 = tag &&& 0x01 := by
    intro tag
    rw [← UInt16.toNat_inj, UInt16.toNat_and, UInt16.toNat_or, UInt16.toNat_shiftLeft,
      UInt16.toNat_and]
    change (statusCode.toNat <<< 1 % 2 ^ 16 ||| tag.toNat) &&& 1 = tag.toNat &&& 1
    rw [Nat.and_or_distrib_right, Nat.and_one_is_mod, Nat.shiftLeft_eq]
    have even : statusCode.toNat * 2 ^ 1 % 2 ^ 16 % 2 = 0 := by omega
    rw [even, Nat.zero_or]
  change ((statusCode <<< (1 : UInt16) ||| (if pair.phase then 1 else 0 : UInt16)) &&& 0x01 != 0) =
    pair.phase
  rw [low]
  cases pair.phase <;> decide

/-- A command in a slot whose status the driver has cleared: three steps complete it, and the
entry that they post shows itself if the phase tag is 1. -/
theorem completes_command {queue : List NvmeCompletion} {old : NvmeCompletion}
    (pending : Pending device memory qid pair command statusCode effect executed)
    (found : memory.completions.read pair.completion = some queue)
    (present : queue[pair.cqTail]? = some old) (cleared : old.status &&& 0x01 = 0) :
    let rest : Machine Controller :=
      ⟨effect.served qid pair.taken command statusCode, { executed with
        completions := memory.completions.write pair.completion
          (queue.set pair.cqTail (pair.taken.report qid command statusCode)) }⟩
    step^[3] ⟨device, memory⟩ = rest ∧ step rest = rest ∧
      (∀ earlier, earlier < 3 →
        Machine.completed pair.completion pair.cqTail (step^[earlier] ⟨device, memory⟩) = false) ∧
      Machine.completed pair.completion pair.cqTail rest = pair.phase := by
  intro rest
  have inside := (List.getElem?_eq_some_iff.mp present).1
  have posts := Memory.setCompletion_of_read (pending.quiet ▸ found) inside
    (pair.taken.report qid command statusCode)
  rw [pending.quiet] at posts
  obtain ⟨reached, settled, unwritten⟩ := serve_command pending posts
  refine ⟨reached, settled, ?_, ?_⟩
  · intro earlier before
    rw [completed_of_read ((unwritten earlier before).symm ▸ found) present, cleared]
    rfl
  · rw [completed_of_read (Heap.read_write found _) (List.getElem?_set_self inside), report_status]
    rfl

/-- The driver waits for the command: it sees the completion exactly if the phase tag is 1. -/
theorem await_command {bound : Nat} {pace : Nat → Nat} {queue : List NvmeCompletion}
    {old : NvmeCompletion} (prompt : Prompt bound 3 pace)
    (pending : Pending device memory qid pair command statusCode effect executed)
    (found : memory.completions.read pair.completion = some queue)
    (present : queue[pair.cqTail]? = some old) (cleared : old.status &&& 0x01 = 0) :
    await step (Machine.completed pair.completion pair.cqTail) bound pace ⟨device, memory⟩ =
      (pair.phase, ⟨effect.served qid pair.taken command statusCode, { executed with
        completions := memory.completions.write pair.completion
          (queue.set pair.cqTail (pair.taken.report qid command statusCode)) }⟩) := by
  obtain ⟨reached, settled, early, seen⟩ := completes_command pending found present cleared
  rw [await_settled prompt reached settled early, seen]

end Controller

end QoreOS.Storage
