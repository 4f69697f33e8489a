import Mathlib.Logic.Function.Basic
import QoreOS.Library.Await
import QoreOS.Library.Heap
import QoreOS.Storage.Fat32

/-! The NVMe driver, over any hardware behind its registers. -/

namespace QoreOS.Storage

open QoreOS.Library

structure NvmeCmd where
  cdw0 : UInt32
  nsid : UInt32
  reserved : UInt64
  mptr : UInt64
  prp1 : Nat
  prp2 : UInt64
  cdw10 : UInt32
  cdw11 : UInt32
  cdw12 : UInt32
  cdw13 : UInt32
  cdw14 : UInt32
  cdw15 : UInt32
  deriving DecidableEq

def NvmeCmd.zeroed : NvmeCmd where
  cdw0 := 0
  nsid := 0
  reserved := 0
  mptr := 0
  prp1 := 0
  prp2 := 0
  cdw10 := 0
  cdw11 := 0
  cdw12 := 0
  cdw13 := 0
  cdw14 := 0
  cdw15 := 0

structure NvmeCompletion where
  cdw0 : UInt32
  reserved : UInt32
  sqhead : UInt16
  sqid : UInt16
  cid : UInt16
  status : UInt16
  deriving DecidableEq

def NvmeCompletion.zeroed : NvmeCompletion where
  cdw0 := 0
  reserved := 0
  sqhead := 0
  sqid := 0
  cid := 0
  status := 0

/-- What `alloc_zeroed` has handed out, by what is kept in it. -/
structure Memory where
  commands : Heap (List NvmeCmd)
  completions : Heap (List NvmeCompletion)
  pages : Heap (List UInt8)

namespace Memory

def command (memory : Memory) (pointer index : Nat) : Option NvmeCmd := do
  let queue ← memory.commands.read pointer
  queue[index]?

def completion (memory : Memory) (pointer index : Nat) : Option NvmeCompletion := do
  let queue ← memory.completions.read pointer
  queue[index]?

/-- `queue[index] = command`; an index outside the queue panics. -/
def setCommand (memory : Memory) (pointer index : Nat) (command : NvmeCmd) : Option Memory := do
  let queue ← memory.commands.read pointer
  if index < queue.length then
    some { memory with commands := memory.commands.write pointer (queue.set index command) }
  else none

def setCompletion (memory : Memory) (pointer index : Nat) (completion : NvmeCompletion) :
    Option Memory := do
  let queue ← memory.completions.read pointer
  if index < queue.length then
    some { memory with completions := memory.completions.write pointer (queue.set index completion) }
  else none

variable {memory : Memory} {pointer index : Nat}

theorem setCommand_of_read {queue : List NvmeCmd} (found : memory.commands.read pointer = some queue)
    (inside : index < queue.length) (command : NvmeCmd) :
    memory.setCommand pointer index command = some { memory with
      commands := memory.commands.write pointer (queue.set index command) } := by
  simp only [setCommand, found, Option.bind_eq_bind, Option.bind_some, if_pos inside]

theorem setCompletion_of_read {queue : List NvmeCompletion}
    (found : memory.completions.read pointer = some queue) (inside : index < queue.length)
    (completion : NvmeCompletion) :
    memory.setCompletion pointer index completion = some { memory with
      completions := memory.completions.write pointer (queue.set index completion) } := by
  simp only [setCompletion, found, Option.bind_eq_bind, Option.bind_some, if_pos inside]

theorem command_of_read {queue : List NvmeCmd} (found : memory.commands.read pointer = some queue) :
    memory.command pointer index = queue[index]? := by
  simp only [command, found, Option.bind_eq_bind, Option.bind_some]

theorem completion_of_read {queue : List NvmeCompletion}
    (found : memory.completions.read pointer = some queue) :
    memory.completion pointer index = queue[index]? := by
  simp only [completion, found, Option.bind_eq_bind, Option.bind_some]

end Memory

structure Machine (State : Type) where
  device : State
  memory : Memory

/-- What the driver meets behind its registers: the answer to a read, the
effect of a write, and the next step of the hardware's own work. -/
structure Hardware (State : Type) where
  readReg : State → Nat → UInt32
  writeReg : State → Nat → Nat → State
  step : Machine State → Machine State

variable {State : Type}

def Hardware.write (hardware : Hardware State) (machine : Machine State) (offset value : Nat) :
    Machine State :=
  { machine with device := hardware.writeReg machine.device offset value }

/-- The phase bit of a completion entry is set. -/
def Machine.completed (pointer index : Nat) (machine : Machine State) : Bool :=
  match machine.memory.completion pointer index with
  | some entry => entry.status &&& 0x01 != 0
  | none => false

structure Nvme where
  bar0 : Nat
  asqPtr : Nat
  acqPtr : Nat
  iosqPtr : Nat
  iocqPtr : Nat
  iosqTail : Nat
  iocqHead : Nat

/-- The steps that the hardware takes during a call of `read_sector`: in the turns of the
wait, and between the other accesses to the queues and the doorbells. -/
structure ReadPace where
  cleared : Nat
  stored : Nat
  turns : Nat → Nat
  left : Nat
  acknowledged : Nat

/-- All of them fall into the wait. -/
def ReadPace.waiting (turns : Nat → Nat) : ReadPace where
  cleared := 0
  stored := 0
  turns := turns
  left := 0
  acknowledged := 0

/-- What a call of `read_sector` did: the command it submitted, the entry that
ended its wait unless the loop gave up, and the bytes it returned. -/
structure Reading where
  command : NvmeCmd
  observed : Option NvmeCompletion
  sector : List UInt8

namespace Nvme

def new (bar0 : Nat) : Nvme where
  bar0 := bar0
  asqPtr := 0
  acqPtr := 0
  iosqPtr := 0
  iocqPtr := 0
  iosqTail := 0
  iocqHead := 0

def numEntries : Nat := 16

/-- The four queues, allocated in the order of the source. -/
def allocQueues (nvme : Nvme) (memory : Memory) : Nvme × Memory :=
  let (asqPtr, commands) := memory.commands.alloc (List.replicate numEntries NvmeCmd.zeroed)
  let (acqPtr, completions) :=
    memory.completions.alloc (List.replicate numEntries NvmeCompletion.zeroed)
  let (iosqPtr, commands) := commands.alloc (List.replicate numEntries NvmeCmd.zeroed)
  let (iocqPtr, completions) := completions.alloc (List.replicate numEntries NvmeCompletion.zeroed)
  ({ nvme with asqPtr := asqPtr, acqPtr := acqPtr, iosqPtr := iosqPtr, iocqPtr := iocqPtr },
    { memory with commands := commands, completions := completions })

def createCompletionQueue (nvme : Nvme) : NvmeCmd :=
  { NvmeCmd.zeroed with
    cdw0 := (0x05 : UInt32) ||| (1 : UInt32) <<< 16
    prp1 := nvme.iocqPtr
    cdw10 := (15 : UInt32) <<< 16 ||| (1 : UInt32)
    cdw11 := 1 }

def createSubmissionQueue (nvme : Nvme) : NvmeCmd :=
  { NvmeCmd.zeroed with
    cdw0 := (0x01 : UInt32) ||| (2 : UInt32) <<< 16
    prp1 := nvme.iosqPtr
    cdw10 := (15 : UInt32) <<< 16 ||| (1 : UInt32)
    cdw11 := (1 : UInt32) <<< 16 ||| (1 : UInt32) }

/-- Submit an admin command in the given slot and wait for its completion; the
loop's end does not show whether there was one. -/
def adminCommand (nvme : Nvme) (hardware : Hardware State) (pace : Nat → Nat)
    (machine : Machine State) (slot : Nat) (command : NvmeCmd) : Option (Machine State) := do
  let memory ← machine.memory.setCommand nvme.asqPtr slot command
  let machine := hardware.write { machine with memory := memory } 0x1000 (slot + 1)
  let _ ← machine.memory.completion nvme.acqPtr slot
  let (_, machine) := await hardware.step (Machine.completed nvme.acqPtr slot) 10000000 pace machine
  some (hardware.write machine 0x1004 (slot + 1))

/-- `init`; the hardware takes `pace loop turn` steps in a turn of a loop. -/
def init (nvme : Nvme) (hardware : Hardware State) (pace : Nat → Nat → Nat)
    (machine : Machine State) : Option (Nvme × Machine State) := do
  let testRead := hardware.readReg machine.device 0x1C
  if testRead = 0xFFFFFFFF then return (nvme, machine)
  let cc := hardware.readReg machine.device 0x14 &&& ~~~1
  let machine := hardware.write machine 0x14 cc.toNat
  let (stopped, machine) := await hardware.step
    (fun machine => hardware.readReg machine.device 0x1C &&& 1 == 0) 10000000 (pace 0) machine
  if stopped = false then return (nvme, machine)
  let (nvme, memory) := nvme.allocQueues machine.memory
  let machine := { machine with memory := memory }
  let aqa := (numEntries - 1) <<< 16 ||| (numEntries - 1)
  let machine := hardware.write machine 0x24 aqa
  let machine := hardware.write machine 0x28 nvme.asqPtr
  let machine := hardware.write machine 0x30 nvme.acqPtr
  let ccNew := 1 <<< 0 ||| 6 <<< 16 ||| 4 <<< 20
  let machine := hardware.write machine 0x14 ccNew
  let (started, machine) := await hardware.step
    (fun machine => hardware.readReg machine.device 0x1C &&& 1 != 0) 10000000 (pace 1) machine
  if started = false then return (nvme, machine)
  let machine ← nvme.adminCommand hardware (pace 2) machine 0 nvme.createCompletionQueue
  let machine ← nvme.adminCommand hardware (pace 3) machine 1 nvme.createSubmissionQueue
  some (nvme, machine)

/-- The command which `read_sector` puts into slot `cmdIdx`. -/
def readCommand (cmdIdx dataPtr : Nat) (lba : UInt64) : NvmeCmd :=
  { NvmeCmd.zeroed with
    cdw0 := (0x02 : UInt32) ||| UInt32.ofNat cmdIdx <<< (16 : UInt32)
    nsid := 1
    prp1 := dataPtr
    cdw10 := (lba &&& 0xFFFFFFFF).toUInt32
    cdw11 := (lba >>> 32).toUInt32 }

/-- `read_sector` up to the command: the page for the data, and the cleared entry. -/
def clear (nvme : Nvme) (hardware : Hardware State) (pace : ReadPace) (machine : Machine State) :
    Option (Nat × Machine State) := do
  let (dataPtr, pages) := machine.memory.pages.alloc (List.replicate 4096 0)
  let memory := { machine.memory with pages := pages }
  let previous ← memory.completion nvme.iocqPtr nvme.iosqTail
  let memory ← memory.setCompletion nvme.iocqPtr nvme.iosqTail { previous with status := 0 }
  some (dataPtr, hardware.step^[pace.cleared] { machine with memory := memory })

/-- The command goes into its slot, and the doorbell rings. -/
def submit (nvme : Nvme) (hardware : Hardware State) (pace : ReadPace) (machine : Machine State)
    (command : NvmeCmd) : Option (Machine State) := do
  let memory ← machine.memory.setCommand nvme.iosqPtr nvme.iosqTail command
  let machine := hardware.step^[pace.stored] { machine with memory := memory }
  some (hardware.write machine 0x1008 ((nvme.iosqTail + 1) % 16))

/-- The wait, and the entry that has ended it. -/
def observe (nvme : Nvme) (hardware : Hardware State) (pace : ReadPace) (machine : Machine State) :
    Option (Option NvmeCompletion × Machine State) := do
  let cqIdx := nvme.iocqHead
  let _ ← machine.memory.completion nvme.iocqPtr cqIdx
  let (seen, machine) :=
    await hardware.step (Machine.completed nvme.iocqPtr cqIdx) 20000000 pace.turns machine
  let observed := if seen then machine.memory.completion nvme.iocqPtr cqIdx else none
  some (observed, hardware.step^[pace.left] machine)

def readSector (nvme : Nvme) (hardware : Hardware State) (pace : ReadPace)
    (machine : Machine State) (lba : UInt64) : Option (Reading × Nvme × Machine State) := do
  let (dataPtr, machine) ← nvme.clear hardware pace machine
  let command := readCommand nvme.iosqTail dataPtr lba
  let machine ← nvme.submit hardware pace machine command
  let (observed, machine) ← nvme.observe hardware pace machine
  let iocqHead := (nvme.iocqHead + 1) % 16
  let machine := hardware.step^[pace.acknowledged] (hardware.write machine 0x100C iocqHead)
  let page ← machine.memory.pages.read dataPtr
  let sector ← slice page 0 512
  some ({ command := command, observed := observed, sector := sector },
    { nvme with iosqTail := (nvme.iosqTail + 1) % 16, iocqHead := iocqHead }, machine)

/-- The memory when the doorbell rings: a new page, a cleared completion entry
and the command in its slot. -/
def prepared (nvme : Nvme) (memory : Memory) (sq : List NvmeCmd) (cq : List NvmeCompletion)
    (old : NvmeCompletion) (lba : UInt64) : Memory where
  commands := memory.commands.write nvme.iosqPtr
    (sq.set nvme.iosqTail (readCommand nvme.iosqTail (memory.pages.length + 1) lba))
  completions := memory.completions.write nvme.iocqPtr
    (cq.set nvme.iosqTail { old with status := 0 })
  pages := memory.pages ++ [List.replicate 4096 0]

variable {hardware : Hardware State} {nvme : Nvme} {machine : Machine State}

/-- An admin command around its wait. -/
theorem adminCommand_eq {pace : Nat → Nat} {slot : Nat} {command : NvmeCmd} {sq : List NvmeCmd}
    {cq : List NvmeCompletion} {seen : Bool} {after : Machine State}
    (submission : machine.memory.commands.read nvme.asqPtr = some sq) (inside : slot < sq.length)
    (completion : machine.memory.completions.read nvme.acqPtr = some cq) (watched : slot < cq.length)
    (awaited : await hardware.step (Machine.completed nvme.acqPtr slot) 10000000 pace
      (hardware.write ⟨machine.device, { machine.memory with
        commands := machine.memory.commands.write nvme.asqPtr (sq.set slot command) }⟩ 0x1000
          (slot + 1)) = (seen, after)) :
    nvme.adminCommand hardware pace machine slot command =
      some (hardware.write after 0x1004 (slot + 1)) := by
  have entry : machine.memory.completion nvme.acqPtr slot = some cq[slot] := by
    rw [Memory.completion_of_read completion, List.getElem?_eq_getElem watched]
  unfold adminCommand
  rw [Memory.setCommand_of_read submission inside, Option.bind_eq_bind, Option.bind_some]
  change (machine.memory.completion nvme.acqPtr slot).bind _ = _
  rw [entry, Option.bind_some, awaited]

/-- What the driver writes before it starts the controller again. -/
def configured (hardware : Hardware State) (nvme : Nvme) (machine : Machine State) :
    Machine State :=
  let machine := hardware.write machine 0x24 ((numEntries - 1) <<< 16 ||| (numEntries - 1))
  let machine := hardware.write machine 0x28 nvme.asqPtr
  let machine := hardware.write machine 0x30 nvme.acqPtr
  hardware.write machine 0x14 (1 <<< 0 ||| 6 <<< 16 ||| 4 <<< 20)

/-- An `init` none of whose loops gives up. -/
theorem init_eq {pace : Nat → Nat → Nat} {ready : Nvme} {queues : Memory}
    {stopped started first second : Machine State}
    (answers : hardware.readReg machine.device 0x1C ≠ 0xFFFFFFFF)
    (stops : await hardware.step (fun machine => hardware.readReg machine.device 0x1C &&& 1 == 0)
      10000000 (pace 0)
      (hardware.write machine 0x14 (hardware.readReg machine.device 0x14 &&& ~~~1).toNat) =
        (true, stopped))
    (allocates : nvme.allocQueues stopped.memory = (ready, queues))
    (starts : await hardware.step (fun machine => hardware.readReg machine.device 0x1C &&& 1 != 0)
      10000000 (pace 1) (configured hardware ready ⟨stopped.device, queues⟩) = (true, started))
    (creates : ready.adminCommand hardware (pace 2) started 0 ready.createCompletionQueue =
      some first)
    (submits : ready.adminCommand hardware (pace 3) first 1 ready.createSubmissionQueue =
      some second) :
    nvme.init hardware pace machine = some (ready, second) := by
  unfold configured at starts
  simp only [init, if_neg answers, stops, allocates, starts, creates, submits, Option.bind_eq_bind,
    Option.bind_some, Bool.true_eq_false, if_false]

section ReadSector

variable {pace : ReadPace} {sq : List NvmeCmd} {cq : List NvmeCompletion} {old : NvmeCompletion}

/-- The memory behind `clear`. -/
def emptied (nvme : Nvme) (memory : Memory) (cq : List NvmeCompletion) (old : NvmeCompletion) :
    Memory :=
  { memory with
    completions := memory.completions.write nvme.iocqPtr
      (cq.set nvme.iosqTail { old with status := 0 })
    pages := memory.pages ++ [List.replicate 4096 0] }

theorem clear_eq (completion : machine.memory.completions.read nvme.iocqPtr = some cq)
    (present : cq[nvme.iosqTail]? = some old) :
    nvme.clear hardware pace machine = some (machine.memory.pages.length + 1,
      hardware.step^[pace.cleared] { machine with
        memory := nvme.emptied machine.memory cq old }) := by
  obtain ⟨inside, -⟩ := List.getElem?_eq_some_iff.mp present
  let paged : Memory := { machine.memory with
    pages := machine.memory.pages ++ [List.replicate 4096 0] }
  have inPaged : paged.completions.read nvme.iocqPtr = some cq := completion
  have initial : paged.completion nvme.iocqPtr nvme.iosqTail = some old := by
    rw [Memory.completion_of_read inPaged, present]
  have reset : paged.setCompletion nvme.iocqPtr nvme.iosqTail { old with status := 0 } =
      some (nvme.emptied machine.memory cq old) := Memory.setCompletion_of_read inPaged inside _
  change (paged.completion nvme.iocqPtr nvme.iosqTail).bind _ = _
  rw [initial, Option.bind_some]
  change (paged.setCompletion nvme.iocqPtr nvme.iosqTail { old with status := 0 }).bind _ = _
  rw [reset]
  rfl

theorem submit_eq (submission : machine.memory.commands.read nvme.iosqPtr = some sq)
    (tail : nvme.iosqTail < sq.length) (command : NvmeCmd) :
    nvme.submit hardware pace machine command = some (hardware.write
      (hardware.step^[pace.stored] { machine with memory := { machine.memory with
        commands := machine.memory.commands.write nvme.iosqPtr (sq.set nvme.iosqTail command) } })
      0x1008 ((nvme.iosqTail + 1) % 16)) := by
  rw [submit, Memory.setCommand_of_read submission tail]
  rfl

theorem observe_eq {seen : Bool} {after : Machine State}
    (completion : machine.memory.completions.read nvme.iocqPtr = some cq)
    (head : nvme.iocqHead < cq.length)
    (awaited : await hardware.step (Machine.completed nvme.iocqPtr nvme.iocqHead) 20000000
      pace.turns machine = (seen, after)) :
    nvme.observe hardware pace machine =
      some (if seen then after.memory.completion nvme.iocqPtr nvme.iocqHead else none,
        hardware.step^[pace.left] after) := by
  have entry : machine.memory.completion nvme.iocqPtr nvme.iocqHead = some cq[nvme.iocqHead] := by
    rw [Memory.completion_of_read completion, List.getElem?_eq_getElem head]
  unfold observe
  change (machine.memory.completion nvme.iocqPtr nvme.iocqHead).bind _ = _
  rw [entry, Option.bind_some, awaited]

/-- The parts of a call on hardware that has nothing to do until the doorbell rings. -/
theorem stages_eq {lba : UInt64} {seen : Bool} {waited : Machine State}
    (submission : machine.memory.commands.read nvme.iosqPtr = some sq)
    (completion : machine.memory.completions.read nvme.iocqPtr = some cq)
    (tail : nvme.iosqTail < sq.length) (present : cq[nvme.iosqTail]? = some old)
    (head : nvme.iocqHead < cq.length)
    (rests : ∀ memory, hardware.step ⟨machine.device, memory⟩ = ⟨machine.device, memory⟩)
    (awaited : await hardware.step (Machine.completed nvme.iocqPtr nvme.iocqHead) 20000000
      pace.turns (hardware.write ⟨machine.device, nvme.prepared machine.memory sq cq old lba⟩
        0x1008 ((nvme.iosqTail + 1) % 16)) = (seen, waited)) :
    nvme.clear hardware pace machine = some (machine.memory.pages.length + 1,
        ⟨machine.device, nvme.emptied machine.memory cq old⟩) ∧
      nvme.submit hardware pace ⟨machine.device, nvme.emptied machine.memory cq old⟩
          (readCommand nvme.iosqTail (machine.memory.pages.length + 1) lba) =
        some (hardware.write ⟨machine.device, nvme.prepared machine.memory sq cq old lba⟩ 0x1008
          ((nvme.iosqTail + 1) % 16)) ∧
      nvme.observe hardware pace (hardware.write
          ⟨machine.device, nvme.prepared machine.memory sq cq old lba⟩ 0x1008
          ((nvme.iosqTail + 1) % 16)) =
        some (if seen then waited.memory.completion nvme.iocqPtr nvme.iocqHead else none,
          hardware.step^[pace.left] waited) := by
  have inEmptied : (Machine.mk machine.device
      (nvme.emptied machine.memory cq old)).memory.commands.read nvme.iosqPtr = some sq := submission
  refine ⟨?_, ?_, observe_eq (Heap.read_write completion _) (by rwa [List.length_set]) awaited⟩
  · rw [clear_eq completion present, iterate_settled (rests _)]
  · rw [submit_eq inEmptied tail, iterate_settled (rests _)]
    rfl

/-- The whole call, around its wait. -/
theorem readSector_eq {lba : UInt64} {seen : Bool} {waited after final : Machine State}
    {page sector : List UInt8}
    (submission : machine.memory.commands.read nvme.iosqPtr = some sq)
    (completion : machine.memory.completions.read nvme.iocqPtr = some cq)
    (tail : nvme.iosqTail < sq.length) (present : cq[nvme.iosqTail]? = some old)
    (head : nvme.iocqHead < cq.length)
    (rests : ∀ memory, hardware.step ⟨machine.device, memory⟩ = ⟨machine.device, memory⟩)
    (awaited : await hardware.step (Machine.completed nvme.iocqPtr nvme.iocqHead) 20000000
      pace.turns (hardware.write ⟨machine.device, nvme.prepared machine.memory sq cq old lba⟩
        0x1008 ((nvme.iosqTail + 1) % 16)) = (seen, waited))
    (left : hardware.step^[pace.left] waited = after)
    (acknowledged : hardware.step^[pace.acknowledged]
      (hardware.write after 0x100C ((nvme.iocqHead + 1) % 16)) = final)
    (found : final.memory.pages.read (machine.memory.pages.length + 1) = some page)
    (sliced : slice page 0 512 = some sector) :
    nvme.readSector hardware pace machine lba =
      some ({ command := readCommand nvme.iosqTail (machine.memory.pages.length + 1) lba
              observed := if seen then waited.memory.completion nvme.iocqPtr nvme.iocqHead else none
              sector := sector },
        { nvme with
          iosqTail := (nvme.iosqTail + 1) % 16
          iocqHead := (nvme.iocqHead + 1) % 16 },
        final) := by
  obtain ⟨cleared, submitted, observed⟩ :=
    stages_eq submission completion tail present head rests awaited
  rw [left] at observed
  unfold readSector
  rw [cleared]
  dsimp only [Option.bind_eq_bind, Option.bind_some]
  rw [submitted]
  dsimp only [Option.bind_eq_bind, Option.bind_some]
  rw [observed]
  dsimp only [Option.bind_eq_bind, Option.bind_some]
  rw [acknowledged, found, Option.bind_some, sliced]
  rfl

end ReadSector

end Nvme

end QoreOS.Storage
