import QoreOS.Library.Run
import QoreOS.Storage.Startup

/-! Reading sectors from a controller that keeps to the specification. The
driver waits for phase tag 1 on every pass over the completion queue, so only
the calls of every other pass see their completion. -/

namespace QoreOS.Storage

open QoreOS.Library

/-- What `read_sector` promises: its wait ended with the completion of its own
command, posted during the call, and it returns the block. -/
structure Reading.Right (reading : Reading) (before after : Controller) (lba : UInt64) : Prop where
  observed : ∃ entry, reading.observed = some entry ∧
    after.log = before.log ++ [(reading.command, entry)]
  sector : ∃ block, before.blocks[lba.toNat]? = some block ∧ reading.sector = block.toList

/-- The controller takes three steps, which is what a command needs, before the driver
acknowledges. -/
def ReadPace.InTime (pace : ReadPace) : Prop :=
  3 ≤ ∑ turn ∈ Finset.range (20000000 + 1), pace.turns turn + pace.left

theorem ReadPace.inTime_of_prompt {pace : ReadPace} (prompt : Prompt 20000000 3 pace.turns) :
    pace.InTime :=
  Nat.le_add_right_of_le prompt

/-- Between two calls the controller has nothing to do. -/
theorem Serving.rests {count : Nat} {nvme : Nvme} {machine : Machine Controller}
    (serving : Serving count nvme machine) (memory : Memory) :
    Controller.step ⟨machine.device, memory⟩ = ⟨machine.device, memory⟩ :=
  Controller.step_idle memory serving.running serving.alone (by decide) serving.pair
    (by simp [QueuePair.busy, ioPair])

theorem phase_next (count : Nat) :
    (if count % 16 + 1 = 16 then !(count / 16 % 2 == 0) else count / 16 % 2 == 0) =
      ((count + 1) / 16 % 2 == 0) := by
  split
  · rename_i wraps
    have pass : (count + 1) / 16 = count / 16 + 1 := by omega
    rw [pass]
    rcases Nat.mod_two_eq_zero_or_one (count / 16) with even | odd
    · have next : (count / 16 + 1) % 2 = 1 := by omega
      rw [even, next]
      rfl
    · have next : (count / 16 + 1) % 2 = 0 := by omega
      rw [odd, next]
      rfl
  · rename_i inside
    have pass : (count + 1) / 16 = count / 16 := by omega
    rw [pass]

/-- One command and its acknowledgement move every index one slot on. -/
theorem ioPair_next (nvme : Nvme) (count : Nat) :
    { { ioPair nvme count with sqTail := (count + 1) % 16 }.taken.posted with
      cqHead := (count + 1) % 16 } = ioPair nvme (count + 1) :=
  congrArg₂ (fun cqTail phase => QueuePair.mk nvme.iosqPtr 16 ((count + 1) % 16) ((count + 1) % 16)
    nvme.iocqPtr 16 ((count + 1) % 16) cqTail phase .idle)
    (Nat.mod_add_mod count 16 1) (phase_next count)

namespace Nvme

/-- The command word carries the opcode of a read whatever the slot. -/
theorem readCommand_opcode {slot : Nat} (small : slot < 16) (dataPtr : Nat) (lba : UInt64) :
    (readCommand slot dataPtr lba).cdw0 &&& 0xFF = 0x02 := by
  have checked : ∀ slot : Fin 16,
      ((0x02 : UInt32) ||| UInt32.ofNat slot <<< (16 : UInt32)) &&& 0xFF = 0x02 := by decide
  exact checked ⟨slot, small⟩

/-- The two halves of the block address. -/
theorem readCommand_lba (slot dataPtr : Nat) (lba : UInt64) :
    (readCommand slot dataPtr lba).cdw10.toNat +
      2 ^ 32 * (readCommand slot dataPtr lba).cdw11.toNat = lba.toNat := by
  have low : (readCommand slot dataPtr lba).cdw10.toNat = lba.toNat % 2 ^ 32 := by
    change (lba &&& 0xFFFFFFFF).toUInt32.toNat = _
    have mask : (0xFFFFFFFF : UInt64).toNat = 2 ^ 32 - 1 := rfl
    rw [UInt64.toNat_toUInt32, UInt64.toNat_and, mask, Nat.and_two_pow_sub_one_eq_mod,
      Nat.mod_mod]
  have high : (readCommand slot dataPtr lba).cdw11.toNat = lba.toNat / 2 ^ 32 := by
    change (lba >>> 32).toUInt32.toNat = _
    have shift : (32 : UInt64).toNat % 64 = 32 := rfl
    have bound := lba.toNat_lt
    rw [UInt64.toNat_toUInt32, UInt64.toNat_shiftRight, shift, Nat.shiftRight_eq_div_pow]
    omega
  rw [low, high, Nat.mod_add_div]

/-- A read of a valid block fills the first 512 bytes of its page. -/
theorem executeIo_readCommand (controller : Controller) (memory : Memory) {slot dataPtr : Nat}
    {lba : UInt64} {block : Sector} {page : List UInt8} (small : slot < 16)
    (valid : controller.blocks[lba.toNat]? = some block)
    (found : memory.pages.read dataPtr = some page) :
    controller.executeIo (readCommand slot dataPtr lba) memory = (0, { memory with
      pages := memory.pages.write dataPtr (block.toList ++ page.drop 512) }) := by
  obtain ⟨inside, at_lba⟩ := List.getElem?_eq_some_iff.mp valid
  have single : (readCommand slot dataPtr lba).cdw12.toNat % 2 ^ 16 + 1 = 1 := rfl
  have data : ((controller.blocks.drop lba.toNat).take 1).flatMap Vector.toList = block.toList := by
    rw [List.drop_eq_getElem_cons inside, at_lba, List.take_succ_cons, List.take_zero,
      List.flatMap_singleton]
  have size : block.toList.length = 512 := by simp
  have address : (readCommand slot dataPtr lba).prp1 = dataPtr := rfl
  have namespaceId : (readCommand slot dataPtr lba).nsid = 1 := rfl
  simp only [Controller.executeIo, readCommand_opcode small, readCommand_lba, single, data, size,
    address, namespaceId, found, bne_self_eq_false, Bool.false_eq_true, if_false]
  rw [if_pos (Nat.succ_le_of_lt inside)]

theorem slice_block (block : Sector) (rest : List UInt8) :
    slice (block.toList ++ rest) 0 512 = some block.toList := by
  have whole := slice_append [] block.toList rest
  rwa [Vector.length_toList] at whole

/-- The pair between the doorbells of the call that follows `count` others. -/
def waitingPair (nvme : Nvme) (count : Nat) : QueuePair :=
  { ioPair nvme count with sqTail := (count + 1) % 16 }

/-- A call has rung the doorbell: its command waits in the slot, and its
execution answers `statusCode` and changes the memory into `executed`. -/
structure Submitted (count : Nat) (nvme : Nvme) (machine : Machine Controller) (lba : UInt64)
    (sq : List NvmeCmd) (cq : List NvmeCompletion) (old : NvmeCompletion) (statusCode : UInt16)
    (executed : Memory) : Prop where
  serving : Serving count nvme machine
  submission : machine.memory.commands.read nvme.iosqPtr = some sq
  sqLength : sq.length = 16
  completion : machine.memory.completions.read nvme.iocqPtr = some cq
  cqLength : cq.length = 16
  present : cq[nvme.iosqTail]? = some old
  quiet : executed.commands = (nvme.prepared machine.memory sq cq old lba).commands ∧
    executed.completions = (nvme.prepared machine.memory sq cq old lba).completions
  executes : ∀ other, ((machine.device.setPair 1 (waitingPair nvme count)).setPair 1 other).execute 1
      (readCommand nvme.iosqTail (machine.memory.pages.length + 1) lba)
      (nvme.prepared machine.memory sq cq old lba) =
    (statusCode, ⟨(machine.device.setPair 1 (waitingPair nvme count)).setPair 1 other, executed⟩)

/-- The entry with which the controller reports the command. -/
def reportedEntry (nvme : Nvme) (machine : Machine Controller) (count : Nat) (lba : UInt64)
    (statusCode : UInt16) : NvmeCompletion :=
  (waitingPair nvme count).taken.report 1
    (readCommand nvme.iosqTail (machine.memory.pages.length + 1) lba) statusCode

/-- The command is completed, and its entry not yet acknowledged. -/
def completedState (nvme : Nvme) (machine : Machine Controller) (count : Nat) (lba : UInt64)
    (cq : List NvmeCompletion) (old : NvmeCompletion) (statusCode : UInt16) (executed : Memory) :
    Machine Controller where
  device := (machine.device.setPair 1 (waitingPair nvme count)).served 1
    (waitingPair nvme count).taken
    (readCommand nvme.iosqTail (machine.memory.pages.length + 1) lba) statusCode
  memory := { executed with
    completions := executed.completions.write nvme.iocqPtr
      ((cq.set nvme.iosqTail { old with status := 0 }).set (count % 16)
        (reportedEntry nvme machine count lba statusCode)) }

namespace Submitted

variable {count : Nat} {nvme : Nvme} {machine : Machine Controller} {lba : UInt64}
  {sq : List NvmeCmd} {cq : List NvmeCompletion} {old : NvmeCompletion} {statusCode : UInt16}
  {executed : Memory}

theorem indices (submitted : Submitted count nvme machine lba sq cq old statusCode executed) :
    nvme.iosqTail < sq.length ∧ nvme.iosqTail < cq.length ∧ nvme.iocqHead = nvme.iosqTail ∧
      (nvme.iosqTail + 1) % 16 = (count + 1) % 16 := by
  have tail := submitted.serving.tail
  have head := submitted.serving.head
  have sqLength := submitted.sqLength
  have cqLength := submitted.cqLength
  have small : count % 16 < 16 := Nat.mod_lt _ (by decide)
  omega

theorem cleared (submitted : Submitted count nvme machine lba sq cq old statusCode executed) :
    (nvme.prepared machine.memory sq cq old lba).completions.read nvme.iocqPtr =
      some (cq.set nvme.iosqTail { old with status := 0 }) ∧
    (cq.set nvme.iosqTail { old with status := 0 })[count % 16]? =
      some { old with status := 0 } := by
  obtain ⟨-, cqInside, -, -⟩ := submitted.indices
  refine ⟨Heap.read_write submitted.completion _, ?_⟩
  rw [← submitted.serving.tail]
  exact List.getElem?_set_self cqInside

theorem pending (submitted : Submitted count nvme machine lba sq cq old statusCode executed) :
    Controller.Pending (machine.device.setPair 1 (waitingPair nvme count))
      (nvme.prepared machine.memory sq cq old lba) 1 (waitingPair nvme count)
      (readCommand nvme.iosqTail (machine.memory.pages.length + 1) lba) statusCode
      (machine.device.setPair 1 (waitingPair nvme count)) executed where
  running := submitted.serving.running
  alone := submitted.serving.alone.setPair _
  small := by decide
  found := Controller.setPair_pairs ..
  idle := rfl
  waiting := by
    change count % 16 ≠ (count + 1) % 16
    omega
  single := Nat.mod_add_mod ..
  room := by
    change (count % 16 + 1) % 16 ≠ count % 16
    omega
  read := by
    obtain ⟨sqInside, -, -, -⟩ := submitted.indices
    change (nvme.prepared machine.memory sq cq old lba).command nvme.iosqPtr (count % 16) = _
    rw [Memory.command_of_read (Heap.read_write submitted.submission _), ← submitted.serving.tail]
    exact List.getElem?_set_self sqInside
  executes := submitted.executes
  steady := submitted.serving.running
  aloneAfter := submitted.serving.alone.setPair _
  quiet := submitted.quiet.2

theorem rung (submitted : Submitted count nvme machine lba sq cq old statusCode executed) :
    Controller.hardware.write ⟨machine.device, nvme.prepared machine.memory sq cq old lba⟩ 0x1008
        ((nvme.iosqTail + 1) % 16) =
      ⟨machine.device.setPair 1 (waitingPair nvme count),
        nvme.prepared machine.memory sq cq old lba⟩ := by
  obtain ⟨-, -, -, next_slot⟩ := submitted.indices
  change (⟨machine.device.ring 1 _, _⟩ : Machine Controller) = _
  rw [Controller.ring_eq submitted.serving.pair, next_slot]
  rfl

/-- A controller that is done in time has come to rest before the driver acknowledges. -/
theorem awaits (submitted : Submitted count nvme machine lba sq cq old statusCode executed)
    {pace : ReadPace} (inTime : pace.InTime) :
    ∃ seen waited, await Controller.hardware.step
        (Machine.completed nvme.iocqPtr nvme.iocqHead) 20000000 pace.turns
        (Controller.hardware.write ⟨machine.device, nvme.prepared machine.memory sq cq old lba⟩
          0x1008 ((nvme.iosqTail + 1) % 16)) = (seen, waited) ∧
      Controller.hardware.step^[pace.left] waited =
        completedState nvme machine count lba cq old statusCode executed ∧
      (Prompt 20000000 3 pace.turns → seen = (count / 16 % 2 == 0) ∧
        waited = completedState nvme machine count lba cq old statusCode executed) := by
  obtain ⟨-, -, same, -⟩ := submitted.indices
  obtain ⟨completions, emptied⟩ := submitted.cleared
  have zero : (0 : UInt16) &&& 0x01 = 0 := by decide
  obtain ⟨reached, settled, early, shows⟩ :=
    Controller.completes_command submitted.pending completions emptied zero
  obtain ⟨seen, waited, awaited, left, prompts⟩ :=
    await_left_settled inTime reached settled early
  rw [shows] at prompts
  have unchanged : executed.completions = (nvme.prepared machine.memory sq cq old lba).completions :=
    submitted.quiet.2
  rw [← unchanged] at left prompts
  refine ⟨seen, waited, ?_, left, prompts⟩
  rw [submitted.rung, same, submitted.serving.tail]
  exact awaited

/-- A controller that is done in time: driver and controller move on together. The wait sees
the completion on the passes whose phase tag is 1, unless it gives up first. -/
theorem completes (submitted : Submitted count nvme machine lba sq cq old statusCode executed)
    {pace : ReadPace} (inTime : pace.InTime) {page sector : List UInt8}
    (found : executed.pages.read (machine.memory.pages.length + 1) = some page)
    (sliced : slice page 0 512 = some sector) :
    ∃ reading after next, nvme.readSector Controller.hardware pace machine lba =
        some (reading, after, next) ∧
      Serving (count + 1) after next ∧ next.device.blocks = machine.device.blocks ∧
      reading.sector = sector ∧
      ∃ entry, next.device.log = machine.device.log ++ [(reading.command, entry)] ∧
        (Prompt 20000000 3 pace.turns →
          reading.observed = if count / 16 % 2 = 0 then some entry else none) := by
  obtain ⟨sqInside, cqInside, same, next_slot⟩ := submitted.indices
  obtain ⟨seen, waited, awaited, left, prompts⟩ := submitted.awaits inTime
  obtain ⟨rest, resting⟩ : ∃ rest, completedState nvme machine count lba cq old statusCode executed =
    rest := ⟨_, rfl⟩
  have completions : executed.completions.read nvme.iocqPtr =
      some (cq.set nvme.iosqTail { old with status := 0 }) := by
    rw [submitted.quiet.2]
    exact submitted.cleared.1
  have device : rest.device = (machine.device.setPair 1 (waitingPair nvme count)).served 1
      (waitingPair nvme count).taken
      (readCommand nvme.iosqTail (machine.memory.pages.length + 1) lba) statusCode := by
    rw [← resting]
    rfl
  let final : QueuePair := { (waitingPair nvme count).taken.posted with cqHead := (count + 1) % 16 }
  have acknowledged : Controller.hardware.write rest 0x100C ((nvme.iocqHead + 1) % 16) =
      ⟨rest.device.setPair 1 final, rest.memory⟩ := by
    change (⟨rest.device.ring 1 _, rest.memory⟩ : Machine Controller) = _
    rw [device, Controller.ring_eq (Controller.served_pairs ..), same, next_slot]
  have queue : rest.memory.completions.read nvme.iocqPtr = some
      ((cq.set nvme.iosqTail { old with status := 0 }).set (count % 16)
        (reportedEntry nvme machine count lba statusCode)) := by
    rw [← resting]
    exact Heap.read_write completions _
  have observed : rest.memory.completion nvme.iocqPtr nvme.iocqHead =
      some (reportedEntry nvme machine count lba statusCode) := by
    obtain ⟨-, emptied⟩ := submitted.cleared
    rw [Memory.completion_of_read queue, same, submitted.serving.tail]
    rw [submitted.serving.tail] at emptied
    exact List.getElem?_set_self (List.getElem?_eq_some_iff.mp emptied).1
  have serving : Serving (count + 1) { nvme with
      iosqTail := (nvme.iosqTail + 1) % 16
      iocqHead := (nvme.iocqHead + 1) % 16 } ⟨rest.device.setPair 1 final, rest.memory⟩ := by
    refine ⟨next_slot, by rw [same]; exact next_slot, ?_, ?_, ?_, ?_, ?_⟩
    · refine ⟨sq.set nvme.iosqTail
        (readCommand nvme.iosqTail (machine.memory.pages.length + 1) lba), ?_,
        by rw [List.length_set, submitted.sqLength]⟩
      rw [← resting]
      change executed.commands.read nvme.iosqPtr = _
      rw [submitted.quiet.1]
      exact Heap.read_write submitted.submission _
    · exact ⟨_, queue, by rw [List.length_set, List.length_set, submitted.cqLength]⟩
    · rw [device]
      exact submitted.serving.running
    · rw [device]
      exact ((submitted.serving.alone.setPair (waitingPair nvme count)).served
        (waitingPair nvme count).taken _ statusCode).setPair final
    · refine (Controller.setPair_pairs ..).trans (congrArg some ?_)
      exact ioPair_next nvme count
  have still : Controller.hardware.step^[pace.acknowledged] (Controller.hardware.write
      rest 0x100C ((nvme.iocqHead + 1) % 16)) = ⟨rest.device.setPair 1 final, rest.memory⟩ := by
    rw [acknowledged]
    exact iterate_settled (serving.rests rest.memory) _
  have data : rest.memory.pages.read (machine.memory.pages.length + 1) = some page := by
    rw [← resting]
    exact found
  have called := readSector_eq submitted.submission submitted.completion sqInside
    submitted.present (same ▸ cqInside) submitted.serving.rests awaited (left.trans resting) still
    data sliced
  refine ⟨_, _, _, called, serving, ?_, rfl, reportedEntry nvme machine count lba statusCode, ?_,
    fun prompt => ?_⟩
  · rw [device]
    rfl
  · rw [device]
    rfl
  · obtain ⟨phase, arrived⟩ := prompts prompt
    dsimp only
    rw [phase, arrived, resting, observed]
    simp only [beq_iff_eq]

end Submitted

/-- One call of `read_sector`: the command is always completed and the block
read, but the wait only sees the completion on passes whose phase tag is 1. -/
theorem readSector_serving {count : Nat} {nvme : Nvme} {machine : Machine Controller}
    {pace : ReadPace} {lba : UInt64} {block : Sector} (serving : Serving count nvme machine)
    (prompt : Prompt 20000000 3 pace.turns)
    (valid : machine.device.blocks[lba.toNat]? = some block) :
    ∃ reading after next, nvme.readSector Controller.hardware pace machine lba =
        some (reading, after, next) ∧
      Serving (count + 1) after next ∧ next.device.blocks = machine.device.blocks ∧
      reading.sector = block.toList ∧
      ∃ entry, next.device.log = machine.device.log ++ [(reading.command, entry)] ∧
        reading.observed = if count / 16 % 2 = 0 then some entry else none := by
  have small : nvme.iosqTail < 16 := serving.tail ▸ Nat.mod_lt _ (by decide)
  obtain ⟨sq, submission, sqLength⟩ := serving.submission
  obtain ⟨cq, completion, cqLength⟩ := serving.completion
  obtain ⟨old, present⟩ : ∃ old, cq[nvme.iosqTail]? = some old :=
    ⟨_, List.getElem?_eq_getElem (by omega)⟩
  have page : (nvme.prepared machine.memory sq cq old lba).pages.read
      (machine.memory.pages.length + 1) = some (List.replicate 4096 0) :=
    Heap.read_alloc machine.memory.pages _
  have submitted : Submitted count nvme machine lba sq cq old 0
      { nvme.prepared machine.memory sq cq old lba with
        pages := (nvme.prepared machine.memory sq cq old lba).pages.write
          (machine.memory.pages.length + 1)
          (block.toList ++ (List.replicate 4096 0).drop 512) } := by
    refine ⟨serving, submission, sqLength, completion, cqLength, present, ⟨rfl, rfl⟩, ?_⟩
    intro other
    have read := executeIo_readCommand
      ((machine.device.setPair 1 (waitingPair nvme count)).setPair 1 other)
      (nvme.prepared machine.memory sq cq old lba) small valid page
    rw [Controller.execute, if_neg (by decide)]
    exact congrArg (fun result : UInt16 × Memory => (result.1, Machine.mk _ result.2)) read
  obtain ⟨reading, after, next, called, kept, blocks, sector, entry, logged, observed⟩ :=
    submitted.completes (ReadPace.inTime_of_prompt prompt) (Heap.read_write page _)
      (slice_block block _)
  exact ⟨reading, after, next, called, kept, blocks, sector, entry, logged, observed prompt⟩

end Nvme

/-- A call of `read_sector`, with the pace of the controller during it. -/
structure Request where
  lba : UInt64
  pace : ReadPace

/-- The block exists, and the controller is done before the loop gives up. -/
structure Request.Served (request : Request) (blocks : List Sector) : Prop where
  valid : request.lba.toNat < blocks.length
  prompt : Prompt 20000000 3 request.pace.turns

structure Session where
  nvme : Nvme
  machine : Machine Controller

def Session.call (session : Session) (request : Request) : Option (Reading × Session) := do
  let (reading, nvme, machine) ←
    session.nvme.readSector Controller.hardware request.pace session.machine request.lba
  some (reading, { nvme := nvme, machine := machine })

def Session.step (session : Session) (request : Request) : Option Session := do
  let (_, next) ← session.call request
  some next

/-- Every call of the run keeps its promise. -/
def Session.AllRight (session : Session) (requests : List Request) : Prop :=
  ∀ first request, first ++ [request] <+: requests →
    ∃ before reading after, run Session.step first session = some before ∧
      before.call request = some (reading, after) ∧
      reading.Right before.machine.device after.machine.device request.lba

variable {blocks : List Sector} {count : Nat} {session : Session} {requests : List Request}

/-- The session after `count` calls. -/
structure Session.Serving (blocks : List Sector) (count : Nat) (session : Session) : Prop where
  serving : Storage.Serving count session.nvme session.machine
  blocks : session.machine.device.blocks = blocks

/-- A call is right exactly on the passes whose phase tag is 1. -/
theorem Session.call_serving {request : Request} (serving : session.Serving blocks count)
    (served : request.Served blocks) :
    ∃ reading next, session.call request = some (reading, next) ∧
      next.Serving blocks (count + 1) ∧
      (reading.Right session.machine.device next.machine.device request.lba ↔
        count / 16 % 2 = 0) := by
  obtain ⟨step, same⟩ := serving
  subst same
  have valid := List.getElem?_eq_getElem served.valid
  obtain ⟨reading, nvme, machine, called, kept, blocks, sector, entry, logged, observed⟩ :=
    Nvme.readSector_serving step served.prompt valid
  refine ⟨reading, ⟨nvme, machine⟩, ?_, ⟨kept, blocks⟩, ?_⟩
  · rw [call, called]
    rfl
  · constructor
    · rintro ⟨⟨other, seen, -⟩, -⟩
      by_contra odd
      rw [observed, if_neg odd] at seen
      cases seen
    · intro even
      rw [if_pos even] at observed
      exact ⟨⟨entry, observed, logged⟩, _, valid, sector⟩

theorem Session.step_serving {request : Request} (serving : session.Serving blocks count)
    (served : request.Served blocks) :
    ∃ next, session.step request = some next ∧ next.Serving blocks (count + 1) := by
  obtain ⟨reading, next, called, kept, -⟩ := session.call_serving serving served
  refine ⟨next, ?_, kept⟩
  rw [step, called]
  rfl

/-- Any number of calls keeps driver and controller in step. -/
theorem Session.run_serving (serving : session.Serving blocks count)
    (served : ∀ request ∈ requests, request.Served blocks) :
    ∃ final, run Session.step requests session = some final ∧
      final.Serving blocks (count + requests.length) := by
  induction requests generalizing session count with
  | nil => exact ⟨session, rfl, serving⟩
  | cons request requests ih =>
    obtain ⟨next, stepped, kept⟩ := session.step_serving serving (served request (by simp))
    obtain ⟨final, rest, final_serving⟩ := ih kept fun other member => served other (by simp [member])
    refine ⟨final, by rw [run_cons, stepped, Option.bind_some, rest], ?_⟩
    rw [List.length_cons, Nat.add_comm requests.length, ← Nat.add_assoc]
    exact final_serving

/-- From the start, all calls are right exactly if there are at most 16. -/
theorem Session.allRight_iff (serving : session.Serving blocks 0)
    (served : ∀ request ∈ requests, request.Served blocks) :
    session.AllRight requests ↔ requests.length ≤ 16 := by
  have each : ∀ first request, first ++ [request] <+: requests →
      ((∃ before reading after, run Session.step first session = some before ∧
        before.call request = some (reading, after) ∧
        reading.Right before.machine.device after.machine.device request.lba) ↔
        first.length / 16 % 2 = 0) := by
    intro first request early
    have members : ∀ other ∈ first ++ [request], other.Served blocks :=
      fun other member => served other (early.subset member)
    obtain ⟨before, reached, kept⟩ := session.run_serving serving
      fun other member => members other (List.mem_append_left _ member)
    rw [Nat.zero_add] at kept
    obtain ⟨reading, next, called, -, right⟩ := before.call_serving kept (members request (by simp))
    constructor
    · rintro ⟨other, given, after, same, again, promise⟩
      rw [reached, Option.some.injEq] at same
      subst same
      rw [called, Option.some.injEq, Prod.mk.injEq] at again
      obtain ⟨rfl, rfl⟩ := again
      exact right.mp promise
    · intro even
      exact ⟨before, reading, next, reached, called, right.mpr even⟩
  constructor
  · intro all
    by_contra long
    have inside : 16 < requests.length := by omega
    have early : requests.take 16 ++ [requests[16]] <+: requests := by
      rw [List.take_append_getElem inside]
      exact List.take_prefix ..
    have odd := (each _ _ early).mp (all _ _ early)
    rw [List.length_take, Nat.min_eq_left (by omega)] at odd
    cases odd
  · intro short first request early
    have length := early.length_le
    rw [List.length_append, List.length_singleton] at length
    exact (each first request early).mpr (by omega)

theorem init_session {controller : Controller} (present : controller.Present) (memory : Memory)
    (bar0 : Nat) {pace : Nat → Nat → Nat} (prompt : ∀ loop, Prompt 10000000 3 (pace loop)) :
    ∃ nvme machine, (Nvme.new bar0).init Controller.hardware pace ⟨controller, memory⟩ =
        some (nvme, machine) ∧
      Session.Serving controller.blocks 0 ⟨nvme, machine⟩ := by
  obtain ⟨nvme, machine, started, serving, blocks⟩ :=
    Nvme.init_serving present memory bar0 prompt
  exact ⟨nvme, machine, started, serving, blocks⟩

/-- With a controller that keeps to the specification and to the driver's time,
all calls of `read_sector` after `init` see their own completion and return
their block exactly if there are at most 16 of them. -/
theorem readSector_run {controller : Controller} (present : controller.Present) (memory : Memory)
    (bar0 : Nat) {pace : Nat → Nat → Nat} (prompt : ∀ loop, Prompt 10000000 3 (pace loop))
    {requests : List Request} (served : ∀ request ∈ requests, request.Served controller.blocks) :
    ∃ nvme machine, (Nvme.new bar0).init Controller.hardware pace ⟨controller, memory⟩ =
        some (nvme, machine) ∧
      (Session.AllRight ⟨nvme, machine⟩ requests ↔ requests.length ≤ 16) := by
  obtain ⟨nvme, machine, started, serving⟩ := init_session present memory bar0 prompt
  exact ⟨nvme, machine, started, Session.allRight_iff serving served⟩

/-- A controller that is switched off, with these blocks behind it. -/
def Controller.off (blocks : List Sector) : Controller where
  cc := 0
  csts := 0
  aqa := 0
  asq := 0
  acq := 0
  completionQueue := none
  pairs := fun _ => none
  blocks := blocks
  log := []

theorem Controller.off_present (blocks : List Sector) : (Controller.off blocks).Present :=
  ⟨by change (0 : UInt32) ≠ 0xFFFFFFFF; decide, fun _ => ⟨rfl, rfl⟩⟩

/-- Block 0, from a controller that completes a command within one turn. -/
def Request.first : Request where
  lba := 0
  pace := .waiting fun _ => 3

theorem Request.first_served (blocks : List Sector) (some_block : 0 < blocks.length) :
    Request.first.Served blocks :=
  ⟨some_block, prompt_of_first (fun _ => 3) (Nat.le_refl 3)⟩

theorem readSector_run_twice : ∃ nvme machine,
    (Nvme.new 0xFEBF0000).init Controller.hardware (fun _ _ => 3)
        ⟨Controller.off [Vector.replicate 512 7], ⟨[], [], []⟩⟩ = some (nvme, machine) ∧
      (Session.AllRight ⟨nvme, machine⟩ (List.replicate 2 Request.first) ↔
        (List.replicate 2 Request.first).length ≤ 16) :=
  readSector_run (Controller.off_present _) ⟨[], [], []⟩ 0xFEBF0000
    (fun _ => prompt_of_first (fun _ => 3) (Nat.le_refl 3)) (by
      intro request member
      obtain rfl := List.eq_of_mem_replicate member
      exact Request.first_served _ (Nat.zero_lt_succ 0))

/-- The 17th call waits for phase tag 1, but the controller posts 0. -/
theorem readSector_seventeenth : ∃ nvme machine,
    (Nvme.new 0xFEBF0000).init Controller.hardware (fun _ _ => 3)
        ⟨Controller.off [Vector.replicate 512 7], ⟨[], [], []⟩⟩ = some (nvme, machine) ∧
      ¬ Session.AllRight ⟨nvme, machine⟩ (List.replicate 17 Request.first) := by
  obtain ⟨nvme, machine, started, serving⟩ := init_session
    (Controller.off_present [Vector.replicate 512 7]) ⟨[], [], []⟩ 0xFEBF0000
    fun loop => prompt_of_first (fun _ => 3) (Nat.le_refl 3)
  refine ⟨nvme, machine, started, ?_⟩
  have served : ∀ request ∈ List.replicate 17 Request.first,
      request.Served [Vector.replicate 512 7] := by
    intro request member
    obtain rfl := List.eq_of_mem_replicate member
    exact Request.first_served _ (Nat.zero_lt_succ 0)
  rw [Session.allRight_iff serving served, List.length_replicate]
  decide

end QoreOS.Storage
