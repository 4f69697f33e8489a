import QoreOS.Storage.Completion

/-! Who owns the queue slots when the controller lags. A call that gives up
moves both indices on as if its command had been completed. -/

namespace QoreOS.Storage

open QoreOS.Library

namespace Nvme

variable {count : Nat} {nvme : Nvme} {machine : Machine Controller} {lba : UInt64}
  {sq : List NvmeCmd} {cq : List NvmeCompletion} {old : NvmeCompletion} {statusCode : UInt16}
  {executed : Memory} {pace : ReadPace}

/-- Whatever the block address, a read leaves the queues alone and the page long
enough for a sector. -/
theorem executeIo_keeps (controller : Controller) (memory : Memory) {slot dataPtr : Nat}
    (lba : UInt64) (small : slot < 16)
    (found : memory.pages.read dataPtr = some (List.replicate 4096 0)) :
    ∃ statusCode executed page, (∀ other, (controller.setPair 1 other).executeIo
        (readCommand slot dataPtr lba) memory = (statusCode, executed)) ∧
      executed.commands = memory.commands ∧ executed.completions = memory.completions ∧
      executed.pages.read dataPtr = some page ∧ 512 ≤ page.length := by
  by_cases valid : lba.toNat < controller.blocks.length
  · have present := List.getElem?_eq_getElem valid
    have read : ∀ other, (controller.setPair 1 other).executeIo (readCommand slot dataPtr lba)
        memory = _ := fun other =>
      executeIo_readCommand (controller.setPair 1 other) memory small present found
    refine ⟨_, _, _, read, rfl, rfl, Heap.read_write found _, ?_⟩
    rw [List.length_append, Vector.length_toList]
    exact Nat.le_add_right ..
  · have refused : ∀ other, (controller.setPair 1 other).executeIo (readCommand slot dataPtr lba)
        memory = (0x80, memory) := by
      intro other
      have single : (readCommand slot dataPtr lba).cdw12.toNat % 2 ^ 16 + 1 = 1 := rfl
      have namespaceId : (readCommand slot dataPtr lba).nsid = 1 := rfl
      have outside : ¬ lba.toNat + 1 ≤ (controller.setPair 1 other).blocks.length := valid
      simp only [Controller.executeIo, readCommand_opcode small, readCommand_lba, single,
        namespaceId, outside, bne_self_eq_false, Bool.false_eq_true, if_false]
    refine ⟨_, _, _, refused, rfl, rfl, found, ?_⟩
    rw [List.length_replicate]
    decide

/-- Any call can be submitted while driver and controller are in step. -/
theorem submitted_of_serving (serving : Serving count nvme machine) (lba : UInt64) :
    ∃ sq cq old statusCode executed page,
      Submitted count nvme machine lba sq cq old statusCode executed ∧
      executed.pages.read (machine.memory.pages.length + 1) = some page ∧ 512 ≤ page.length := by
  have small : nvme.iosqTail < 16 := serving.tail ▸ Nat.mod_lt _ (by decide)
  obtain ⟨sq, submission, sqLength⟩ := serving.submission
  obtain ⟨cq, completion, cqLength⟩ := serving.completion
  obtain ⟨old, present⟩ : ∃ old, cq[nvme.iosqTail]? = some old :=
    ⟨_, List.getElem?_eq_getElem (by omega)⟩
  have page : (nvme.prepared machine.memory sq cq old lba).pages.read
      (machine.memory.pages.length + 1) = some (List.replicate 4096 0) :=
    Heap.read_alloc machine.memory.pages _
  obtain ⟨statusCode, executed, after, executes, commands, completions, found, long⟩ :=
    executeIo_keeps (machine.device.setPair 1 (waitingPair nvme count)) _ lba small page
  refine ⟨sq, cq, old, statusCode, executed, after, ⟨serving, submission, sqLength, completion,
    cqLength, present, ⟨commands, completions⟩, ?_⟩, found, long⟩
  intro other
  rw [Controller.execute, if_neg (by decide)]
  exact congrArg (fun result : UInt16 × Memory => (result.1, Machine.mk _ result.2)) (executes other)

/-- The controller behind the doorbell of a submitted command. -/
def submittedState (nvme : Nvme) (machine : Machine Controller) (count : Nat) (lba : UInt64)
    (sq : List NvmeCmd) (cq : List NvmeCompletion) (old : NvmeCompletion) : Machine Controller :=
  ⟨machine.device.setPair 1 (waitingPair nvme count), nvme.prepared machine.memory sq cq old lba⟩

/-- The states before the completion is posted. -/
theorem Submitted.unposted
    (submitted : Submitted count nvme machine lba sq cq old statusCode executed) {page : List UInt8}
    (found : executed.pages.read (machine.memory.pages.length + 1) = some page)
    (long : 512 ≤ page.length) {steps : Nat} (before : steps < 3) :
    let start := submittedState nvme machine count lba sq cq old
    (Controller.step^[steps] start).device.log = machine.device.log ∧
      (Controller.step^[steps] start).memory.completions = start.memory.completions ∧
      ∃ data, (Controller.step^[steps] start).memory.pages.read
        (machine.memory.pages.length + 1) = some data ∧ 512 ≤ data.length := by
  have fresh : (nvme.prepared machine.memory sq cq old lba).pages.read
      (machine.memory.pages.length + 1) = some (List.replicate 4096 0) :=
    Heap.read_alloc machine.memory.pages _
  have zeros : 512 ≤ (List.replicate 4096 (0 : UInt8)).length := by
    rw [List.length_replicate]
    decide
  have fetches := submitted.pending.fetches
  have executesNext := submitted.pending.executesNext
  dsimp only
  unfold submittedState
  obtain rfl | rfl | rfl : steps = 0 ∨ steps = 1 ∨ steps = 2 := by omega
  · exact ⟨rfl, rfl, _, fresh, zeros⟩
  · rw [Function.iterate_one, fetches]
    exact ⟨rfl, rfl, _, fresh, zeros⟩
  · rw [Function.iterate_succ_apply, Function.iterate_one, fetches, executesNext]
    exact ⟨rfl, submitted.quiet.2, page, found, long⟩

/-- A controller that is not done in time: the call gives up, and has not been completed when
the head doorbell is about to ring. -/
theorem Submitted.lags (submitted : Submitted count nvme machine lba sq cq old statusCode executed)
    (late : ¬ pace.InTime) {page : List UInt8}
    (found : executed.pages.read (machine.memory.pages.length + 1) = some page)
    (long : 512 ≤ page.length) :
    ∃ seen waited, await Controller.hardware.step (Machine.completed nvme.iocqPtr nvme.iocqHead)
        20000000 pace.turns (submittedState nvme machine count lba sq cq old) = (seen, waited) ∧
      (Controller.step^[pace.left] waited).device.log = machine.device.log := by
  obtain ⟨-, -, same, -⟩ := submitted.indices
  obtain ⟨completions, emptied⟩ := submitted.cleared
  let start := submittedState nvme machine count lba sq cq old
  obtain ⟨total, sum⟩ : ∃ total,
      ∑ turn ∈ Finset.range (20000000 + 1), pace.turns turn = total := ⟨_, rfl⟩
  have few : pace.left + total < 3 := by
    rw [ReadPace.InTime, sum, Nat.not_le] at late
    omega
  have queue : start.memory.completions.read nvme.iocqPtr =
      some (cq.set nvme.iosqTail { old with status := 0 }) := completions
  have unseen : ∀ earlier, earlier ≤ total → Machine.completed nvme.iocqPtr nvme.iocqHead
      (Controller.step^[earlier] start) = false := by
    intro earlier before
    obtain ⟨-, kept, -⟩ := submitted.unposted found long (by omega : earlier < 3)
    have zero : ((0 : UInt16) &&& 0x01 != 0) = false := by decide
    rw [same, submitted.serving.tail, Controller.completed_of_read (kept ▸ queue) emptied]
    exact zero
  obtain ⟨log, -, -⟩ := submitted.unposted found long few
  refine ⟨_, _, await_unsettled sum unseen, ?_⟩
  rw [Function.iterate_add_apply] at log
  exact log

end Nvme

/-- The I/O completions which the controller has posted so far. -/
def Controller.posted (controller : Controller) : Nat := controller.log.length

/-- The I/O commands which it has fetched: those reported and the one in work. -/
def Controller.fetched (controller : Controller) : Nat :=
  match controller.pairs 1 with
  | some pair => if pair.stage = .idle then controller.posted else controller.posted + 1
  | none => controller.posted

inductive QueueEvent where
  | call (request : Request)
  | work

/-- The controller also works between two calls. -/
def Session.act (session : Session) : QueueEvent → Option Session
  | .call request => session.step request
  | .work => some { session with machine := Controller.step session.machine }

def QueueEvent.isCall : QueueEvent → Bool
  | .call _ => true
  | .work => false

/-- The machine when a call is about to store its command. -/
def Session.storing (session : Session) (request : Request) : Option (Nat × Machine Controller) :=
  session.nvme.clear Controller.hardware request.pace session.machine

/-- The machine when the call is about to ring the head doorbell. -/
def Session.ringing (session : Session) (request : Request) : Option (Machine Controller) := do
  let (dataPtr, machine) ← session.storing request
  let machine ← session.nvme.submit Controller.hardware request.pace machine
    (Nvme.readCommand session.nvme.iosqTail dataPtr request.lba)
  let (_, machine) ← session.nvme.observe Controller.hardware request.pace machine
  some machine

/-- When a call stores its command, the slot's earlier command, 16 calls ago, has been fetched,
and when it rings the head doorbell, no more entries are acknowledged than have been posted. -/
def Session.Owns (session : Session) (events : List QueueEvent) : Prop :=
  ∀ first request, first ++ [.call request] <+: events →
    ∃ before dataPtr storing ringing, run Session.act first session = some before ∧
      before.storing request = some (dataPtr, storing) ∧
      session.machine.device.posted + first.countP QueueEvent.isCall <
        storing.device.fetched + 16 ∧
      before.ringing request = some ringing ∧
      session.machine.device.posted + first.countP QueueEvent.isCall + 1 ≤ ringing.device.posted

/-- Every call is completed before it acknowledges. -/
def Served (events : List QueueEvent) : Prop :=
  ∀ request, .call request ∈ events → request.pace.InTime

variable {count : Nat} {session : Session} {events : List QueueEvent}

/-- The session after `count` calls, all of them completed. -/
structure Session.InStep (start count : Nat) (session : Session) : Prop where
  serving : Storage.Serving count session.nvme session.machine
  posted : session.machine.device.posted = start + count

/-- A call in step finds its slot fetched. It is completed when it acknowledges exactly if the
controller is in time, and then the session stays in step. -/
theorem Session.call_inStep {start : Nat} (inStep : session.InStep start count)
    (request : Request) :
    ∃ dataPtr storing ringing, session.storing request = some (dataPtr, storing) ∧
      storing.device.fetched = start + count ∧ session.ringing request = some ringing ∧
      (start + count + 1 ≤ ringing.device.posted ↔ request.pace.InTime) ∧
      (request.pace.InTime → ∃ next, session.step request = some next ∧
        next.InStep start (count + 1)) := by
  obtain ⟨sq, cq, old, statusCode, executed, page, submitted, found, long⟩ :=
    Nvme.submitted_of_serving inStep.serving request.lba
  obtain ⟨sqInside, cqInside, same, -⟩ := submitted.indices
  have posted : session.machine.device.log.length = start + count := inStep.posted
  -- the call up to the head doorbell, by the log of the controller there
  have upTo : ∀ {seen waited log}, await Controller.hardware.step
      (Machine.completed session.nvme.iocqPtr session.nvme.iocqHead) 20000000 request.pace.turns
        (Controller.hardware.write ⟨session.machine.device,
          session.nvme.prepared session.machine.memory sq cq old request.lba⟩ 0x1008
            ((session.nvme.iosqTail + 1) % 16)) = (seen, waited) →
      (Controller.step^[request.pace.left] waited).device.log = log →
      ∃ dataPtr storing ringing, session.storing request = some (dataPtr, storing) ∧
        storing.device.fetched = start + count ∧ session.ringing request = some ringing ∧
        ringing.device.posted = log.length := by
    intro seen waited log awaited logged
    obtain ⟨cleared, stored, observed⟩ := Nvme.stages_eq submitted.submission submitted.completion
      sqInside submitted.present (same ▸ cqInside) inStep.serving.rests awaited
    refine ⟨_, _, _, cleared, ?_, ?_, congrArg List.length logged⟩
    · change session.machine.device.fetched = _
      rw [Controller.fetched, inStep.serving.pair]
      exact posted
    · rw [ringing, storing, cleared]
      dsimp only [Option.bind_eq_bind, Option.bind_some]
      rw [stored]
      dsimp only [Option.bind_eq_bind, Option.bind_some]
      rw [observed]
      rfl
  by_cases inTime : request.pace.InTime
  · obtain ⟨seen, waited, awaited, left, -⟩ := submitted.awaits inTime
    have logged : (Controller.step^[request.pace.left] waited).device.log = _ :=
      congrArg (fun machine : Machine Controller => machine.device.log) left
    obtain ⟨dataPtr, storing, ringing, stores, fetched, rings, length⟩ := upTo awaited logged
    obtain ⟨reading, nvme, machine, called, serving, -, -, entry, log, -⟩ :=
      submitted.completes inTime found (slice_of_le (Nat.zero_le 512) long)
    refine ⟨dataPtr, storing, ringing, stores, fetched, rings, ⟨fun _ => inTime, fun _ => ?_⟩,
      fun _ => ⟨⟨nvme, machine⟩, ?_, serving, ?_⟩⟩
    · rw [length]
      change _ ≤ (session.machine.device.log ++ [_]).length
      rw [List.length_append, posted]
      exact Nat.le_refl _
    · rw [step, call, called]
      rfl
    · rw [Controller.posted, log, List.length_append, posted]
      rfl
  · obtain ⟨seen, waited, awaited, log⟩ := submitted.lags inTime found long
    rw [Nvme.submittedState, ← submitted.rung] at awaited
    obtain ⟨dataPtr, storing, ringing, stores, fetched, rings, length⟩ := upTo awaited log
    refine ⟨dataPtr, storing, ringing, stores, fetched, rings, ⟨fun enough => ?_,
      fun given => absurd given inTime⟩, fun given => absurd given inTime⟩
    rw [length, posted] at enough
    omega

/-- In step, the controller has nothing to do between two calls. -/
theorem Session.work_inStep {start : Nat} (inStep : session.InStep start count) :
    session.act .work = some session := by
  exact congrArg (fun machine => some { session with machine := machine })
    (inStep.serving.rests session.machine.memory)

theorem Session.run_inStep {start : Nat} (inStep : session.InStep start count)
    (served : Served events) :
    ∃ final, run Session.act events session = some final ∧
      final.InStep start (count + events.countP QueueEvent.isCall) := by
  induction events generalizing session count with
  | nil => exact ⟨session, rfl, inStep⟩
  | cons event events ih =>
    have later : Served events := fun request member => served request (by simp [member])
    cases event with
    | call request =>
      obtain ⟨-, -, -, -, -, -, -, kept⟩ := session.call_inStep inStep request
      obtain ⟨next, stepped, nextInStep⟩ := kept (served request (by simp))
      obtain ⟨final, reached, final_inStep⟩ := ih nextInStep later
      refine ⟨final, ?_, ?_⟩
      · rw [run_cons, act, stepped]
        exact reached
      · rw [List.countP_cons_of_pos rfl, Nat.add_comm (events.countP _), ← Nat.add_assoc]
        exact final_inStep
    | work =>
      obtain ⟨final, reached, final_inStep⟩ := ih inStep later
      refine ⟨final, ?_, final_inStep⟩
      rw [run_cons, session.work_inStep inStep]
      exact reached

/-- From a state in step, the slots keep their owners exactly if every call is
completed in time. -/
theorem Session.owns_iff (inStep : session.InStep session.machine.device.posted 0) :
    session.Owns events ↔ Served events := by
  have each : ∀ first request, first ++ [.call request] <+: events → Served first →
      ((∃ before dataPtr storing ringing, run Session.act first session = some before ∧
        before.storing request = some (dataPtr, storing) ∧
        session.machine.device.posted + first.countP QueueEvent.isCall <
          storing.device.fetched + 16 ∧
        before.ringing request = some ringing ∧
        session.machine.device.posted + first.countP QueueEvent.isCall + 1 ≤
          ringing.device.posted) ↔ request.pace.InTime) := by
    intro first request _ earlier
    obtain ⟨before, reached, kept⟩ := session.run_inStep inStep earlier
    rw [Nat.zero_add] at kept
    obtain ⟨dataPtr, storing, ringing, stores, fetched, rings, posted, -⟩ :=
      before.call_inStep kept request
    constructor
    · rintro ⟨other, pointer, given, after, same, -, -, again, enough⟩
      rw [reached, Option.some.injEq] at same
      subst same
      rw [rings, Option.some.injEq] at again
      subst again
      exact posted.mp enough
    · intro inTime
      exact ⟨before, dataPtr, storing, ringing, reached, stores, by omega, rings, posted.mpr inTime⟩
  constructor
  · intro owns
    have upTo : ∀ first, first <+: events → Served first := by
      intro first early
      induction first using List.reverseRecOn with
      | nil =>
        intro request member
        cases member
      | append_singleton first event ih =>
        have earlier := ih ((List.prefix_append first [event]).trans early)
        intro request member
        rcases List.mem_append.mp member with old | last
        · exact earlier request old
        · obtain rfl := List.mem_singleton.mp last
          exact (each first request early earlier).mp (owns first request early)
    exact upTo events (List.prefix_refl events)
  · intro served first request early
    have earlier : Served first := by
      intro other member
      exact served other (early.subset (List.mem_append_left _ member))
    have prompt := served request (early.subset (by simp))
    exact (each first request early earlier).mpr prompt

/-- After `init`, over every interleaving of calls with the controller's steps,
no slot is overwritten early and no completion acknowledged early exactly if
every call is completed before it acknowledges. -/
theorem ownership_run {controller : Controller} (present : controller.Present) (memory : Memory)
    (bar0 : Nat) {pace : Nat → Nat → Nat} (prompt : ∀ loop, Prompt 10000000 3 (pace loop))
    (events : List QueueEvent) :
    ∃ nvme machine, (Nvme.new bar0).init Controller.hardware pace ⟨controller, memory⟩ =
        some (nvme, machine) ∧
      (Session.Owns ⟨nvme, machine⟩ events ↔ Served events) := by
  obtain ⟨nvme, machine, started, serving⟩ := init_session present memory bar0 prompt
  exact ⟨nvme, machine, started, Session.owns_iff ⟨serving.serving, rfl⟩⟩

theorem ownership_run_once : ∃ nvme machine,
    (Nvme.new 0xFEBF0000).init Controller.hardware (fun _ _ => 3)
        ⟨Controller.off [Vector.replicate 512 7], ⟨[], [], []⟩⟩ = some (nvme, machine) ∧
      (Session.Owns ⟨nvme, machine⟩ [.call Request.first, .work] ↔
        Served [.call Request.first, .work]) :=
  ownership_run (Controller.off_present _) ⟨[], [], []⟩ 0xFEBF0000
    (fun _ => prompt_of_first (fun _ => 3) (Nat.le_refl 3)) _

/-- Block 0, from a controller that does nothing during the call. -/
def Request.ignored : Request where
  lba := 0
  pace := .waiting fun _ => 0

/-- A single call to a controller that does not answer acknowledges an entry
which was never posted. -/
theorem ownership_ignored : ∃ nvme machine,
    (Nvme.new 0xFEBF0000).init Controller.hardware (fun _ _ => 3)
        ⟨Controller.off [Vector.replicate 512 7], ⟨[], [], []⟩⟩ = some (nvme, machine) ∧
      ¬ Session.Owns ⟨nvme, machine⟩ [.call Request.ignored] := by
  obtain ⟨nvme, machine, started, serving⟩ := init_session
    (Controller.off_present [Vector.replicate 512 7]) ⟨[], [], []⟩ 0xFEBF0000
    fun loop => prompt_of_first (fun _ => 3) (Nat.le_refl 3)
  refine ⟨nvme, machine, started, ?_⟩
  rw [Session.owns_iff ⟨serving.serving, rfl⟩]
  intro served
  have inTime := served Request.ignored (by simp)
  have nothing : ∑ turn ∈ Finset.range (20000000 + 1), Request.ignored.pace.turns turn = 0 :=
    Finset.sum_eq_zero fun _ _ => rfl
  rw [ReadPace.InTime, nothing] at inTime
  exact absurd inTime (by decide)

end QoreOS.Storage
