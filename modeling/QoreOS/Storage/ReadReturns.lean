import QoreOS.Storage.Nvme

/-! Once the driver has its queues, every call of `read_sector` returns whatever the
controller does, as long as it writes only to the memory it was given. -/

namespace QoreOS.Storage

open QoreOS.Library

/-- The lengths of everything in memory. -/
def Memory.sizes (memory : Memory) : List Nat × List Nat × List Nat :=
  (memory.commands.map List.length, memory.completions.map List.length,
    memory.pages.map List.length)

/-- A controller behind its registers, whose work leaves queues and pages in
place. -/
structure Drive (State : Type) where
  hardware : Hardware State
  sizes : ∀ machine, (hardware.step machine).memory.sizes = machine.memory.sizes

/-- The two queues for reading exist, and the driver is at one of their slots. -/
structure Nvme.Queued (nvme : Nvme) (memory : Memory) : Prop where
  submission : ∃ queue, memory.commands.read nvme.iosqPtr = some queue ∧ queue.length = 16
  completion : ∃ queue, memory.completions.read nvme.iocqPtr = some queue ∧ queue.length = 16
  tail : nvme.iosqTail < 16
  head : nvme.iocqHead < 16

theorem read_of_sizes {Item : Type} {before after : Heap (List Item)} {address : Nat}
    {value : List Item} (sizes : after.map List.length = before.map List.length)
    (found : before.read address = some value) :
    ∃ other, after.read address = some other ∧ other.length = value.length := by
  cases address with
  | zero => cases found
  | succ index =>
    have same := congrArg (·[index]?) sizes
    have there : before[index]? = some value := found
    rw [List.getElem?_map, List.getElem?_map, there, Option.map_some, Option.map_eq_some_iff] at same
    exact same

theorem write_sizes {Item : Type} {heap : Heap (List Item)} {address : Nat} {old new : List Item}
    (found : heap.read address = some old) (same : new.length = old.length) :
    (heap.write address new).map List.length = heap.map List.length := by
  cases address with
  | zero => cases found
  | succ index =>
    have there : heap[index]? = some old := found
    obtain ⟨inside, -⟩ := List.getElem?_eq_some_iff.mp there
    change (List.set heap index new).map List.length = _
    apply List.ext_getElem?
    intro position
    rw [List.getElem?_map, List.getElem?_map]
    by_cases written : index = position
    · rw [← written, List.getElem?_set_self inside, there]
      exact congrArg some same
    · rw [List.getElem?_set_ne written]

variable {State : Type} {nvme : Nvme} {machine : Machine State}

/-- Waiting leaves queues and pages in place. -/
theorem Drive.await_sizes (disk : Drive State) (test : Machine State → Bool) (bound : Nat)
    (pace : Nat → Nat) (machine : Machine State) :
    (await disk.hardware.step test bound pace machine).2.memory.sizes = machine.memory.sizes := by
  have kept : ∀ state : Machine State, state.memory.sizes = machine.memory.sizes →
      (disk.hardware.step state).memory.sizes = machine.memory.sizes :=
    fun state same => (disk.sizes state).trans same
  exact await_keeps kept bound pace rfl

theorem adminCommand_sizes (disk : Drive State) {pace : Nat → Nat} {after : Machine State}
    {slot : Nat} {command : NvmeCmd}
    (served : nvme.adminCommand disk.hardware pace machine slot command = some after) :
    after.memory.sizes = machine.memory.sizes := by
  obtain ⟨memory, placed, rung⟩ := Option.bind_eq_some_iff.mp served
  obtain ⟨-, -, waited⟩ := Option.bind_eq_some_iff.mp rung
  obtain ⟨queue, found, inside⟩ := Option.bind_eq_some_iff.mp placed
  have written : memory.sizes = machine.memory.sizes := by
    split at inside
    · cases inside
      exact congrArg (fun sizes => (sizes, _)) (write_sizes found (List.length_set ..))
    · cases inside
  cases waited
  exact (disk.await_sizes _ _ _ _).trans written

theorem Nvme.Queued.of_sizes {before after : Memory} (queued : nvme.Queued before)
    (sizes : after.sizes = before.sizes) : nvme.Queued after := by
  obtain ⟨sq, submission, sqLength⟩ := queued.submission
  obtain ⟨cq, completion, cqLength⟩ := queued.completion
  obtain ⟨submissions, commands, sqSame⟩ := read_of_sizes (congrArg Prod.fst sizes) submission
  obtain ⟨entries, completions, cqSame⟩ :=
    read_of_sizes (congrArg (fun sizes => sizes.2.1) sizes) completion
  exact ⟨⟨submissions, commands, sqSame.trans sqLength⟩, ⟨entries, completions,
    cqSame.trans cqLength⟩, queued.tail, queued.head⟩

theorem allocQueues_queued (bar0 : Nat) (memory : Memory) :
    ((Nvme.new bar0).allocQueues memory).1.Queued ((Nvme.new bar0).allocQueues memory).2 where
  submission := ⟨_, Heap.read_alloc .., rfl⟩
  completion := ⟨_, Heap.read_alloc .., rfl⟩
  tail := Nat.zero_lt_succ 15
  head := Nat.zero_lt_succ 15

/-- An `init` that gets as far as its queues leaves them ready for the first read. -/
theorem Nvme.init_queued (disk : Drive State) {bar0 : Nat} {pace : Nat → Nat → Nat} {next : Nvme}
    {after : Machine State}
    (initialised : (Nvme.new bar0).init disk.hardware pace machine = some (next, after))
    (created : next.iosqPtr ≠ 0) : next.Queued after.memory ∧ next.bar0 = bar0 := by
  unfold Nvme.init at initialised
  dsimp only at initialised
  split at initialised
  · cases initialised
    exact absurd rfl created
  generalize await disk.hardware.step _ _ _ _ = stop at initialised
  split at initialised
  · cases initialised
    exact absurd rfl created
  have fresh := allocQueues_queued bar0 stop.2.memory
  have base : ((Nvme.new bar0).allocQueues stop.2.memory).1.bar0 = bar0 := rfl
  generalize (Nvme.new bar0).allocQueues stop.2.memory = queues at initialised fresh base
  have waited := disk.await_sizes
    (fun machine => disk.hardware.readReg machine.device 0x1C &&& 1 != 0) 10000000 (pace 1)
    (Nvme.configured disk.hardware queues.1 ⟨stop.2.device, queues.2⟩)
  unfold Nvme.configured at waited
  dsimp only at waited
  generalize await disk.hardware.step _ _ _ _ = start at initialised waited
  have started : queues.1.Queued start.2.memory := fresh.of_sizes waited
  split at initialised
  · cases initialised
    exact ⟨started, base⟩
  obtain ⟨first, creates, rest⟩ := Option.bind_eq_some_iff.mp initialised
  obtain ⟨second, submits, last⟩ := Option.bind_eq_some_iff.mp rest
  cases last
  exact ⟨(started.of_sizes (adminCommand_sizes disk creates)).of_sizes
    (adminCommand_sizes disk submits), base⟩

theorem Drive.iterate_sizes (disk : Drive State) (count : Nat) (machine : Machine State) :
    (disk.hardware.step^[count] machine).memory.sizes = machine.memory.sizes :=
  Function.Iterate.rec (fun state : Machine State => state.memory.sizes = machine.memory.sizes) rfl
    (fun state same => (disk.sizes state).trans same) count

namespace Nvme.Queued

/-- A call gets its page and clears its entry. -/
theorem clear (disk : Drive State) (queued : nvme.Queued machine.memory) (pace : ReadPace) :
    ∃ dataPtr after page, nvme.clear disk.hardware pace machine = some (dataPtr, after) ∧
      nvme.Queued after.memory ∧ after.memory.pages.read dataPtr = some page ∧
      page.length = 4096 := by
  obtain ⟨sq, submission, sqLength⟩ := queued.submission
  obtain ⟨cq, completion, cqLength⟩ := queued.completion
  have tail : nvme.iosqTail < cq.length := cqLength.symm ▸ queued.tail
  obtain ⟨old, present⟩ : ∃ old, cq[nvme.iosqTail]? = some old := ⟨_, List.getElem?_eq_getElem tail⟩
  have emptied : nvme.Queued (nvme.emptied machine.memory cq old) :=
    ⟨⟨sq, submission, sqLength⟩, ⟨_, Heap.read_write completion _, by
      rw [List.length_set, cqLength]⟩, queued.tail, queued.head⟩
  have sizes := disk.iterate_sizes pace.cleared
    { machine with memory := nvme.emptied machine.memory cq old }
  have new : (nvme.emptied machine.memory cq old).pages.read (machine.memory.pages.length + 1) =
      some (List.replicate 4096 0) := Heap.read_alloc machine.memory.pages _
  obtain ⟨page, found, length⟩ := read_of_sizes (congrArg (fun sizes => sizes.2.2) sizes) new
  exact ⟨_, _, page, clear_eq completion present, emptied.of_sizes sizes, found,
    length.trans (List.length_replicate ..)⟩

theorem submit (disk : Drive State) (queued : nvme.Queued machine.memory) (pace : ReadPace)
    (command : NvmeCmd) :
    ∃ after, nvme.submit disk.hardware pace machine command = some after ∧
      after.memory.sizes = machine.memory.sizes := by
  obtain ⟨sq, submission, sqLength⟩ := queued.submission
  refine ⟨_, submit_eq submission (sqLength.symm ▸ queued.tail) command, ?_⟩
  refine (disk.iterate_sizes pace.stored _).trans ?_
  exact congrArg (fun sizes => (sizes, _)) (write_sizes submission (List.length_set ..))

theorem observe (disk : Drive State) (queued : nvme.Queued machine.memory) (pace : ReadPace) :
    ∃ observed after, nvme.observe disk.hardware pace machine = some (observed, after) ∧
      after.memory.sizes = machine.memory.sizes := by
  obtain ⟨cq, completion, cqLength⟩ := queued.completion
  have waited := disk.await_sizes (Machine.completed nvme.iocqPtr nvme.iocqHead) 20000000
    pace.turns machine
  exact ⟨_, _, observe_eq completion (cqLength.symm ▸ queued.head) rfl,
    (disk.iterate_sizes pace.left _).trans waited⟩

/-- Any call returns and leaves the queues ready for the next one. -/
theorem readSector (disk : Drive State) (queued : nvme.Queued machine.memory)
    (pace : ReadPace) (lba : UInt64) : ∃ reading next after,
      nvme.readSector disk.hardware pace machine lba = some (reading, next, after) ∧
      reading.sector.length = 512 ∧ next.Queued after.memory ∧ next.bar0 = nvme.bar0 := by
  obtain ⟨dataPtr, cleared, zeros, clears, ready, new, whole⟩ := queued.clear disk pace
  obtain ⟨submitted, submits, submitSizes⟩ :=
    ready.submit disk pace (readCommand nvme.iosqTail dataPtr lba)
  obtain ⟨observed, waited, observes, waitSizes⟩ := (ready.of_sizes submitSizes).observe disk pace
  obtain ⟨after, acknowledged⟩ : ∃ after, disk.hardware.step^[pace.acknowledged]
    (disk.hardware.write waited 0x100C ((nvme.iocqHead + 1) % 16)) = after := ⟨_, rfl⟩
  have sizes : after.memory.sizes = cleared.memory.sizes := by
    rw [← acknowledged]
    exact (disk.iterate_sizes pace.acknowledged _).trans (waitSizes.trans submitSizes)
  obtain ⟨page, found, length⟩ := read_of_sizes (congrArg (fun sizes => sizes.2.2) sizes) new
  have long : 512 ≤ page.length := by omega
  have called : nvme.readSector disk.hardware pace machine lba =
      some ({ command := readCommand nvme.iosqTail dataPtr lba
              observed := observed
              sector := (page.take 512).drop 0 },
        { nvme with
          iosqTail := (nvme.iosqTail + 1) % 16
          iocqHead := (nvme.iocqHead + 1) % 16 }, after) := by
    unfold Nvme.readSector
    rw [clears]
    dsimp only [Option.bind_eq_bind, Option.bind_some]
    rw [submits]
    dsimp only [Option.bind_eq_bind, Option.bind_some]
    rw [observes]
    dsimp only [Option.bind_eq_bind, Option.bind_some]
    rw [acknowledged, found, Option.bind_some, slice_of_le (Nat.zero_le 512) long]
    rfl
  have still := ready.of_sizes sizes
  refine ⟨_, _, _, called, ?_, ⟨still.submission, still.completion, Nat.mod_lt _ (by decide),
    Nat.mod_lt _ (by decide)⟩, rfl⟩
  change ((page.take 512).drop 0).length = 512
  rw [List.drop_zero, List.length_take]
  omega

end Nvme.Queued

end QoreOS.Storage
