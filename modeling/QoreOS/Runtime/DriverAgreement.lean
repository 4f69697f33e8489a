import QoreOS.Startup.Drivers
import QoreOS.Runtime.System

/-! `read_sector` is modelled action by action over whatever the device answers, again at a
controller that works on its own, and within the kernel and its heap. The three models say the
same of it. -/

namespace QoreOS.Runtime

open QoreOS.Library QoreOS.Storage QoreOS.Startup

/-- The device sees the commands in its queues and the writes to its registers. -/
def visible : Action → Bool
  | .submit .. => true
  | .writeReg .. => true
  | _ => false

/-- What the device has seen of the driver. -/
def seen (port : Port) : List Action := port.trace.filter visible

/-- What it sees of a call of `read_sector`. -/
def readActions (nvme : Nvme) (dataPtr : Nat) (lba : UInt64) : List Action :=
  [.submit nvme.iosqPtr nvme.iosqTail (Nvme.readCommand nvme.iosqTail dataPtr lba),
    .writeReg 0x1008 ((nvme.iosqTail + 1) % 16), .writeReg 0x100C ((nvme.iocqHead + 1) % 16)]

/-- The driver behind a call. -/
def advanced (nvme : Nvme) : Nvme :=
  { nvme with
    iosqTail := (nvme.iosqTail + 1) % 16
    iocqHead := (nvme.iocqHead + 1) % 16 }

section Trace

open Program

variable {before : List Action}

theorem seen_record (port : Port) (action : Action) :
    seen (port.record action) = seen port ++ if visible action then [action] else [] := by
  rw [seen, Port.record, List.filter_append, List.filter_singleton, seen]
  cases visible action <;> rfl

/-- An action that the device sees. -/
theorem ensures_shown {action : Action} (shown : visible action = true) :
    Ensures (fun port => seen port = before) (Port.perform action)
      (fun _ port => seen port = before ++ [action]) fun _ => False :=
  ensures_act fun port same => by rw [seen_record, shown, same, if_pos rfl]

/-- An action that it does not see. -/
theorem ensures_hidden {action : Action} (hidden : visible action = false) :
    Ensures (fun port => seen port = before) (Port.perform action)
      (fun _ port => seen port = before) fun _ => False :=
  ensures_act fun port same => by
    rw [seen_record, hidden, if_neg Bool.false_ne_true, List.append_nil, same]

theorem ensures_completed (pointer index : Nat) :
    Ensures (fun port => seen port = before) (Port.completed pointer index)
      (fun _ port => seen port = before) fun _ => False := by
  have status : Ensures (fun port => seen port = before) (Port.loadStatus pointer index)
      (fun _ port => seen port = before) fun _ => False := by
    refine ensures_act fun port same => ?_
    change seen (port.record (.load pointer (index * 16 + 14))) = before
    rw [seen_record, same]
    exact List.append_nil before
  exact ensures_bind status fun _ => ensures_pure fun _ same => same

end Trace

/-- `read_sector`, action by action: it ends whatever the status words say. -/
theorem readSector_port {nvme : Nvme} (iosq : nvme.iosqPtr ≠ 0) (iocq : nvme.iocqPtr ≠ 0)
    (lba : UInt64) (port : Port) (allocated : port.addresses 0 ≠ 0) :
    ∃ final, (Startup.readSector nvme lba).exec port =
        (some (pageSector (port.pages 0), advanced nvme), final) ∧
      seen final = seen port ++ readActions nvme (port.addresses 0) lba := by
  have ensured : Program.Ensures (fun world => world = port) (Startup.readSector nvme lba)
      (fun result final => result = (pageSector (port.pages 0), advanced nvme) ∧
        seen final = seen port ++ readActions nvme (port.addresses 0) lba) fun _ => False := by
    have page : Program.Ensures (fun world => world = port) Port.allocPage
        (fun page final => page = (port.addresses 0, port.pages 0) ∧ seen final = seen port)
        fun _ => False := by
      refine Program.ensures_act fun world same => ?_
      subst same
      exact ⟨rfl, (seen_record _ _).trans (List.append_nil _)⟩
    refine Program.ensures_bind page fun allocation => Program.ensures_given fun here => ?_
    subst here
    refine Program.ensures_notNull iosq ?_
    refine Program.ensures_notNull iocq ?_
    refine Program.ensures_bind (ensures_hidden rfl) fun _ => ?_
    refine Program.ensures_bind (ensures_shown rfl) fun _ => ?_
    refine Program.ensures_bind (ensures_shown rfl) fun _ => ?_
    refine Program.ensures_bind
      (Program.ensures_waitFor (ensures_completed nvme.iocqPtr nvme.iocqHead) _) fun _ => ?_
    refine Program.ensures_bind (ensures_shown rfl) fun _ => ?_
    refine Program.ensures_notNull allocated ?_
    refine Program.ensures_bind (Program.ensures_forM _ fun i => ensures_hidden rfl) fun _ => ?_
    refine Program.ensures_pure fun final shown => ⟨rfl, shown.trans ?_⟩
    rw [List.append_assoc, List.append_assoc]
    rfl
  obtain ⟨_, final, ended, rfl, shown⟩ := Program.exec_some ensured rfl
  exact ⟨final, ended, shown⟩

/-- What the driver meets if its page is allocated at an address and filled with some bytes; the
registers and the status words answer as they like. -/
def filled (answers : Answers) (address : Nat) (page : List UInt8) : Port where
  registers := answers.registers
  statuses := answers.statuses
  pages := fun _ i => page.getD i 0
  addresses := fun _ => address
  trace := []

section ReadSector

variable {State : Type} {hardware : Hardware State} {nvme next : Nvme} {pace : ReadPace}
  {machine after : Storage.Machine State} {lba : UInt64} {reading : Reading}

/-- Behind the null pointer there is no queue. -/
theorem clear_pointers {dataPtr : Nat}
    (cleared : nvme.clear hardware pace machine = some (dataPtr, after)) :
    dataPtr ≠ 0 ∧ nvme.iocqPtr ≠ 0 := by
  obtain ⟨previous, found, rest⟩ := Option.bind_eq_some_iff.mp cleared
  obtain ⟨queue, inside, -⟩ := Option.bind_eq_some_iff.mp found
  obtain ⟨memory, -, same⟩ := Option.bind_eq_some_iff.mp rest
  cases same
  refine ⟨Nat.succ_ne_zero _, fun null => ?_⟩
  rw [null] at inside
  cases inside

theorem submit_pointer {command : NvmeCmd}
    (submitted : nvme.submit hardware pace machine command = some after) : nvme.iosqPtr ≠ 0 := by
  obtain ⟨memory, stored, -⟩ := Option.bind_eq_some_iff.mp submitted
  obtain ⟨queue, inside, -⟩ := Option.bind_eq_some_iff.mp stored
  intro null
  rw [null] at inside
  cases inside

theorem toList_ofFn_getD {size : Nat} {bytes : List UInt8} (whole : bytes.length = size) :
    (Vector.ofFn fun i : Fin size => bytes.getD i 0).toList = bytes := by
  apply List.ext_getElem
  · rw [Vector.length_toList, whole]
  · intro i small inside
    rw [Vector.getElem_toList, Vector.getElem_ofFn, List.getD_eq_getElem _ _ inside]

/-- A run at a controller, with any steps of the controller, is one of those action by action: the
same sector, the same driver, and what the device sees of it. -/
theorem readSector_machine
    (read : nvme.readSector hardware pace machine lba = some (reading, next, after))
    (answers : Answers) :
    ∃ sector final, (Startup.readSector nvme lba).exec
        (filled answers reading.command.prp1 reading.sector) = (some (sector, next), final) ∧
      sector.toList = reading.sector ∧
      seen final = [.submit nvme.iosqPtr nvme.iosqTail reading.command,
        .writeReg 0x1008 next.iosqTail, .writeReg 0x100C next.iocqHead] := by
  simp only [Nvme.readSector, Option.bind_eq_bind, Option.bind_eq_some_iff] at read
  obtain ⟨⟨dataPtr, emptied⟩, cleared, rung, submitted, ⟨observed, waited⟩, -, page, -, sector,
    sliced, same⟩ := read
  cases same
  obtain ⟨allocated, iocq⟩ := clear_pointers cleared
  have whole : sector.length = 512 := by
    unfold slice at sliced
    split at sliced
    case isTrue inside =>
      rw [← Option.some.inj sliced, List.length_drop, List.length_take_of_le inside.2]
    case isFalse => cases sliced
  obtain ⟨final, ended, shown⟩ := readSector_port (submit_pointer submitted) iocq lba
    (filled answers dataPtr sector) allocated
  exact ⟨_, final, ended, toList_ofFn_getD whole, shown⟩

end ReadSector

section Kernel

variable {system : System}

/-- The kernel with its heap, while that serves the page: the same sector, the same driver, and the
command that the device gets. -/
theorem readSector_system {nvme : Nvme} (iosq : nvme.iosqPtr ≠ 0) (iocq : nvme.iocqPtr ≠ 0)
    (lba : UInt64) (room : system.used + 4096 ≤ heapSize) (answers : Answers) :
    ∃ final after, (Startup.readSector nvme lba).exec
        (filled answers (system.addresses 0).val (system.sectors 0).toList) =
          (some (system.sectors 0, advanced nvme), final) ∧
      (System.readSector nvme lba).exec system = (some (system.sectors 0, advanced nvme), after) ∧
      seen final = readActions nvme (system.addresses 0).val lba ∧
      after.commands =
        system.commands ++ [Nvme.readCommand nvme.iosqTail (system.addresses 0).val lba] := by
  obtain ⟨final, ended, shown⟩ := readSector_port iosq iocq lba
    (filled answers (system.addresses 0).val (system.sectors 0).toList) (system.addresses 0).property
  have sector : pageSector (fun i => (system.sectors 0).toList.getD i 0) = system.sectors 0 :=
    Vector.toList_inj.mp (toList_ofFn_getD Vector.length_toList)
  change _ = (some (pageSector fun i => (system.sectors 0).toList.getD i 0, _), _) at ended
  rw [sector] at ended
  have served : (HeapCall.take 4096).serve heapSize system.used = some (system.used + 4096) := by
    rw [HeapCall.serve, if_pos room]
  have kernel : (System.readSector nvme lba).exec system =
      (some (system.sectors 0, advanced nvme), { system with
        used := system.used + 4096
        commands := system.commands ++ [Nvme.readCommand nvme.iosqTail (system.addresses 0).val lba]
        addresses := fun turn => system.addresses (turn + 1)
        sectors := fun turn => system.sectors (turn + 1) }) := by
    simp only [System.readSector, System.allocZeroed, System.look, System.nextAddress,
      System.submit, Program.exec_bind, Program.exec_act, served, Program.exec_pure, advanced]
  exact ⟨final, _, ended, kernel, shown, rfl⟩

end Kernel

end QoreOS.Runtime
