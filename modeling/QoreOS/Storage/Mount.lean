import QoreOS.Storage.FileSystem
import QoreOS.Storage.Identify

/-! The drive during start-up: it is brought up, asked who it is and mounted, and
from then on it is an array of sectors. -/

namespace QoreOS.Storage

open QoreOS.Library

variable {State : Type}

/-- `read_sector` with its result as an array, on a heap that serves so many more pages: every
call keeps one, and without it the slice behind its pointer panics. -/
def Nvme.fetch (nvme : Nvme) (hardware : Hardware State) (pace : ReadPace) (pages : Nat)
    (machine : Machine State) (lba : UInt64) : Option (Sector × Nvme × Machine State × Nat) := do
  let pages ← checkedSub pages 1
  let (reading, nvme, machine) ← nvme.readSector hardware pace machine lba
  let sector ← castRef 512 reading.sector
  some (sector, nvme, machine, pages)

/-- What the start-up has got from the drive, and the pages that the heap still serves. -/
structure Mounted (State : Type) where
  nvme : Nvme
  machine : Machine State
  pages : Nat
  sectorDataStr : String
  printed : List (String × UInt32)

/-- The reading of the volume in `_start`, with the pace of each of its calls. -/
def Nvme.mount (nvme : Nvme) (hardware : Hardware State) (pace : Nat → ReadPace) (pages : Nat)
    (machine : Machine State) : Option (Mounted State) := do
  let (sector0, nvme, machine, pages) ← nvme.fetch hardware (pace 0) pages machine 0
  let volume ← Fat32Volume.new (Fat32BootSector.read sector0)
  let rootLba ← volume.clusterToLba volume.rootCluster
  if rootLba > 0 then
    let (rootSector, nvme, machine, pages) ←
      nvme.fetch hardware (pace 1) pages machine (UInt64.ofNat rootLba)
    let cluster := payloadCluster rootSector
    if cluster ≥ 2 then
      let payloadLba ← volume.clusterToLba cluster
      let (payloadSector, nvme, machine, pages) ←
        nvme.fetch hardware (pace 2) pages machine (UInt64.ofNat payloadLba)
      let printed :=
        if (fromUtf8 (payloadSector.toList.take (textLength payloadSector))).isSome then
          [("\n> FAT32 DECRYPTED: PAYLOAD.TXT EXTRACTED\n", (0x10B981 : UInt32))]
        else []
      some ⟨nvme, machine, pages, payloadText payloadSector, printed⟩
    else some ⟨nvme, machine, pages, "ERROR: PAYLOAD.TXT NOT FOUND!", []⟩
  else some ⟨nvme, machine, pages, "ERROR: INVALID FAT32 ROOT CLUSTER", []⟩

/-- The pace of the controller in the waits of the start-up. -/
structure DrivePace where
  init : Nat → Nat → Nat
  identify : Nat → Nat
  read : Nat → ReadPace

/-- The controller is done with each command before the loop gives up. -/
structure DrivePace.Timely (pace : DrivePace) : Prop where
  init : ∀ loop, Prompt 10000000 3 (pace.init loop)
  identify : Prompt 10000000 3 pace.identify
  read : ∀ call, Prompt 20000000 3 (pace.read call).turns

/-- The drive's block of `_start`, but for the texts of `init`. A driver without queues has
asked for no pages. -/
def startDrive (hardware : Hardware State) (pace : DrivePace) (bar0 pages : Nat)
    (machine : Machine State) : Option (Mounted State) := do
  let (drive, machine) ← (Nvme.new bar0).init hardware pace.init machine
  let pages ← checkedSub pages (if drive.iocqPtr = 0 then 0 else 4)
  let pages ← checkedSub pages 1
  let (printed, machine) ← drive.identifyController hardware pace.identify machine
  let mounted ← drive.mount hardware pace.read pages machine
  some { mounted with printed := printed ++ mounted.printed }

/-- Calls of `read_sector` one after the other. -/
def Nvme.fetchAll (hardware : Hardware State) (nvme : Nvme) (pages : Nat)
    (machine : Machine State) : List Request → Option (List Sector × Nvme × Machine State)
  | [] => some ([], nvme, machine)
  | request :: requests => do
    let (sector, nvme, machine, pages) ← nvme.fetch hardware request.pace pages machine request.lba
    let (sectors, nvme, machine) ← fetchAll hardware nvme pages machine requests
    some (sector :: sectors, nvme, machine)

/-- What reads of the drive return; where there is no block the page stays cleared. -/
def Controller.disk (controller : Controller) (lba : Nat) : Sector :=
  controller.blocks.getD lba (Vector.replicate 512 0)

namespace Nvme

variable {count : Nat} {nvme : Nvme} {machine : Machine Controller} {pace : ReadPace}

/-- A read beyond the last block is refused. -/
theorem executeIo_outside (controller : Controller) (memory : Memory) {slot dataPtr : Nat}
    {lba : UInt64} (small : slot < 16) (outside : controller.blocks.length ≤ lba.toNat) :
    controller.executeIo (readCommand slot dataPtr lba) memory = (0x80, memory) := by
  have single : (readCommand slot dataPtr lba).cdw12.toNat % 2 ^ 16 + 1 = 1 := rfl
  have namespaceId : (readCommand slot dataPtr lba).nsid = 1 := rfl
  simp only [Controller.executeIo, readCommand_opcode small, readCommand_lba, single, namespaceId,
    bne_self_eq_false, Bool.false_eq_true, if_false]
  exact if_neg (by omega)

/-- A call of `read_sector` on any block address. -/
theorem readSector_disk (serving : Serving count nvme machine)
    (prompt : Prompt 20000000 3 pace.turns) (lba : UInt64) :
    ∃ reading after next, nvme.readSector Controller.hardware pace machine lba =
        some (reading, after, next) ∧
      Serving (count + 1) after next ∧ next.device.blocks = machine.device.blocks ∧
      reading.sector = (machine.device.disk lba.toNat).toList := by
  cases valid : machine.device.blocks[lba.toNat]? with
  | some block =>
    obtain ⟨reading, after, next, called, kept, blocks, sector, -⟩ :=
      readSector_serving serving prompt valid
    refine ⟨reading, after, next, called, kept, blocks, ?_⟩
    rw [sector, Controller.disk, List.getD_eq_getElem?_getD, valid, Option.getD_some]
  | none =>
    have small : nvme.iosqTail < 16 := serving.tail ▸ Nat.mod_lt _ (by decide)
    obtain ⟨sq, submission, sqLength⟩ := serving.submission
    obtain ⟨cq, completion, cqLength⟩ := serving.completion
    obtain ⟨old, present⟩ : ∃ old, cq[nvme.iosqTail]? = some old :=
      ⟨_, List.getElem?_eq_getElem (by omega)⟩
    have page : (nvme.prepared machine.memory sq cq old lba).pages.read
        (machine.memory.pages.length + 1) = some (List.replicate 4096 0) :=
      Heap.read_alloc machine.memory.pages _
    have submitted : Submitted count nvme machine lba sq cq old 0x80
        (nvme.prepared machine.memory sq cq old lba) := by
      refine ⟨serving, submission, sqLength, completion, cqLength, present, ⟨rfl, rfl⟩, ?_⟩
      intro other
      have refused : ((machine.device.setPair 1 (waitingPair nvme count)).setPair 1
          other).executeIo (readCommand nvme.iosqTail (machine.memory.pages.length + 1) lba)
            (nvme.prepared machine.memory sq cq old lba) = (0x80, _) :=
        executeIo_outside _ _ small (List.getElem?_eq_none_iff.mp valid)
      rw [Controller.execute, if_neg (by decide)]
      exact congrArg (fun result : UInt16 × Memory => (result.1, Machine.mk _ result.2)) refused
    have cleared : slice (List.replicate 4096 (0 : UInt8)) 0 512 =
        some (List.replicate 512 (0 : UInt8)) := by
      have inside : 512 ≤ (List.replicate 4096 (0 : UInt8)).length := by
        rw [List.length_replicate]
        decide
      rw [slice_of_le (Nat.zero_le _) inside, List.take_replicate, List.drop_zero,
        Nat.min_eq_left (by decide)]
    obtain ⟨reading, after, next, called, kept, blocks, sector, -⟩ :=
      submitted.completes (ReadPace.inTime_of_prompt prompt) page cleared
    refine ⟨reading, after, next, called, kept, blocks, ?_⟩
    rw [sector, Controller.disk, List.getD_eq_getElem?_getD, valid, Option.getD_none]
    simp

end Nvme

/-- The drive and its driver between two reads, `count` calls after the queues were made. -/
structure Driven (count : Nat) (blocks : List Sector) (nvme : Nvme)
    (machine : Machine Controller) : Prop where
  serving : Serving count nvme machine
  rests : Controller.AdminIdle machine
  blocks : machine.device.blocks = blocks

section Driven

variable {count : Nat} {nvme : Nvme} {machine : Machine Controller} {pace : ReadPace}
  {blocks : List Sector}

theorem Driven.fetch (driven : Driven count blocks nvme machine) (identity : Vector UInt8 4096)
    (pages : Nat) (prompt : Prompt 20000000 3 pace.turns) (lba : UInt64) :
    ∃ after next, nvme.fetch (Controller.identifying identity) pace (pages + 1) machine lba =
        some (blocks.getD lba.toNat (Vector.replicate 512 0), after, next, pages) ∧
      Driven (count + 1) blocks after next := by
  obtain ⟨serving, rests, rfl⟩ := driven
  obtain ⟨reading, after, next, called, kept, same, sector⟩ :=
    Nvme.readSector_disk serving prompt lba
  obtain ⟨alike, idle⟩ := Controller.readSector_identifying identity rests nvme pace lba
  have whole : castRef 512 reading.sector = some (machine.device.disk lba.toNat) := by
    rw [sector, ← List.append_nil (Vector.toList _), castRef_append]
  refine ⟨after, next, ?_, kept, idle _ _ _ called, same⟩
  rw [Nvme.fetch, checkedSub_of_le (Nat.le_add_left 1 pages), Nat.add_sub_cancel, alike, called]
  change (castRef 512 reading.sector).bind _ = _
  rw [whole]
  rfl

/-- The driver and its drive are an array that can be read. -/
theorem Driven.fetchAll (driven : Driven count blocks nvme machine)
    (identity : Vector UInt8 4096) {pages : Nat} {requests : List Request} (room : requests.length ≤ pages)
    (prompt : ∀ request ∈ requests, Prompt 20000000 3 request.pace.turns) :
    ∃ after next, nvme.fetchAll (Controller.identifying identity) pages machine requests =
        some (requests.map fun request =>
          blocks.getD request.lba.toNat (Vector.replicate 512 0), after, next) ∧
      Driven (count + requests.length) blocks after next := by
  induction requests generalizing count pages nvme machine with
  | nil => exact ⟨nvme, machine, rfl, driven⟩
  | cons request requests ih =>
    obtain ⟨left, rfl⟩ : ∃ left, pages = left + 1 :=
      ⟨_, (Nat.sub_add_cancel (Nat.le_trans (Nat.le_add_left 1 _) room)).symm⟩
    obtain ⟨after, next, called, kept⟩ := driven.fetch identity left (prompt request (by simp))
      request.lba
    obtain ⟨last, final, rest, done⟩ := ih kept (Nat.le_of_succ_le_succ room)
      fun other member => prompt other (by simp [member])
    refine ⟨last, final, ?_, ?_⟩
    · rw [Nvme.fetchAll, called, Option.bind_eq_bind, Option.bind_some]
      change (after.fetchAll (Controller.identifying identity) left next requests).bind _ = _
      rw [rest]
      rfl
    · rw [List.length_cons, Nat.add_comm requests.length, ← Nat.add_assoc]
      exact done

theorem clusterToLba_lt {volume : Fat32Volume} {cluster lba : Nat}
    (converted : volume.clusterToLba cluster = some lba) : (UInt64.ofNat lba).toNat = lba := by
  rw [UInt64.toNat_ofNat']
  apply Nat.mod_eq_of_lt
  unfold Fat32Volume.clusterToLba at converted
  split at converted
  · cases converted
    decide
  · obtain ⟨sectors, -, converted⟩ := Option.bind_eq_some_iff.mp converted
    obtain ⟨rfl, small⟩ := checked_eq_some converted
    omega

/-- The volume is read as if the drive were an array, in at most three calls. -/
theorem Driven.mount (driven : Driven count blocks nvme machine) (identity : Vector UInt8 4096)
    (pages : Nat) {pace : Nat → ReadPace} (prompt : ∀ call, Prompt 20000000 3 (pace call).turns) :
    (nvme.mount (Controller.identifying identity) pace (pages + 3) machine).map
        Mounted.sectorDataStr =
        sectorDataStr (some fun lba => blocks.getD lba (Vector.replicate 512 0)) ∧
      ∀ mounted, nvme.mount (Controller.identifying identity) pace (pages + 3) machine =
        some mounted → ∃ calls, Driven (count + calls) blocks mounted.nvme mounted.machine ∧
          pages ≤ mounted.pages := by
  obtain ⟨first, atFirst, boot, afterFirst⟩ :=
    driven.fetch identity (pages + 2) (prompt 0) 0
  unfold Nvme.mount sectorDataStr
  rw [boot]
  simp only [Option.bind_eq_bind, Option.bind_some]
  change ((Fat32Volume.new (Fat32BootSector.read (blocks.getD 0 _))).bind _).map _ =
      (Fat32Volume.new (Fat32BootSector.read (blocks.getD 0 _))).bind _ ∧
    ∀ mounted, (Fat32Volume.new (Fat32BootSector.read (blocks.getD 0 _))).bind _ = some mounted → _
  cases Fat32Volume.new (Fat32BootSector.read (blocks.getD 0 (Vector.replicate 512 0))) with
  | none => exact ⟨rfl, nofun⟩
  | some volume =>
    simp only [Option.bind_some]
    cases root : volume.clusterToLba volume.rootCluster with
    | none => exact ⟨rfl, nofun⟩
    | some rootLba =>
      simp only [Option.bind_some]
      split
      case isFalse =>
        refine ⟨rfl, ?_⟩
        rintro mounted ⟨⟩
        exact ⟨1, afterFirst, Nat.le_add_right pages 2⟩
      case isTrue positive =>
        obtain ⟨second, atSecond, directory, afterSecond⟩ :=
          afterFirst.fetch identity (pages + 1) (prompt 1) (UInt64.ofNat rootLba)
        rw [clusterToLba_lt root] at directory
        rw [directory]
        simp only [Option.bind_some]
        split
        case isFalse =>
          refine ⟨rfl, ?_⟩
          rintro mounted ⟨⟩
          exact ⟨2, afterSecond, Nat.le_add_right pages 1⟩
        case isTrue data =>
          cases file : volume.clusterToLba (payloadCluster
              (blocks.getD rootLba (Vector.replicate 512 0))) with
          | none => exact ⟨rfl, nofun⟩
          | some payloadLba =>
            obtain ⟨third, atThird, payload, afterThird⟩ :=
              afterSecond.fetch identity pages (prompt 2) (UInt64.ofNat payloadLba)
            rw [clusterToLba_lt file] at payload
            simp only [Option.bind_some]
            rw [payload]
            refine ⟨rfl, ?_⟩
            rintro mounted ⟨⟩
            exact ⟨3, afterThird, Nat.le_refl pages⟩

end Driven

theorem Nvme.new_driven {controller : Controller} (present : controller.Present) {memory : Memory}
    (fresh : memory.commands = []) (identity : Vector UInt8 4096) (bar0 : Nat) {pace : DrivePace}
    (timely : pace.Timely) :
    ∃ drive machine next, (Nvme.new bar0).init (Controller.identifying identity) pace.init
        ⟨controller, memory⟩ = some (drive, machine) ∧
      drive.identifyController (Controller.identifying identity) pace.identify machine =
        some (Controller.shownAs identity, next) ∧
      Driven 0 controller.blocks drive next := by
  obtain ⟨drive, machine, initialises, commanding, submissions, completions, serving, blocks⟩ :=
    Nvme.init_commanding present memory bar0 timely.init
  obtain ⟨next, identified, kept, rests, same⟩ := Controller.identifyController_serving identity
    commanding serving submissions completions timely.identify
  exact ⟨drive, machine, next, (Controller.initialises_identifying present fresh initialises).init,
    identified, kept, rests, same.trans blocks⟩

/-- The start-up brings driver and drive together, and mounts the volume. -/
theorem startDrive_driven {controller : Controller} (present : controller.Present) {memory : Memory}
    (fresh : memory.commands = []) (identity : Vector UInt8 4096) (bar0 : Nat) {pace : DrivePace}
    (timely : pace.Timely) (pages : Nat) :
    ∃ drive machine left, Driven 0 controller.blocks drive machine ∧ pages ≤ left ∧
      startDrive (Controller.identifying identity) pace bar0 (pages + 8) ⟨controller, memory⟩ =
        (drive.mount (Controller.identifying identity) pace.read (left + 3) machine).map
          fun mounted =>
            { mounted with printed := Controller.shownAs identity ++ mounted.printed } := by
  obtain ⟨drive, machine, next, started, identified, driven⟩ :=
    Nvme.new_driven present fresh identity bar0 timely
  obtain ⟨left, enough, queues⟩ : ∃ left, pages ≤ left ∧
      checkedSub (pages + 8) (if drive.iocqPtr = 0 then 0 else 4) = some (left + 3 + 1) := by
    split
    · exact ⟨pages + 4, Nat.le_add_right .., checkedSub_of_le (Nat.zero_le _)⟩
    · exact ⟨pages, Nat.le_refl _, checkedSub_of_le (Nat.le_add_left 4 (pages + 4))⟩
  refine ⟨drive, next, left, driven, enough, ?_⟩
  unfold startDrive
  rw [started, Option.bind_eq_bind, Option.bind_some]
  change (checkedSub (pages + 8) _).bind _ = _
  rw [queues]
  simp only [Option.bind_some, checkedSub_of_le (Nat.le_add_left 1 (left + 3)), Nat.add_sub_cancel,
    Option.bind_eq_bind]
  rw [identified]
  simp only [Option.bind_some]
  cases drive.mount (Controller.identifying identity) pace.read (left + 3) next <;> rfl

theorem startDrive_text {controller : Controller} (present : controller.Present) {memory : Memory}
    (fresh : memory.commands = []) (identity : Vector UInt8 4096) (bar0 : Nat) {pace : DrivePace}
    (timely : pace.Timely) (pages : Nat) :
    (startDrive (Controller.identifying identity) pace bar0 (pages + 8) ⟨controller, memory⟩).map
      Mounted.sectorDataStr = sectorDataStr (some controller.disk) := by
  obtain ⟨drive, machine, left, driven, -, starts⟩ :=
    startDrive_driven present fresh identity bar0 timely pages
  rw [starts, Option.map_map]
  exact (driven.mount identity left timely.read).1

/-- With any drive that is done in time, and a heap that serves eight pages for it, the start-up
prints who it is and ends with the text that the kernel takes from its sectors (or panics on their
addresses), and every sector that is asked for later on, in any calls that the heap serves a page
each, is the one on the drive. -/
theorem startDrive_reads {controller : Controller} (present : controller.Present) {memory : Memory}
    (fresh : memory.commands = []) (identity : Vector UInt8 4096) (bar0 : Nat) {pace : DrivePace}
    (timely : pace.Timely) (pages : Nat) :
    (startDrive (Controller.identifying identity) pace bar0 (pages + 8) ⟨controller, memory⟩).map
        Mounted.sectorDataStr = sectorDataStr (some controller.disk) ∧
      ∀ mounted, startDrive (Controller.identifying identity) pace bar0 (pages + 8)
          ⟨controller, memory⟩ = some mounted →
        Controller.shownAs identity <+: mounted.printed ∧ pages ≤ mounted.pages ∧
        ∀ requests : List Request, requests.length ≤ mounted.pages →
          (∀ request ∈ requests, Prompt 20000000 3 request.pace.turns) →
          ∃ after next, mounted.nvme.fetchAll (Controller.identifying identity) mounted.pages
            mounted.machine requests = some (requests.map fun request =>
              controller.disk request.lba.toNat, after, next) := by
  refine ⟨startDrive_text present fresh identity bar0 timely pages, ?_⟩
  obtain ⟨drive, machine, left, driven, enough, starts⟩ :=
    startDrive_driven present fresh identity bar0 timely pages
  intro mounted started
  rw [starts, Option.map_eq_some_iff] at started
  obtain ⟨earlier, mounts, rfl⟩ := started
  obtain ⟨count, ready, kept⟩ := (driven.mount identity left timely.read).2 earlier mounts
  refine ⟨List.prefix_append .., Nat.le_trans enough kept, ?_⟩
  intro requests room prompt
  obtain ⟨after, last, fetched, -⟩ := ready.fetchAll identity room prompt
  exact ⟨after, last, fetched⟩

/-- A controller that is done within one turn of each loop. -/
def DrivePace.brisk : DrivePace where
  init := fun _ _ => 3
  identify := fun _ => 3
  read := fun _ => .waiting fun _ => 3

theorem DrivePace.brisk_timely : DrivePace.brisk.Timely where
  init := fun _ => prompt_of_first (fun _ => 3) (Nat.le_refl 3)
  identify := prompt_of_first (fun _ => 3) (Nat.le_refl 3)
  read := fun _ => prompt_of_first (fun _ => 3) (Nat.le_refl 3)

/-- A drive with nothing but a boot sector, and a heap for 92 later reads. -/
theorem startDrive_reads_small :
    (startDrive (Controller.identifying (Vector.replicate 4096 0x51)) DrivePace.brisk 0xFEBF0000
        (92 + 8) ⟨Controller.off [smallBootSector], ⟨[], [], []⟩⟩).map Mounted.sectorDataStr =
      sectorDataStr (some (Controller.off [smallBootSector]).disk) ∧
    ∀ mounted, startDrive (Controller.identifying (Vector.replicate 4096 0x51)) DrivePace.brisk
        0xFEBF0000 (92 + 8) ⟨Controller.off [smallBootSector], ⟨[], [], []⟩⟩ = some mounted →
      Controller.shownAs (Vector.replicate 4096 0x51) <+: mounted.printed ∧ 92 ≤ mounted.pages ∧
      ∀ requests : List Request, requests.length ≤ mounted.pages →
        (∀ request ∈ requests, Prompt 20000000 3 request.pace.turns) →
        ∃ after next, mounted.nvme.fetchAll (Controller.identifying (Vector.replicate 4096 0x51))
          mounted.pages mounted.machine requests = some (requests.map fun request =>
            (Controller.off [smallBootSector]).disk request.lba.toNat, after, next) :=
  startDrive_reads (Controller.off_present _) rfl _ _ DrivePace.brisk_timely 92

end QoreOS.Storage
