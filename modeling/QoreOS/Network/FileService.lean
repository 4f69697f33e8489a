import QoreOS.Network.Conversation
import QoreOS.Storage.Directory
import QoreOS.Storage.Mount
import QoreOS.Storage.PayloadText

/-! From the disk to the client: which file the machine serves, and what those who ask for it
read on the wire. -/

namespace QoreOS.Storage

open QoreOS.Library

/-- The bytes up to a zero byte or a line feed. -/
def firstLine (bytes : List UInt8) : List UInt8 :=
  bytes.takeWhile fun byte => byte != 0 && byte != 0x0A

namespace Disk

/-- The file stands in the first sector of the root directory, under the first entry of its name,
and its first line does not go on behind its end. -/
structure Publishes (disk : Disk) (entry : Fat32DirEntry) : Prop where
  wellFormed : disk.WellFormed
  file : entry ∈ liveEntries disk.rootEntries
  named : payloadEntry disk.rootSector = some entry
  inside : 2 ≤ entry.firstCluster ∧ entry.firstCluster < disk.clusterCount + 2
  line : (firstLine (disk (disk.volume.firstSector entry.firstCluster)).toList).length ≤
    entry.fileSize

/-- The first line of the file, as far as it goes in 512 bytes, or nothing if it is not a text. -/
def fileText (disk : Disk) (entry : Fat32DirEntry) : String :=
  match fromUtf8 (firstLine ((disk.volume.contents disk entry).take 512)) with
  | some line => "FILE CONTENT: " ++ line
  | none => ""

variable {disk : Disk} {entry : Fat32DirEntry}

/-- The file begins with its first sector. -/
theorem WellFormed.take_contents (wellFormed : disk.WellFormed) (entry : Fat32DirEntry) :
    (disk.volume.contents disk entry).take 512 =
      (disk (disk.volume.firstSector entry.firstCluster)).toList.take entry.fileSize := by
  obtain ⟨rest, sectors⟩ := disk.volume.chain_sectors disk wellFormed.occupied
    (entry.fileSize / 512) entry.firstCluster
  rw [Fat32Volume.contents, sectors, List.flatMap_cons, List.take_take, Nat.min_comm,
    ← List.take_take, List.take_left' (by simp)]

/-- What the kernel takes from the sector is the file's own line. -/
theorem Publishes.text (publishes : disk.Publishes entry) :
    sectorDataStr (some disk) = some (disk.fileText entry) := by
  obtain ⟨wellFormed, -, named, ⟨data, inside⟩, line⟩ := publishes
  obtain ⟨root, positive⟩ := wellFormed.root
  have found : Finds disk disk.volume entry (disk.volume.firstSector entry.firstCluster) :=
    ⟨wellFormed.mounted, ⟨_, root, positive, named⟩, data, wellFormed.clusterToLba data inside⟩
  have taken : ∀ sector : Sector,
      sector.toList.take (textLength sector) = firstLine sector.toList := by
    intro sector
    exact (List.prefix_iff_eq_take.mp (List.takeWhile_prefix _)).symm
  have same : firstLine ((disk.volume.contents disk entry).take 512) =
      firstLine (disk (disk.volume.firstSector entry.firstCluster)).toList := by
    rw [wellFormed.take_contents, firstLine, ← List.take_takeWhile]
    exact List.take_of_length_le line
  rw [found.text, fileText, same, ← taken]
  rfl

end Disk

/-- A drive holds the sectors that it is given, and cleared ones behind them. -/
theorem Controller.off_disk {disk : Disk} {count : Nat}
    (cleared : ∀ lba, count ≤ lba → disk lba = Vector.replicate 512 0) :
    (Controller.off ((List.range count).map disk)).disk = disk := by
  funext lba
  change ((List.range count).map disk).getD lba (Vector.replicate 512 0) = _
  rw [List.getD_eq_getElem?_getD, List.getElem?_map]
  rcases Nat.lt_or_ge lba count with inside | behind
  · rw [List.getElem?_range inside]
    rfl
  · rw [List.getElem?_eq_none (by rwa [List.length_range]), cleared lba behind]
    rfl

section Small

variable (root rootNext file : Sector)

theorem smallDisk_volume : (smallDisk root rootNext file).volume = smallVolume := by
  change Fat32Volume.describedBy (Fat32BootSector.read smallBootSector) = smallVolume
  decide +kernel

theorem smallDisk_clusterCount : (smallDisk root rootNext file).clusterCount = 65525 := by
  rw [Disk.clusterCount, smallDisk_volume]
  change (smallBootSector.field 32 4 - 544) / 2 = 65525
  decide +kernel

theorem smallDisk_chain (count : Nat) :
    smallVolume.chain (smallDisk root rootNext file) (count + 1) 2 = [2] := by
  have last : smallVolume.fatEntry (smallDisk root rootNext file) 2 = 0x0FFFFFFF := by
    change (Sector.holding (numberBytes 4 0x0FFFFFF8 ++ numberBytes 4 0x0FFFFFFF ++
      numberBytes 4 0x0FFFFFFF ++ numberBytes 4 0x0FFFFFFF)).field 8 4 % 2 ^ 28 = _
    decide +kernel
  rw [Fat32Volume.chain, last]
  rfl

theorem smallDisk_rootEntries : (smallDisk root rootNext file).rootEntries =
    root.entries ++ rootNext.entries := by
  have clusters : (smallDisk root rootNext file).rootClusters = [2] := by
    rw [Disk.rootClusters, smallDisk_volume, smallDisk_clusterCount]
    exact smallDisk_chain root rootNext file 65524
  rw [Disk.rootEntries, clusters, smallDisk_volume]
  rfl

/-- The small volume is well formed whatever the files are called. -/
theorem smallDisk_wellFormed
    (names : ((liveEntries (root.entries ++ rootNext.entries)).map Fat32DirEntry.name).Nodup) :
    (smallDisk root rootNext file).WellFormed where
  bytesPerSector := by
    change smallBootSector.field 11 2 = 512
    decide +kernel
  sectorsPerCluster := ⟨1, by decide, congrArg Fat32Volume.sectorsPerCluster (smallDisk_volume ..)⟩
  reserved := by
    rw [smallDisk_volume]
    decide
  tables := by
    change 1 ≤ (Fat32BootSector.read smallBootSector).numFats
    decide +kernel
  tableSize := by
    rw [smallDisk_clusterCount]
    change _ ≤ 128 * (Fat32BootSector.read smallBootSector).fatSize32
    decide +kernel
  dataSectors := by
    rw [smallDisk_volume]
    change 544 ≤ smallBootSector.field 32 4
    decide +kernel
  fat32 := (smallDisk_clusterCount ..).ge
  rootCluster := by
    rw [smallDisk_volume, smallDisk_clusterCount]
    decide
  rootChain := by
    rw [smallDisk_volume, smallDisk_clusterCount]
    exact (congrArg List.length (smallDisk_chain root rootNext file 65525)).trans_le (by decide)
  names := by
    rw [smallDisk_rootEntries]
    exact names

end Small

/-- The file in the first entry of the small volume. -/
def onlineDisk : Disk :=
  smallDisk (Sector.holding (payloadAt3 8).bytes) (Sector.holding [])
    (Sector.holding (utf8 "ONLINE.\n"))

theorem onlineDisk_publishes : onlineDisk.Publishes (payloadAt3 8) where
  wellFormed := smallDisk_wellFormed _ _ _ (by decide +kernel)
  file := by
    rw [onlineDisk, smallDisk_rootEntries]
    decide +kernel
  named := by
    rw [Disk.rootSector, onlineDisk, smallDisk_volume]
    decide +kernel
  inside := by
    rw [onlineDisk, smallDisk_clusterCount]
    decide
  line := by
    rw [onlineDisk, smallDisk_volume]
    decide +kernel

theorem Sector.holding_nil : Sector.holding [] = Vector.replicate 512 0 := by
  apply Vector.toArray_inj.mp
  change (([] ++ List.replicate 512 (0 : UInt8)).take 512).toArray = Array.replicate 512 0
  rw [List.nil_append, List.take_of_length_le List.length_replicate.le, List.toArray_replicate]

theorem onlineDisk_cleared (lba : Nat) (behind : 547 ≤ lba) :
    onlineDisk lba = Vector.replicate 512 0 := by
  rw [← Sector.holding_nil]
  unfold onlineDisk smallDisk
  split <;> first | omega | rfl

theorem onlineDisk_text : onlineDisk.fileText (payloadAt3 8) = "FILE CONTENT: ONLINE." := by
  rw [Disk.fileText, onlineDisk, smallDisk_volume]
  decide +kernel

def onlineDrive : Controller := Controller.off ((List.range 547).map onlineDisk)

theorem onlineDrive_present : onlineDrive.Present := Controller.off_present _

theorem onlineDrive_disk : onlineDrive.disk = onlineDisk := Controller.off_disk onlineDisk_cleared

end QoreOS.Storage

namespace QoreOS.Network

open QoreOS.Library

/-- What a client takes from a frame: the body of the server's answer, and for whom it is. -/
def clientReads (frame : List UInt8) : Option (Peer × List UInt8) := do
  let segment ← Segment.decode frame
  if segment.sourceIp = ownIp ∧ segment.sourcePort = 80 ∧ segment.flags = 0x18 then
    let (lines, body) ← readHead [] segment.payload
    if contentLength lines = some body.length then
      some (⟨segment.destinationIp, segment.destinationPort⟩, body)
    else none
  else none

def Request.client : Request → Option Peer
  | .get peer _ _ _ => some peer
  | _ => none

/-- The client who asks for the file. -/
def Act.client : Act → Option Peer
  | .hears frame => (Protocol.request frame).bind Request.client
  | _ => none

def Duty.client : Duty → Option Peer
  | .serve _ peer _ _ _ => some peer
  | _ => none

/-- The frames that may wait for the card behind the event, if each turn of the kernel adds one. -/
def Event.backlog : Event → Nat → Nat
  | .fetch, waiting => waiting - 1
  | .receive _, waiting => waiting
  | _, waiting => waiting + 1

/-- All that clients read, on the wire and in the frames which the card will still take, is the
text, once for each request that has been heard and in the order of the requests. -/
structure Wire.Serves (wire : Wire) (text : String) : Prop where
  heard : wire.acts.filterMap Act.heard <+: wire.traffic.accepted.map Prod.snd
  read : ∃ nic, ∃ said : List (List UInt8), wire.traffic.kernel.netCard = some nic ∧
    wire.sent.map some ++ nic.txWindow.map (nic.frameAt wire.traffic.kernel.heap) = said.map some ∧
    said.filterMap clientReads =
      (wire.acts.filterMap Act.client).map fun peer => (peer, utf8 text)

/-- The card takes its frames in time. -/
def InPace : Nat → List Event → Prop
  | _, [] => True
  | waiting, event :: later => event.backlog waiting ≤ 7 ∧ InPace (event.backlog waiting) later

instance InPace.decide : (waiting : Nat) → (events : List Event) → Decidable (InPace waiting events)
  | _, [] => .isTrue trivial
  | waiting, event :: later =>
    have := InPace.decide (event.backlog waiting) later
    inferInstanceAs (Decidable (_ ∧ _))

section Reading

variable {payload : String} {frame : List UInt8}

/-- A frame of another type is no segment. -/
theorem decode_arp {message : ArpMessage} (read : ArpMessage.read frame = some message)
    (arp : message.ethertype = 0x0806) : Segment.decode frame = none := by
  obtain ⟨⟨high, low, at12, at13, ethertype⟩, -⟩ := handleArp_message read
  rw [arp] at ethertype
  obtain ⟨inside12, rfl⟩ := List.getElem?_eq_some_iff.mp at12
  obtain ⟨inside13, rfl⟩ := List.getElem?_eq_some_iff.mp at13
  rw [Option.eq_none_iff_forall_ne_some]
  intro segment decoded
  simp only [Segment.decode, castRef, Option.bind_eq_bind, Option.bind_eq_some_iff,
    Option.dite_none_right_eq_some, Option.some.injEq] at decoded
  obtain ⟨ethernet, ⟨fits, rfl⟩, ip, -, tcp, -, decoded⟩ := decoded
  rw [Option.ite_none_right_eq_some] at decoded
  obtain ⟨⟨⟨high, low⟩, -⟩, -⟩ := decoded
  have type : frame[12] = 0x08 ∧ frame[13] = 0x00 := ⟨by simpa using high, by simpa using low⟩
  rw [type.1, type.2] at ethertype
  exact absurd ethertype (by decide)

/-- A client reads what was owed to it, and nothing else. -/
theorem Duty.Fulfilled.clientReads {duty : Duty} (fulfilled : duty.Fulfilled payload frame) :
    clientReads frame = duty.client.map fun peer => (peer, utf8 payload) := by
  cases duty with
  | announce =>
    obtain rfl := fulfilled
    rfl
  | ask targetIp =>
    rw [Network.clientReads, decode_arp fulfilled rfl]
    rfl
  | tell mac ip =>
    rw [Network.clientReads, decode_arp fulfilled.1 rfl]
    rfl
  | accept mac peer sequence =>
    obtain ⟨-, segment, decoded, -, flags, -⟩ := fulfilled
    have other : ¬ (segment.sourceIp = ownIp ∧ segment.sourcePort = 80 ∧ segment.flags = 0x18) := by
      rw [flags]
      rintro ⟨-, -, same⟩
      exact absurd same (by decide)
    simp only [Network.clientReads, decoded, Option.bind_eq_bind, Option.bind_some, if_neg other]
    rfl
  | serve mac peer sequence acknowledgment length =>
    obtain ⟨-, segment, decoded, addressed, flags, -, -, lines, head, size⟩ := fulfilled
    simp only [Network.clientReads, decoded, Option.bind_eq_bind, Option.bind_some,
      if_pos (⟨addressed.sourceIp, addressed.sourcePort, flags⟩ : _ ∧ _ ∧ _), head, if_pos size,
      addressed.destinationIp, addressed.destinationPort]
    rfl

/-- A frame is owed to a client only for a request. -/
theorem Protocol.owes_client (history : List (Ip × Mac)) (act : Act) :
    (owes history act).filterMap Duty.client = act.client.toList := by
  cases act with
  | broadcasts => rfl
  | asks targetIp => rfl
  | hears frame =>
    change (Option.toList _).filterMap _ = _
    cases asks : asked frame with
    | none =>
      rw [Option.none_or, Act.client]
      cases request frame with
      | none => rfl
      | some asked => cases asked <;> rfl
    | some duty =>
      obtain ⟨message, read, asks⟩ := Option.bind_eq_some_iff.mp asks
      rw [Option.ite_none_right_eq_some] at asks
      obtain ⟨request, asks⟩ := asks
      cases asks
      have arp : message.ethertype = 0x0806 := congrArg ArpMessage.ethertype request
      rw [Option.some_or, Act.client, Protocol.request, decode_arp read arp]
      rfl

end Reading

section Pace

variable {boot : Boot} {wire after : Wire} {nic : E1000} {event : Event}

theorem Node.speaks_length (node : Node) (act : Act) : (node.speaks act).length ≤ 1 := by
  cases act with
  | hears frame => exact Option.length_toList_le
  | _ => exact Nat.le_refl 1

theorem E1000.writeRegister_other (before : E1000) {offset other : Nat} (apart : other ≠ offset)
    (value : Nat) :
    (before.writeRegister offset value).registers other = before.registers other := by
  rw [E1000.writeRegister]
  exact Function.update_of_ne apart _ _

theorem E1000.receive_tail {before next : E1000} {heap left : List (List UInt8)}
    {frame : List UInt8} (received : before.receive heap frame = some (next, left)) :
    next.registers 0x3818 = before.registers 0x3818 := by
  unfold E1000.receive at received
  split at received
  · simp only [Option.bind_eq_bind, Option.bind_eq_some_iff, Option.some.injEq, Prod.mk.injEq]
      at received
    obtain ⟨_, -, _, -, rfl, -⟩ := received
    exact E1000.writeRegister_other _ (by decide) _
  · cases received
    rfl

theorem E1000.fetch_tail {before next : E1000} {heap taken : List (List UInt8)}
    (took : before.fetch heap = some (next, taken)) :
    next.registers 0x3818 = before.registers 0x3818 ∧
      (taken.length = 1 ∨ before.registers 0x3810 = before.registers 0x3818) := by
  simp only [E1000.fetch] at took
  split at took
  · cases took
    exact ⟨rfl, Or.inr ‹_›⟩
  · simp only [Option.bind_eq_bind, Option.bind_eq_some_iff, Option.some.injEq, Prod.mk.injEq]
      at took
    obtain ⟨_, -, _, -, _, -, rfl, rfl⟩ := took
    exact ⟨E1000.writeRegister_other _ (by decide) _, Or.inl rfl⟩

/-- The frames that wait for the card. -/
def Wire.waiting (boot : Boot) (wire : Wire) : Nat :=
  (Node.machine.transcript boot.node wire.acts).length - wire.sent.length

theorem OnWire.full_iff (onWire : OnWire boot wire nic) (calm : wire.crowded = false) :
    nic.Full ↔ 7 ≤ wire.waiting boot := (onWire.linked calm).full_iff

/-- A turn of the kernel adds one frame at most. -/
theorem Wire.waiting_append (boot : Boot) (wire : Wire) {acts : List Act} (few : acts.length ≤ 1) :
    (Node.machine.transcript boot.node (wire.acts ++ acts)).length - wire.sent.length ≤
      wire.waiting boot + 1 := by
  have added := Node.machine.length_transcript Node.speaks_length
    (Node.machine.after boot.node wire.acts) acts
  rw [Transducer.transcript_append, List.length_append, Wire.waiting]
  omega

theorem Traffic.step_kernel {traffic next : Traffic} (stepped : traffic.step event = some next) :
    traffic.kernel.step event = some next.kernel := by
  simp only [Traffic.step, Option.bind_eq_bind, Option.bind_eq_some_iff] at stepped
  obtain ⟨nic, -, kernel, moved, logged⟩ := stepped
  rw [moved]
  cases event with
  | poll =>
    obtain ⟨packetSlice, -, logged⟩ := Option.bind_eq_some_iff.mp logged
    cases logged
    rfl
  | _ =>
    cases logged
    rfl

/-- What a step adds to the history of the wire. -/
theorem Wire.step_some (card : wire.traffic.kernel.netCard = some nic)
    (stepped : wire.step event = some after) : ∃ acts sent kernel next,
      wire.traffic.kernel.acts nic event = some acts ∧
      nic.puts wire.traffic.kernel.heap event = some sent ∧
      wire.traffic.kernel.step event = some kernel ∧ kernel.netCard = some next ∧
      after.acts = wire.acts ++ acts ∧ after.sent = wire.sent ++ sent ∧
      after.crowded = (wire.crowded || (nic.Full ∧
        next.registers 0x3818 ≠ nic.registers 0x3818 : Bool)) := by
  simp only [Wire.step, card, Option.bind_eq_bind, Option.bind_some, Option.bind_eq_some_iff,
    Option.some.injEq] at stepped
  obtain ⟨acts, acted, sent, put, traffic, moved, next, there, rfl⟩ := stepped
  exact ⟨acts, sent, traffic.kernel, next, acted, put, Traffic.step_kernel moved, there, rfl, rfl,
    rfl⟩

/-- A turn of the kernel, which says one thing at most. -/
theorem OnWire.turn_calm (onWire : OnWire boot wire nic) (calm : wire.crowded = false)
    {waiting : Nat} (few : wire.waiting boot ≤ waiting) (room : waiting + 1 ≤ 7)
    {acts : List Act} (brief : acts.length ≤ 1) (next : E1000) :
    ¬ (nic.Full ∧ next.registers 0x3818 ≠ nic.registers 0x3818) ∧
      (Node.machine.transcript boot.node (wire.acts ++ acts)).length -
        (wire.sent ++ []).length ≤ waiting + 1 := by
  have added := wire.waiting_append boot brief
  rw [onWire.full_iff calm, List.append_nil]
  omega

/-- The transmit ring of a card that is in time is never full. -/
theorem OnWire.step_calm (onWire : OnWire boot wire nic) (calm : wire.crowded = false)
    {waiting : Nat} (few : wire.waiting boot ≤ waiting) (room : event.backlog waiting ≤ 7)
    (stepped : wire.step event = some after) :
    after.crowded = false ∧ after.waiting boot ≤ event.backlog waiting := by
  have card := onWire.receive.ready.card
  obtain ⟨acts, sent, kernel, next, acted, put, moved, there, sameActs, sameSent, crowded⟩ :=
    Wire.step_some card stepped
  rw [calm, Bool.false_or] at crowded
  rw [crowded, decide_eq_false_iff_not, Wire.waiting, sameActs, sameSent]
  cases event with
  | receive frame =>
    cases acted
    cases put
    simp only [Kernel.step, card, Option.bind_eq_bind, Option.bind_some, Option.bind_eq_some_iff,
      Option.some.injEq] at moved
    obtain ⟨⟨stored, heap⟩, received, rfl⟩ := moved
    cases there
    rw [List.append_nil, List.append_nil]
    exact ⟨fun crowds => crowds.2 (E1000.receive_tail received), few⟩
  | fetch =>
    cases acted
    simp only [Kernel.step, card, Option.bind_eq_bind, Option.bind_some, Option.bind_eq_some_iff,
      Option.some.injEq] at moved
    obtain ⟨⟨fetched, taken⟩, took, rfl⟩ := moved
    cases there
    simp only [E1000.puts, took, Option.bind_eq_bind, Option.bind_some, Option.some.injEq] at put
    subst put
    obtain ⟨tail, empty⟩ := E1000.fetch_tail took
    refine ⟨fun crowds => crowds.2 tail, ?_⟩
    rw [List.append_nil, List.length_append]
    change _ ≤ waiting - 1
    change (Node.machine.transcript boot.node wire.acts).length - wire.sent.length ≤ waiting at few
    rcases empty with one | empty
    · omega
    · have outstanding := (onWire.linked calm).link.outstanding
      change Ring.distance 8 _ _ =
        (Node.machine.transcript boot.node wire.acts).length - wire.sent.length at outstanding
      rw [empty, Ring.distance, Nat.add_sub_cancel_left] at outstanding
      omega
  | poll =>
    cases put
    refine onWire.turn_calm calm few room ?_ next
    simp only [Kernel.acts, Option.bind_eq_bind, Option.bind_eq_some_iff, Option.some.injEq]
      at acted
    obtain ⟨packetSlice, -, rfl⟩ := acted
    rw [List.length_map]
    exact Option.length_toList_le
  | udpBroadcast =>
    cases acted
    cases put
    exact onWire.turn_calm calm few room (List.length_singleton.le) next
  | arpRequest targetIp =>
    cases acted
    cases put
    exact onWire.turn_calm calm few room (List.length_singleton.le) next

theorem run_inPace {events : List Event} {waiting : Nat} (onWire : OnWire boot wire nic)
    (calm : wire.crowded = false) (few : wire.waiting boot ≤ waiting)
    (inPace : InPace waiting events) (long : ∀ event ∈ events, event.LongEnough) :
    ∃ after next, run Wire.step events wire = some after ∧ OnWire boot after next ∧
      after.crowded = false := by
  induction events generalizing wire nic waiting with
  | nil => exact ⟨wire, nic, rfl, onWire, calm⟩
  | cons event later ih =>
    obtain ⟨room, inPace⟩ := inPace
    obtain ⟨middle, card, stepped, kept⟩ := onWire.step event (long event (by simp))
    obtain ⟨still, fewer⟩ := onWire.step_calm calm few room stepped
    rw [run_next stepped]
    exact ih kept still fewer inPace fun other member => long other (by simp [member])

end Pace

/-- Of the frames that a node owes, clients read the payload. -/
theorem clientReads_said {payload : String} {duties : List Duty} {said : List (List UInt8)}
    (fulfilled : List.Forall₂ (fun duty frame => duty.Fulfilled payload frame) duties said) :
    said.filterMap clientReads =
      (duties.filterMap Duty.client).map fun peer => (peer, utf8 payload) := by
  induction fulfilled with
  | nil => rfl
  | @cons duty frame duties said first _ ih =>
    have reads := first.clientReads
    cases owed : duty.client with
    | none =>
      rw [owed] at reads
      rw [List.filterMap_cons_none reads, List.filterMap_cons_none owed, ih]
    | some peer =>
      rw [owed] at reads
      rw [List.filterMap_cons_some reads, List.filterMap_cons_some owed, ih]
      rfl

theorem OnWire.serves {boot : Boot} {events : List Event} {wire : Wire} {nic : E1000}
    (onWire : OnWire boot wire nic) (calm : wire.crowded = false)
    (reached : run Wire.step events (Wire.start boot) = some wire)
    (proper : ∀ event ∈ events, event.Proper) : wire.Serves boot.payload where
  heard := onWire.faithful.heard
  read := by
    obtain ⟨card, same, sent⟩ := onWire.faithful.spoken calm
    refine ⟨card, _, same, sent, ?_⟩
    rw [clientReads_said (onWire.fulfils reached proper)]
    exact congrArg _ (Transducer.filterMap_transcript Protocol.owes_client [] wire.acts)

section Served

open Storage

/-- From the disk to the client. On a machine with a drive that is done in time and a volume that
publishes the file, start-up ends with a text of the file's first line, and in every run of the
network with proper frames and a card that is in time, that text is what every client reads who asks
for it: each request is answered once and in its turn, and nothing else reads as an answer. -/
theorem file_served {controller : Controller} (present : controller.Present)
    {memory : Memory} (fresh : memory.commands = []) (identity : Vector UInt8 4096)
    (bar0 : Nat) {pace : DrivePace} (timely : pace.Timely) (pages : Nat) {entry : Fat32DirEntry}
    (publishes : Disk.Publishes controller.disk entry) :
    ∃ mounted, startDrive (Controller.identifying identity) pace bar0 (pages + 8)
        ⟨controller, memory⟩ = some mounted ∧
      ∀ boot : Boot, boot.payload = mounted.sectorDataStr → ∀ events, InPace 0 events →
        (∀ event ∈ events, event.LongEnough) → (∀ event ∈ events, event.Proper) →
          ∃ wire, run Wire.step events (Wire.start boot) = some wire ∧
            wire.Serves (Disk.fileText controller.disk entry) := by
  have text := startDrive_text present fresh identity bar0 timely pages
  rw [publishes.text, Option.map_eq_some_iff] at text
  obtain ⟨mounted, starts, stored⟩ := text
  refine ⟨mounted, starts, fun boot installed events inPace long proper => ?_⟩
  obtain ⟨wire, nic, reached, onWire, calm⟩ := run_inPace (Wire.start_onWire boot) rfl
    (Nat.le_refl 0) inPace long
  refine ⟨wire, reached, ?_⟩
  rw [← stored, ← installed]
  exact onWire.serves calm reached proper

/-- A client reads the file. -/
theorem file_served_online : ∃ mounted,
    startDrive (Controller.identifying (Vector.replicate 4096 0x51)) DrivePace.brisk 0xFEBF0000
        (92 + 8) ⟨onlineDrive, ⟨[], [], []⟩⟩ = some mounted ∧
      ∃ boot : Boot, boot.payload = mounted.sectorDataStr ∧
        ∃ wire, run Wire.step [.receive strayGet.encode, .poll, .fetch] (Wire.start boot) =
            some wire ∧ wire.Serves "FILE CONTENT: ONLINE." := by
  have fresh : (⟨[], [], []⟩ : Memory).commands = [] := rfl
  have publishes : Disk.Publishes onlineDrive.disk (payloadAt3 8) := by
    rw [onlineDrive_disk]
    exact onlineDisk_publishes
  have text := startDrive_text onlineDrive_present fresh (Vector.replicate 4096 0x51) 0xFEBF0000
    DrivePace.brisk_timely 92
  obtain ⟨mounted, starts, serves⟩ := file_served onlineDrive_present fresh
    (Vector.replicate 4096 0x51) 0xFEBF0000 DrivePace.brisk_timely 92 publishes
  rw [starts, Option.map_some] at text
  refine ⟨mounted, starts, { Boot.driveless with
    drive := some onlineDrive.disk
    payload := mounted.sectorDataStr
    installed := text.symm }, rfl, ?_⟩
  rw [← onlineDisk_text, ← onlineDrive_disk]
  refine serves _ rfl _ (by decide) (fun event member => ?_) (fun event member => ?_)
  · simp only [List.mem_cons, List.not_mem_nil, or_false] at member
    rcases member with rfl | rfl | rfl
    · change 42 ≤ strayGet.encode.length
      decide
    · exact trivial
    · exact trivial
  · simp only [List.mem_cons, List.not_mem_nil, or_false] at member
    rcases member with rfl | rfl | rfl
    · exact Protocol.Proper.of_decode (Segment.decode_encode strayGet) rfl
    · exact trivial
    · exact trivial

end Served

end QoreOS.Network
