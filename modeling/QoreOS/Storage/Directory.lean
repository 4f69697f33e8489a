import QoreOS.Storage.FileSystem

/-! The search for the file in the root directory. The boot code looks at the
directory's first sector, the format at the whole chain up to the end marker. -/

namespace QoreOS.Storage

open QoreOS.Library

/-- A free entry behind which the directory holds nothing. -/
def Fat32DirEntry.isEnd (entry : Fat32DirEntry) : Bool := entry.name.head? == some 0

/-- Neither deleted nor a directory, a volume label or a part of a long name. -/
def Fat32DirEntry.isFile (entry : Fat32DirEntry) : Bool :=
  entry.name.head? != some 0xE5 && entry.attr &&& 0x18 == 0

def liveEntries (entries : List Fat32DirEntry) : List Fat32DirEntry :=
  (entries.takeWhile fun entry => !entry.isEnd).filter Fat32DirEntry.isFile

namespace Disk

variable (disk : Disk)

def bpb : Fat32BootSector := Fat32BootSector.read (disk 0)

def volume : Fat32Volume := Fat32Volume.describedBy disk.bpb

def totalSectors : Nat := (disk 0).field 32 4

def clusterCount : Nat :=
  (disk.totalSectors - disk.volume.firstDataSector) / disk.volume.sectorsPerCluster

def rootClusters : List Nat :=
  disk.volume.chain disk disk.clusterCount disk.volume.rootCluster

def rootEntries : List Fat32DirEntry :=
  (disk.rootClusters.flatMap (disk.volume.clusterSectors disk)).flatMap Sector.entries

/-- A FAT32 volume of 512-byte sectors as the format demands it. -/
structure WellFormed : Prop where
  bytesPerSector : (disk 0).field 11 2 = 512
  sectorsPerCluster : ∃ power ≤ 7, disk.volume.sectorsPerCluster = 2 ^ power
  reserved : 1 ≤ disk.volume.fatStartSector
  tables : 1 ≤ disk.bpb.numFats
  tableSize : disk.clusterCount + 2 ≤ 128 * disk.bpb.fatSize32
  dataSectors : disk.volume.firstDataSector ≤ disk.totalSectors
  fat32 : 65525 ≤ disk.clusterCount
  rootCluster : 2 ≤ disk.volume.rootCluster ∧ disk.volume.rootCluster < disk.clusterCount + 2
  rootChain : (disk.volume.chain disk (disk.clusterCount + 1) disk.volume.rootCluster).length ≤
    disk.clusterCount
  names : ((liveEntries disk.rootEntries).map Fat32DirEntry.name).Nodup

/-- `payload_cluster` after the search, when the boot code gets that far. -/
def selectedCluster : Option Nat := do
  let volume ← Fat32Volume.new (Fat32BootSector.read (disk 0))
  let rootLba ← volume.clusterToLba volume.rootCluster
  if rootLba > 0 then some (payloadCluster (disk rootLba)) else none

/-- The root directory has the file, and its data start at the cluster. -/
def HasPayload (cluster : Nat) : Prop :=
  2 ≤ cluster ∧ ∃ entry ∈ liveEntries disk.rootEntries,
    entry.isPayload = true ∧ entry.firstCluster = cluster

/-- The search agrees with the directory. -/
structure LooksUp : Prop where
  selects : ∀ cluster, disk.selectedCluster = some cluster ∧ 2 ≤ cluster ↔ disk.HasPayload cluster
  reports : sectorDataStr (some disk) = some "ERROR: PAYLOAD.TXT NOT FOUND!" ↔
    ¬ ∃ cluster, disk.HasPayload cluster

def rootSector : Sector := disk (disk.volume.firstSector disk.volume.rootCluster)

/-- The entry at a place of the directory is a file: no directory, volume label or part of
a long name, and not behind the end marker. -/
structure VisibleAt (index : Nat) (entry : Fat32DirEntry) : Prop where
  present : disk.rootEntries[index]? = some entry
  attributes : entry.attr &&& 0x18 = 0
  before : ∀ earlier ≤ index, ∀ other : Fat32DirEntry, disk.rootEntries[earlier]? = some other →
    other.isEnd = false

/-- The first of the sixteen slots of the first sector that bears the name, whatever it is. -/
structure FirstNamed (slot : Nat) (entry : Fat32DirEntry) : Prop where
  present : disk.rootSector.entries[slot]? = some entry
  named : entry.isPayload = true
  first : ∀ earlier < slot, ∀ other : Fat32DirEntry,
    disk.rootSector.entries[earlier]? = some other → other.isPayload = false

/-- Either the first slot of the name is the visible entry, or at least has its cluster; or
that slot has no data, and what has data under the name is not visible. -/
inductive FirstSectorDecides : Prop where
  | found {slot index : Nat} {first entry : Fat32DirEntry} (named : disk.FirstNamed slot first)
      (file : disk.VisibleAt index entry) (same : entry.isPayload = true)
      (shared : first.firstCluster = entry.firstCluster)
  | absent (empty : ∀ slot first, disk.FirstNamed slot first → first.firstCluster < 2)
      (hidden : ∀ (index : Nat) (entry : Fat32DirEntry), disk.rootEntries[index]? = some entry →
        entry.isPayload = true → 2 ≤ entry.firstCluster → entry.attr &&& 0x18 ≠ 0 ∨
          ∃ earlier ≤ index, ∃ other : Fat32DirEntry, disk.rootEntries[earlier]? = some other ∧
            other.isEnd = true)

variable {disk}

theorem WellFormed.occupied (wellFormed : disk.WellFormed) :
    0 < disk.volume.sectorsPerCluster := by
  obtain ⟨power, -, size⟩ := wellFormed.sectorsPerCluster
  rw [size]
  exact Nat.two_pow_pos power

theorem field_lt (sector : Sector) (offset size : Nat) : sector.field offset size < 256 ^ size := by
  refine (littleEndian_lt _).trans_le (Nat.pow_le_pow_right (by decide) ?_)
  exact List.length_take_le _ _

theorem totalSectors_lt (disk : Disk) : disk.totalSectors < 2 ^ 32 := field_lt (disk 0) 32 4

theorem WellFormed.mounted (wellFormed : disk.WellFormed) :
    Fat32Volume.new disk.bpb = some disk.volume := by
  have limit : disk.bpb.reservedSectorCount + disk.bpb.numFats * disk.bpb.fatSize32 < 2 ^ 32 :=
    wellFormed.dataSectors.trans_lt disk.totalSectors_lt
  have tables : disk.bpb.numFats * disk.bpb.fatSize32 < 2 ^ 32 :=
    (Nat.le_add_left _ _).trans_lt limit
  rw [Fat32Volume.new, checked_of_lt tables]
  simp only [Option.bind_eq_bind, Option.bind_some, checked_of_lt limit]
  rfl

/-- Every cluster of the volume lies below the sector count. -/
theorem WellFormed.clusterToLba (wellFormed : disk.WellFormed) {cluster : Nat}
    (data : 2 ≤ cluster) (inside : cluster < disk.clusterCount + 2) :
    disk.volume.clusterToLba cluster = some (disk.volume.firstSector cluster) := by
  have sectors : (cluster - 2) * disk.volume.sectorsPerCluster ≤
      disk.totalSectors - disk.volume.firstDataSector :=
    calc (cluster - 2) * disk.volume.sectorsPerCluster
      _ ≤ disk.clusterCount * disk.volume.sectorsPerCluster :=
        Nat.mul_le_mul_right _ (by omega)
      _ ≤ disk.totalSectors - disk.volume.firstDataSector := Nat.div_mul_le_self _ _
  have total := disk.totalSectors_lt
  have start := wellFormed.dataSectors
  rw [Fat32Volume.clusterToLba, if_neg (by omega), checked_of_lt (by omega)]
  exact checked_of_lt (by omega)

theorem WellFormed.root (wellFormed : disk.WellFormed) :
    disk.volume.clusterToLba disk.volume.rootCluster =
      some (disk.volume.firstSector disk.volume.rootCluster) ∧
    0 < disk.volume.firstSector disk.volume.rootCluster := by
  refine ⟨wellFormed.clusterToLba wellFormed.rootCluster.1 wellFormed.rootCluster.2, ?_⟩
  have reserved : disk.volume.fatStartSector ≤ disk.volume.firstDataSector := Nat.le_add_right _ _
  exact Nat.add_pos_left (wellFormed.reserved.trans reserved) _

theorem WellFormed.selectedCluster (wellFormed : disk.WellFormed) :
    disk.selectedCluster = some (payloadCluster disk.rootSector) := by
  have mounted : Fat32Volume.new (Fat32BootSector.read (disk 0)) = some disk.volume :=
    wellFormed.mounted
  obtain ⟨root, positive⟩ := wellFormed.root
  simp only [Disk.selectedCluster, mounted, Option.bind_eq_bind, Option.bind_some, root,
    if_pos positive, gt_iff_lt]
  rfl

theorem WellFormed.sectorDataStr (wellFormed : disk.WellFormed) :
    Storage.sectorDataStr (some disk) =
      if payloadCluster disk.rootSector ≥ 2 then
        (disk.volume.clusterToLba (payloadCluster disk.rootSector)).bind fun payloadLba =>
          some (payloadText (disk payloadLba))
      else some "ERROR: PAYLOAD.TXT NOT FOUND!" := by
  have mounted : Fat32Volume.new (Fat32BootSector.read (disk 0)) = some disk.volume :=
    wellFormed.mounted
  obtain ⟨root, positive⟩ := wellFormed.root
  simp only [Storage.sectorDataStr, mounted, Option.bind_eq_bind, Option.bind_some, root,
    if_pos positive, gt_iff_lt]
  rfl

theorem payloadText_found (sector : Sector) :
    payloadText sector ≠ "ERROR: PAYLOAD.TXT NOT FOUND!" := by
  intro same
  rw [payloadText] at same
  split at same
  · have start := congrArg (fun text => (utf8 text).head?) same
    have caption : (utf8 "FILE CONTENT: ").head? = some 70 := by decide
    simp only [utf8_append, List.head?_append, caption, Option.some_or] at start
    exact absurd start (by decide)
  · exact absurd same (by decide)

theorem WellFormed.reports (wellFormed : disk.WellFormed) :
    Storage.sectorDataStr (some disk) = some "ERROR: PAYLOAD.TXT NOT FOUND!" ↔
      payloadCluster disk.rootSector < 2 := by
  rw [wellFormed.sectorDataStr]
  split
  · rename_i found
    refine iff_of_false ?_ (Nat.not_lt.mpr found)
    intro reported
    obtain ⟨payloadLba, -, text⟩ := Option.bind_eq_some_iff.mp reported
    exact payloadText_found _ (Option.some.inj text)
  · rename_i missing
    exact iff_of_true rfl (Nat.not_le.mp missing)

theorem payloadCluster_named {sector : Sector} (found : 2 ≤ payloadCluster sector) :
    ∃ entry, sector.entries.find? Fat32DirEntry.isPayload = some entry ∧
      entry.firstCluster = payloadCluster sector := by
  unfold payloadCluster at found ⊢
  split at found
  · rename_i entry selected
    exact ⟨entry, selected, rfl⟩
  · exact absurd found (by decide)

theorem payloadCluster_of_named {sector : Sector} {entry : Fat32DirEntry}
    (named : sector.entries.find? Fat32DirEntry.isPayload = some entry) :
    payloadCluster sector = entry.firstCluster := by
  have selected : payloadEntry sector = some entry := named
  rw [payloadCluster, selected]

/-- Names are unique, so the file has one first cluster. -/
theorem WellFormed.cluster_unique (wellFormed : disk.WellFormed) {first second : Nat}
    (one : disk.HasPayload first) (other : disk.HasPayload second) : first = second := by
  obtain ⟨-, entry, member, named, cluster⟩ := one
  obtain ⟨-, entry', member', named', cluster'⟩ := other
  have same : entry = entry' := by
    apply List.inj_on_of_nodup_map wellFormed.names member member'
    exact (beq_iff_eq.mp named).trans (beq_iff_eq.mp named').symm
  rw [← cluster, ← cluster', same]

theorem mem_takeWhile_iff {α : Type} {keeps : α → Bool} {items : List α} {item : α} :
    item ∈ items.takeWhile keeps ↔ ∃ index : Nat, items[index]? = some item ∧
      ∀ earlier ≤ index, ∀ other, items[earlier]? = some other → keeps other = true := by
  induction items with
  | nil => simp
  | cons head rest ih =>
    rw [List.takeWhile_cons]
    by_cases kept : keeps head = true
    · rw [if_pos kept, List.mem_cons, ih]
      constructor
      · rintro (rfl | ⟨index, present, before⟩)
        · refine ⟨0, rfl, fun earlier first other found => ?_⟩
          obtain rfl := Nat.le_zero.mp first
          cases found
          exact kept
        · refine ⟨index + 1, present, fun earlier within other found => ?_⟩
          cases earlier with
          | zero =>
            cases found
            exact kept
          | succ earlier => exact before earlier (Nat.le_of_succ_le_succ within) other found
      · rintro ⟨index, present, before⟩
        cases index with
        | zero =>
          cases present
          exact Or.inl rfl
        | succ index =>
          exact Or.inr ⟨index, present, fun earlier within other found =>
            before (earlier + 1) (Nat.succ_le_succ within) other found⟩
    · rw [if_neg kept]
      refine iff_of_false List.not_mem_nil ?_
      rintro ⟨index, -, before⟩
      exact kept (before 0 (Nat.zero_le _) head rfl)

/-- A name that is there has neither been deleted nor ended the directory. -/
theorem isFile_of_payload {entry : Fat32DirEntry} (named : entry.isPayload = true) :
    entry.isFile = true ↔ entry.attr &&& 0x18 = 0 := by
  have name : entry.name = utf8 "PAYLOAD TXT" := beq_iff_eq.mp named
  have kept : (entry.name.head? != some 0xE5) = true := by
    rw [name]
    decide
  rw [Fat32DirEntry.isFile, kept, Bool.true_and, beq_iff_eq]

theorem mem_liveEntries_iff {entry : Fat32DirEntry} (named : entry.isPayload = true) :
    entry ∈ liveEntries disk.rootEntries ↔ ∃ index, disk.VisibleAt index entry := by
  rw [liveEntries, List.mem_filter, isFile_of_payload named, mem_takeWhile_iff]
  constructor
  · rintro ⟨⟨index, present, before⟩, attributes⟩
    exact ⟨index, present, attributes, fun earlier within other found =>
      by simpa using before earlier within other found⟩
  · rintro ⟨index, present, attributes, before⟩
    exact ⟨⟨index, present, fun earlier within other found =>
      by simpa using before earlier within other found⟩, attributes⟩

theorem firstNamed_iff {entry : Fat32DirEntry} :
    disk.rootSector.entries.find? Fat32DirEntry.isPayload = some entry ↔
      ∃ slot, disk.FirstNamed slot entry := by
  rw [List.find?_eq_some_iff_getElem]
  constructor
  · rintro ⟨named, slot, inside, rfl, first⟩
    refine ⟨slot, List.getElem?_eq_getElem inside, named, fun earlier before other found => ?_⟩
    have unnamed := first earlier before
    obtain ⟨within, rfl⟩ := List.getElem?_eq_some_iff.mp found
    simpa using unnamed
  · rintro ⟨slot, present, named, first⟩
    obtain ⟨inside, rfl⟩ := List.getElem?_eq_some_iff.mp present
    refine ⟨named, slot, inside, rfl, fun earlier before => ?_⟩
    simpa using first earlier before _ (List.getElem?_eq_getElem (before.trans inside))

/-- The search agrees with the directory exactly when its cluster does. -/
theorem looksUp_iff_cluster (wellFormed : disk.WellFormed) :
    disk.LooksUp ↔
      (2 ≤ payloadCluster disk.rootSector → disk.HasPayload (payloadCluster disk.rootSector)) ∧
      (payloadCluster disk.rootSector < 2 → ∀ cluster, ¬ disk.HasPayload cluster) := by
  constructor
  · intro right
    constructor
    · intro data
      exact (right.selects _).mp ⟨wellFormed.selectedCluster, data⟩
    · intro small cluster present
      obtain ⟨selected, data⟩ := (right.selects cluster).mpr present
      rw [wellFormed.selectedCluster, Option.some.injEq] at selected
      omega
  · rintro ⟨found, missing⟩
    constructor
    · intro cluster
      rw [wellFormed.selectedCluster, Option.some.injEq]
      constructor
      · rintro ⟨selected, data⟩
        subst selected
        exact found data
      · intro present
        by_cases data : 2 ≤ payloadCluster disk.rootSector
        · exact ⟨wellFormed.cluster_unique (found data) present, present.1⟩
        · exact absurd present (missing (Nat.not_le.mp data) cluster)
    · rw [wellFormed.reports]
      constructor
      · rintro small ⟨cluster, present⟩
        exact missing small cluster present
      · intro absent
        by_contra data
        exact absent ⟨_, found (Nat.not_lt.mp data)⟩

theorem FirstNamed.cluster {slot : Nat} {first : Fat32DirEntry}
    (named : disk.FirstNamed slot first) : payloadCluster disk.rootSector = first.firstCluster :=
  payloadCluster_of_named (firstNamed_iff.mpr ⟨slot, named⟩)

/-- On a well-formed volume the search through one sector finds the file of the
whole directory exactly when that sector's first entry of the name decides. -/
theorem looksUp_iff (wellFormed : disk.WellFormed) :
    disk.LooksUp ↔ disk.FirstSectorDecides := by
  rw [looksUp_iff_cluster wellFormed]
  constructor
  · rintro ⟨found, missing⟩
    by_cases data : 2 ≤ payloadCluster disk.rootSector
    · obtain ⟨first, selected, cluster⟩ := payloadCluster_named data
      obtain ⟨slot, named⟩ := firstNamed_iff.mp selected
      obtain ⟨-, entry, live, same, shared⟩ := found data
      obtain ⟨index, file⟩ := (mem_liveEntries_iff same).mp live
      exact .found named file same (cluster.trans shared.symm)
    · refine .absent (fun slot first named => ?_) fun index entry present named large => ?_
      · rw [← named.cluster]
        omega
      · by_contra shown
        push Not at shown
        have file : disk.VisibleAt index entry := by
          refine ⟨present, shown.1, fun earlier within other other_present => ?_⟩
          exact Bool.eq_false_iff.mpr (shown.2 earlier within other other_present)
        exact missing (Nat.not_le.mp data) entry.firstCluster
          ⟨large, entry, (mem_liveEntries_iff named).mpr ⟨index, file⟩, named, rfl⟩
  · intro decides
    cases decides with
    | @found slot index first entry named file same shared =>
      have live := (mem_liveEntries_iff same).mpr ⟨index, file⟩
      rw [named.cluster, shared]
      refine ⟨fun data => ⟨data, entry, live, same, rfl⟩, ?_⟩
      -- another file of the name would be this one
      rintro small cluster ⟨data, other, member, again, rfl⟩
      have unique : other = entry := by
        apply List.inj_on_of_nodup_map wellFormed.names member live
        exact (beq_iff_eq.mp again).trans (beq_iff_eq.mp same).symm
      rw [unique] at data
      omega
    | absent empty hidden =>
      refine ⟨fun data => ?_, ?_⟩
      · obtain ⟨first, selected, cluster⟩ := payloadCluster_named data
        obtain ⟨slot, named⟩ := firstNamed_iff.mp selected
        have small := empty slot first named
        omega
      · rintro - cluster ⟨data, entry, live, named, rfl⟩
        obtain ⟨index, file⟩ := (mem_liveEntries_iff named).mp live
        rcases hidden index entry file.present named data with
          attributes | ⟨earlier, within, other, present, marker⟩
        · exact attributes file.attributes
        · rw [file.before earlier within other present] at marker
          cases marker

/-- A deleted file. -/
def erasedEntry : Fat32DirEntry where
  name := 0xE5 :: utf8 "LDFILE TXT"
  attr := 0x20
  fstClusHi := 0
  fstClusLo := 0
  fileSize := 0

/-- Sixteen deleted files stand before the entry of `PAYLOAD.TXT`. -/
def crowdedDisk : Disk :=
  smallDisk (Sector.holding (List.replicate 16 erasedEntry.bytes).flatten)
    (Sector.holding (payloadAt3 8).bytes) (Sector.holding (utf8 "ONLINE.\n"))

theorem crowdedDisk_volume : crowdedDisk.volume = smallVolume := by decide +kernel

theorem crowdedDisk_clusterCount : crowdedDisk.clusterCount = 65525 := by decide +kernel

theorem crowdedDisk_chain (count : Nat) : smallVolume.chain crowdedDisk (count + 1) 2 = [2] := by
  have last : ¬ smallVolume.fatEntry crowdedDisk 2 < 0x0FFFFFF7 := by decide +kernel
  rw [Fat32Volume.chain]
  simp only [last, and_false, if_false]

theorem crowdedDisk_rootEntries :
    crowdedDisk.rootEntries = (crowdedDisk 544).entries ++ (crowdedDisk 545).entries := by
  have root : crowdedDisk.rootClusters = [2] := by
    rw [rootClusters, crowdedDisk_volume, crowdedDisk_clusterCount]
    exact crowdedDisk_chain 65524
  rw [rootEntries, root, crowdedDisk_volume]
  rfl

theorem crowdedDisk_wellFormed : crowdedDisk.WellFormed where
  bytesPerSector := by decide +kernel
  sectorsPerCluster := ⟨1, by decide, congrArg Fat32Volume.sectorsPerCluster crowdedDisk_volume⟩
  reserved := by decide +kernel
  tables := by decide +kernel
  tableSize := by decide +kernel
  dataSectors := by decide +kernel
  fat32 := crowdedDisk_clusterCount.ge
  rootCluster := by decide +kernel
  rootChain := by
    rw [crowdedDisk_volume, crowdedDisk_clusterCount]
    exact (congrArg List.length (crowdedDisk_chain 65525)).trans_le (by decide)
  names := by
    rw [crowdedDisk_rootEntries]
    decide +kernel

theorem looksUp_iff_crowded : crowdedDisk.LooksUp ↔ crowdedDisk.FirstSectorDecides :=
  looksUp_iff crowdedDisk_wellFormed

/-- The file behind the first sector is reported as missing. -/
theorem looksUp_crowded : ¬ ∀ disk : Disk, disk.WellFormed → disk.LooksUp := by
  intro always
  have present : crowdedDisk.HasPayload 3 := by
    refine ⟨by decide, payloadAt3 8, ?_, by decide, by decide⟩
    rw [crowdedDisk_rootEntries]
    decide +kernel
  obtain ⟨selected, -⟩ := ((always _ crowdedDisk_wellFormed).selects 3).mpr present
  exact absurd selected (by decide +kernel)

end Disk

end QoreOS.Storage
