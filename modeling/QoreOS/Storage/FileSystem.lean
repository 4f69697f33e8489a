import QoreOS.Library.ByteMemory
import QoreOS.Storage.Fat32

/-! The FAT32 format on its own terms: cluster chains, the contents of a file
and the root directory of a well-formed volume. -/

namespace QoreOS.Storage

open QoreOS.Library

abbrev Disk := Nat → Sector

namespace Fat32Volume

variable (volume : Fat32Volume) (disk : Disk)

/-- The volume which the boot sector describes. -/
def describedBy (bpb : Fat32BootSector) : Fat32Volume where
  firstDataSector := bpb.reservedSectorCount + bpb.numFats * bpb.fatSize32
  sectorsPerCluster := bpb.sectorsPerCluster
  rootCluster := bpb.rootCluster
  fatStartSector := bpb.reservedSectorCount

/-- The 28 bits which the allocation table holds for the cluster. -/
def fatEntry (cluster : Nat) : Nat :=
  (disk (volume.fatStartSector + cluster / 128)).field (cluster % 128 * 4) 4 % 2 ^ 28

/-- At most `count` clusters of the chain that starts at the cluster. -/
def chain : Nat → Nat → List Nat
  | 0, _ => []
  | count + 1, cluster =>
    let next := volume.fatEntry disk cluster
    cluster :: if 2 ≤ next ∧ next < 0x0FFFFFF7 then chain count next else []

def firstSector (cluster : Nat) : Nat :=
  volume.firstDataSector + (cluster - 2) * volume.sectorsPerCluster

def clusterSectors (cluster : Nat) : List Sector :=
  (List.range volume.sectorsPerCluster).map fun index => disk (volume.firstSector cluster + index)

/-- The bytes of a file: its chain's data, cut off at the recorded size. -/
def contents (entry : Fat32DirEntry) : List UInt8 :=
  (((volume.chain disk (entry.fileSize / 512 + 1) entry.firstCluster).flatMap
    (volume.clusterSectors disk)).flatMap fun sector => sector.toList).take entry.fileSize

theorem clusterSectors_first (occupied : 0 < volume.sectorsPerCluster) (cluster : Nat) :
    ∃ rest, volume.clusterSectors disk cluster = disk (volume.firstSector cluster) :: rest := by
  obtain ⟨sectors, size⟩ : ∃ sectors, volume.sectorsPerCluster = sectors + 1 :=
    ⟨_, (Nat.succ_pred_eq_of_pos occupied).symm⟩
  rw [clusterSectors, size, List.range_succ_eq_map]
  exact ⟨_, rfl⟩

theorem chain_first (count cluster : Nat) :
    ∃ rest, volume.chain disk (count + 1) cluster = cluster :: rest := ⟨_, rfl⟩

/-- The sectors of a chain begin with the first sector of its first cluster. -/
theorem chain_sectors (occupied : 0 < volume.sectorsPerCluster) (count cluster : Nat) :
    ∃ rest, (volume.chain disk (count + 1) cluster).flatMap (volume.clusterSectors disk) =
      disk (volume.firstSector cluster) :: rest := by
  obtain ⟨clusters, chained⟩ := volume.chain_first disk count cluster
  obtain ⟨sectors, first⟩ := volume.clusterSectors_first disk occupied cluster
  rw [chained, List.flatMap_cons, first]
  exact ⟨_, rfl⟩

/-- Which starts of its first sector are also starts of the file. -/
theorem take_prefix_contents (entry : Fat32DirEntry) (length : Nat) (short : length ≤ 512) :
    (disk (volume.firstSector entry.firstCluster)).toList.take length <+:
        volume.contents disk entry ↔
      length ≤ min entry.fileSize (512 * volume.sectorsPerCluster) := by
  rcases Nat.eq_zero_or_pos volume.sectorsPerCluster with empty | occupied
  · have nothing : ∀ clusters : List Nat,
        clusters.flatMap (volume.clusterSectors disk) = [] := by
      intro clusters
      induction clusters with
      | nil => rfl
      | cons cluster clusters noSectors =>
        simp [List.flatMap_cons, noSectors, clusterSectors, empty]
    rw [contents, nothing, List.flatMap_nil, List.take_nil, List.prefix_nil, List.take_eq_nil_iff,
      empty]
    constructor
    · intro none
      rcases none with zero | noBytes
      · rw [zero]
        exact Nat.zero_le _
      · have size := congrArg List.length noBytes
        simp at size
    · intro bound
      exact Or.inl (by simpa using bound)
  · obtain ⟨rest, sectors⟩ := volume.chain_sectors disk occupied
      (entry.fileSize / 512) entry.firstCluster
    rw [contents, sectors, List.flatMap_cons, Nat.le_min]
    have fits : length ≤ 512 * volume.sectorsPerCluster := by omega
    constructor
    · intro start
      have lengths := start.length_le
      simp only [List.length_take, Vector.length_toList] at lengths
      exact ⟨by omega, fits⟩
    · intro bound
      have sameBytes : (disk (volume.firstSector entry.firstCluster)).toList.take length =
          ((disk (volume.firstSector entry.firstCluster)).toList ++
            rest.flatMap fun sector => sector.toList).take length := by
        rw [List.take_append_of_le_length (by simpa using short)]
      rw [sameBytes]
      exact List.take_prefix_take_left bound.1

variable {volume}

/-- A cluster which the kernel can convert names its first sector. -/
theorem clusterToLba_eq {cluster lba : Nat} (data : 2 ≤ cluster)
    (converted : volume.clusterToLba cluster = some lba) : lba = volume.firstSector cluster := by
  rw [clusterToLba, if_neg (by omega)] at converted
  simp only [checked, Option.bind_eq_bind, Option.bind_eq_some_iff,
    Option.ite_none_right_eq_some, Option.some.injEq] at converted
  obtain ⟨sectors, ⟨-, product⟩, -, total⟩ := converted
  rw [← total, ← product]
  rfl

end Fat32Volume

/-- The bytes of a sector that start as given and go on with zeros. -/
def Sector.holding (bytes : List UInt8) : Sector :=
  ⟨⟨(bytes ++ List.replicate 512 0).take 512⟩, by
    rw [List.size_toArray, List.length_take, List.length_append, List.length_replicate]
    exact Nat.min_eq_left (Nat.le_add_left _ _)⟩

/-- The packed bytes of a directory entry without times. -/
def Fat32DirEntry.bytes (entry : Fat32DirEntry) : List UInt8 :=
  entry.name ++ [UInt8.ofNat entry.attr] ++ List.replicate 8 0 ++
    numberBytes 2 entry.fstClusHi ++ List.replicate 4 0 ++
    numberBytes 2 entry.fstClusLo ++ numberBytes 4 entry.fileSize

/-- The boot sector of a volume with one table of 512 sectors and clusters of two
sectors. -/
def smallBootSector : Sector :=
  Sector.holding ([0xEB, 0x58, 0x90] ++ utf8 "MSDOS5.0" ++ numberBytes 2 512 ++ [2] ++
    numberBytes 2 32 ++ [1, 0, 0, 0, 0, 0xF8, 0, 0, 63, 0, 255, 0, 0, 0, 0, 0] ++
    numberBytes 4 131594 ++ numberBytes 4 512 ++ [0, 0, 0, 0] ++ numberBytes 4 2)

def smallVolume : Fat32Volume where
  firstDataSector := 544
  sectorsPerCluster := 2
  rootCluster := 2
  fatStartSector := 32

/-- Cluster 2 of the volume holds the root directory, cluster 3 a file. -/
def smallDisk (root rootNext file : Sector) : Disk
  | 0 => smallBootSector
  | 32 => Sector.holding (numberBytes 4 0x0FFFFFF8 ++ numberBytes 4 0x0FFFFFFF ++
      numberBytes 4 0x0FFFFFFF ++ numberBytes 4 0x0FFFFFFF)
  | 544 => root
  | 545 => rootNext
  | 546 => file
  | _ => Sector.holding []

theorem smallBootSector_mounted :
    Fat32Volume.new (Fat32BootSector.read smallBootSector) = some smallVolume := by
  decide +kernel

/-- The entry of a file which starts at cluster 3. -/
def payloadAt3 (fileSize : Nat) : Fat32DirEntry where
  name := utf8 "PAYLOAD TXT"
  attr := 0x20
  fstClusHi := 0
  fstClusLo := 3
  fileSize := fileSize

end QoreOS.Storage
