import Mathlib.Data.Vector.Basic
import QoreOS.Library.Bytes

/-! The FAT32 reader and the text the kernel takes from the drive at boot. -/

namespace QoreOS.Storage

open QoreOS.Library

abbrev Sector := Vector UInt8 512

/-- A little-endian field of a packed record laid over the sector. -/
def Sector.field (sector : Sector) (offset size : Nat) : Nat :=
  littleEndian ((sector.toList.drop offset).take size)

/-- The boot-sector fields which the kernel uses. -/
structure Fat32BootSector where
  sectorsPerCluster : Nat
  reservedSectorCount : Nat
  numFats : Nat
  fatSize32 : Nat
  rootCluster : Nat

def Fat32BootSector.read (sector : Sector) : Fat32BootSector where
  sectorsPerCluster := sector.field 13 1
  reservedSectorCount := sector.field 14 2
  numFats := sector.field 16 1
  fatSize32 := sector.field 36 4
  rootCluster := sector.field 44 4

structure Fat32DirEntry where
  name : List UInt8
  attr : Nat
  fstClusHi : Nat
  fstClusLo : Nat
  fileSize : Nat
deriving DecidableEq

def Fat32DirEntry.read (sector : Sector) (index : Nat) : Fat32DirEntry where
  name := (sector.toList.drop (32 * index)).take 11
  attr := sector.field (32 * index + 11) 1
  fstClusHi := sector.field (32 * index + 20) 2
  fstClusLo := sector.field (32 * index + 26) 2
  fileSize := sector.field (32 * index + 28) 4

/-- `((entry.fst_clus_hi as u32) << 16) | (entry.fst_clus_lo as u32)` -/
def Fat32DirEntry.firstCluster (entry : Fat32DirEntry) : Nat :=
  entry.fstClusHi <<< 16 ||| entry.fstClusLo

/-- `entry.name == *b"PAYLOAD TXT"` -/
def Fat32DirEntry.isPayload (entry : Fat32DirEntry) : Bool := entry.name == utf8 "PAYLOAD TXT"

/-- The directory sector as a slice of `512 / 32` entries. -/
def Sector.entries (sector : Sector) : List Fat32DirEntry :=
  (List.range (512 / 32)).map (Fat32DirEntry.read sector)

structure Fat32Volume where
  firstDataSector : Nat
  sectorsPerCluster : Nat
  rootCluster : Nat
  fatStartSector : Nat
deriving DecidableEq

/-- `Fat32Volume::new`, in checked `u32` arithmetic. -/
def Fat32Volume.new (bpb : Fat32BootSector) : Option Fat32Volume := do
  let fatStartSector := bpb.reservedSectorCount
  let fatSectors ← checked (2 ^ 32) (bpb.numFats * bpb.fatSize32)
  let firstDataSector ← checked (2 ^ 32) (fatStartSector + fatSectors)
  some { firstDataSector := firstDataSector, sectorsPerCluster := bpb.sectorsPerCluster,
         rootCluster := bpb.rootCluster, fatStartSector := fatStartSector }

def Fat32Volume.clusterToLba (volume : Fat32Volume) (cluster : Nat) : Option Nat := do
  if cluster < 2 then return 0
  let sectors ← checked (2 ^ 32) ((cluster - 2) * volume.sectorsPerCluster)
  checked (2 ^ 32) (volume.firstDataSector + sectors)

/-- The length of the text: up to a zero byte, a line feed or the sector's end. -/
def textLength (sector : Sector) : Nat :=
  (sector.toList.takeWhile fun byte => byte != 0 && byte != 0x0A).length

/-- The entry at which the search through the directory sector breaks off. -/
def payloadEntry (rootSector : Sector) : Option Fat32DirEntry :=
  rootSector.entries.find? Fat32DirEntry.isPayload

/-- The first cluster which the directory sector names for the file, else 0. -/
def payloadCluster (rootSector : Sector) : Nat :=
  match payloadEntry rootSector with
  | some entry => entry.firstCluster
  | none => 0

/-- The text taken from the file's sector; invalid UTF-8 leaves it empty. -/
def payloadText (payloadSector : Sector) : String :=
  match fromUtf8 (payloadSector.toList.take (textLength payloadSector)) with
  | some secretStr => "FILE CONTENT: " ++ secretStr
  | none => ""

/-- `sector_data_str` of `_start`: what the boot code leaves in it when a drive
was found, and the empty text it starts with otherwise. -/
def sectorDataStr (drive : Option (Nat → Sector)) : Option String :=
  match drive with
  | none => some ""
  | some readSector => do
    let volume ← Fat32Volume.new (Fat32BootSector.read (readSector 0))
    let rootLba ← volume.clusterToLba volume.rootCluster
    if rootLba > 0 then
      let cluster := payloadCluster (readSector rootLba)
      if cluster ≥ 2 then
        let payloadLba ← volume.clusterToLba cluster
        some (payloadText (readSector payloadLba))
      else some "ERROR: PAYLOAD.TXT NOT FOUND!"
    else some "ERROR: INVALID FAT32 ROOT CLUSTER"

theorem payloadText_length (payloadSector : Sector) :
    (utf8 (payloadText payloadSector)).length ≤ 14 + 512 := by
  unfold payloadText
  split
  · rename_i secretStr valid
    have short : (utf8 secretStr).length ≤ 512 := by
      rw [utf8_fromUtf8 valid]
      simp
    have caption : (utf8 "FILE CONTENT: ").length = 14 := by decide
    rw [utf8_append, List.length_append, caption]
    omega
  · decide

/-- Whatever is on the drive, the text stays within one sector and its caption. -/
theorem sectorDataStr_length {drive : Option (Nat → Sector)} {text : String}
    (installed : sectorDataStr drive = some text) : (utf8 text).length ≤ 14 + 512 := by
  cases drive with
  | none =>
    cases installed
    decide
  | some readSector =>
    simp only [sectorDataStr, Option.bind_eq_bind, Option.bind_eq_some_iff] at installed
    obtain ⟨volume, -, rootLba, -, installed⟩ := installed
    split at installed
    · split at installed
      · rw [Option.bind_eq_some_iff] at installed
        obtain ⟨payloadLba, -, installed⟩ := installed
        cases installed
        exact payloadText_length _
      · cases installed
        decide
    · cases installed
      decide

end QoreOS.Storage
