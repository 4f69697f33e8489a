import QoreOS.Storage.FileSystem

/-! The text which the kernel publishes for the file, and the file itself. -/

namespace QoreOS.Storage

open QoreOS.Library

/-- The boot code finds the file through this entry and reads this sector. -/
structure Finds (disk : Disk) (volume : Fat32Volume) (entry : Fat32DirEntry)
    (payloadLba : Nat) : Prop where
  mounted : Fat32Volume.new (Fat32BootSector.read (disk 0)) = some volume
  selected : ∃ rootLba, volume.clusterToLba volume.rootCluster = some rootLba ∧ 0 < rootLba ∧
    payloadEntry (disk rootLba) = some entry
  cluster : 2 ≤ entry.firstCluster
  payload : volume.clusterToLba entry.firstCluster = some payloadLba

/-- What is published after the caption is a start of the file. -/
def OnlyFileBytes (disk : Disk) (volume : Fat32Volume) (entry : Fat32DirEntry) : Prop :=
  ∀ secretStr, sectorDataStr (some disk) = some ("FILE CONTENT: " ++ secretStr) →
    utf8 secretStr <+: volume.contents disk entry

variable {disk : Disk} {volume : Fat32Volume} {entry : Fat32DirEntry} {payloadLba : Nat}

theorem Finds.text (found : Finds disk volume entry payloadLba) :
    sectorDataStr (some disk) = some (payloadText (disk payloadLba)) := by
  obtain ⟨rootLba, root, positive, selected⟩ := found.selected
  have cluster : payloadCluster (disk rootLba) = entry.firstCluster := by
    rw [payloadCluster, selected]
  simp only [sectorDataStr, found.mounted, root, cluster, found.payload, Option.bind_eq_bind,
    Option.bind_some, if_pos found.cluster, gt_iff_lt, if_pos positive]

theorem caption_injective {first second : String}
    (same : "FILE CONTENT: " ++ first = "FILE CONTENT: " ++ second) : utf8 first = utf8 second := by
  have bytes := congrArg utf8 same
  rwa [utf8_append, utf8_append, List.append_cancel_left_eq] at bytes

theorem textLength_le (sector : Sector) : textLength sector ≤ 512 := by
  have whole := (List.takeWhile_sublist
    (l := sector.toList) fun byte => byte != 0 && byte != 0x0A).length_le
  rwa [Vector.length_toList] at whole

/-- The published text stays within the file exactly when the file does not end
before the first zero byte or line feed of its first sector. -/
theorem sectorDataStr_onlyFileBytes (found : Finds disk volume entry payloadLba) :
    OnlyFileBytes disk volume entry ↔
      fromUtf8 ((disk payloadLba).toList.take (textLength (disk payloadLba))) = none ∨
      textLength (disk payloadLba) ≤ min entry.fileSize (512 * volume.sectorsPerCluster) := by
  have start := volume.take_prefix_contents disk entry _ (textLength_le (disk payloadLba))
  rw [← Fat32Volume.clusterToLba_eq found.cluster found.payload] at start
  rw [← start, OnlyFileBytes, found.text]
  cases valid : fromUtf8 ((disk payloadLba).toList.take (textLength (disk payloadLba))) with
  | none =>
    -- no text is stored, and the caption is not a start of the empty text
    refine iff_of_true ?_ (Or.inl rfl)
    intro secretStr stored
    have lengths := congrArg (fun text => (utf8 text).length) (Option.some.inj stored)
    have caption : (utf8 "FILE CONTENT: ").length = 14 := by decide
    have nothing : (utf8 "").length = 0 := by decide
    simp only [payloadText, valid, utf8_append, List.length_append, caption, nothing] at lengths
    omega
  | some secretStr =>
    have content : utf8 secretStr = _ := utf8_fromUtf8 valid
    have stored : payloadText (disk payloadLba) = "FILE CONTENT: " ++ secretStr := by
      rw [payloadText, valid]
    rw [← content, stored]
    constructor
    · intro only
      exact Or.inr (only secretStr rfl)
    · intro inFile other same
      rcases inFile with invalid | inFile
      · cases invalid
      · rwa [← caption_injective (Option.some.inj same)]

/-- A file of two bytes whose sector still holds the bytes of an earlier file. -/
def slackDisk : Disk :=
  smallDisk (Sector.holding (payloadAt3 2).bytes) (Sector.holding [])
    (Sector.holding (utf8 "OKSECRET"))

theorem slackDisk_finds : Finds slackDisk smallVolume (payloadAt3 2) 546 where
  mounted := smallBootSector_mounted
  selected := ⟨544, by decide, by decide, by decide +kernel⟩
  cluster := by decide
  payload := by decide

theorem sectorDataStr_onlyFileBytes_slack :
    OnlyFileBytes slackDisk smallVolume (payloadAt3 2) ↔
      fromUtf8 ((slackDisk 546).toList.take (textLength (slackDisk 546))) = none ∨
      textLength (slackDisk 546) ≤
        min (payloadAt3 2).fileSize (512 * smallVolume.sectorsPerCluster) :=
  sectorDataStr_onlyFileBytes slackDisk_finds

/-- The bytes behind the end of the file are published. -/
theorem sectorDataStr_slack_published :
    ¬ ∀ disk volume entry payloadLba, Finds disk volume entry payloadLba →
      OnlyFileBytes disk volume entry := by
  intro always
  have stored : sectorDataStr (some slackDisk) = some ("FILE CONTENT: " ++ "OKSECRET") := by
    decide +kernel
  have start := always _ _ _ _ slackDisk_finds "OKSECRET" stored
  have published : (utf8 "OKSECRET").length = 8 := by decide
  have short := start.length_le.trans (List.length_take_le _ _)
  rw [published] at short
  exact absurd short (by decide)

end QoreOS.Storage
