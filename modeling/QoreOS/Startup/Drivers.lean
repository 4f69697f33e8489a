import QoreOS.Startup.Port

/-! The start-up of the NVMe and the audio driver, and what the system call for
a sector does with the drive later on. -/

namespace QoreOS.Startup

open QoreOS.Library QoreOS.Storage Port
open Program (notNull)

/-- `Nvme::init` up to its second exit: true if it goes on from there. -/
def nvmeReset : Program Port Bool := do
  let testRead ← readReg 0x1C
  if testRead = 0xFFFFFFFF then return false
  let cc ← readReg 0x14
  writeReg 0x14 (cc &&& ~~~1).toNat
  Program.waitFor (do return (← readReg 0x1C) &&& 1 == 0) 10000000

/-- An admin command of `init`. -/
def adminCommand (nvme : Nvme) (slot : Nat) (command : NvmeCmd) : Program Port Unit := do
  perform (.submit nvme.asqPtr slot command)
  writeReg 0x1000 (slot + 1)
  let _ ← Program.waitFor (completed nvme.acqPtr slot) 10000000
  writeReg 0x1004 (slot + 1)

/-- The rest of `Nvme::init`. -/
def nvmeConfigure (nvme : Nvme) : Program Port Nvme := do
  let numEntries := 16
  let asqPtr ← allocZeroed (numEntries * 64)
  let acqPtr ← allocZeroed (numEntries * 16)
  let iosqPtr ← allocZeroed (numEntries * 64)
  let iocqPtr ← allocZeroed (numEntries * 16)
  let nvme : Nvme :=
    { nvme with asqPtr := asqPtr, acqPtr := acqPtr, iosqPtr := iosqPtr, iocqPtr := iocqPtr }
  writeReg 0x24 ((numEntries - 1) <<< 16 ||| (numEntries - 1))
  writeReg 0x28 nvme.asqPtr
  writeReg 0x30 nvme.acqPtr
  writeReg 0x14 (1 <<< 0 ||| 6 <<< 16 ||| 4 <<< 20)
  let started ← Program.waitFor (do return (← readReg 0x1C) &&& 1 != 0) 10000000
  if started then
    notNull nvme.asqPtr
    notNull nvme.acqPtr
    adminCommand nvme 0 nvme.createCompletionQueue
    adminCommand nvme 1 nvme.createSubmissionQueue
    terminalPrint "SYS: NVMe Admin Rings DMA Mapped. Drive READY!\n" 0x10B981
  return nvme

def nvmeInit (nvme : Nvme) : Program Port Nvme := do
  if ← nvmeReset then nvmeConfigure nvme else return nvme

/-- The printable characters of a field of the identification page. -/
def printable (data : Nat → UInt8) (start length : Nat) : String :=
  String.ofList ((((List.range length).map fun i => data (start + i)).filter fun byte =>
    32 ≤ byte && byte ≤ 126).map fun byte => Char.ofNat byte.toNat)

def identifyController (nvme : Nvme) : Program Port Unit := do
  let (dataPtr, data) ← allocPage
  notNull nvme.asqPtr
  perform (.submit nvme.asqPtr 2 { NvmeCmd.zeroed with
    cdw0 := (0x06 : UInt32) ||| (0xAA : UInt32) <<< 16
    prp1 := dataPtr
    cdw10 := 1 })
  writeReg 0x1000 3
  notNull nvme.acqPtr
  let identified ← Program.waitFor (completed nvme.acqPtr 2) 10000000
  if identified then
    notNull dataPtr
    (List.range 40).forM fun i => load dataPtr (24 + i)
    (List.range 20).forM fun i => load dataPtr (4 + i)
    terminalPrint "\n> SILICON IDENTIFIED -> " 0x3B82F6
    terminalPrint (printable data 24 40) 0x10B981
    terminalPrint " (SN: " 0x3B82F6
    terminalPrint (printable data 4 20) 0x10B981
    terminalPrint ")\n" 0x3B82F6
    writeReg 0x1004 3

def pageSector (data : Nat → UInt8) : Sector := Vector.ofFn fun i => data i

def readSector (nvme : Nvme) (lba : UInt64) : Program Port (Sector × Nvme) := do
  let (dataPtr, data) ← allocPage
  notNull nvme.iosqPtr
  notNull nvme.iocqPtr
  let cmdIdx := nvme.iosqTail
  store nvme.iocqPtr (cmdIdx * 16 + 14) 0
  perform (.submit nvme.iosqPtr cmdIdx (Nvme.readCommand cmdIdx dataPtr lba))
  let iosqTail := (nvme.iosqTail + 1) % 16
  writeReg 0x1008 iosqTail
  let cqIdx := nvme.iocqHead
  let _ ← Program.waitFor (completed nvme.iocqPtr cqIdx) 20000000
  let iocqHead := (nvme.iocqHead + 1) % 16
  writeReg 0x100C iocqHead
  notNull dataPtr
  (List.range 512).forM fun i => load dataPtr i
  return (pageSector data, { nvme with iosqTail := iosqTail, iocqHead := iocqHead })

structure IntelHda where
  bar0 : Nat
  corbPtr : Nat
  rirbPtr : Nat

def IntelHda.new (bar0 : Nat) : IntelHda where
  bar0 := bar0
  corbPtr := 0
  rirbPtr := 0

/-- `IntelHda::init` up to its early exit: true if it goes on from there. -/
def hdaReset : Program Port Bool := do
  let _gcap ← readReg 0x00
  terminalPrint "\n> HDA: AUDIO SILICON DETECTED AND MAPPED.\n" 0x3B82F6
  writeReg 0x08 1
  let awake ← Program.waitFor (do return (← readReg 0x08) &&& 1 != 0) 10000000
  if awake then return true
  terminalPrint "> HDA ERROR: CONTROLLER RESET TIMEOUT!\n" 0xEF4444
  return false

/-- The rest of `IntelHda::init`. -/
def hdaConfigure (hda : IntelHda) : Program Port IntelHda := do
  terminalPrint "> HDA: CONTROLLER AWAKE. ALLOCATING DMA RINGS...\n" 0x3B82F6
  let corbPtr ← allocZeroed 4096
  let rirbPtr ← allocZeroed 4096
  let hda : IntelHda := { hda with corbPtr := corbPtr, rirbPtr := rirbPtr }
  writeReg 0x4C 0
  writeReg 0x5C 0
  writeReg 0x40 (hda.corbPtr &&& 0xFFFFFFFF)
  writeReg 0x44 (hda.corbPtr >>> 32)
  writeReg 0x50 (hda.rirbPtr &&& 0xFFFFFFFF)
  writeReg 0x54 (hda.rirbPtr >>> 32)
  writeReg 0x4E 0x02
  writeReg 0x5E 0x02
  writeReg 0x4A (1 <<< 15)
  writeReg 0x4A 0
  writeReg 0x48 0
  writeReg 0x58 (1 <<< 15)
  writeReg 0x4C (1 <<< 1)
  writeReg 0x5C (1 <<< 1)
  terminalPrint "> HDA: CORB & RIRB RINGS DMA MAPPED AND RUNNING.\n" 0x10B981
  let statests ← readReg 0x0E
  if statests.toUInt16 ≠ 0 then
    terminalPrint "> HDA: EXTERNAL AUDIO CODEC DETECTED ON LINK!\n" 0x10B981
  return hda

def hdaInit (hda : IntelHda) : Program Port IntelHda := do
  if ← hdaReset then hdaConfigure hda else return hda

def sendCorbCmd (hda : IntelHda) (cmd : Nat) : Program Port Unit := do
  notNull hda.corbPtr
  let wp ← readReg 0x48
  let wp ← Program.orPanic (checked (2 ^ 16) (wp.toUInt16.toNat + 1))
  store hda.corbPtr (wp % 256 * 4) cmd
  writeReg 0x48 (wp % 256)

def bufferSize : Nat := 65536

/-- The square wave: `8000` in the first half of each period, else `-8000`,
as 16-bit words. -/
def sample (i : Nat) : Nat := if i % 109 < 109 / 2 then 8000 else 2 ^ 16 - 8000

/-- `play_tone` up to its first command for the codec; the stream's offset. -/
def prepareTone : Program Port Nat := do
  let audioBuf ← allocZeroed bufferSize
  (List.range (bufferSize / 2)).forM fun i => do
    notNull (audioBuf + i * 2)
    store audioBuf (i * 2) (sample i)
  let bdlPtr ← allocZeroed 4096
  notNull bdlPtr
  store bdlPtr 0 (audioBuf &&& 0xFFFFFFFF)
  store bdlPtr 4 (audioBuf >>> 32)
  store bdlPtr 8 bufferSize
  store bdlPtr 12 0
  let gcap ← readReg 0x00
  let iss := (gcap.toNat >>> 8) &&& 0x0F
  let streamOffset := 0x80 + iss * 0x20
  writeReg streamOffset 0
  writeReg streamOffset 1
  let _ ← Program.waitFor (do return (← readReg streamOffset).toUInt8 &&& 1 != 0) 10000
  writeReg streamOffset 0
  let _ ← Program.waitFor (do return (← readReg streamOffset).toUInt8 &&& 1 == 0) 10000
  writeReg (streamOffset + 0x18) (bdlPtr &&& 0xFFFFFFFF)
  writeReg (streamOffset + 0x1C) (bdlPtr >>> 32)
  writeReg (streamOffset + 0x08) bufferSize
  writeReg (streamOffset + 0x0C) 0
  writeReg (streamOffset + 0x12) 0x0011
  return streamOffset

def playTone (hda : IntelHda) : Program Port Unit := do
  let streamOffset ← prepareTone
  sendCorbCmd hda 0x00270500
  sendCorbCmd hda 0x00370500
  sendCorbCmd hda 0x00270610
  sendCorbCmd hda 0x00220011
  sendCorbCmd hda 0x0023B07F
  sendCorbCmd hda 0x00370740
  sendCorbCmd hda 0x0033B07F
  let sdctl ← readReg streamOffset
  let sdctl := sdctl.toUInt8.toNat ||| 1 <<< 4
  writeReg streamOffset sdctl
  writeReg streamOffset (sdctl ||| 1 <<< 1)
  terminalPrint "> HDA: DMA OUTPUT FIRED. 440HZ TONE STREAMING!\n" 0xF59E0B

/-- What the scan of the PCI bus has found. -/
structure Devices where
  nvmeFound : Bool
  nvmeBar0 : Nat
  hdaFound : Bool
  hdaBar0 : Nat

def Devices.nvme (devices : Devices) : Bool := devices.nvmeFound && devices.nvmeBar0 != 0
def Devices.hda (devices : Devices) : Bool := devices.hdaFound && devices.hdaBar0 != 0

/-- The reading of the volume during start-up; the drive and `sector_data_str`. -/
def readVolume (drive : Nvme) : Program Port (Nvme × String) := do
  let (sector0, drive) ← readSector drive 0
  let volume ← Program.orPanic (Fat32Volume.new (Fat32BootSector.read sector0))
  let rootLba ← Program.orPanic (volume.clusterToLba volume.rootCluster)
  if rootLba > 0 then
    let (rootSector, drive) ← readSector drive (UInt64.ofNat rootLba)
    let cluster := payloadCluster rootSector
    if cluster ≥ 2 then
      let payloadLba ← Program.orPanic (volume.clusterToLba cluster)
      let (payloadSector, drive) ← readSector drive (UInt64.ofNat payloadLba)
      if (fromUtf8 (payloadSector.toList.take (textLength payloadSector))).isSome then
        terminalPrint "\n> FAT32 DECRYPTED: PAYLOAD.TXT EXTRACTED\n" 0x10B981
      return (drive, payloadText payloadSector)
    else return (drive, "ERROR: PAYLOAD.TXT NOT FOUND!")
  else return (drive, "ERROR: INVALID FAT32 ROOT CLUSTER")

/-- The content of `NVME_DRIVE` and `sector_data_str`. -/
def startNvme (devices : Devices) : Program Port (Option Nvme × String) := do
  if devices.nvme then
    terminalPrint "ECAM: NVMe Direct Storage Controller Found!\n" 0x3B82F6
    let drive ← nvmeInit (Nvme.new devices.nvmeBar0)
    identifyController drive
    let (drive, sectorDataStr) ← readVolume drive
    return (some drive, sectorDataStr)
  else return (none, "")

/-- The content of `AUDIO_DRIVE`. -/
def startHda (devices : Devices) : Program Port (Option IntelHda) := do
  if devices.hda then
    let hda ← hdaInit (IntelHda.new devices.hdaBar0)
    playTone hda
    return some hda
  else return none

/-- System call 4 on the content of `NVME_DRIVE`. -/
def syscallReadSector (drive : Option Nvme) (lba : UInt64) : Program Port (Option Nvme) := do
  terminalPrint "\n> SYS: RING-3 NVME READ REQUEST ACCEPTED.\n" 0xF59E0B
  match drive with
  | some drive =>
    let (_, drive) ← readSector drive lba
    let safeBuffer ← allocZeroed 512
    notNull safeBuffer
    terminalPrint "> SYS: NVME DMA COMPLETE. PASSING POINTER TO RING-3.\n" 0x10B981
    return some drive
  | none =>
    terminalPrint "> SYS: NVME DRIVE NOT FOUND!\n" 0xEF4444
    return none

/-- Start-up and any number of system calls after it; what the two drivers have
done at its end, or when the kernel panics. -/
def kernelRun (devices : Devices) (lbas : List UInt64) (nvme hda : Answers) : Port × Port :=
  match (startNvme devices).exec ⟨nvme, []⟩ with
  | (none, nvme) => (nvme, ⟨hda, []⟩)
  | (some (drive, _), nvme) =>
    match (startHda devices).exec ⟨hda, []⟩ with
    | (none, hda) => (nvme, hda)
    | (some _, hda) =>
      (((lbas.foldlM syscallReadSector drive : Program Port (Option Nvme)).exec nvme).2, hda)

end QoreOS.Startup
