import QoreOS.Audio.Controller
import QoreOS.Library.Bus
import QoreOS.Startup.Drivers

/-! The driver of `hda.rs` at that controller. -/

namespace QoreOS.Audio

open QoreOS.Library QoreOS.Startup

/-- A program of the kernel; between two of its accesses the hardware goes on. -/
abbrev Driver := Program (Bus Machine Event)

/-- Where the memory for the driver is allocated; the heap serves every request. -/
structure Allocation where
  corb : Nat
  rirb : Nat
  audioBuf : Nat
  bdl : Nat
  served : 0 ∉ [corb, rirb, audioBuf, bdl]

namespace Allocation

variable (allocation : Allocation)

theorem corb_ne : allocation.corb ≠ 0 := fun null => allocation.served (by simp [null])

theorem audioBuf_ne : allocation.audioBuf ≠ 0 := fun null => allocation.served (by simp [null])

theorem bdl_ne : allocation.bdl ≠ 0 := fun null => allocation.served (by simp [null])

end Allocation

namespace Driver

/-- The read of a register through a pointer to so many bytes. -/
def readReg (offset size : Nat) : Driver Nat :=
  Bus.access Machine.react fun machine => (machine.hda.read offset % 256 ^ size, machine)

def writeReg (offset value : Nat) : Driver PUnit :=
  Bus.access Machine.react fun machine =>
    (PUnit.unit, { machine with hda := machine.hda.write offset value })

def store (address size value : Nat) : Driver PUnit :=
  Bus.access Machine.react fun machine =>
    (PUnit.unit, { machine with memory := machine.memory.write address size value })

def allocZeroed (address size : Nat) : Driver Nat :=
  Bus.access Machine.react fun machine =>
    (address, { machine with memory := machine.memory.copy address (List.replicate size 0) })

def terminalPrint (text : String) (color : UInt32) : Driver PUnit :=
  Bus.access Machine.react fun machine =>
    (PUnit.unit, { machine with console := machine.console ++ [(text, color)] })

/-- A loop that waits for a bit of a register. -/
def waitBit (offset bit : Nat) (value : Bool) (turns : Nat) : Driver Bool :=
  Program.waitFor (Bus.access Machine.react fun machine =>
    ((machine.hda.read offset).testBit bit == value, machine)) turns

/-- `IntelHda::init` up to its early exit: true if it goes on from there. -/
def reset : Driver Bool := do
  let _gcap ← readReg 0x00 4
  terminalPrint "\n> HDA: AUDIO SILICON DETECTED AND MAPPED.\n" 0x3B82F6
  writeReg 0x08 1
  let awake ← waitBit 0x08 0 true 10000000
  if awake then return true
  terminalPrint "> HDA ERROR: CONTROLLER RESET TIMEOUT!\n" 0xEF4444
  return false

/-- The rest of `IntelHda::init`. -/
def configure (allocation : Allocation) (hda : IntelHda) : Driver IntelHda := do
  terminalPrint "> HDA: CONTROLLER AWAKE. ALLOCATING DMA RINGS...\n" 0x3B82F6
  let corbPtr ← allocZeroed allocation.corb 4096
  let rirbPtr ← allocZeroed allocation.rirb 4096
  writeReg 0x4C 0
  writeReg 0x5C 0
  writeReg 0x40 (corbPtr &&& 0xFFFFFFFF)
  writeReg 0x44 (corbPtr >>> 32)
  writeReg 0x50 (rirbPtr &&& 0xFFFFFFFF)
  writeReg 0x54 (rirbPtr >>> 32)
  writeReg 0x4E 0x02
  writeReg 0x5E 0x02
  writeReg 0x4A (1 <<< 15)
  writeReg 0x4A 0
  writeReg 0x48 0
  writeReg 0x58 (1 <<< 15)
  writeReg 0x4C (1 <<< 1)
  writeReg 0x5C (1 <<< 1)
  terminalPrint "> HDA: CORB & RIRB RINGS DMA MAPPED AND RUNNING.\n" 0x10B981
  let statests ← readReg 0x0E 2
  if statests ≠ 0 then
    terminalPrint "> HDA: EXTERNAL AUDIO CODEC DETECTED ON LINK!\n" 0x10B981
  return { hda with corbPtr := corbPtr, rirbPtr := rirbPtr }

def init (allocation : Allocation) (hda : IntelHda) : Driver IntelHda := do
  if ← reset then configure allocation hda else return hda

def sendCorbCmd (hda : IntelHda) (cmd : Nat) : Driver PUnit := do
  Program.notNull hda.corbPtr
  let wp ← readReg 0x48 2
  let wp ← Program.orPanic (checked (2 ^ 16) (wp + 1))
  store (hda.corbPtr + 4 * (wp % 256)) 4 cmd
  writeReg 0x48 (wp % 256)

/-- The commands that set up the two nodes of the codec. -/
def toneVerbs : List Nat :=
  [0x00270500, 0x00370500, 0x00270610, 0x00220011, 0x0023B07F, 0x00370740, 0x0033B07F]

/-- The samples and their descriptor list. -/
def writeSamples (allocation : Allocation) : Driver (Nat × Nat) := do
  let audioBuf ← allocZeroed allocation.audioBuf bufferSize
  (List.range (bufferSize / 2)).forM fun i => do
    Program.notNull (audioBuf + 2 * i)
    store (audioBuf + 2 * i) 2 (sample i)
  let bdlPtr ← allocZeroed allocation.bdl 4096
  Program.notNull bdlPtr
  store bdlPtr 4 (audioBuf &&& 0xFFFFFFFF)
  store (bdlPtr + 4) 4 (audioBuf >>> 32)
  store (bdlPtr + 8) 4 bufferSize
  store (bdlPtr + 12) 4 0
  return (audioBuf, bdlPtr)

/-- The reset and the parameters of the first output stream; its registers' place. -/
def prepareStream (bdlPtr : Nat) : Driver Nat := do
  let gcap ← readReg 0x00 4
  let iss := gcap >>> 8 &&& 0x0F
  let streamOffset := 0x80 + iss * 0x20
  writeReg streamOffset 0
  writeReg streamOffset 1
  let _ ← waitBit streamOffset 0 true 10000
  writeReg streamOffset 0
  let _ ← waitBit streamOffset 0 false 10000
  writeReg (streamOffset + 0x18) (bdlPtr &&& 0xFFFFFFFF)
  writeReg (streamOffset + 0x1C) (bdlPtr >>> 32)
  writeReg (streamOffset + 0x08) bufferSize
  writeReg (streamOffset + 0x0C) 0
  writeReg (streamOffset + 0x12) 0x0011
  return streamOffset

def startStream (streamOffset : Nat) : Driver PUnit := do
  let sdctl ← readReg streamOffset 1
  let sdctl := sdctl ||| 1 <<< 4
  writeReg streamOffset sdctl
  writeReg streamOffset (sdctl ||| 1 <<< 1)
  terminalPrint "> HDA: DMA OUTPUT FIRED. 440HZ TONE STREAMING!\n" 0xF59E0B

def playTone (allocation : Allocation) (hda : IntelHda) : Driver PUnit := do
  let (_, bdlPtr) ← writeSamples allocation
  let streamOffset ← prepareStream bdlPtr
  toneVerbs.forM (sendCorbCmd hda)
  startStream streamOffset

/-- The audio block of `_start` for a controller that was found. -/
def startAudio (allocation : Allocation) (bar0 : Nat) : Driver IntelHda := do
  let hda ← init allocation (IntelHda.new bar0)
  playTone allocation hda
  return hda

end Driver

end QoreOS.Audio
