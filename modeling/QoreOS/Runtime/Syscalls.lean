import QoreOS.Display.CheckedTerminal
import QoreOS.Runtime.System
import QoreOS.Storage.ReadReturns

/-! `syscall_handler` with the checks that a debug build makes, on a heap that
refuses nothing but a single request which is larger than all of it. -/

namespace QoreOS.Runtime

open QoreOS.Library QoreOS.Display QoreOS.Network QoreOS.Storage

/-- A canvas as it stands in memory, with the address of its pixels. -/
structure CanvasRecord where
  x : UInt64
  y : UInt64
  width : UInt64
  height : UInt64
  buffer : UInt64
  pixels : Nat → UInt32

def CanvasRecord.surface (record : CanvasRecord) : Surface where
  x := record.x.toNat
  y := record.y.toNat
  width := record.width.toNat
  height := record.height.toNat
  place := some record.buffer.toNat
  pixels := record.pixels

/-- What the system calls work on. `records` tells what the kernel reads where
it takes an address for that of a canvas. -/
structure Services (State : Type) where
  server : Server
  screen : Framebuffer
  terminal : Terminal
  kernel : Kernel
  drive : Option Nvme
  machine : Machine State
  records : UInt64 → CanvasRecord

/-- A system call with what it meets: the bytes in the range which the first two
arguments describe, the controller's pace and the addresses that the heap gives out
for the next vector and the next box. -/
structure Syscall where
  number : UInt64
  arg1 : UInt64
  arg2 : UInt64
  arg3 : UInt64
  bytes : List UInt8
  readable : bytes.length = arg2.toNat
  pace : ReadPace
  buffer : UInt64
  box : UInt64

/-- What a user program does: it calls, or writes to memory. -/
inductive Action where
  | call (syscall : Syscall)
  | store (records : UInt64 → CanvasRecord)

def request (size : Nat) : Option Unit := if size ≤ heapSize then some () else none

def requestAll : List HeapCall → Option Unit
  | [] => some ()
  | .take size :: calls => do
    request size
    requestAll calls
  | .give _ :: calls => requestAll calls

/-- `slice::from_raw_parts(arg1 as *const u8, arg2 as usize)` -/
def Syscall.slice (call : Syscall) : Option (List UInt8) :=
  if call.arg1 ≠ 0 ∧ call.arg2.toNat < 2 ^ 63 then some call.bytes else none

/-- The addresses of the two doorbells that a read rings. -/
def doorbells (nvme : Nvme) : Option Unit := do
  let _ ← checked (2 ^ 64) (nvme.bar0 + 0x1008)
  let _ ← checked (2 ^ 64) (nvme.bar0 + 0x100C)
  return ()

/-- The addresses of the current descriptor and of the register behind it. -/
def transmitAddresses (nic : E1000) : Option Unit := do
  let _ ← checked (2 ^ 64) (nic.txRingPtr + nic.currentTxBucket * 16)
  let _ ← checked (2 ^ 64) (nic.bar0Address + 0x3818)
  return ()

namespace Services

variable {State : Type}

def blitTerminal (services : Services State) : Option (Services State) := do
  let screen ← services.server.blitCanvas services.terminal.canvas.surface services.screen
  some { services with screen := screen }

def terminalPrint (services : Services State) (text : String) (color : UInt32) :
    Option (Services State) := do
  let terminal ← checkedPrint services.terminal text color
  { services with terminal := terminal }.blitTerminal

/-- System call 1. -/
def printText (services : Services State) (call : Syscall) : Option (UInt64 × Services State) := do
  let bytes ← call.slice
  let services ← match fromUtf8 bytes with
    | some text => services.terminalPrint text call.arg3.toUInt32
    | none => services.terminalPrint "\n> SYS: SYSCALL STRING UTF8 ERROR!\n" 0xEF4444
  return (0, services)

/-- System call 2. -/
def newCanvas (services : Services State) (call : Syscall) : Option (UInt64 × Services State) := do
  let size := call.arg3.toNat
  let pixels ← checked (2 ^ 64) (size * size)
  request (pixels * 4)
  request 56
  let canvas : CanvasRecord := {
    x := call.arg1
    y := call.arg2
    width := call.arg3
    height := call.arg3
    buffer := call.buffer
    pixels := fun _ => 0 }
  return (call.box, { services with records := Function.update services.records call.box canvas })

/-- System call 3. -/
def blitPointer (services : Services State) (call : Syscall) :
    Option (UInt64 × Services State) := do
  if call.arg1 = 0 then return (0, services)
  else
    let _ ← checkedPointer 8 call.arg1.toNat
    let screen ← services.server.blitCanvas (services.records call.arg1).surface services.screen
    return (0, { services with screen := screen })

/-- System call 4 with a drive. -/
def readDrive (disk : Drive State) (services : Services State) (drive : Nvme) (call : Syscall) :
    Option (UInt64 × Services State) := do
  request 4096
  doorbells drive
  let (data, drive, machine) ← drive.readSector disk.hardware call.pace services.machine call.arg1
  request 512
  let _ ← copyFromSlice (List.replicate 512 0) 0 data.sector
  let services := { services with drive := some drive, machine := machine }
  let services ←
    services.terminalPrint "> SYS: NVME DMA COMPLETE. PASSING POINTER TO RING-3.\n" 0x10B981
  let services ← services.blitTerminal
  return (call.box, services)

/-- System call 4. -/
def readSector (disk : Drive State) (services : Services State) (call : Syscall) :
    Option (UInt64 × Services State) := do
  let services ← services.terminalPrint "\n> SYS: RING-3 NVME READ REQUEST ACCEPTED.\n" 0xF59E0B
  match services.drive with
  | some drive => services.readDrive disk drive call
  | none =>
    let services ← services.terminalPrint "> SYS: NVME DRIVE NOT FOUND!\n" 0xEF4444
    return (0, services)

def arpRequest (growth : Growth) (services : Services State) (nic : E1000) (targetIp : Ip) :
    Option (Services State) := do
  requestAll
    (System.arpFrame growth (Kernel.arpRequestBytes nic.macAddress targetIp).length).calls
  transmitAddresses nic
  let kernel ← services.kernel.arpRequest targetIp
  { services with kernel := kernel }.terminalPrint "\nNET: ARP Request Broadcasted to Network.\n"
    0x3B82F6

def sendRequest (growth : Growth) (services : Services State) : Option (Services State) := do
  match services.kernel.netCard with
  | some nic =>
    let services ← services.arpRequest growth nic (.of 10 0 2 2)
    services.terminalPrint "> SYS: E1000 HARDWARE TRANSMIT (TX) COMPLETE!\n" 0x10B981
  | none => services.terminalPrint "> SYS: E1000 NETWORK CARD NOT FOUND!\n" 0xEF4444

def sendText (growth : Growth) (services : Services State) (bytes : List UInt8) :
    Option (Services State) :=
  match fromUtf8 bytes with
  | some text => do
    requestAll (System.logText growth text).calls
    let services ← services.terminalPrint
      s!"\n> SYS: RING-3 NETWORK REQUEST. PAYLOAD: '{text}'\n" 0xF59E0B
    services.sendRequest growth
  | none => some services

/-- System call 5. -/
def sendPacket (growth : Growth) (services : Services State) (call : Syscall) :
    Option (UInt64 × Services State) := do
  let bytes ← call.slice
  let services ← services.sendText growth bytes
  let services ← services.blitTerminal
  return (0, services)

def syscallHandler (disk : Drive State) (growth : Growth) (services : Services State)
    (call : Syscall) : Option (UInt64 × Services State) :=
  match call.number.toNat with
  | 1 => services.printText call
  | 2 => services.newCanvas call
  | 3 => services.blitPointer call
  | 4 => services.readSector disk call
  | 5 => services.sendPacket growth call
  | _ => do
    let services ← services.terminalPrint "\n> SYS: UNKNOWN SYSCALL TRIGGERED!\n" 0xEF4444
    return (0, services)

def step (disk : Drive State) (growth : Growth) (services : Services State) :
    Action → Option (Services State)
  | .call call => do
    let (_, services) ← services.syscallHandler disk growth call
    return services
  | .store records => some { services with records := records }

end Services

end QoreOS.Runtime
