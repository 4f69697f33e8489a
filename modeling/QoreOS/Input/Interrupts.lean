import QoreOS.Input.Handshake
import QoreOS.Input.Mouse
import QoreOS.Runtime.HeapLock

/-! The way of a byte from a PS/2 device to its handler: interrupt routing, the two
handlers, and the end of each interrupt. -/

namespace QoreOS.Input

/-- The interrupt controllers: the masks of the PIC with the lines that it has passed on, the
I/O APIC with its selected register, and the local APIC with the vectors that it was asked to
deliver and those whose handlers have not ended. -/
structure Apic where
  masks : UInt8 × UInt8
  picPassed : List Nat
  ioregsel : Nat
  ioRegisters : Nat → UInt32
  siv : UInt32
  requests : List Nat
  inService : List Nat

namespace Apic

/-- A write to the register behind the window. -/
def writeIo (apic : Apic) (register : Nat) (value : UInt32) : Apic :=
  { apic with
    ioregsel := register
    ioRegisters := Function.update apic.ioRegisters register value }

/-- `init_apic` -/
def initApic (apic : Apic) (lapic ioapic : Nat) : Apic :=
  let apic := { apic with masks := (0xFF, 0xFF) }
  if lapic = 0 ∨ ioapic = 0 then apic
  else
    let apic := { apic with siv := apic.siv ||| 0x100 ||| 0xFF }
    -- IRQ 1 to vector 33
    let apic := apic.writeIo 0x12 33
    let apic := apic.writeIo 0x13 0
    -- IRQ 12 to vector 44
    let apic := apic.writeIo 0x28 44
    apic.writeIo 0x29 0

/-- The PIC lets the line through. -/
def picOpen (apic : Apic) (irq : Nat) : Bool :=
  if irq < 8 then apic.masks.1 >>> UInt8.ofNat irq &&& 1 = 0
  else apic.masks.2 >>> UInt8.ofNat (irq - 8) &&& 1 = 0

/-- The I/O APIC sends the line's vector to this processor, whose local APIC is on. -/
def routes (apic : Apic) (irq : Nat) : Bool :=
  apic.ioRegisters (0x10 + 2 * irq) &&& 0x10000 = 0 &&
    apic.ioRegisters (0x11 + 2 * irq) >>> 24 = 0 && apic.siv &&& 0x100 ≠ 0

/-- An interrupt line goes up. A vector that was asked for already is not asked for twice. -/
def raise (apic : Apic) (irq : Nat) : Apic :=
  let apic := if apic.picOpen irq then { apic with picPassed := apic.picPassed ++ [irq] } else apic
  if apic.routes irq then
    { apic with requests :=
        apic.requests.insert (apic.ioRegisters (0x10 + 2 * irq) &&& 0xFF).toNat }
  else apic

/-- The vector that the processor takes next: the highest one, if its class is above those of
the handlers that have not ended. -/
def next (apic : Apic) : Option Nat := do
  let vector ← apic.requests.max?
  if apic.inService.all fun other => other / 16 < vector / 16 then some vector else none

def accept (apic : Apic) (vector : Nat) : Apic :=
  { apic with
    requests := apic.requests.erase vector
    inService := vector :: apic.inService }

/-- `notify_end_of_interrupt`; the local APIC ends the handler that began last. -/
def notifyEndOfInterrupt (apic : Apic) (lapicBase : Nat) : Apic :=
  if lapicBase ≠ 0 then { apic with inService := apic.inService.tail } else apic

end Apic

/-- What an interrupt meets: whether the network card has been started, and whether the allocator
serves a handler. It does not while the interrupted code holds its lock, nor once it is exhausted. -/
structure Surroundings where
  netCard : Bool
  allocates : Bool
  deriving DecidableEq

def Surroundings.serves (meets : Surroundings) (calls : List Library.HeapCall) : Bool :=
  calls.isEmpty || meets.allocates

/-- The devices, the interrupt controllers and what the two handlers keep: the state of the mouse
driver, and the scancodes that the keyboard's handler has been given. A handler that does not come
back leaves the processor stopped, with interrupts off. The last three fields are history: the bytes
that the mouse driver was given, and what the user has done. -/
structure Platform where
  stopped : Bool
  lapicBase : Nat
  apic : Apic
  ps2 : Ps2
  mouse : Mouse
  scancodes : List UInt8
  mouseBytes : List UInt8
  reported : List UInt8
  pressed : List UInt8

namespace Platform

/-- The lines that went up on the way to the new state are seen by the interrupt controllers. -/
def withPs2 (platform : Platform) (ps2 : Ps2) : Platform :=
  { platform with
    ps2 := ps2
    apic := (ps2.edges.drop platform.ps2.edges.length).foldl Apic.raise platform.apic }

/-- `keyboard_interrupt_handler`, up to what it draws. -/
def keyboardInterruptHandler (meets : Surroundings) (platform : Platform) : Platform :=
  let (scancode, ps2) := platform.ps2.readData
  let platform := { platform with
    ps2 := ps2
    scancodes := platform.scancodes ++ [scancode] }
  -- the `int 0x80` of Enter comes back from its broadcast only if the allocator serves it
  if meets.serves (Runtime.System.keyboardCalls meets.netCard scancode) then
    { platform with apic := platform.apic.notifyEndOfInterrupt platform.lapicBase }
  else { platform with stopped := true }

/-- `mouse_interrupt_handler` -/
def mouseInterruptHandler (platform : Platform) : Platform :=
  let (packet, ps2) := platform.ps2.readData
  let platform := { platform with
    ps2 := ps2
    mouse := platform.mouse.processPacketByte packet
    mouseBytes := platform.mouseBytes ++ [packet] }
  { platform with apic := platform.apic.notifyEndOfInterrupt platform.lapicBase }

/-- `timer_interrupt_handler` -/
def timerInterruptHandler (platform : Platform) : Platform :=
  { platform with apic := platform.apic.notifyEndOfInterrupt platform.lapicBase }

/-- The handler that the table has for the vector; there is none for the others. -/
def handler (meets : Surroundings) : Nat → Platform → Platform
  | 32 => timerInterruptHandler
  | 33 => keyboardInterruptHandler meets
  | 44 => mouseInterruptHandler
  | _ => id

/-- What may happen once interrupts are enabled. -/
inductive Event where
  | press (scancodes : List UInt8)
  | report (packet : List UInt8)
  | sendKeyboard
  | sendMouse
  | interrupt (meets : Surroundings)

def step (platform : Platform) : Event → Platform
  | .press scancodes =>
    { platform with
      pressed := platform.pressed ++ scancodes
      ps2 := { platform.ps2 with keyboard := platform.ps2.keyboard ++ scancodes } }
  | .report packet =>
    if platform.ps2.mouse.streaming then
      { platform with
        reported := platform.reported ++ packet
        ps2 := { platform.ps2 with
          mouse := { platform.ps2.mouse with outbox := platform.ps2.mouse.outbox ++ packet } } }
    else platform
  | .sendKeyboard => platform.withPs2 platform.ps2.sendKeyboard
  | .sendMouse => platform.withPs2 platform.ps2.sendMouse
  | .interrupt meets =>
    if platform.stopped then platform
    else
      match platform.apic.next with
      | some vector => handler meets vector { platform with apic := platform.apic.accept vector }
      | none => platform

/-- The part of `_start` between the masking of the PIC and `interrupts::enable`. -/
def boot (lapic ioapic : Nat) (apic : Apic) (ps2 : Ps2) (pace : Nat → Nat → Nat) : Platform :=
  let platform : Platform :=
    { stopped := false
      lapicBase := lapic
      apic := apic.initApic lapic ioapic
      ps2 := ps2
      mouse := Mouse.start
      scancodes := []
      mouseBytes := []
      reported := []
      pressed := [] }
  let (_, _, ps2) := ps2.initMouse pace
  platform.withPs2 ps2

end Platform

end QoreOS.Input
