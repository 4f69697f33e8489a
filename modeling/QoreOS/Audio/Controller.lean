import Mathlib.Logic.Function.Basic
import QoreOS.Library.ByteMemory

/-! An audio controller that keeps to the specification, and a codec on its link: the controller
comes out of reset, hands the commands of one ring in memory to the codec, stores its responses in
another, resets its streams and sends what a running stream's descriptor list names, each at its own
pace. The pointers of the rings are reset at once. -/

namespace QoreOS.Audio

open QoreOS.Library

/-- An output stream: `resetAsked` is the reset bit as it was written and `inReset` as it is read,
`control` the rest of that byte, `number` the stream number two bytes behind it, and `position` how
far the buffers have been sent. -/
structure Stream where
  resetAsked : Bool
  inReset : Bool
  control : Nat
  number : Nat
  listLow : Nat
  listHigh : Nat
  cyclicLength : Nat
  lastValid : Nat
  format : Nat
  position : Nat
  -- Reset clears what the driver cannot or does not write.
  reset_clears : inReset = true → number = 0 ∧ position = 0

namespace Stream

/-- A descriptor in reset. -/
def cleared : Stream where
  resetAsked := true
  inReset := true
  control := 0
  number := 0
  listLow := 0
  listHigh := 0
  cyclicLength := 0
  lastValid := 0
  format := 0
  position := 0
  reset_clears := fun _ => ⟨rfl, rfl⟩

/-- A descriptor out of reset. -/
def released (stream : Stream) : Stream :=
  { stream with inReset := false, reset_clears := by simp }

def follow (stream : Stream) : Stream := if stream.resetAsked then cleared else stream.released

def list (stream : Stream) : Nat := stream.listHigh * 2 ^ 32 + stream.listLow

def Runs (stream : Stream) : Prop := stream.control.testBit 1 = true ∧ stream.inReset = false

instance (stream : Stream) : Decidable stream.Runs := inferInstanceAs (Decidable (_ ∧ _))

/-- The bytes in which a sample of the stream's format stands. -/
def wordSize (stream : Stream) : Nat :=
  match stream.format / 16 % 8 with
  | 0 => 1
  | 1 => 2
  | _ => 4

def advance (stream : Stream) : Stream :=
  { stream with
    inReset := false
    position := (stream.position + stream.wordSize) % stream.cyclicLength
    reset_clears := by simp }

def read (stream : Stream) : Nat := stream.control + if stream.inReset then 1 else 0

def write (stream : Stream) (offset value : Nat) : Stream :=
  match offset with
  | 0x00 => { stream with resetAsked := value.testBit 0, control := value / 2 * 2 % 256 }
  | 0x08 => { stream with cyclicLength := value % 2 ^ 32 }
  | 0x0C => { stream with lastValid := value % 256 }
  | 0x12 => { stream with format := value % 2 ^ 16 }
  | 0x18 => { stream with listLow := value % 2 ^ 32 }
  | 0x1C => { stream with listHigh := value % 2 ^ 32 }
  | _ => stream

end Stream

/-- The address of the byte so far into the buffers that a descriptor list names. -/
def sampleAddress (memory : ByteMemory) : Nat → Nat → Nat → Nat
  | 0, list, position => memory.read list 8 + position
  | later + 1, list, position =>
    if position < memory.read (list + 8) 4 then memory.read list 8 + position
    else sampleAddress memory later (list + 16) (position - memory.read (list + 8) 4)

/-- The registers of a ring; `size` is the code written to the size register. -/
structure RingRegisters where
  low : Nat
  high : Nat
  size : Nat
  writePointer : Nat
  running : Bool

namespace RingRegisters

def base (ring : RingRegisters) : Nat := ring.high * 2 ^ 32 + ring.low

def entries (ring : RingRegisters) : Nat :=
  match ring.size with
  | 0 => 2
  | 1 => 16
  | _ => 256

/-- The place behind a pointer. -/
def behind (ring : RingRegisters) (pointer : Nat) : Nat := (pointer + 1) % ring.entries

end RingRegisters

/-- The registers; `readPointer` belongs to the command ring. -/
structure Controller where
  gcap : Nat
  statests : Nat
  awakeAsked : Bool
  awake : Bool
  corb : RingRegisters
  readPointer : Nat
  rirb : RingRegisters
  streams : Nat → Stream

namespace Controller

/-- A controller in reset. -/
def asleep (controller : Controller) : Controller where
  gcap := controller.gcap
  statests := 0
  awakeAsked := false
  awake := false
  corb := ⟨0, 0, 2, 0, false⟩
  readPointer := 0
  rirb := ⟨0, 0, 2, 0, false⟩
  streams := fun _ => Stream.cleared.released

def setStream (controller : Controller) (index : Nat) (stream : Stream) : Controller :=
  { controller with streams := Function.update controller.streams index stream }

/-- The first output stream is behind the input streams that the capabilities count. -/
def firstOutput (controller : Controller) : Nat := controller.gcap / 2 ^ 8 % 16

def read (controller : Controller) (offset : Nat) : Nat :=
  match offset with
  | 0x00 => controller.gcap
  | 0x08 => if controller.awake then 1 else 0
  | 0x0E => controller.statests
  | 0x48 => controller.corb.writePointer
  | _ => (controller.streams ((offset - 0x80) / 0x20)).read

/-- The descriptors stand behind `0x80`, 32 bytes each. -/
def write (controller : Controller) (offset value : Nat) : Controller :=
  match offset with
  | 0x08 => { controller with awakeAsked := value.testBit 0 }
  | 0x40 => { controller with corb := { controller.corb with low := value % 2 ^ 32 } }
  | 0x44 => { controller with corb := { controller.corb with high := value % 2 ^ 32 } }
  | 0x48 => { controller with corb := { controller.corb with writePointer := value % 256 } }
  | 0x4A => if value.testBit 15 then { controller with readPointer := 0 } else controller
  | 0x4C => { controller with corb := { controller.corb with running := value.testBit 1 } }
  | 0x4E => { controller with corb := { controller.corb with size := value % 4 } }
  | 0x50 => { controller with rirb := { controller.rirb with low := value % 2 ^ 32 } }
  | 0x54 => { controller with rirb := { controller.rirb with high := value % 2 ^ 32 } }
  | 0x58 =>
    if value.testBit 15 then { controller with rirb := { controller.rirb with writePointer := 0 } }
    else controller
  | 0x5C => { controller with rirb := { controller.rirb with running := value.testBit 1 } }
  | 0x5E => { controller with rirb := { controller.rirb with size := value % 4 } }
  | _ =>
    if 0x80 ≤ offset then
      controller.setStream ((offset - 0x80) / 0x20)
        ((controller.streams ((offset - 0x80) / 0x20)).write ((offset - 0x80) % 0x20) value)
    else controller

end Controller

/-- A node of the codec: `number` and `channel` say to which stream a converter listens. -/
structure Widget where
  power : Nat
  number : Nat
  channel : Nat
  pinControl : Nat
  format : Nat
  amplifier : Nat
  deriving DecidableEq

namespace Widget

/-- A verb of four bits has a payload of 16, one of twelve bits a payload of 8. -/
def obey (widget : Widget) (verb : Nat) : Widget :=
  match verb / 2 ^ 16, verb / 2 ^ 8 with
  | 0x2, _ => { widget with format := verb % 2 ^ 16 }
  | 0x3, _ => { widget with amplifier := verb % 2 ^ 16 }
  | _, 0x705 => { widget with power := verb % 2 ^ 8 }
  | _, 0x706 => { widget with number := verb % 2 ^ 8 / 16, channel := verb % 16 }
  | _, 0x707 => { widget with pinControl := verb % 2 ^ 8 }
  | _, _ => widget

end Widget

/-- What the codec with the address 0 makes of a command. -/
def obeyCommand (widgets : Nat → Widget) (command : Nat) : Nat → Widget :=
  if command / 2 ^ 28 = 0 then
    Function.update widgets (command / 2 ^ 20 % 256)
      ((widgets (command / 2 ^ 20 % 256)).obey (command % 2 ^ 20))
  else widgets

/-- The controller, the memory that it reaches, the nodes of the codec, the commands that it has
received, the words that have been sent to it under which stream number, what each of its converters
has played of them, and what the kernel has printed. -/
structure Machine where
  hda : Controller
  memory : ByteMemory
  widgets : Nat → Widget
  verbs : List Nat
  link : List (Nat × Nat)
  played : Nat → List Nat
  console : List (String × UInt32)

/-- What the hardware does on its own. -/
inductive Event where
  | wake
  | followReset (index : Nat)
  | fetch
  | respond (response : Nat)
  | transfer (index : Nat)
  deriving DecidableEq

namespace Machine

/-- The controller enters or leaves its reset. -/
def wake (machine : Machine) : Machine :=
  { machine with
    hda := if machine.hda.awakeAsked then { machine.hda with awake := true } else machine.hda.asleep }

def followReset (machine : Machine) (index : Nat) : Machine :=
  if machine.hda.awake then
    { machine with hda := machine.hda.setStream index (machine.hda.streams index).follow }
  else machine

/-- The next command goes to the codec, unless the ring has been read up to its write pointer. -/
def fetch (machine : Machine) : Machine :=
  let corb := machine.hda.corb
  let place := corb.behind machine.hda.readPointer
  let command := machine.memory.read (corb.base + 4 * place) 4
  if machine.hda.awake ∧ corb.running ∧ machine.hda.readPointer ≠ corb.writePointer then
    { machine with
      hda := { machine.hda with readPointer := place }
      widgets := obeyCommand machine.widgets command
      verbs := machine.verbs ++ [command] }
  else machine

/-- A response of the codec is stored in the other ring. -/
def respond (machine : Machine) (response : Nat) : Machine :=
  let rirb := machine.hda.rirb
  let place := rirb.behind rirb.writePointer
  if machine.hda.awake ∧ rirb.running then
    { machine with
      hda := { machine.hda with rirb := { rirb with writePointer := place } }
      memory := machine.memory.write (rirb.base + 8 * place) 8 response }
  else machine

/-- A running stream sends its next word; the converters that listen to its number play it, and
none listens to 0. -/
def transfer (machine : Machine) (index : Nat) : Machine :=
  let stream := machine.hda.streams index
  let word := machine.memory.read
    (sampleAddress machine.memory stream.lastValid stream.list stream.position) stream.wordSize
  if machine.hda.awake ∧ stream.Runs then
    { machine with
      hda := machine.hda.setStream index stream.advance
      link := machine.link ++ [(stream.number, word)]
      played := fun node =>
        if stream.number ≠ 0 ∧ (machine.widgets node).number = stream.number then
          machine.played node ++ [word]
        else machine.played node }
  else machine

section Frame

variable (machine : Machine) (response : Nat)

@[simp] theorem fetch_streams : machine.fetch.hda.streams = machine.hda.streams := by
  simp only [fetch]
  split <;> rfl

@[simp] theorem fetch_link : machine.fetch.link = machine.link := by
  simp only [fetch]
  split <;> rfl

@[simp] theorem fetch_played : machine.fetch.played = machine.played := by
  simp only [fetch]
  split <;> rfl

@[simp] theorem respond_streams : (machine.respond response).hda.streams = machine.hda.streams := by
  simp only [respond]
  split <;> rfl

@[simp] theorem respond_link : (machine.respond response).link = machine.link := by
  simp only [respond]
  split <;> rfl

@[simp] theorem respond_played : (machine.respond response).played = machine.played := by
  simp only [respond]
  split <;> rfl

end Frame

def react (machine : Machine) : Event → Machine
  | .wake => machine.wake
  | .followReset index => machine.followReset index
  | .fetch => machine.fetch
  | .respond response => machine.respond response
  | .transfer index => machine.transfer index

end Machine

end QoreOS.Audio
