import QoreOS.Library.Await

/-! The PS/2 controller with the keyboard and the mouse behind it. -/

namespace QoreOS.Input

open QoreOS.Library

/-- What the next byte that is written to the data port is for. -/
inductive Addressee where
  | keyboard
  | config
  | mouse
  deriving DecidableEq

/-- Whose byte is in the output buffer; the controller's own answers count as the keyboard's. -/
inductive Source where
  | keyboard
  | mouse
  deriving DecidableEq

/-- The mouse itself: what it was told, and the bytes it has yet to send. -/
structure Ps2Mouse where
  streaming : Bool
  commands : List UInt8
  outbox : List UInt8
  deriving DecidableEq

/-- Set the defaults, report movements or not; anything else is to be sent again. -/
def Ps2Mouse.obey (mouse : Ps2Mouse) (command : UInt8) : Ps2Mouse :=
  let told := { mouse with commands := mouse.commands ++ [command] }
  if command = 0xF6 then { told with streaming := false, outbox := mouse.outbox ++ [0xFA] }
  else if command = 0xF4 then { told with streaming := true, outbox := mouse.outbox ++ [0xFA] }
  else if command = 0xF5 then { told with streaming := false, outbox := mouse.outbox ++ [0xFA] }
  else { told with outbox := mouse.outbox ++ [0xFE] }

/-- `input` holds a byte written to the command port (`true`) or to the data port, which the
controller has yet to take. The last byte put out stays in the latch after it has been read.
`edges` lists the interrupt lines raised so far. -/
structure Ps2 where
  config : UInt8
  input : Option (Bool × UInt8)
  addressee : Addressee
  output : Option Source
  latch : UInt8
  mouse : Ps2Mouse
  keyboard : List UInt8
  edges : List Nat
  deriving DecidableEq

namespace Ps2

/-- What a read of port `0x64` returns. -/
def status (ps2 : Ps2) : UInt8 :=
  (if ps2.output.isSome then 1 else 0) ||| (if ps2.input.isSome then 2 else 0) |||
    if ps2.output = some .mouse then 0x20 else 0

def writeCommand (ps2 : Ps2) (value : UInt8) : Ps2 := { ps2 with input := some (true, value) }

def writeData (ps2 : Ps2) (value : UInt8) : Ps2 := { ps2 with input := some (false, value) }

/-- A read of port `0x60` empties the output buffer. -/
def readData (ps2 : Ps2) : UInt8 × Ps2 := (ps2.latch, { ps2 with output := none })

/-- The interrupt line that a byte raises, if the configuration byte enables it. -/
def line (config : UInt8) : Source → List Nat
  | .keyboard => if config &&& 1 ≠ 0 then [1] else []
  | .mouse => if config &&& 2 ≠ 0 then [12] else []

def put (ps2 : Ps2) (source : Source) (byte : UInt8) : Ps2 :=
  { ps2 with output := some source, latch := byte, edges := ps2.edges ++ line ps2.config source }

/-- The controller takes a command. An answer waits for the output buffer. -/
def acceptCommand (ps2 : Ps2) (value : UInt8) : Ps2 :=
  let taken := { ps2 with input := none }
  if value = 0xA8 then { taken with config := ps2.config &&& ~~~0x20 }
  else if value = 0xAE then { taken with config := ps2.config &&& ~~~0x10 }
  else if value = 0x20 then
    if ps2.output = none then taken.put .keyboard ps2.config else ps2
  else if value = 0x60 then { taken with addressee := .config }
  else if value = 0xD4 then { taken with addressee := .mouse }
  else taken

def acceptData (ps2 : Ps2) (value : UInt8) : Ps2 :=
  let taken := { ps2 with input := none, addressee := .keyboard }
  match ps2.addressee with
  | .keyboard => taken
  | .config => { taken with config := value }
  | .mouse => { taken with mouse := ps2.mouse.obey value }

/-- The next byte of the mouse goes into the empty output buffer, unless its clock is stopped. -/
def sendMouse (ps2 : Ps2) : Ps2 :=
  match ps2.output, ps2.mouse.outbox with
  | none, byte :: rest =>
    if ps2.config &&& 0x20 = 0 then
      { ps2 with mouse := { ps2.mouse with outbox := rest } }.put .mouse byte
    else ps2
  | _, _ => ps2

def sendKeyboard (ps2 : Ps2) : Ps2 :=
  match ps2.output, ps2.keyboard with
  | none, byte :: rest =>
    if ps2.config &&& 0x10 = 0 then { ps2 with keyboard := rest }.put .keyboard byte else ps2
  | _, _ => ps2

/-- The controller's next step: what was written to it, then the mouse, then the keyboard. -/
def step (ps2 : Ps2) : Ps2 :=
  match ps2.input with
  | some (true, value) => ps2.acceptCommand value
  | some (false, value) => ps2.acceptData value
  | none =>
    if ps2.config &&& 0x20 = 0 ∧ ps2.mouse.outbox ≠ [] then ps2.sendMouse else ps2.sendKeyboard

end Ps2

end QoreOS.Input
