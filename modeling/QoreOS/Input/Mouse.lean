import Mathlib.Data.Vector.Basic
import Mathlib.Algebra.BigOperators.Group.List.Defs

/-! The interrupt side of the mouse driver: from bytes to the three shared cells. -/

namespace QoreOS.Input

/-- The cells that are shared with the main loop, and the driver's own statics. -/
structure Mouse where
  x : Int32
  y : Int32
  btn : UInt8
  cycle : UInt8
  packet : Vector UInt8 3
  deriving DecidableEq

def Mouse.start : Mouse where
  x := 400
  y := 300
  btn := 0
  cycle := 0
  packet := #v[0, 0, 0]

/-- What a packet reports. -/
structure Movement where
  dx : Int32
  dy : Int32
  btn : UInt8
  deriving DecidableEq

/-- A byte with its ninth bit from the state byte. -/
def signExtend (state : UInt8) (bit : UInt8) (byte : UInt8) : Int32 :=
  let value := Int32.ofNat byte.toNat
  if state &&& 1 <<< bit != 0 then value ||| ~~~0xFF else value

def Movement.decode (packet : Vector UInt8 3) : Movement :=
  let state := packet[0]
  let dx := signExtend state 4 packet[1]
  let dy := signExtend state 5 packet[2]
  -- the screen's vertical axis goes down
  let dy := -dy
  { dx := dx, dy := dy, btn := state &&& 0x03 }

namespace Mouse

def processPacketByte (mouse : Mouse) (byte : UInt8) : Mouse :=
  match mouse.cycle with
  | 0 =>
    if byte &&& 0x08 != 0 then
      { mouse with packet := mouse.packet.set 0 byte, cycle := mouse.cycle + 1 }
    else mouse
  | 1 => { mouse with packet := mouse.packet.set 1 byte, cycle := mouse.cycle + 1 }
  | 2 =>
    let packet := mouse.packet.set 2 byte
    let movement := Movement.decode packet
    { x := mouse.x + movement.dx
      y := mouse.y + movement.dy
      btn := movement.btn
      cycle := 0
      packet := packet }
  | _ => { mouse with cycle := 0 }

/-- `MOUSE_X.store` -/
def storeX (mouse : Mouse) (value : Int32) : Mouse := { mouse with x := value }

/-- `MOUSE_Y.store` -/
def storeY (mouse : Mouse) (value : Int32) : Mouse := { mouse with y := value }

/-- Interrupts one after the other. -/
def receive (mouse : Mouse) (bytes : List UInt8) : Mouse := bytes.foldl processPacketByte mouse

/-- The packet that a byte completes. -/
def completed (mouse : Mouse) (byte : UInt8) : Option Movement :=
  if mouse.cycle = 2 then some (Movement.decode (mouse.packet.set 2 byte)) else none

/-- The packets that bytes complete. -/
def movements (mouse : Mouse) : List UInt8 → List Movement
  | [] => []
  | byte :: bytes => (mouse.completed byte).toList ++ (mouse.processPacketByte byte).movements bytes

/-- The sum of what packets move the pointer. -/
def movedX (packets : List Movement) : Int32 := (packets.map Movement.dx).sum

def movedY (packets : List Movement) : Int32 := (packets.map Movement.dy).sum

/-- The buttons behind packets. -/
def pressed (btn : UInt8) (packets : List Movement) : UInt8 :=
  (packets.getLast?.map Movement.btn).getD btn

variable {mouse other : Mouse}

/-- A byte moves the pointer by the packet that it completes. -/
theorem processPacketByte_cells (mouse : Mouse) (byte : UInt8) :
    (mouse.processPacketByte byte).x = mouse.x + movedX (mouse.completed byte).toList ∧
      (mouse.processPacketByte byte).y = mouse.y + movedY (mouse.completed byte).toList ∧
      (mouse.processPacketByte byte).btn = pressed mouse.btn (mouse.completed byte).toList := by
  unfold processPacketByte completed
  split
  case h_1 zero =>
    have incomplete : mouse.cycle ≠ 2 := by
      rw [zero]
      decide
    rw [if_neg incomplete]
    split <;> exact ⟨(Int32.add_zero _).symm, (Int32.add_zero _).symm, rfl⟩
  case h_2 one =>
    have incomplete : mouse.cycle ≠ 2 := by
      rw [one]
      decide
    rw [if_neg incomplete]
    exact ⟨(Int32.add_zero _).symm, (Int32.add_zero _).symm, rfl⟩
  case h_3 two =>
    rw [if_pos two]
    simp [movedX, movedY, pressed]
  case h_4 incomplete =>
    rw [if_neg incomplete]
    exact ⟨(Int32.add_zero _).symm, (Int32.add_zero _).symm, rfl⟩

@[simp] theorem receive_nil (mouse : Mouse) : mouse.receive [] = mouse := rfl

@[simp] theorem receive_cons (mouse : Mouse) (byte : UInt8) (bytes : List UInt8) :
    mouse.receive (byte :: bytes) = (mouse.processPacketByte byte).receive bytes := rfl

theorem receive_append (mouse : Mouse) (first second : List UInt8) :
    mouse.receive (first ++ second) = (mouse.receive first).receive second :=
  List.foldl_append

theorem movements_append (mouse : Mouse) (first second : List UInt8) :
    mouse.movements (first ++ second) =
      mouse.movements first ++ (mouse.receive first).movements second := by
  induction first generalizing mouse with
  | nil => rfl
  | cons byte first ih =>
    rw [List.cons_append, movements, movements, receive_cons, ih, List.append_assoc]

theorem movedX_append (first second : List Movement) :
    movedX (first ++ second) = movedX first + movedX second := by
  rw [movedX, List.map_append, List.sum_append]
  rfl

theorem movedY_append (first second : List Movement) :
    movedY (first ++ second) = movedY first + movedY second := by
  rw [movedY, List.map_append, List.sum_append]
  rfl

theorem pressed_append (btn : UInt8) (first second : List Movement) :
    pressed btn (first ++ second) = pressed (pressed btn first) second := by
  unfold pressed
  rw [List.getLast?_append]
  cases second.getLast? <;> rfl

/-- The cells behind any bytes: the position has moved by the packets, and the
buttons are those of the last one. -/
theorem receive_cells (mouse : Mouse) (bytes : List UInt8) :
    (mouse.receive bytes).x = mouse.x + movedX (mouse.movements bytes) ∧
      (mouse.receive bytes).y = mouse.y + movedY (mouse.movements bytes) ∧
      (mouse.receive bytes).btn = pressed mouse.btn (mouse.movements bytes) := by
  induction bytes generalizing mouse with
  | nil => exact ⟨(Int32.add_zero _).symm, (Int32.add_zero _).symm, rfl⟩
  | cons byte bytes ih =>
    obtain ⟨x, y, btn⟩ := processPacketByte_cells mouse byte
    obtain ⟨restX, restY, restBtn⟩ := ih (mouse.processPacketByte byte)
    rw [receive_cons, movements, movedX_append, movedY_append, pressed_append, restX, restY,
      restBtn, x, y, btn, Int32.add_assoc, Int32.add_assoc]
    exact ⟨rfl, rfl, rfl⟩

theorem receive_x (mouse : Mouse) (bytes : List UInt8) :
    (mouse.receive bytes).x = mouse.x + movedX (mouse.movements bytes) :=
  (receive_cells mouse bytes).1

theorem receive_y (mouse : Mouse) (bytes : List UInt8) :
    (mouse.receive bytes).y = mouse.y + movedY (mouse.movements bytes) :=
  (receive_cells mouse bytes).2.1

theorem receive_btn (mouse : Mouse) (bytes : List UInt8) :
    (mouse.receive bytes).btn = pressed mouse.btn (mouse.movements bytes) :=
  (receive_cells mouse bytes).2.2

theorem processPacketByte_stored (mouse : Mouse) (x y : Int32) (byte : UInt8) : ∃ nextX nextY,
    ((mouse.storeX x).storeY y).processPacketByte byte =
      ((mouse.processPacketByte byte).storeX nextX).storeY nextY := by
  obtain ⟨oldX, oldY, btn, cycle, packet⟩ := mouse
  unfold processPacketByte storeX storeY
  dsimp only
  split
  · split <;> exact ⟨x, y, rfl⟩
  · exact ⟨x, y, rfl⟩
  · exact ⟨_, _, rfl⟩
  · exact ⟨x, y, rfl⟩

/-- Stores to the position do not matter to the driver. -/
theorem movements_stored (mouse : Mouse) (x y : Int32) (bytes : List UInt8) :
    ((mouse.storeX x).storeY y).movements bytes = mouse.movements bytes := by
  induction bytes generalizing mouse x y with
  | nil => rfl
  | cons byte bytes ih =>
    obtain ⟨nextX, nextY, next⟩ := processPacketByte_stored mouse x y byte
    rw [movements, movements, next, ih]
    rfl

theorem movements_storeX (mouse : Mouse) (x : Int32) (bytes : List UInt8) :
    (mouse.storeX x).movements bytes = mouse.movements bytes :=
  movements_stored mouse x mouse.y bytes

theorem movements_storeY (mouse : Mouse) (y : Int32) (bytes : List UInt8) :
    (mouse.storeY y).movements bytes = mouse.movements bytes :=
  movements_stored mouse mouse.x y bytes

/-- Nor do they after further bytes. -/
theorem movements_receive_storeX (mouse : Mouse) (x : Int32) (first second : List UInt8) :
    ((mouse.storeX x).receive first).movements second = (mouse.receive first).movements second := by
  have whole := movements_storeX mouse x (first ++ second)
  rw [movements_append, movements_append, movements_storeX] at whole
  exact List.append_cancel_left whole

theorem movements_receive_storeY (mouse : Mouse) (y : Int32) (first second : List UInt8) :
    ((mouse.storeY y).receive first).movements second = (mouse.receive first).movements second := by
  have whole := movements_storeY mouse y (first ++ second)
  rw [movements_append, movements_append, movements_storeY] at whole
  exact List.append_cancel_left whole

/-- A stored `MOUSE_X` is moved by what follows, whatever is stored to `MOUSE_Y`. -/
theorem storeX_receive_x (mouse : Mouse) (x y : Int32) (first second : List UInt8) :
    ((((mouse.storeX x).receive first).storeY y).receive second).x =
      x + movedX (mouse.movements (first ++ second)) := by
  rw [receive_x, movements_storeY, movements_receive_storeX, movements_append, movedX_append,
    ← Int32.add_assoc]
  congr 1
  change ((mouse.storeX x).receive first).x = _
  rw [receive_x, movements_storeX]
  rfl

theorem storeY_receive_y (mouse : Mouse) (x y : Int32) (first second : List UInt8) :
    ((((mouse.storeY y).receive first).storeX x).receive second).y =
      y + movedY (mouse.movements (first ++ second)) := by
  rw [receive_y, movements_storeX, movements_receive_storeY, movements_append, movedY_append,
    ← Int32.add_assoc]
  congr 1
  change ((mouse.storeY y).receive first).y = _
  rw [receive_y, movements_storeY]
  rfl

/-- A store to `MOUSE_X` does not matter to `MOUSE_Y`. -/
theorem storeX_receive_y (mouse : Mouse) (x : Int32) (bytes : List UInt8) :
    ((mouse.storeX x).receive bytes).y = (mouse.receive bytes).y := by
  rw [receive_y, receive_y, movements_storeX]
  rfl

end Mouse

end QoreOS.Input
