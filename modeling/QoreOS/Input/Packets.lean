import Mathlib.Algebra.Ring.Int.Defs
import QoreOS.Input.Mouse

/-! Packets as the mouse sends them, and what the driver reads from a stream of them. -/

namespace QoreOS.Input

/-- A movement of nine bits in each direction, upwards positive, and the buttons. -/
structure Report where
  left : Bool
  right : Bool
  middle : Bool
  dx : Int
  dy : Int
  horizontal : -256 ≤ dx ∧ dx ≤ 255
  vertical : -256 ≤ dy ∧ dy ≤ 255

def flagBit (flag : Bool) (bit : UInt8) : UInt8 := if flag then 1 <<< bit else 0

/-- The first byte. Bit 3 is always set, and the overflow bits are clear. -/
def flagByte (left right middle xSign ySign : Bool) : UInt8 :=
  flagBit left 0 ||| flagBit right 1 ||| flagBit middle 2 ||| flagBit true 3 ||| flagBit xSign 4 |||
    flagBit ySign 5

/-- The low eight bits of a movement. -/
def movementByte (value : Int) : UInt8 := UInt8.ofNat (value % 256).toNat

namespace Report

variable (report : Report)

def state : UInt8 :=
  flagByte report.left report.right report.middle (report.dx < 0) (report.dy < 0)

def encode : List UInt8 := [report.state, movementByte report.dx, movementByte report.dy]

/-- The left button in bit 0 and the right one in bit 1. -/
def buttons : UInt8 := flagBit report.left 0 ||| flagBit report.right 1

/-- The packet on the screen, whose vertical axis goes down. -/
def movement : Movement where
  dx := Int32.ofInt report.dx
  dy := Int32.ofInt (-report.dy)
  btn := report.buttons

end Report

theorem flagByte_valid (left right middle xSign ySign : Bool) :
    flagByte left right middle xSign ySign &&& 0x08 ≠ 0 := by
  revert left right middle xSign ySign
  decide

theorem flagByte_xSign (left right middle xSign ySign : Bool) :
    (flagByte left right middle xSign ySign &&& (1 : UInt8) <<< 4 != 0) = xSign := by
  revert left right middle xSign ySign
  decide

theorem flagByte_ySign (left right middle xSign ySign : Bool) :
    (flagByte left right middle xSign ySign &&& (1 : UInt8) <<< 5 != 0) = ySign := by
  revert left right middle xSign ySign
  decide

theorem flagByte_buttons (left right middle xSign ySign : Bool) :
    flagByte left right middle xSign ySign &&& 0x03 = flagBit left 0 ||| flagBit right 1 := by
  revert left right middle xSign ySign
  decide

/-- The bits above a byte, set, take 256 off it. -/
theorem ofNat_or_high {byte : Nat} (small : byte < 256) :
    Int32.ofNat byte ||| ~~~0xFF = Int32.ofInt (byte - 256) := by
  revert byte
  decide +kernel

/-- The ninth bit is the sign. -/
theorem signExtend_movementByte {state bit : UInt8} {value : Int}
    (range : -256 ≤ value ∧ value ≤ 255) (sign : (state &&& 1 <<< bit != 0) = decide (value < 0)) :
    signExtend state bit (movementByte value) = Int32.ofInt value := by
  have low : (movementByte value).toNat = (value % 256).toNat := by
    rw [movementByte, UInt8.toNat_ofNat']
    omega
  rw [signExtend, sign, low]
  by_cases negative : value < 0
  · have lifted : ((value % 256).toNat : Int) - 256 = value := by omega
    rw [decide_eq_true negative, if_pos rfl, ofNat_or_high (by omega), lifted]
  · have same : (value % 256).toNat = value := by omega
    rw [decide_eq_false negative, if_neg Bool.false_ne_true, ← Int32.ofInt_eq_ofNat, same]

namespace Report

variable (report : Report)

/-- The driver's reading of a packet that the mouse has sent. -/
theorem decode_encode : Movement.decode
    #v[report.state, movementByte report.dx, movementByte report.dy] = report.movement := by
  have dx : signExtend report.state 4 (movementByte report.dx) = Int32.ofInt report.dx :=
    signExtend_movementByte report.horizontal (flagByte_xSign _ _ _ _ _)
  have dy : signExtend report.state 5 (movementByte report.dy) = Int32.ofInt report.dy :=
    signExtend_movementByte report.vertical (flagByte_ySign _ _ _ _ _)
  have btn : report.state &&& 0x03 = report.buttons := flagByte_buttons _ _ _ _ _
  change Movement.mk (signExtend report.state 4 (movementByte report.dx))
    (-signExtend report.state 5 (movementByte report.dy)) (report.state &&& 0x03) = _
  rw [dx, dy, btn, ← Int32.ofInt_neg]
  rfl

end Report

/-- The bytes before the first packet, none of which can begin one, and the packets. -/
def stream (noise : List UInt8) (reports : List Report) : List UInt8 :=
  noise ++ reports.flatMap Report.encode

namespace Mouse

variable {mouse : Mouse}

/-- The driver never leaves the three cycles. -/
theorem processPacketByte_cycle (between : mouse.cycle ≤ 2) (byte : UInt8) :
    (mouse.processPacketByte byte).cycle ≤ 2 := by
  unfold processPacketByte
  split
  case h_1 zero =>
    split
    · change mouse.cycle + 1 ≤ 2
      rw [zero]
      decide
    · exact between
  case h_2 one =>
    change mouse.cycle + 1 ≤ 2
    rw [one]
    decide
  case h_3 => exact (by decide : (0 : UInt8) ≤ 2)
  case h_4 => exact (by decide : (0 : UInt8) ≤ 2)

theorem receive_cycle (between : mouse.cycle ≤ 2) (bytes : List UInt8) :
    (mouse.receive bytes).cycle ≤ 2 := by
  induction bytes generalizing mouse with
  | nil => exact between
  | cons byte bytes ih => exact ih (processPacketByte_cycle between byte)

theorem processPacketByte_noise (zero : mouse.cycle = 0) {byte : UInt8}
    (clear : byte &&& 0x08 = 0) : mouse.processPacketByte byte = mouse := by
  rw [processPacketByte, zero]
  change (if byte &&& 0x08 != 0 then _ else mouse) = mouse
  rw [clear]
  rfl

/-- Bytes that begin no packet are passed over. -/
theorem receive_noise (zero : mouse.cycle = 0) {noise : List UInt8}
    (clear : ∀ byte ∈ noise, byte &&& 0x08 = 0) : mouse.receive noise = mouse := by
  induction noise with
  | nil => rfl
  | cons byte noise ih =>
    rw [receive_cons, processPacketByte_noise zero (clear byte List.mem_cons_self)]
    exact ih fun other member => clear other (List.mem_cons_of_mem byte member)

/-- One packet, from the first cycle back to it. -/
theorem receive_encode (zero : mouse.cycle = 0) (report : Report) :
    mouse.receive report.encode =
      { x := mouse.x + report.movement.dx
        y := mouse.y + report.movement.dy
        btn := report.movement.btn
        cycle := 0
        packet := #v[report.state, movementByte report.dx, movementByte report.dy] } := by
  obtain ⟨x, y, btn, cycle, packet⟩ := mouse
  cases zero
  have valid : (report.state &&& 0x08 != 0) = true := by
    exact bne_iff_ne.mpr (flagByte_valid _ _ _ _ _)
  have first : (⟨x, y, btn, 0, packet⟩ : Mouse).processPacketByte report.state =
      ⟨x, y, btn, 1, packet.set 0 report.state⟩ := if_pos valid
  have filled : ((packet.set 0 report.state).set 1 (movementByte report.dx)).set 2
      (movementByte report.dy) = #v[report.state, movementByte report.dx, movementByte report.dy] := by
    ext i inside
    obtain rfl | rfl | rfl : i = 0 ∨ i = 1 ∨ i = 2 := by omega
    all_goals simp
  change ((⟨x, y, btn, 0, packet⟩ : Mouse).processPacketByte report.state).receive
    [movementByte report.dx, movementByte report.dy] = _
  rw [first, ← report.decode_encode, ← filled]
  rfl

/-- The cells behind packets: the position has moved by their sum, and the buttons are
those of the last one. -/
structure Tracks (mouse : Mouse) (reports : List Report) (last : Mouse) : Prop where
  cycle : last.cycle = 0
  x : last.x = mouse.x + Int32.ofInt (reports.map Report.dx).sum
  y : last.y = mouse.y - Int32.ofInt (reports.map Report.dy).sum
  btn : last.btn = (reports.getLast?.map Report.buttons).getD mouse.btn

theorem Tracks.nil (zero : mouse.cycle = 0) : mouse.Tracks [] mouse where
  cycle := zero
  x := (Int32.add_zero mouse.x).symm
  y := (Int32.sub_zero mouse.y).symm
  btn := rfl

/-- One packet before others. -/
theorem Tracks.cons {next last : Mouse} {report : Report} {reports : List Report}
    (x : next.x = mouse.x + report.movement.dx) (y : next.y = mouse.y + report.movement.dy)
    (btn : next.btn = report.movement.btn) (rest : next.Tracks reports last) :
    mouse.Tracks (report :: reports) last where
  cycle := rest.cycle
  x := by
    rw [rest.x, x, List.map_cons, List.sum_cons, Int32.ofInt_add, ← Int32.add_assoc]
    rfl
  y := by
    have down : report.movement.dy = -Int32.ofInt report.dy := Int32.ofInt_neg report.dy
    rw [rest.y, y, down, List.map_cons, List.sum_cons, Int32.ofInt_add]
    simp only [Int32.sub_eq_add_neg, Int32.neg_add, Int32.add_assoc]
  btn := by
    rw [rest.btn, btn, List.getLast?_cons]
    cases reports.getLast? <;> rfl

/-- Packets one after the other. -/
theorem receive_reports (zero : mouse.cycle = 0) (reports : List Report) :
    mouse.Tracks reports (mouse.receive (reports.flatMap Report.encode)) := by
  induction reports generalizing mouse with
  | nil => exact Tracks.nil zero
  | cons report reports ih =>
    rw [List.flatMap_cons, receive_append, receive_encode zero report]
    exact Tracks.cons rfl rfl rfl (ih rfl)

/-- The driver undoes the mouse's encoding, and is in one of its three cycles at any time. -/
theorem receive_stream (mouse : Mouse) (zero : mouse.cycle = 0) (noise : List UInt8)
    (clear : ∀ byte ∈ noise, byte &&& 0x08 = 0) (reports : List Report) :
    mouse.Tracks reports (mouse.receive (stream noise reports)) ∧
      ∀ first second, stream noise reports = first ++ second →
        (mouse.receive first).cycle = 0 ∨ (mouse.receive first).cycle = 1 ∨
          (mouse.receive first).cycle = 2 := by
  constructor
  · rw [stream, receive_append, receive_noise zero clear]
    exact receive_reports zero reports
  · intro first _ _
    have between : (mouse.receive first).cycle ≤ 2 := by
      apply receive_cycle
      rw [zero]
      decide
    rw [UInt8.le_iff_toNat_le] at between
    simp only [← UInt8.toNat_inj]
    change (mouse.receive first).cycle.toNat ≤ 2 at between
    change _ = 0 ∨ _ = 1 ∨ _ = 2
    omega

/-- Both ends of the range in both directions. -/
def extremes : List Report :=
  [⟨true, false, false, -256, 255, by decide, by decide⟩,
    ⟨false, true, false, 255, -256, by decide, by decide⟩]

/-- They stand behind a byte that begins no packet. -/
theorem receive_stream_extremes :
    Mouse.start.Tracks extremes (Mouse.start.receive (stream [0xF0] extremes)) :=
  (receive_stream Mouse.start rfl [0xF0] (List.forall_mem_singleton.mpr rfl) extremes).1

end Mouse

end QoreOS.Input
