import QoreOS.Library.Run
import QoreOS.Input.Snapshot

/-! An iteration of the main loop access by access, with the mouse's interrupts anywhere
between them. -/

namespace QoreOS.Input

open QoreOS.Library QoreOS.Display

/-- The accesses of an iteration to the shared cells: three loads, and four tests that may
store. -/
inductive Access where
  | loadX
  | loadY
  | loadBtn
  | lowX
  | lowY
  | highX
  | highY

/-- The cells, and what the main loop has read of them. -/
structure Reader where
  mouse : Mouse
  mx : Int
  my : Int
  mbtn : UInt8

/-- Before the first iteration, where `old_mbtn` is 0. -/
def Reader.start : Reader where
  mouse := .start
  mx := 0
  my := 0
  mbtn := 0

def Access.perform (screen : Screen) (reader : Reader) : Access → Option Reader
  | .loadX => some { reader with mx := reader.mouse.x.toInt }
  | .loadY => some { reader with my := reader.mouse.y.toInt }
  | .loadBtn => some { reader with mbtn := reader.mouse.btn }
  | .lowX => some <|
    if reader.mx < 0 then { reader with mouse := reader.mouse.storeX 0, mx := 0 } else reader
  | .lowY => some <|
    if reader.my < 0 then { reader with mouse := reader.mouse.storeY 0, my := 0 } else reader
  | .highX =>
    if reader.mx ≥ asI32 screen.width then do
      let mx ← checkedI32 (asI32 screen.width - 10)
      return { reader with mouse := reader.mouse.storeX (Int32.ofInt mx), mx := mx }
    else some reader
  | .highY =>
    if reader.my ≥ asI32 screen.height then do
      let my ← checkedI32 (asI32 screen.height - 10)
      return { reader with mouse := reader.mouse.storeY (Int32.ofInt my), my := my }
    else some reader

inductive MouseEvent where
  | interrupt (byte : UInt8)
  | access (access : Access)

def MouseEvent.step (screen : Screen) (reader : Reader) : MouseEvent → Option Reader
  | .interrupt byte => some { reader with mouse := reader.mouse.processPacketByte byte }
  | .access next => next.perform screen reader

/-- The bytes that arrive before an access, and the access. -/
def behind (bytes : List UInt8) (access : Access) : List MouseEvent :=
  bytes.map MouseEvent.interrupt ++ [.access access]

/-- An iteration up to its load of `MOUSE_BTN`. -/
def Gaps.loads (gaps : Gaps) : List MouseEvent :=
  behind gaps.loadX .loadX ++ behind gaps.loadY .loadY ++ behind gaps.loadBtn .loadBtn

def Gaps.events (gaps : Gaps) : List MouseEvent :=
  gaps.loads ++ behind gaps.lowX .lowX ++ behind gaps.lowY .lowY ++ behind gaps.highX .highX ++
    behind gaps.highY .highY

section Iteration

variable {screen : Screen} {reader next : Reader} {bytes : List UInt8}

theorem run_interrupts (bytes : List UInt8) (reader : Reader) :
    run (MouseEvent.step screen) (bytes.map .interrupt) reader =
      some { reader with mouse := reader.mouse.receive bytes } := by
  induction bytes generalizing reader with
  | nil => rfl
  | cons byte bytes ih =>
    rw [List.map_cons, run_cons, MouseEvent.step, Option.bind_some, ih]
    rfl

theorem run_behind (bytes : List UInt8) (access : Access) (reader : Reader) :
    run (MouseEvent.step screen) (behind bytes access) reader =
      access.perform screen { reader with mouse := reader.mouse.receive bytes } := by
  rw [behind, run_append, run_interrupts, Option.bind_some, run_cons, MouseEvent.step]
  cases access.perform screen { reader with mouse := reader.mouse.receive bytes } <;> rfl

theorem perform_lowX (reader : Reader) : Access.lowX.perform screen reader = some { reader with
    mouse := reader.mouse.storeX (cellAfter reader.mouse.x (storeLow reader.mouse.x reader.mx))
    mx := clampLow reader.mx } := by
  rw [Access.perform, storeLow, clampLow]
  split <;> rfl

theorem perform_lowY (reader : Reader) : Access.lowY.perform screen reader = some { reader with
    mouse := reader.mouse.storeY (cellAfter reader.mouse.y (storeLow reader.mouse.y reader.my))
    my := clampLow reader.my } := by
  rw [Access.perform, storeLow, clampLow]
  split <;> rfl

theorem perform_highX (reader : Reader) : Access.highX.perform screen reader =
    (storeHigh screen.width reader.mouse.x reader.mx).bind fun stored =>
      (clampHigh screen.width reader.mx).bind fun mx => some { reader with
        mouse := reader.mouse.storeX (cellAfter reader.mouse.x stored)
        mx := mx } := by
  rw [Access.perform, storeHigh, clampHigh]
  split
  · cases checkedI32 (asI32 screen.width - 10) <;> rfl
  · rfl

theorem perform_highY (reader : Reader) : Access.highY.perform screen reader =
    (storeHigh screen.height reader.mouse.y reader.my).bind fun stored =>
      (clampHigh screen.height reader.my).bind fun my => some { reader with
        mouse := reader.mouse.storeY (cellAfter reader.mouse.y stored)
        my := my } := by
  rw [Access.perform, storeHigh, clampHigh]
  split
  · cases checkedI32 (asI32 screen.height - 10) <;> rfl
  · rfl

/-- The loads, with the cells as they are behind them. -/
theorem run_loads (gaps : Gaps) (reader : Reader) :
    run (MouseEvent.step screen) gaps.loads reader = some {
      mouse := ((reader.mouse.receive gaps.loadX).receive gaps.loadY).receive gaps.loadBtn
      mx := (reader.mouse.receive gaps.loadX).x.toInt
      my := ((reader.mouse.receive gaps.loadX).receive gaps.loadY).y.toInt
      mbtn := (((reader.mouse.receive gaps.loadX).receive gaps.loadY).receive gaps.loadBtn).btn } := by
  rw [Gaps.loads, run_append, run_append, run_behind, Access.perform, Option.bind_some, run_behind,
    Access.perform, Option.bind_some, run_behind, Access.perform]

theorem run_lower (gaps : Gaps) (reader : Reader) :
    run (MouseEvent.step screen)
      (gaps.loads ++ behind gaps.lowX .lowX ++ behind gaps.lowY .lowY) reader =
        some ⟨(lower gaps reader.mouse).mouse, (lower gaps reader.mouse).mx,
          (lower gaps reader.mouse).my, (lower gaps reader.mouse).mbtn⟩ := by
  rw [run_append, run_append, run_loads, Option.bind_some, run_behind, perform_lowX,
    Option.bind_some, run_behind, perform_lowY]
  rfl

/-- The accesses one by one are the iteration. -/
theorem run_events (gaps : Gaps) (reader : Reader) :
    run (MouseEvent.step screen) gaps.events reader = (sample screen gaps reader.mouse).map
      fun sampled => ⟨sampled.mouse, sampled.mx, sampled.my, sampled.mbtn⟩ := by
  rw [Gaps.events, run_append, run_append, run_lower, Option.bind_some, run_behind, perform_highX]
  simp only [sample, Option.bind_eq_bind, Option.bind_assoc, Option.bind_some, run_behind,
    perform_highY, Option.map_bind, Function.comp_def, Option.map_some, Option.pure_def]

end Iteration

end QoreOS.Input
