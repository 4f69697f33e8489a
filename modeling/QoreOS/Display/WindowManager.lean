import QoreOS.Library.Bytes
import QoreOS.Library.Run
import QoreOS.Library.Signed

/-! The window manager: the part of the main loop between `poll` and the drawing. A
sum that overflows answers `none`. -/

namespace QoreOS.Display

open QoreOS.Library

structure Screen where
  width : Nat
  height : Nat

structure Window where
  x : Int
  y : Int
  width : Nat
  height : Nat
  title : String
  bgColor : UInt32
  isOpen : Bool

def Window.new (x y : Int) (width height : Nat) (title : String) (bgColor : UInt32) : Window where
  x := x
  y := y
  width := width
  height := height
  title := title
  bgColor := bgColor
  isOpen := true

/-- What an iteration loads from `MOUSE_X`, `MOUSE_Y` and `MOUSE_BTN`. -/
structure Reading where
  x : Int32
  y : Int32
  btn : UInt8

/-- The left button is down. -/
def leftDown (mbtn : UInt8) : Bool := mbtn &&& 0x01 != 0

/-- The locals of the loop. With `dropped` it has ended in ring 3. -/
structure WindowManager where
  window : Window
  isDragging : Bool
  dragOffsetX : Int
  dragOffsetY : Int
  oldMbtn : UInt8
  dropped : Bool

def WindowManager.start : WindowManager where
  window := Window.new 100 200 600 300 "EDGECORE DIAGNOSTICS" 0x334155
  isDragging := false
  dragOffsetX := 0
  dragOffsetY := 0
  oldMbtn := 0
  dropped := false

/-- `if mx < 0` of both axes -/
def clampLow (value : Int) : Int := if value < 0 then 0 else value

/-- `if mx >= SERVER.width as i32` of both axes -/
def clampHigh (limit : Nat) (value : Int) : Option Int :=
  if value ≥ asI32 limit then checkedI32 (asI32 limit - 10) else some value

def clampAxis (limit : Nat) (value : Int) : Option Int := clampHigh limit (clampLow value)

/-- `value >= low && value <= low + extent` -/
def spans (low extent value : Int) : Option Bool :=
  if value ≥ low then do
    let high ← checkedI32 (low + extent)
    return decide (value ≤ high)
  else some false

def hits (x y extentX extentY mx my : Int) : Option Bool := do
  if ← spans x extentX mx then spans y extentY my else return false

/-- The same for the button, whose coordinates are sizes. -/
def spansUsize (low extent : Nat) (value : Int) : Option Bool :=
  if value ≥ asI32 low then do
    let high ← checked (2 ^ 64) (low + extent)
    return decide (value ≤ asI32 high)
  else some false

/-- `if desktop_win.x + width > SERVER.width` of both axes -/
def keepInside (limit size : Nat) (position : Int) : Option Int := do
  let far ← checkedI32 (position + asI32 size)
  if far > asI32 limit then checkedI32 (asI32 limit - asI32 size) else some position

namespace Window

/-- A fresh press is tested against the close button. -/
def pressesClose (window : Window) (clickJustPressed : Bool) (mx my : Int) : Option Bool := do
  let right ← checkedI32 (window.x + asI32 window.width)
  let closeX ← checkedI32 (right - 20)
  let closeY ← checkedI32 (window.y + 4)
  if clickJustPressed then hits closeX closeY 16 16 mx my else some false

def hitsTitle (window : Window) (mx my : Int) : Option Bool :=
  hits window.x window.y (asI32 window.width) 24 mx my

/-- The window under the cursor, cut to the desktop. -/
def dragTo (screen : Screen) (window : Window) (mx my dragOffsetX dragOffsetY : Int) :
    Option Window := do
  let x ← checkedI32 (mx - dragOffsetX)
  let y ← checkedI32 (my - dragOffsetY)
  let x := if x < 0 then 0 else x
  let y := if y < 40 then 40 else y
  let x ← keepInside screen.width window.width x
  let y ← keepInside screen.height window.height y
  return { window with x := x, y := y }

/-- A fresh press is tested against the button of the drop to ring 3. -/
def pressesDrop (dropBtnX dropBtnY : Nat) (clickJustPressed : Bool) (mx my : Int) : Option Bool :=
  if clickJustPressed then do
    if ← spansUsize dropBtnX 380 mx then spansUsize dropBtnY 24 my else return false
  else some false

end Window

namespace WindowManager

def startDrag (manager : WindowManager) (mx my : Int) : Option WindowManager := do
  let dragOffsetX ← checkedI32 (mx - manager.window.x)
  let dragOffsetY ← checkedI32 (my - manager.window.y)
  return { manager with
    isDragging := true, dragOffsetX := dragOffsetX, dragOffsetY := dragOffsetY }

/-- `else if left_click` -/
def drag (screen : Screen) (manager : WindowManager) (mx my : Int) : Option WindowManager :=
  if manager.isDragging then do
    let window ← manager.window.dragTo screen mx my manager.dragOffsetX manager.dragOffsetY
    return { manager with window := window }
  else do
    let title ← manager.window.hitsTitle mx my
    if title then manager.startDrag mx my else some manager

/-- The chain of tests on an open window. -/
def handleOpen (screen : Screen) (manager : WindowManager) (mx my : Int)
    (leftClick clickJustPressed : Bool) (dropBtnX dropBtnY : Nat) : Option WindowManager := do
  let close ← manager.window.pressesClose clickJustPressed mx my
  if close then
    some { manager with window := { manager.window with isOpen := false }, isDragging := false }
  else do
    let drop ← Window.pressesDrop dropBtnX dropBtnY clickJustPressed mx my
    if drop then some { manager with dropped := true }
    else if leftClick then manager.drag screen mx my
    else some { manager with isDragging := false }

def handle (screen : Screen) (manager : WindowManager) (mx my : Int)
    (leftClick clickJustPressed : Bool) (dropBtnX dropBtnY : Nat) : Option WindowManager :=
  if manager.window.isOpen then
    manager.handleOpen screen mx my leftClick clickJustPressed dropBtnX dropBtnY
  else some manager

/-- An iteration of the loop with the clamped cursor; a drop never comes back. -/
def iterate (screen : Screen) (manager : WindowManager) (mx my : Int) (mbtn : UInt8) :
    Option WindowManager := do
  let leftClick := leftDown mbtn
  let clickJustPressed := leftClick && !leftDown manager.oldMbtn
  let dropBtnX ← checked (2 ^ 64) (asUsize manager.window.x + 20)
  let dropBtnY ← checked (2 ^ 64) (asUsize manager.window.y + 240)
  let manager ← manager.handle screen mx my leftClick clickJustPressed dropBtnX dropBtnY
  return if manager.dropped then manager else { manager with oldMbtn := mbtn }

def step (screen : Screen) (manager : WindowManager) (reading : Reading) : Option WindowManager :=
  if manager.dropped then some manager
  else do
    let mx ← clampAxis screen.width reading.x.toInt
    let my ← clampAxis screen.height reading.y.toInt
    manager.iterate screen mx my reading.btn

end WindowManager

section Hits

variable {low extent value x y extentX extentY mx my : Int} {answer : Bool}

/-- The points of a rectangle, its right and its lower edge included. -/
def Covers (x y extentX extentY mx my : Int) : Prop :=
  (x ≤ mx ∧ mx ≤ x + extentX) ∧ (y ≤ my ∧ my ≤ y + extentY)

instance : Decidable (Covers x y extentX extentY mx my) := inferInstanceAs (Decidable (_ ∧ _))

theorem spans_eq_some (tested : spans low extent value = some answer) :
    answer = true ↔ low ≤ value ∧ value ≤ low + extent := by
  unfold spans at tested
  split at tested
  case isTrue above =>
    obtain ⟨high, sum, ends⟩ := Option.bind_eq_some_iff.mp tested
    cases ends
    rw [(checkedI32_eq_some sum).1, decide_eq_true_iff]
    exact ⟨fun below => ⟨above, below⟩, And.right⟩
  case isFalse outside =>
    cases tested
    exact ⟨nofun, fun inside => absurd inside.1 outside⟩

theorem hits_eq_some (tested : hits x y extentX extentY mx my = some answer) :
    answer = true ↔ Covers x y extentX extentY mx my := by
  obtain ⟨column, testedX, tested⟩ := Option.bind_eq_some_iff.mp tested
  have columns := spans_eq_some testedX
  cases column with
  | true =>
    rw [spans_eq_some tested]
    exact ⟨fun row => ⟨columns.mp rfl, row⟩, And.right⟩
  | false =>
    cases tested
    exact ⟨nofun, fun inside => columns.mpr inside.1⟩

theorem spans_total (fits : IsI32 (low + extent)) : ∃ answer, spans low extent value = some answer := by
  unfold spans
  split
  case isTrue => exact ⟨_, by rw [checkedI32_of_isI32 fits]; rfl⟩
  case isFalse => exact ⟨false, rfl⟩

theorem hits_total (right : IsI32 (x + extentX)) (bottom : IsI32 (y + extentY)) :
    ∃ answer, hits x y extentX extentY mx my = some answer := by
  obtain ⟨column, testedX⟩ := spans_total right
  rw [hits, testedX]
  cases column with
  | true => exact spans_total bottom
  | false => exact ⟨false, rfl⟩

theorem spansUsize_total {low extent : Nat} (fits : low + extent < 2 ^ 64) (value : Int) :
    ∃ answer, spansUsize low extent value = some answer := by
  unfold spansUsize
  split
  case isTrue => exact ⟨_, by rw [checked_of_lt fits]; rfl⟩
  case isFalse => exact ⟨false, rfl⟩

theorem spansUsize_eq_some {low extent : Nat} (tested : spansUsize low extent value = some answer) :
    answer = true ↔ asI32 low ≤ value ∧ value ≤ asI32 (low + extent) := by
  unfold spansUsize at tested
  split at tested
  case isTrue above =>
    obtain ⟨high, sum, ends⟩ := Option.bind_eq_some_iff.mp tested
    rw [← Option.some.inj ends, (checked_eq_some sum).1, decide_eq_true_iff]
    exact ⟨fun below => ⟨above, below⟩, And.right⟩
  case isFalse outside =>
    cases tested
    exact ⟨nofun, fun inside => absurd inside.1 outside⟩

end Hits

namespace Window

variable {window : Window} {clickJustPressed answer : Bool} {mx my : Int}

theorem pressesClose_eq_some (tested : window.pressesClose clickJustPressed mx my = some answer) :
    answer = true ↔ clickJustPressed = true ∧
      Covers (window.x + asI32 window.width - 20) (window.y + 4) 16 16 mx my := by
  obtain ⟨right, sum, tested⟩ := Option.bind_eq_some_iff.mp tested
  obtain ⟨closeX, difference, tested⟩ := Option.bind_eq_some_iff.mp tested
  obtain ⟨closeY, below, tested⟩ := Option.bind_eq_some_iff.mp tested
  rw [← (checkedI32_eq_some sum).1, ← (checkedI32_eq_some difference).1,
    ← (checkedI32_eq_some below).1]
  split at tested
  case isTrue fresh =>
    rw [hits_eq_some tested]
    exact ⟨fun inside => ⟨fresh, inside⟩, And.right⟩
  case isFalse stale =>
    cases tested
    exact ⟨nofun, fun pressed => absurd pressed.1 stale⟩

theorem hitsTitle_eq_some (tested : window.hitsTitle mx my = some answer) :
    answer = true ↔ Covers window.x window.y (asI32 window.width) 24 mx my :=
  hits_eq_some tested

theorem pressesDrop_total {dropBtnX dropBtnY : Nat} (right : dropBtnX + 380 < 2 ^ 64)
    (bottom : dropBtnY + 24 < 2 ^ 64) (clickJustPressed : Bool) (mx my : Int) :
    ∃ answer, pressesDrop dropBtnX dropBtnY clickJustPressed mx my = some answer := by
  unfold pressesDrop
  split
  case isTrue =>
    obtain ⟨column, testedX⟩ := spansUsize_total right mx
    rw [testedX]
    cases column with
    | true => exact spansUsize_total bottom my
    | false => exact ⟨false, rfl⟩
  case isFalse => exact ⟨false, rfl⟩

theorem pressesDrop_eq_some {dropBtnX dropBtnY : Nat}
    (tested : pressesDrop dropBtnX dropBtnY clickJustPressed mx my = some answer) :
    answer = true ↔ clickJustPressed = true ∧
      (asI32 dropBtnX ≤ mx ∧ mx ≤ asI32 (dropBtnX + 380)) ∧
        (asI32 dropBtnY ≤ my ∧ my ≤ asI32 (dropBtnY + 24)) := by
  unfold pressesDrop at tested
  split at tested
  case isTrue fresh =>
    obtain ⟨column, testedX, tested⟩ := Option.bind_eq_some_iff.mp tested
    have columns := spansUsize_eq_some testedX
    cases column with
    | true =>
      rw [spansUsize_eq_some tested]
      exact ⟨fun row => ⟨fresh, columns.mp rfl, row⟩, fun inside => inside.2.2⟩
    | false =>
      cases tested
      exact ⟨nofun, fun inside => columns.mpr inside.2.1⟩
  case isFalse stale =>
    cases tested
    exact ⟨nofun, fun pressed => absurd pressed.1 stale⟩

end Window

/-- What an iteration can do to the locals of the loop, before it takes note of the
buttons. -/
inductive Handled (screen : Screen) (manager : WindowManager) (mx my : Int) (mbtn : UInt8) :
    WindowManager → Prop where
  | shut (isShut : manager.window.isOpen = false) : Handled screen manager mx my mbtn manager
  | closes (isOpen : manager.window.isOpen) (fresh : leftDown mbtn && !leftDown manager.oldMbtn)
      (close : Covers (manager.window.x + asI32 manager.window.width - 20) (manager.window.y + 4)
        16 16 mx my) :
      Handled screen manager mx my mbtn { manager with
        window := { manager.window with isOpen := false }
        isDragging := false }
  | drops (isOpen : manager.window.isOpen) (fresh : leftDown mbtn && !leftDown manager.oldMbtn) :
      Handled screen manager mx my mbtn { manager with dropped := true }
  | drags (isOpen : manager.window.isOpen) (left : leftDown mbtn) (dragging : manager.isDragging)
      (window : Window)
      (moved : manager.window.dragTo screen mx my manager.dragOffsetX manager.dragOffsetY =
        some window) :
      Handled screen manager mx my mbtn { manager with window := window }
  | takes (isOpen : manager.window.isOpen) (left : leftDown mbtn)
      (idle : manager.isDragging = false)
      (beside : leftDown manager.oldMbtn = false →
        ¬ Covers (manager.window.x + asI32 manager.window.width - 20) (manager.window.y + 4) 16 16
          mx my)
      (title : Covers manager.window.x manager.window.y (asI32 manager.window.width) 24 mx my) :
      Handled screen manager mx my mbtn { manager with
        isDragging := true
        dragOffsetX := mx - manager.window.x
        dragOffsetY := my - manager.window.y }
  | passes (isOpen : manager.window.isOpen) (left : leftDown mbtn)
      (idle : manager.isDragging = false)
      (title : ¬ Covers manager.window.x manager.window.y (asI32 manager.window.width) 24 mx my) :
      Handled screen manager mx my mbtn manager
  | releases (isOpen : manager.window.isOpen) (released : leftDown mbtn = false) :
      Handled screen manager mx my mbtn { manager with isDragging := false }

namespace WindowManager

variable {screen : Screen} {manager next : WindowManager} {mx my : Int} {mbtn : UInt8}
  {dropBtnX dropBtnY : Nat}

theorem drag_handled (isOpen : manager.window.isOpen) (left : leftDown mbtn)
    (beside : leftDown manager.oldMbtn = false →
      ¬ Covers (manager.window.x + asI32 manager.window.width - 20) (manager.window.y + 4) 16 16
        mx my)
    (drags : manager.drag screen mx my = some next) : Handled screen manager mx my mbtn next := by
  unfold drag at drags
  split at drags
  case isTrue dragging =>
    obtain ⟨window, moved, same⟩ := Option.bind_eq_some_iff.mp drags
    cases same
    exact .drags isOpen left dragging window moved
  case isFalse idle =>
    have idle := Bool.eq_false_iff.mpr idle
    obtain ⟨title, tested, ends⟩ := Option.bind_eq_some_iff.mp drags
    have title_iff := Window.hitsTitle_eq_some tested
    cases title with
    | false =>
      cases ends
      exact .passes isOpen left idle fun title => nomatch title_iff.mpr title
    | true =>
      change manager.startDrag mx my = some next at ends
      obtain ⟨dragOffsetX, offsetX, ends⟩ := Option.bind_eq_some_iff.mp ends
      obtain ⟨dragOffsetY, offsetY, ends⟩ := Option.bind_eq_some_iff.mp ends
      cases ends
      rw [(checkedI32_eq_some offsetX).1, (checkedI32_eq_some offsetY).1]
      exact .takes isOpen left idle beside (title_iff.mp rfl)

theorem handleOpen_handled (isOpen : manager.window.isOpen)
    (handles : manager.handleOpen screen mx my (leftDown mbtn)
      (leftDown mbtn && !leftDown manager.oldMbtn) dropBtnX dropBtnY = some next) :
    Handled screen manager mx my mbtn next := by
  obtain ⟨close, testedClose, handles⟩ := Option.bind_eq_some_iff.mp handles
  have close_iff := Window.pressesClose_eq_some testedClose
  cases close with
  | true =>
    cases handles
    exact .closes isOpen (close_iff.mp rfl).1 (close_iff.mp rfl).2
  | false =>
    obtain ⟨drop, testedDrop, handles⟩ := Option.bind_eq_some_iff.mp handles
    cases drop with
    | true =>
      cases handles
      refine .drops isOpen ?_
      by_contra stale
      rw [Window.pressesDrop, if_neg stale] at testedDrop
      cases testedDrop
    | false =>
      change (if leftDown mbtn then manager.drag screen mx my
        else some { manager with isDragging := false }) = some next at handles
      split at handles
      case isTrue left =>
        refine drag_handled isOpen left (fun released covered => ?_) handles
        exact nomatch close_iff.mpr ⟨by rw [left, released]; rfl, covered⟩
      case isFalse released =>
        cases handles
        exact .releases isOpen (Bool.eq_false_iff.mpr released)

theorem handle_handled
    (handles : manager.handle screen mx my (leftDown mbtn)
      (leftDown mbtn && !leftDown manager.oldMbtn) dropBtnX dropBtnY = some next) :
    Handled screen manager mx my mbtn next := by
  unfold handle at handles
  split at handles
  case isTrue isOpen => exact handleOpen_handled isOpen handles
  case isFalse isShut =>
    cases handles
    exact .shut (Bool.eq_false_iff.mpr isShut)

/-- An iteration: what is done on a reading, and the note of its buttons. -/
theorem iterate_handled (iterates : manager.iterate screen mx my mbtn = some next) :
    ∃ handled, Handled screen manager mx my mbtn handled ∧
      next = if handled.dropped then handled else { handled with oldMbtn := mbtn } := by
  obtain ⟨_, -, iterates⟩ := Option.bind_eq_some_iff.mp iterates
  obtain ⟨_, -, iterates⟩ := Option.bind_eq_some_iff.mp iterates
  obtain ⟨handled, handles, ends⟩ := Option.bind_eq_some_iff.mp iterates
  exact ⟨handled, handle_handled handles, (Option.some.inj ends).symm⟩

end WindowManager

end QoreOS.Display
