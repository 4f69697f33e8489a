import QoreOS.Display.WindowManager

/-! The window and the cursor never leave the desktop. -/

namespace QoreOS.Display

open QoreOS.Library

/-- A clamped coordinate lies on the screen. -/
theorem clampAxis_inside (limit : Nat) (room : 10 ≤ limit) (small : limit < 2 ^ 31) (value : Int) :
    ∃ clamped, clampAxis limit value = some clamped ∧ 0 ≤ clamped ∧ clamped < limit := by
  have low : 0 ≤ clampLow value := by
    unfold clampLow
    split <;> omega
  unfold clampAxis clampHigh
  rw [asI32_of_lt small]
  split
  case isTrue =>
    have fits : IsI32 ((limit : Int) - 10) := ⟨by omega, by omega⟩
    exact ⟨_, checkedI32_of_isI32 fits, by omega, by omega⟩
  case isFalse below => exact ⟨_, rfl, low, by omega⟩

/-- One axis of a moved window is cut at the far side of the desktop. -/
theorem keepInside_inside {limit size : Nat} {low position : Int} (small : limit < 2 ^ 30)
    (room : low + size ≤ limit) (bounded : low ≤ position) (far : position < 2 ^ 30) (nonneg : 0 ≤ low) :
    ∃ kept, keepInside limit size position = some kept ∧ low ≤ kept ∧ kept + size ≤ limit := by
  have sum : IsI32 (position + (size : Int)) := ⟨by omega, by omega⟩
  have difference : IsI32 ((limit : Int) - size) := ⟨by omega, by omega⟩
  unfold keepInside
  rw [asI32_of_lt (show size < 2 ^ 31 by omega), asI32_of_lt (show limit < 2 ^ 31 by omega),
    checkedI32_of_isI32 sum, Option.bind_eq_bind, Option.bind_some, checkedI32_of_isI32 difference]
  split
  case isTrue => exact ⟨_, rfl, by omega, by omega⟩
  case isFalse => exact ⟨_, rfl, bounded, by omega⟩

/-- A screen on which the window fits where it is opened. -/
structure Roomy (screen : Screen) : Prop where
  wide : 700 ≤ screen.width
  high : 500 ≤ screen.height
  narrow : screen.width < 2 ^ 30
  low : screen.height < 2 ^ 30

/-- The window lies below the bar and inside the screen, and is held by its title. -/
structure OnDesktop (screen : Screen) (manager : WindowManager) : Prop where
  width : manager.window.width = 600
  height : manager.window.height = 300
  left : 0 ≤ manager.window.x
  right : manager.window.x + 600 ≤ screen.width
  top : 40 ≤ manager.window.y
  bottom : manager.window.y + 300 ≤ screen.height
  offsetX : manager.isDragging → 0 ≤ manager.dragOffsetX ∧ manager.dragOffsetX ≤ 600
  offsetY : manager.isDragging → 0 ≤ manager.dragOffsetY ∧ manager.dragOffsetY ≤ 24

structure OnScreen (screen : Screen) (mx my : Int) : Prop where
  left : 0 ≤ mx
  right : mx < screen.width
  top : 0 ≤ my
  bottom : my < screen.height

section Turn

variable {screen : Screen} {manager handled : WindowManager} {mx my : Int} {mbtn : UInt8}
  (roomy : Roomy screen) (onDesktop : OnDesktop screen manager) (onScreen : OnScreen screen mx my)

include onDesktop in
theorem OnDesktop.width_asI32 : asI32 manager.window.width = 600 := by
  rw [onDesktop.width, asI32_of_lt (by decide)]
  rfl

include roomy onDesktop in
theorem OnDesktop.hitsTitle : ∃ title, manager.window.hitsTitle mx my = some title := by
  obtain ⟨wide, high, narrow, low⟩ := roomy
  have right := onDesktop.right
  have bottom := onDesktop.bottom
  have left := onDesktop.left
  have top := onDesktop.top
  rw [Window.hitsTitle, onDesktop.width_asI32]
  exact hits_total ⟨by omega, by omega⟩ ⟨by omega, by omega⟩

include roomy onDesktop in
theorem OnDesktop.pressesClose (clickJustPressed : Bool) :
    ∃ close, manager.window.pressesClose clickJustPressed mx my = some close := by
  obtain ⟨wide, high, narrow, low⟩ := roomy
  have right := onDesktop.right
  have bottom := onDesktop.bottom
  have left := onDesktop.left
  have top := onDesktop.top
  rw [Window.pressesClose, onDesktop.width_asI32,
    checkedI32_of_isI32 ⟨by omega, by omega⟩, Option.bind_eq_bind, Option.bind_some,
    checkedI32_of_isI32 ⟨by omega, by omega⟩, Option.bind_some,
    checkedI32_of_isI32 ⟨by omega, by omega⟩, Option.bind_some]
  cases clickJustPressed with
  | true => exact hits_total ⟨by omega, by omega⟩ ⟨by omega, by omega⟩
  | false => exact ⟨false, rfl⟩

include roomy onDesktop onScreen in
/-- However far it is dragged, the window stays. -/
theorem OnDesktop.dragTo (dragging : manager.isDragging) :
    ∃ x y, manager.window.dragTo screen mx my manager.dragOffsetX manager.dragOffsetY =
        some { manager.window with x := x, y := y } ∧
      0 ≤ x ∧ x + 600 ≤ screen.width ∧ 40 ≤ y ∧ y + 300 ≤ screen.height := by
  obtain ⟨wide, high, narrow, low⟩ := roomy
  obtain ⟨left, right, top, bottom⟩ := onScreen
  have offsetX := onDesktop.offsetX dragging
  have offsetY := onDesktop.offsetY dragging
  have keptX : ∃ x, keepInside screen.width manager.window.width
        (if mx - manager.dragOffsetX < 0 then 0 else mx - manager.dragOffsetX) = some x ∧
      0 ≤ x ∧ x + manager.window.width ≤ screen.width :=
    keepInside_inside narrow (by rw [onDesktop.width]; omega) (by split <;> omega)
      (by split <;> omega) (Int.le_refl 0)
  have keptY : ∃ y, keepInside screen.height manager.window.height
        (if my - manager.dragOffsetY < 40 then 40 else my - manager.dragOffsetY) = some y ∧
      40 ≤ y ∧ y + manager.window.height ≤ screen.height :=
    keepInside_inside low (by rw [onDesktop.height]; omega) (by split <;> omega)
      (by split <;> omega) (by decide)
  obtain ⟨x, foundX, atLeft, atRight⟩ := keptX
  obtain ⟨y, foundY, atTop, atBottom⟩ := keptY
  rw [onDesktop.width] at atRight
  rw [onDesktop.height] at atBottom
  refine ⟨x, y, ?_, atLeft, atRight, atTop, atBottom⟩
  rw [Window.dragTo, checkedI32_of_isI32 ⟨by omega, by omega⟩, Option.bind_eq_bind,
    Option.bind_some, checkedI32_of_isI32 ⟨by omega, by omega⟩, Option.bind_some]
  dsimp only
  rw [foundX, Option.bind_some, foundY]
  rfl

include roomy onDesktop onScreen in
theorem OnDesktop.drag : ∃ next, manager.drag screen mx my = some next := by
  obtain ⟨wide, high, narrow, low⟩ := roomy
  unfold WindowManager.drag
  split
  case isTrue dragging =>
    obtain ⟨x, y, moved, -⟩ := onDesktop.dragTo ⟨wide, high, narrow, low⟩ onScreen dragging
    rw [moved]
    exact ⟨_, rfl⟩
  case isFalse =>
    obtain ⟨left, right, top, bottom⟩ := onScreen
    have windowLeft := onDesktop.left
    have windowRight := onDesktop.right
    have windowTop := onDesktop.top
    have windowBottom := onDesktop.bottom
    obtain ⟨title, tested⟩ := onDesktop.hitsTitle ⟨wide, high, narrow, low⟩
    rw [tested, Option.bind_eq_bind, Option.bind_some]
    split
    case isTrue =>
      rw [WindowManager.startDrag, checkedI32_of_isI32 ⟨by omega, by omega⟩, Option.bind_eq_bind,
        Option.bind_some, checkedI32_of_isI32 ⟨by omega, by omega⟩]
      exact ⟨_, rfl⟩
    case isFalse => exact ⟨_, rfl⟩

include roomy onDesktop onScreen in
theorem OnDesktop.handle (leftClick clickJustPressed : Bool) {dropBtnX dropBtnY : Nat}
    (right : dropBtnX + 380 < 2 ^ 64) (bottom : dropBtnY + 24 < 2 ^ 64) :
    ∃ next, manager.handle screen mx my leftClick clickJustPressed dropBtnX dropBtnY =
      some next := by
  unfold WindowManager.handle
  split
  case isFalse => exact ⟨_, rfl⟩
  case isTrue =>
    obtain ⟨close, testedClose⟩ := onDesktop.pressesClose roomy clickJustPressed
    obtain ⟨drop, testedDrop⟩ := Window.pressesDrop_total right bottom clickJustPressed mx my
    rw [WindowManager.handleOpen, testedClose, Option.bind_eq_bind, Option.bind_some]
    split
    case isTrue => exact ⟨_, rfl⟩
    case isFalse =>
      rw [testedDrop, Option.bind_some]
      split
      case isTrue => exact ⟨_, rfl⟩
      case isFalse =>
        split
        case isTrue => exact onDesktop.drag roomy onScreen
        case isFalse => exact ⟨_, rfl⟩

include roomy onDesktop onScreen in
/-- Whatever an iteration does to the window, it leaves it on the desktop. -/
theorem OnDesktop.keeps (handles : Handled screen manager mx my mbtn handled) :
    OnDesktop screen handled := by
  cases handles with
  | shut => exact onDesktop
  | closes => exact { onDesktop with offsetX := nofun, offsetY := nofun }
  | drops => exact { onDesktop with }
  | drags isOpen left dragging window moved =>
    obtain ⟨x, y, found, atLeft, atRight, atTop, atBottom⟩ := onDesktop.dragTo roomy onScreen dragging
    cases moved.symm.trans found
    exact { onDesktop with left := atLeft, right := atRight, top := atTop, bottom := atBottom }
  | takes isOpen left idle beside title =>
    rw [onDesktop.width_asI32] at title
    obtain ⟨⟨leftOf, rightOf⟩, above, below⟩ := title
    exact { onDesktop with
      offsetX := fun _ => ⟨by dsimp only; omega, by dsimp only; omega⟩
      offsetY := fun _ => ⟨by dsimp only; omega, by dsimp only; omega⟩ }
  | passes => exact onDesktop
  | releases => exact { onDesktop with offsetX := nofun, offsetY := nofun }

end Turn

section Run

variable {screen : Screen} (roomy : Roomy screen)
include roomy

theorem clamped_onScreen (reading : Reading) : ∃ mx my,
    clampAxis screen.width reading.x.toInt = some mx ∧
    clampAxis screen.height reading.y.toInt = some my ∧ OnScreen screen mx my := by
  obtain ⟨wide, high, narrow, low⟩ := roomy
  obtain ⟨mx, clampedX, left, right⟩ :=
    clampAxis_inside screen.width (by omega) (by omega) reading.x.toInt
  obtain ⟨my, clampedY, top, bottom⟩ :=
    clampAxis_inside screen.height (by omega) (by omega) reading.y.toInt
  exact ⟨mx, my, clampedX, clampedY, left, right, top, bottom⟩

/-- An iteration goes through without overflow. -/
theorem OnDesktop.iterate {manager : WindowManager} {mx my : Int}
    (onDesktop : OnDesktop screen manager) (onScreen : OnScreen screen mx my) (mbtn : UInt8) :
    ∃ next, manager.iterate screen mx my mbtn = some next ∧ OnDesktop screen next := by
  have left := onDesktop.left
  have right := onDesktop.right
  have top := onDesktop.top
  have bottom := onDesktop.bottom
  have narrow := roomy.narrow
  have low := roomy.low
  obtain ⟨handled, handles⟩ := onDesktop.handle roomy onScreen (leftDown mbtn)
    (leftDown mbtn && !leftDown manager.oldMbtn)
    (by omega : manager.window.x.toNat + 20 + 380 < 2 ^ 64)
    (by omega : manager.window.y.toNat + 240 + 24 < 2 ^ 64)
  have stays := onDesktop.keeps roomy onScreen (WindowManager.handle_handled handles)
  rw [WindowManager.iterate, asUsize_of_nonneg left (by omega),
    asUsize_of_nonneg (by omega : 0 ≤ manager.window.y) (by omega),
    checked_of_lt (by omega), Option.bind_eq_bind, Option.bind_some, checked_of_lt (by omega),
    Option.bind_some, handles]
  refine ⟨_, rfl, ?_⟩
  split
  case isTrue => exact stays
  case isFalse => exact { stays with }

theorem OnDesktop.step {manager : WindowManager} (onDesktop : OnDesktop screen manager)
    (reading : Reading) :
    ∃ next, manager.step screen reading = some next ∧ OnDesktop screen next := by
  unfold WindowManager.step
  split
  case isTrue => exact ⟨manager, rfl, onDesktop⟩
  case isFalse =>
    obtain ⟨mx, my, clampedX, clampedY, onScreen⟩ := clamped_onScreen roomy reading
    rw [clampedX, Option.bind_eq_bind, Option.bind_some, clampedY, Option.bind_some]
    exact onDesktop.iterate roomy onScreen reading.btn

theorem start_onDesktop : OnDesktop screen WindowManager.start := by
  obtain ⟨wide, high, narrow, low⟩ := roomy
  constructor
  case width => rfl
  case height => rfl
  case offsetX => nofun
  case offsetY => nofun
  all_goals simp only [WindowManager.start, Window.new]
  all_goals omega

end Run

theorem windowManager_runs {screen : Screen} (roomy : Roomy screen) (readings : List Reading) :
    ∃ manager, run (WindowManager.step screen) readings WindowManager.start = some manager ∧
      OnDesktop screen manager := by
  have preserved : ∀ manager reading, OnDesktop screen manager → True →
      ∃ next, WindowManager.step screen manager reading = some next ∧ OnDesktop screen next :=
    fun _ reading onDesktop _ => onDesktop.step roomy reading
  exact run_invariant preserved readings (fun _ _ => trivial) (start_onDesktop roomy)

/-- On every roomy screen and for all that the mouse may report, every iteration
goes through without overflow; the window stays on the desktop, its grip inside the
title bar, and the cursor on the screen. So neither the corner of the window nor the
cursor is ever negative when it is cast to be drawn. -/
theorem windowManager_onDesktop {screen : Screen} (roomy : Roomy screen) (readings : List Reading) :
    ∃ manager, run (WindowManager.step screen) readings WindowManager.start = some manager ∧
      OnDesktop screen manager ∧
      ∀ reading : Reading, ∃ mx my, clampAxis screen.width reading.x.toInt = some mx ∧
        clampAxis screen.height reading.y.toInt = some my ∧ OnScreen screen mx my := by
  obtain ⟨manager, reached, stays⟩ := windowManager_runs roomy readings
  exact ⟨manager, reached, stays, clamped_onScreen roomy⟩

theorem windowManager_onDesktop_small :
    Roomy ⟨700, 500⟩ ∧ ∃ manager,
      run (WindowManager.step ⟨700, 500⟩) [⟨150, 210, 1⟩, ⟨-9, 2000, 1⟩] WindowManager.start =
        some manager ∧
      OnDesktop ⟨700, 500⟩ manager ∧
      ∀ reading : Reading, ∃ mx my, clampAxis 700 reading.x.toInt = some mx ∧
        clampAxis 500 reading.y.toInt = some my ∧ OnScreen ⟨700, 500⟩ mx my :=
  have roomy : Roomy ⟨700, 500⟩ := ⟨by decide, by decide, by decide, by decide⟩
  ⟨roomy, windowManager_onDesktop roomy _⟩

end QoreOS.Display
