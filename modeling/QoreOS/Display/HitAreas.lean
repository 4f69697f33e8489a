import QoreOS.Display.DragStart
import QoreOS.Display.Painting

/-! The areas that a fresh press is tested against, and the areas that are painted for
them. -/

namespace QoreOS.Display

open QoreOS.Library

/-- One of the calls paints the point, with a rectangle of the size and the colour. -/
def PaintsArea (server : Server) (calls : Option (List PaintCall)) (w h : Nat) (color : UInt32)
    (point : Nat × Nat) : Prop :=
  ∃ made x y, calls = some made ∧ .fillRect x y w h color ∈ made ∧
    server.Paints (.fillRect x y w h color) point

def PaintsClose (server : Server) (window : Window) (mx my : Int) : Prop :=
  PaintsArea server (window.drawWindow server.screen) 16 16 0xEF4444 (mx.toNat, my.toNat)

def PaintsTitle (server : Server) (window : Window) (mx my : Int) : Prop :=
  PaintsArea server (window.drawWindow server.screen) window.width 24 0x0F172A (mx.toNat, my.toNat)

def PaintsDrop (server : Server) (window : Window) (mx my : Int) : Prop :=
  PaintsArea server window.drawDropButton 380 24 0xEF4444 (mx.toNat, my.toNat)

/-- The left button goes down on a screen that the window does not stick out of, by the
test of the loop. -/
structure FreshPress (server : Server) (manager : WindowManager) (mx my : Int) (mbtn : UInt8) :
    Prop where
  running : manager.dropped = false
  width : manager.window.width = 600
  height : manager.window.height = 300
  left : 0 ≤ manager.window.x
  right : manager.window.x + 600 ≤ asI32 server.width
  top : 0 ≤ manager.window.y
  bottom : manager.window.y + 300 ≤ asI32 server.height
  held : manager.isDragging → leftDown manager.oldMbtn
  before : leftDown manager.oldMbtn = false
  now : leftDown mbtn
  cursor : OnScreen server.screen mx my

/-- The press does what the cursor is painted over. -/
structure HitsMatch (server : Server) (manager : WindowManager) (mx my : Int)
    (next : WindowManager) : Prop where
  close : (manager.window.isOpen ∧ next.window.isOpen = false) ↔
    PaintsClose server manager.window mx my
  drop : next.dropped ↔ PaintsDrop server manager.window mx my
  drag : ¬ PaintsClose server manager.window mx my → ¬ PaintsDrop server manager.window mx my →
    (next.isDragging ↔ PaintsTitle server manager.window mx my)

def InDropButton (window : Window) (mx my : Int) : Prop :=
  Covers (window.x + 20) (window.y + 240) 380 24 mx my

/-- The right and the lower edge of a rectangle. -/
def Rim (x y extentX extentY mx my : Int) : Prop :=
  Covers x y extentX extentY mx my ∧ (mx = x + extentX ∨ my = y + extentY)

instance (x y extentX extentY mx my : Int) : Decidable (Rim x y extentX extentY mx my) :=
  inferInstanceAs (Decidable (_ ∧ _))

/-- The cursor is on the right or on the lower edge of an area of the window. -/
inductive OnRim (window : Window) (mx my : Int) : Prop where
  | close (edge : Rim (window.x + window.width - 20) (window.y + 4) 16 16 mx my)
  | drop (edge : Rim (window.x + 20) (window.y + 240) 380 24 mx my)
  | title (edge : Rim window.x window.y window.width 24 mx my)

/-- A rectangle without its right and its lower edge. -/
def Inside (x y extentX extentY mx my : Int) : Prop :=
  (x ≤ mx ∧ mx < x + extentX) ∧ (y ≤ my ∧ my < y + extentY)

section Areas

variable {x y extentX extentY mx my : Int}

/-- A test agrees with the painting except on the rim. -/
theorem covers_iff_inside : (Covers x y extentX extentY mx my ↔ Inside x y extentX extentY mx my) ↔
    ¬ Rim x y extentX extentY mx my := by
  unfold Rim Covers Inside
  omega

/-- The areas of the close button and of the drop button lie apart. -/
theorem InDropButton.not_inCloseButton {window : Window} (inside : InDropButton window mx my) :
    ¬ InCloseButton window mx my := by
  unfold InDropButton Covers at inside
  unfold InCloseButton Covers
  omega

/-- The rim of the title bar lies beside the buttons. -/
theorem rim_title_apart {window : Window} (edge : Rim window.x window.y window.width 24 mx my) :
    ¬ InCloseButton window mx my ∧ ¬ InDropButton window mx my := by
  unfold Rim Covers at edge
  unfold InCloseButton InDropButton Covers
  omega

/-- What the painting of a rectangle says of the cursor. -/
theorem paintsArea_iff {server : Server} {calls : Option (List PaintCall)} {made : List PaintCall}
    {w h : Nat} {color : UInt32} (drawn : calls = some made) (left top : Nat)
    (once : ∀ x y, .fillRect x y w h color ∈ made ↔ x = left ∧ y = top) (atX : left = x) (atY : top = y)
    (right : left + w < 2 ^ 64) (bottom : top + h < 2 ^ 64) (cursor : OnScreen server.screen mx my) :
    PaintsArea server calls w h color (mx.toNat, my.toNat) ↔ Inside x y w h mx my := by
  have visible : server.Visible (mx.toNat, my.toNat) := by
    obtain ⟨atLeft, atRight, atTop, atBottom⟩ := cursor
    exact ⟨(Int.toNat_lt atLeft).mpr atRight, (Int.toNat_lt atTop).mpr atBottom⟩
  have atLeft := cursor.left
  have atTop := cursor.top
  constructor
  · rintro ⟨other, column, row, same, member, paints⟩
    cases drawn.symm.trans same
    obtain ⟨rfl, rfl⟩ := (once column row).mp member
    obtain ⟨-, fromLeft, toRight, fromTop, toBottom⟩ :=
      (Server.paints_fillRect_iff right bottom).mp paints
    exact ⟨⟨by omega, by omega⟩, ⟨by omega, by omega⟩⟩
  · rintro ⟨⟨fromLeft, toRight⟩, fromTop, toBottom⟩
    refine ⟨made, left, top, drawn, (once left top).mpr ⟨rfl, rfl⟩, ?_⟩
    refine (Server.paints_fillRect_iff right bottom).mpr ⟨visible, ?_⟩
    exact ⟨by omega, by omega, by omega, by omega⟩

end Areas

namespace FreshPress

variable {server : Server} {manager : WindowManager} {mx my : Int} {mbtn : UInt8}
  (press : FreshPress server manager mx my mbtn)

include press in
theorem range : 0 ≤ manager.window.x ∧ manager.window.x + 600 < 2 ^ 31 ∧ 0 ≤ manager.window.y ∧
    manager.window.y + 300 < 2 ^ 31 :=
  ⟨press.left, Int.lt_of_le_of_lt press.right (asI32_isI32 server.width).2, press.top,
    Int.lt_of_le_of_lt press.bottom (asI32_isI32 server.height).2⟩

include press in
theorem sticksOut : manager.window.sticksOut server.screen manager.window.x.toNat
    manager.window.y.toNat = some false := by
  obtain ⟨left, farX, top, farY⟩ := press.range
  have right : manager.window.x + 600 ≤ server.screen.width := press.right.trans (asI32_le _)
  have bottom : manager.window.y + 300 ≤ server.screen.height := press.bottom.trans (asI32_le _)
  rw [Window.sticksOut, press.width, press.height, checked_of_lt (by omega), Option.bind_eq_bind,
    Option.bind_some, if_neg (by omega), checked_of_lt (by omega), Option.bind_some,
    decide_eq_false (by omega)]
  rfl

include press in
/-- The calls of `draw_window` for the window of the loop. -/
theorem drawWindow (isOpen : manager.window.isOpen) :
    manager.window.drawWindow server.screen = some [
      .fillRect (manager.window.x.toNat + 4) (manager.window.y.toNat + 4) 600 300 0x000000,
      .fillRect manager.window.x.toNat manager.window.y.toNat 600 300 manager.window.bgColor,
      .fillRect manager.window.x.toNat manager.window.y.toNat 600 24 0x0F172A,
      .drawString (manager.window.x.toNat + 8) (manager.window.y.toNat + 8) manager.window.title
        0xFFFFFF 1,
      .fillRect (manager.window.x.toNat + 600 - 20) (manager.window.y.toNat + 4) 16 16 0xEF4444,
      .drawString (manager.window.x.toNat + 600 - 20 + 4) (manager.window.y.toNat + 4 + 4) "X"
        0xFFFFFF 1] := by
  obtain ⟨left, right, top, bottom⟩ := press.range
  rw [Window.drawWindow, if_pos isOpen, if_neg (by omega), if_neg (by omega),
    asUsize_of_nonneg left (by omega), asUsize_of_nonneg top (by omega)]
  dsimp only
  rw [press.sticksOut, Option.bind_eq_bind, Option.bind_some, if_neg Bool.false_ne_true, Window.paint,
    press.width, press.height]
  simp only [Option.bind_eq_bind]
  rw [checked_of_lt (by omega), Option.bind_some, checked_of_lt (by omega), Option.bind_some,
    checked_of_lt (by omega), Option.bind_some, checked_of_lt (by omega), Option.bind_some,
    checked_of_lt (by omega), Option.bind_some, checkedSub_of_le (by omega), Option.bind_some,
    checked_of_lt (by omega), Option.bind_some, checked_of_lt (by omega), Option.bind_some]
  rfl

include press in
theorem dropBtnX : checked (2 ^ 64) (asUsize manager.window.x + 20) =
    some (manager.window.x.toNat + 20) := by
  obtain ⟨left, right, -⟩ := press.range
  rw [asUsize_of_nonneg left (by omega), checked_of_lt (by omega)]

include press in
theorem dropBtnY : checked (2 ^ 64) (asUsize manager.window.y + 240) =
    some (manager.window.y.toNat + 240) := by
  obtain ⟨-, -, top, bottom⟩ := press.range
  rw [asUsize_of_nonneg top (by omega), checked_of_lt (by omega)]

include press in
theorem drawDropButton (isOpen : manager.window.isOpen) :
    manager.window.drawDropButton = some [
      .fillRect (manager.window.x.toNat + 20) (manager.window.y.toNat + 240) 380 24 0xEF4444,
      .drawString (manager.window.x.toNat + 20 + 10) (manager.window.y.toNat + 240 + 6)
        "INITIATE SECURE RING-3 DROP (LOCKS GUI)" 0xFFFFFF 1] := by
  obtain ⟨left, right, top, bottom⟩ := press.range
  rw [Window.drawDropButton, press.dropBtnX, Option.bind_eq_bind, Option.bind_some, press.dropBtnY,
    Option.bind_some, if_pos isOpen, checked_of_lt (by omega), Option.bind_some,
    checked_of_lt (by omega)]
  rfl

include press in
theorem paintsClose_iff (isOpen : manager.window.isOpen) :
    PaintsClose server manager.window mx my ↔
      Inside (manager.window.x + manager.window.width - 20) (manager.window.y + 4) 16 16 mx my := by
  obtain ⟨left, right, top, bottom⟩ := press.range
  refine paintsArea_iff (press.drawWindow isOpen) (manager.window.x.toNat + 600 - 20)
    (manager.window.y.toNat + 4) (by simp) ?_ (by omega) (by omega) (by omega) press.cursor
  rw [press.width]
  omega

include press in
theorem paintsTitle_iff (isOpen : manager.window.isOpen) :
    PaintsTitle server manager.window mx my ↔
      Inside manager.window.x manager.window.y manager.window.width 24 mx my := by
  obtain ⟨left, right, top, bottom⟩ := press.range
  rw [PaintsTitle, press.width]
  exact paintsArea_iff (press.drawWindow isOpen) manager.window.x.toNat manager.window.y.toNat
    (by simp) (by omega) (by omega) (by omega) (by omega) press.cursor

include press in
theorem paintsDrop_iff (isOpen : manager.window.isOpen) :
    PaintsDrop server manager.window mx my ↔
      Inside (manager.window.x + 20) (manager.window.y + 240) 380 24 mx my := by
  obtain ⟨left, right, top, bottom⟩ := press.range
  exact paintsArea_iff (press.drawDropButton isOpen) (manager.window.x.toNat + 20)
    (manager.window.y.toNat + 240) (by simp) (by omega) (by omega) (by omega) (by omega) press.cursor

include press in
theorem fresh : (leftDown mbtn && !leftDown manager.oldMbtn) = true := by
  rw [press.now, press.before]
  rfl

include press in
theorem width_asI32 : asI32 manager.window.width = manager.window.width := by
  rw [press.width]
  rfl

include press in
theorem pressesClose : ∃ close, manager.window.pressesClose true mx my = some close ∧
    (close = true ↔ InCloseButton manager.window mx my) := by
  obtain ⟨left, right, top, bottom⟩ := press.range
  have total : ∃ close, manager.window.pressesClose true mx my = some close := by
    rw [Window.pressesClose, press.width_asI32, press.width,
      checkedI32_of_isI32 ⟨by omega, by omega⟩, Option.bind_eq_bind, Option.bind_some,
      checkedI32_of_isI32 ⟨by omega, by omega⟩, Option.bind_some,
      checkedI32_of_isI32 ⟨by omega, by omega⟩, Option.bind_some, if_pos rfl]
    exact hits_total ⟨by omega, by omega⟩ ⟨by omega, by omega⟩
  obtain ⟨close, tested⟩ := total
  have close_iff := Window.pressesClose_eq_some tested
  rw [press.width_asI32] at close_iff
  exact ⟨close, tested, close_iff.trans (and_iff_right rfl)⟩

include press in
theorem hitsTitle : ∃ title, manager.window.hitsTitle mx my = some title ∧
    (title = true ↔ InTitleBar manager.window mx my) := by
  obtain ⟨left, right, top, bottom⟩ := press.range
  have total : ∃ title, manager.window.hitsTitle mx my = some title := by
    rw [Window.hitsTitle, press.width_asI32, press.width]
    exact hits_total ⟨by omega, by omega⟩ ⟨by omega, by omega⟩
  obtain ⟨title, tested⟩ := total
  have title_iff := Window.hitsTitle_eq_some tested
  rw [press.width_asI32] at title_iff
  exact ⟨title, tested, title_iff⟩

include press in
theorem pressesDrop : ∃ drop, Window.pressesDrop (manager.window.x.toNat + 20)
      (manager.window.y.toNat + 240) true mx my = some drop ∧
    (drop = true ↔ InDropButton manager.window mx my) := by
  obtain ⟨left, right, top, bottom⟩ := press.range
  obtain ⟨drop, tested⟩ := Window.pressesDrop_total
    (by omega : manager.window.x.toNat + 20 + 380 < 2 ^ 64)
    (by omega : manager.window.y.toNat + 240 + 24 < 2 ^ 64) true mx my
  have drop_iff := (Window.pressesDrop_eq_some tested).trans (and_iff_right rfl)
  rw [asI32_of_lt (by omega), asI32_of_lt (by omega), asI32_of_lt (by omega),
    asI32_of_lt (by omega)] at drop_iff
  refine ⟨drop, tested, drop_iff.trans ?_⟩
  unfold InDropButton Covers
  omega

include press in
theorem idle : manager.isDragging = false := by
  rw [← Bool.not_eq_true]
  intro dragging
  exact nomatch press.before.symm.trans (press.held dragging)

include press in
theorem drag : ∃ next, manager.drag server.screen mx my = some next ∧
    next.window = manager.window ∧ next.dropped = false ∧
      (next.isDragging ↔ InTitleBar manager.window mx my) := by
  obtain ⟨left, right, top, bottom⟩ := press.range
  obtain ⟨title, testedTitle, title_iff⟩ := press.hitsTitle
  rw [WindowManager.drag, if_neg (Bool.eq_false_iff.mp press.idle), testedTitle, Option.bind_eq_bind,
    Option.bind_some, ← title_iff]
  cases title with
  | true =>
    obtain ⟨⟨fromX, toX⟩, fromY, toY⟩ := title_iff.mp rfl
    rw [press.width] at toX
    rw [if_pos rfl, WindowManager.startDrag, checkedI32_of_isI32 ⟨by omega, by omega⟩,
      Option.bind_eq_bind, Option.bind_some, checkedI32_of_isI32 ⟨by omega, by omega⟩]
    exact ⟨_, rfl, rfl, press.running, Iff.rfl⟩
  | false => exact ⟨manager, rfl, rfl, press.running, by rw [press.idle]⟩

include press in
/-- What a fresh press on the open window does. -/
theorem iterate (isOpen : manager.window.isOpen) :
    ∃ next, manager.iterate server.screen mx my mbtn = some next ∧
      (next.window.isOpen = false ↔ InCloseButton manager.window mx my) ∧
      (next.dropped ↔ ¬ InCloseButton manager.window mx my ∧ InDropButton manager.window mx my) ∧
      (next.isDragging ↔ ¬ InCloseButton manager.window mx my ∧
        ¬ InDropButton manager.window mx my ∧ InTitleBar manager.window mx my) := by
  obtain ⟨close, testedClose, close_iff⟩ := press.pressesClose
  obtain ⟨drop, testedDrop, drop_iff⟩ := press.pressesDrop
  obtain ⟨dragged, drags, window, running, title_iff⟩ := press.drag
  rw [← close_iff, ← drop_iff, ← title_iff, WindowManager.iterate, press.fresh, press.now,
    press.dropBtnX, Option.bind_eq_bind, Option.bind_some, press.dropBtnY, Option.bind_some,
    WindowManager.handle, if_pos isOpen, WindowManager.handleOpen]
  simp only [Option.bind_eq_bind]
  rw [testedClose]
  cases close with
  | true => exact ⟨_, rfl, by simp [press.running]⟩
  | false =>
    rw [Option.bind_some, if_neg Bool.false_ne_true, testedDrop]
    cases drop with
    | true => exact ⟨_, rfl, by simp [isOpen, press.idle]⟩
    | false =>
      rw [Option.bind_some, if_neg Bool.false_ne_true, if_pos trivial, drags]
      exact ⟨_, rfl, by simp [window, running, isOpen]⟩

end FreshPress

section Window

variable {server : Server} {manager : WindowManager} {mx my : Int} {mbtn : UInt8}
  (press : FreshPress server manager mx my mbtn)

theorem not_paintsArea_nil {w h : Nat} {color : UInt32} {point : Nat × Nat} :
    ¬ PaintsArea server (some []) w h color point := by
  rintro ⟨made, x, y, drawn, member, -⟩
  cases drawn
  cases member

include press in
/-- A window that is shut is neither painted nor tested. -/
theorem FreshPress.hitsMatch_shut (isShut : manager.window.isOpen = false) :
    ∃ next, manager.iterate server.screen mx my mbtn = some next ∧
      HitsMatch server manager mx my next := by
  have window : manager.window.drawWindow server.screen = some [] := by
    rw [Window.drawWindow, if_neg (Bool.eq_false_iff.mp isShut)]
  have button : manager.window.drawDropButton = some [] := by
    rw [Window.drawDropButton, press.dropBtnX, Option.bind_eq_bind, Option.bind_some, press.dropBtnY,
      Option.bind_some, if_neg (Bool.eq_false_iff.mp isShut)]
  have passes : manager.iterate server.screen mx my mbtn = some { manager with oldMbtn := mbtn } := by
    rw [WindowManager.iterate, press.dropBtnX, Option.bind_eq_bind, Option.bind_some, press.dropBtnY,
      Option.bind_some, WindowManager.handle, if_neg (Bool.eq_false_iff.mp isShut),
      Option.bind_eq_bind, Option.bind_some, if_neg (Bool.eq_false_iff.mp press.running)]
    rfl
  refine ⟨_, passes, ?_, ?_, ?_⟩
  · rw [PaintsClose, window, isShut]
    exact ⟨fun closes => absurd closes.1 Bool.false_ne_true, fun paints => (not_paintsArea_nil paints).elim⟩
  · rw [PaintsDrop, button, press.running]
    exact ⟨fun effect => absurd effect Bool.false_ne_true, fun paints => (not_paintsArea_nil paints).elim⟩
  · intro _ _
    rw [PaintsTitle, window, press.idle]
    exact ⟨fun effect => absurd effect Bool.false_ne_true, fun paints => (not_paintsArea_nil paints).elim⟩

include press in
/-- An open window is hit where it is painted when the cursor is on no rim. -/
theorem FreshPress.hitsMatch_open (isOpen : manager.window.isOpen) :
    (∃ next, manager.iterate server.screen mx my mbtn = some next ∧
      HitsMatch server manager mx my next) ↔ ¬ OnRim manager.window mx my := by
  obtain ⟨next, iterates, closes, drops, drags⟩ := press.iterate isOpen
  have close := press.paintsClose_iff isOpen
  have drop := press.paintsDrop_iff isOpen
  have title := press.paintsTitle_iff isOpen
  rw [and_iff_right_of_imp InDropButton.not_inCloseButton] at drops
  constructor
  · rintro ⟨other, again, hits⟩ onRim
    cases iterates.symm.trans again
    have closeHits : InCloseButton manager.window mx my ↔ PaintsClose server manager.window mx my :=
      closes.symm.trans ((and_iff_right isOpen).symm.trans hits.close)
    have dropHits := drops.symm.trans hits.drop
    cases onRim with
    | close edge => exact covers_iff_inside.mp (closeHits.trans close) edge
    | drop edge => exact covers_iff_inside.mp (dropHits.trans drop) edge
    | title edge =>
      obtain ⟨offClose, offDrop⟩ := rim_title_apart edge
      have dragHits := hits.drag (mt closeHits.mpr offClose) (mt dropHits.mpr offDrop)
      have titleHits := drags.trans ((and_iff_right offClose).trans (and_iff_right offDrop))
      exact covers_iff_inside.mp (titleHits.symm.trans (dragHits.trans title)) edge
  · intro offRim
    have closeHits := (covers_iff_inside.mpr fun edge => offRim (.close edge)).trans close.symm
    have dropHits := (covers_iff_inside.mpr fun edge => offRim (.drop edge)).trans drop.symm
    have titleHits := (covers_iff_inside.mpr fun edge => offRim (.title edge)).trans title.symm
    refine ⟨next, iterates, (and_iff_right isOpen).trans (closes.trans closeHits),
      drops.trans dropHits, ?_⟩
    intro offClose offDrop
    exact drags.trans ((and_iff_right (mt closeHits.mp offClose)).trans
      ((and_iff_right (mt dropHits.mp offDrop)).trans titleHits))

end Window

/-- In every run the left button may go down at any time. -/
theorem freshPress_of_run {server : Server} {readings : List Reading} {manager : WindowManager}
    {mx my : Int} {mbtn : UInt8} (roomy : Roomy server.screen)
    (reached : run (WindowManager.step server.screen) readings WindowManager.start = some manager)
    (running : manager.dropped = false) (before : leftDown manager.oldMbtn = false)
    (now : leftDown mbtn) (cursor : OnScreen server.screen mx my) :
    FreshPress server manager mx my mbtn := by
  obtain ⟨final, again, onDesktop⟩ := windowManager_runs roomy readings
  cases reached.symm.trans again
  have width : asI32 server.width = server.screen.width :=
    asI32_of_lt (Nat.lt_trans roomy.narrow (by decide))
  have height : asI32 server.height = server.screen.height :=
    asI32_of_lt (Nat.lt_trans roomy.low (by decide))
  exact ⟨running, onDesktop.width, onDesktop.height, onDesktop.left, width ▸ onDesktop.right,
    Int.le_trans (by decide) onDesktop.top, height ▸ onDesktop.bottom,
    fun dragging => ((run_remembers reached).dragging dragging).2.2, before, now, cursor⟩

/-- The first press of all. -/
theorem start_press {mx my : Int} (cursor : OnScreen Server.laptop.screen mx my) :
    FreshPress Server.laptop WindowManager.start mx my 1 := by
  have roomy : Roomy Server.laptop.screen := ⟨by decide, by decide, by decide, by decide⟩
  have reached : run (WindowManager.step Server.laptop.screen) [] WindowManager.start =
    some WindowManager.start := rfl
  exact freshPress_of_run roomy reached rfl rfl rfl cursor

/-- A fresh press closes the window, drops to ring 3 and begins a drag exactly where the
area for it is painted when, on an open window, the cursor is not on the right or on the
lower edge that the tests add to the painted areas. -/
theorem hitsMatch_iff {server : Server} {manager : WindowManager} {mx my : Int} {mbtn : UInt8}
    (press : FreshPress server manager mx my mbtn) :
    (∃ next, manager.iterate server.screen mx my mbtn = some next ∧
      HitsMatch server manager mx my next) ↔ (manager.window.isOpen → ¬ OnRim manager.window mx my) := by
  cases isOpen : manager.window.isOpen with
  | true => exact (press.hitsMatch_open isOpen).trans ⟨fun offRim _ => offRim, fun offRim => offRim rfl⟩
  | false => exact ⟨fun _ => nofun, fun _ => press.hitsMatch_shut isOpen⟩

/-- A press in the middle of the close button. -/
theorem hitsMatch_iff_close : ∃ next,
    WindowManager.start.iterate Server.laptop.screen 690 210 1 = some next ∧
      HitsMatch Server.laptop WindowManager.start 690 210 next := by
  have press := start_press (⟨by decide, by decide, by decide, by decide⟩ :
    OnScreen Server.laptop.screen 690 210)
  refine (hitsMatch_iff press).mpr fun _ onRim => ?_
  cases onRim with
  | close edge => exact absurd edge (by decide)
  | drop edge => exact absurd edge (by decide)
  | title edge => exact absurd edge (by decide)

/-- One pixel right of the painted button the kernel is left for ring 3. -/
theorem not_hitsMatch_drop : FreshPress Server.laptop WindowManager.start 500 450 1 ∧
    ∃ next, WindowManager.start.iterate Server.laptop.screen 500 450 1 = some next ∧
      next.dropped ∧ ¬ HitsMatch Server.laptop WindowManager.start 500 450 next := by
  have press := start_press (⟨by decide, by decide, by decide, by decide⟩ :
    OnScreen Server.laptop.screen 500 450)
  have edge : Rim (100 + 20) (200 + 240) 380 24 500 450 := ⟨by decide, Or.inl rfl⟩
  obtain ⟨next, iterates, -, drops, -⟩ := press.iterate rfl
  have dropped := drops.mpr ⟨InDropButton.not_inCloseButton edge.1, edge.1⟩
  exact ⟨press, next, iterates, dropped,
    fun hits => (press.hitsMatch_open rfl).mp ⟨next, iterates, hits⟩ (.drop edge)⟩

end QoreOS.Display
