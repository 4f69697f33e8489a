import QoreOS.Display.Font
import QoreOS.Display.Framebuffer
import QoreOS.Display.WindowManager

/-! What the main loop paints of the window: the calls that it makes, and the pixels that
a call reaches. -/

namespace QoreOS.Display

open QoreOS.Library

/-- A call of `fill_rect` or of `draw_string`. -/
inductive PaintCall where
  | fillRect (x y w h : Nat) (color : UInt32)
  | drawString (x y : Nat) (text : String) (color : UInt32) (scale : Nat)

def PaintCall.color : PaintCall → UInt32
  | fillRect _ _ _ _ color => color
  | drawString _ _ _ color _ => color

namespace Server

variable (server : Server)

def screen : Screen := ⟨server.width, server.height⟩

/-- The inner loop of `fill_rect`. -/
def fillRow (x w currY : Nat) (color : UInt32) (screen : Framebuffer) : Option Framebuffer := do
  let endX ← checked (2 ^ 64) (x + w)
  run (fun screen currX => server.drawPixel screen currX currY color)
    (List.range' x (endX - x)) screen

def fillRect (x y w h : Nat) (color : UInt32) (screen : Framebuffer) : Option Framebuffer := do
  let endY ← checked (2 ^ 64) (y + h)
  run (fun screen currY => server.fillRow x w currY color screen) (List.range' y (endY - y)) screen

/-- One bit of a letter. -/
def drawBit (x y : Nat) (bitmap : Vector UInt8 8) (color : UInt32) (scale : Nat) (row : Fin 8)
    (screen : Framebuffer) (col : Fin 8) : Option Framebuffer :=
  if glyphPixel bitmap row col then do
    let column ← checked (2 ^ 64) (col * scale)
    let left ← checked (2 ^ 64) (x + column)
    let line ← checked (2 ^ 64) (row * scale)
    let top ← checked (2 ^ 64) (y + line)
    server.fillRect left top scale scale color screen
  else some screen

/-- The letters from `x` on. -/
def drawLetters (y : Nat) (color : UInt32) (scale : Nat) :
    Nat → List Char → Framebuffer → Option Framebuffer
  | _, [], screen => some screen
  | x, c :: rest, screen => do
    let bitmap := getCharBitmap c.toUpper
    let screen ← run (fun screen row =>
      run (server.drawBit x y bitmap color scale row) (List.finRange 8) screen)
      (List.finRange 8) screen
    let glyph ← checked (2 ^ 64) (8 * scale)
    let gap ← checked (2 ^ 64) (2 * scale)
    let advance ← checked (2 ^ 64) (glyph + gap)
    let x ← checked (2 ^ 64) (x + advance)
    drawLetters y color scale x rest screen

def perform (screen : Framebuffer) : PaintCall → Option Framebuffer
  | .fillRect x y w h color => server.fillRect x y w h color screen
  | .drawString x y text color scale => server.drawLetters y color scale x text.toList screen

def Visible (point : Nat × Nat) : Prop := point.1 < server.width ∧ point.2 < server.height

instance (point : Nat × Nat) : Decidable (server.Visible point) := inferInstanceAs (Decidable (_ ∧ _))

/-- What the screen shows at each point, 0 beside it. -/
def picture (screen : Framebuffer) : Nat × Nat → UInt32 := fun point =>
  if server.Visible point then screen (point.2 * server.stride + point.1) else 0

/-- Whatever the screen has shown at a point of it, the call leaves its colour there. -/
structure Paints (call : PaintCall) (point : Nat × Nat) : Prop where
  visible : server.Visible point
  shown : ∀ screen, ∃ final, server.perform screen call = some final ∧
    server.picture final point = call.color

end Server

namespace Window

/-- The calls of `draw_window` for a window that fits. -/
def paint (win : Window) (safeX safeY : Nat) : Option (List PaintCall) := do
  let shadowX ← checked (2 ^ 64) (safeX + 4)
  let shadowY ← checked (2 ^ 64) (safeY + 4)
  let titleX ← checked (2 ^ 64) (safeX + 8)
  let titleY ← checked (2 ^ 64) (safeY + 8)
  let right ← checked (2 ^ 64) (safeX + win.width)
  let closeX ← checkedSub right 20
  let closeY ← checked (2 ^ 64) (safeY + 4)
  let crossX ← checked (2 ^ 64) (closeX + 4)
  let crossY ← checked (2 ^ 64) (closeY + 4)
  return [
    .fillRect shadowX shadowY win.width win.height 0x000000,
    .fillRect safeX safeY win.width win.height win.bgColor,
    .fillRect safeX safeY win.width 24 0x0F172A,
    .drawString titleX titleY win.title 0xFFFFFF 1,
    .fillRect closeX closeY 16 16 0xEF4444,
    .drawString crossX crossY "X" 0xFFFFFF 1]

/-- `safe_x + win.width > SERVER.width || safe_y + win.height > SERVER.height` -/
def sticksOut (screen : Screen) (win : Window) (safeX safeY : Nat) : Option Bool := do
  let right ← checked (2 ^ 64) (safeX + win.width)
  if right > screen.width then some true
  else do
    let bottom ← checked (2 ^ 64) (safeY + win.height)
    return decide (bottom > screen.height)

/-- The calls that `draw_window` makes. -/
def drawWindow (screen : Screen) (win : Window) : Option (List PaintCall) :=
  if win.isOpen then do
    let safeX := if win.x < 0 then 0 else asUsize win.x
    let safeY := if win.y < 0 then 0 else asUsize win.y
    if ← win.sticksOut screen safeX safeY then some [] else win.paint safeX safeY
  else some []

/-- The calls of the loop for the button of the drop to ring 3. -/
def drawDropButton (win : Window) : Option (List PaintCall) := do
  let dropBtnX ← checked (2 ^ 64) (asUsize win.x + 20)
  let dropBtnY ← checked (2 ^ 64) (asUsize win.y + 240)
  if win.isOpen then do
    let textX ← checked (2 ^ 64) (dropBtnX + 10)
    let textY ← checked (2 ^ 64) (dropBtnY + 6)
    return [
      .fillRect dropBtnX dropBtnY 380 24 0xEF4444,
      .drawString textX textY "INITIATE SECURE RING-3 DROP (LOCKS GUI)" 0xFFFFFF 1]
  else some []

end Window

namespace Server

variable {server : Server} {screen final : Framebuffer} {color : UInt32} {x y w h : Nat}

/-- `draw_pixel` without its overflow checks. -/
def withPixel (server : Server) (screen : Framebuffer) (x y : Nat) (color : UInt32) : Framebuffer :=
  if server.Visible (x, y) then Function.update screen (y * server.stride + x) color else screen

theorem drawPixel_eq (screen : Framebuffer) (x y : Nat) (color : UInt32) :
    server.drawPixel screen x y color = some (server.withPixel screen x y color) := by
  unfold withPixel
  by_cases visible : server.Visible (x, y)
  · rw [if_pos visible, drawPixel_inside visible.1 visible.2]
  · rw [if_neg visible, drawPixel_outside visible]

/-- Points of the screen have words of their own. -/
theorem word_injective {point other : Nat × Nat} (visible : server.Visible point)
    (shown : server.Visible other)
    (same : point.2 * server.stride + point.1 = other.2 * server.stride + other.1) :
    point = other := by
  have wide := server.wide
  have column := visible.1
  have across := shown.1
  obtain ⟨columns, rows⟩ := Canvas.slot_injective (by omega : other.1 < server.stride)
    (by omega : point.1 < server.stride) same
  exact Prod.ext columns rows

theorem withPixel_alters (screen : Framebuffer) (x y : Nat) (color : UInt32) :
    AltersAt (fun _ => color) (fun point => server.Visible point ∧ point = (x, y))
      (server.picture screen) (server.picture (server.withPixel screen x y color)) := by
  intro point
  unfold withPixel picture
  constructor
  · rintro ⟨visible, rfl⟩
    rw [if_pos visible, if_pos visible, Function.update_self]
  · intro elsewhere
    by_cases target : server.Visible (x, y)
    · rw [if_pos target]
      by_cases visible : server.Visible point
      · rw [if_pos visible, if_pos visible, Function.update_of_ne]
        exact fun same => elsewhere ⟨visible, word_injective visible target same⟩
      · rw [if_neg visible, if_neg visible]
    · rw [if_neg target]

theorem fillRow_eq (right : x + w < 2 ^ 64) (y : Nat) (color : UInt32) (screen : Framebuffer) :
    server.fillRow x w y color screen = some ((List.range' x w).foldl
      (fun screen currX => server.withPixel screen currX y color) screen) := by
  rw [fillRow, checked_of_lt right, Option.bind_eq_bind, Option.bind_some, Nat.add_sub_cancel_left]
  simp only [drawPixel_eq]
  exact run_total _ _ screen

theorem fillRect_eq (right : x + w < 2 ^ 64) (bottom : y + h < 2 ^ 64) (color : UInt32)
    (screen : Framebuffer) :
    server.fillRect x y w h color screen = some ((List.range' y h).foldl (fun screen currY =>
      (List.range' x w).foldl (fun screen currX => server.withPixel screen currX currY color) screen)
        screen) := by
  rw [fillRect, checked_of_lt bottom, Option.bind_eq_bind, Option.bind_some, Nat.add_sub_cancel_left]
  simp only [fillRow_eq right]
  exact run_total _ _ screen

/-- `fill_rect` recolours the points of the rectangle that are on the screen. -/
theorem fillRect_alters (server : Server) (right : x + w < 2 ^ 64) (bottom : y + h < 2 ^ 64)
    (color : UInt32) (screen : Framebuffer) : ∃ final, server.fillRect x y w h color screen = some final ∧
      AltersAt (fun _ => color)
        (fun point => server.Visible point ∧ Canvas.Rectangle x y w h point)
        (server.picture screen) (server.picture final) := by
  have idempotent : ∀ value : UInt32, (fun _ => color) ((fun _ => color) value) =
      (fun _ => color) value := fun _ => rfl
  have row : ∀ (screen : Framebuffer) (currY : Nat), AltersAt (fun _ => color)
      (fun point => ∃ currX ∈ List.range' x w, server.Visible point ∧ point = (currX, currY))
      (server.picture screen) (server.picture ((List.range' x w).foldl
        (fun screen currX => server.withPixel screen currX currY color) screen)) :=
    fun screen currY => AltersAt.foldl server.picture idempotent
      (fun screen currX => withPixel_alters screen currX currY color)
      (fun _ _ _ _ => Iff.rfl) _ screen
  refine ⟨_, fillRect_eq right bottom color screen, ?_⟩
  refine (AltersAt.foldl server.picture idempotent row (fun _ _ _ _ => Iff.rfl) _ screen).congr ?_
  rintro ⟨px, py⟩
  simp only [List.mem_range'_1, Canvas.Rectangle, Prod.mk.injEq]
  constructor
  · rintro ⟨currY, inside, currX, across, visible, rfl, rfl⟩
    exact ⟨visible, across.1, across.2, inside.1, inside.2⟩
  · rintro ⟨visible, left, within, top, above⟩
    exact ⟨py, ⟨top, above⟩, px, ⟨left, within⟩, visible, rfl, rfl⟩

/-- A call of `fill_rect` paints the rectangle without its far edges. -/
theorem paints_fillRect_iff (right : x + w < 2 ^ 64) (bottom : y + h < 2 ^ 64)
    {point : Nat × Nat} : server.Paints (.fillRect x y w h color) point ↔
      server.Visible point ∧ Canvas.Rectangle x y w h point := by
  constructor
  · intro paints
    refine ⟨paints.visible, ?_⟩
    by_contra outside
    obtain ⟨final, filled, shown⟩ := paints.shown fun _ => color + 1
    obtain ⟨other, again, alters⟩ := fillRect_alters server right bottom color fun _ => color + 1
    cases filled.symm.trans again
    rw [(alters point).2 fun inside => outside inside.2, picture, if_pos paints.visible] at shown
    simp [PaintCall.color] at shown
  · rintro ⟨visible, inside⟩
    refine ⟨visible, ?_⟩
    intro screen
    obtain ⟨final, filled, alters⟩ := fillRect_alters server right bottom color screen
    exact ⟨final, filled, (alters point).1 ⟨visible, inside⟩⟩

end Server

end QoreOS.Display
