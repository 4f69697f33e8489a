import QoreOS.Display.Framebuffer
import QoreOS.Display.Printing

/-! Printing with the checks that the code makes on its way: no sum or product
leaves the machine words and every index is inside its buffer. On a layer of a
real screen the checks never fail, so that printing is `terminalPrint`. -/

namespace QoreOS.Display

open QoreOS.Library

namespace Canvas

/-- The buffer can be counted. -/
def Countable (canvas : Canvas) : Prop := canvas.width * canvas.height < 2 ^ 64

def checkedDrawPixel (canvas : Canvas) (px py : Nat) (color : UInt32) : Option Canvas :=
  if px < canvas.width ∧ py < canvas.height then do
    let row ← checked (2 ^ 64) (py * canvas.width)
    let index ← checked (2 ^ 64) (row + px)
    if index < canvas.width * canvas.height then some (canvas.drawPixel px py color) else none
  else some canvas

/-- The inner loop of `checkedFillRect`. -/
def checkedFillRow (canvas : Canvas) (startX w y : Nat) (color : UInt32) : Option Canvas := do
  let endX ← checked (2 ^ 64) (startX + w)
  run (fun canvas x => canvas.checkedDrawPixel x y color) (List.range' startX (endX - startX)) canvas

def checkedFillRect (canvas : Canvas) (startX startY w h : Nat) (color : UInt32) :
    Option Canvas := do
  let endY ← checked (2 ^ 64) (startY + h)
  run (fun canvas y => canvas.checkedFillRow startX w y color)
    (List.range' startY (endY - startY)) canvas

def checkedScrollUp (canvas : Canvas) (shiftY : Nat) (bgColor : UInt32) : Option Canvas := do
  let pixelShift ← checked (2 ^ 64) (shiftY * canvas.width)
  if pixelShift ≥ canvas.width * canvas.height then some (canvas.scrollUp shiftY bgColor)
  else do
    let _ ← checkedSub (canvas.width * canvas.height) pixelShift
    some (canvas.scrollUp shiftY bgColor)

end Canvas

/-- One bit of a glyph. -/
def checkedBit (left top : Nat) (bitmap : Vector UInt8 8) (color : UInt32) (row : Fin 8)
    (canvas : Canvas) (col : Fin 8) : Option Canvas :=
  if glyphPixel bitmap row col then do
    let x ← checked (2 ^ 64) (left + col * 3)
    let y ← checked (2 ^ 64) (top + row * 3)
    canvas.checkedFillRect x y 3 3 color
  else some canvas

def checkedGlyph (canvas : Canvas) (left top : Nat) (bitmap : Vector UInt8 8) (color : UInt32) :
    Option Canvas :=
  run (fun canvas row => run (checkedBit left top bitmap color row) (List.finRange 8) canvas)
    (List.finRange 8) canvas

def Terminal.checkedNextLine (terminal : Terminal) : Option Terminal := do
  let termY ← checked (2 ^ 64) (terminal.termY + 30)
  let bottom ← checked (2 ^ 64) (termY + 30)
  if bottom > terminal.canvas.height then do
    let canvas ← terminal.canvas.checkedScrollUp 30 white
    let termY ← checkedSub termY 30
    some { canvas := canvas, termX := 20, termY := termY, scrolls := terminal.scrolls + 1 }
  else some { terminal with termX := 20, termY := termY }

def checkedPrintChar (color : UInt32) (terminal : Terminal) (c : Char) : Option Terminal :=
  if c = '\n' then terminal.checkedNextLine
  else do
    let bitmap := getCharBitmap c.toUpper
    let canvas ← checkedGlyph terminal.canvas terminal.termX terminal.termY bitmap color
    let termX ← checked (2 ^ 64) (terminal.termX + (24 + 6))
    let edge ← checkedSub canvas.width 40
    let terminal := { terminal with canvas := canvas, termX := termX }
    if terminal.termX > edge then terminal.checkedNextLine else some terminal

def checkedPrint (terminal : Terminal) (text : String) (color : UInt32) : Option Terminal :=
  run (checkedPrintChar color) text.toList terminal

/-- A layer under the bar of a screen that fits into memory, with a line of it or
the next one to print to. -/
structure Terminal.Fits (terminal : Terminal) : Prop where
  wide : 40 ≤ terminal.canvas.width
  area : terminal.canvas.width * (terminal.canvas.height + 40) * 4 ≤ 2 ^ 64
  row : terminal.termY ≤ terminal.canvas.height + 20

/-- The cursor is not beyond the right edge either. -/
structure Terminal.Ready (terminal : Terminal) : Prop extends terminal.Fits where
  column : terminal.termX ≤ terminal.canvas.width

section Bounds

variable {width height : Nat}

theorem layer_bounds (wide : 40 ≤ width) (area : width * (height + 40) * 4 ≤ 2 ^ 64) :
    width < 2 ^ 57 ∧ height < 2 ^ 57 ∧ width * height < 2 ^ 64 := by
  have rows : width * 40 ≤ width * (height + 40) := Nat.mul_le_mul_left width (by omega)
  have columns : 40 * (height + 40) ≤ width * (height + 40) := Nat.mul_le_mul_right _ wide
  have inner : width * height ≤ width * (height + 40) := Nat.mul_le_mul_left width (by omega)
  omega

end Bounds

section Canvas

variable {canvas : Canvas} {color : UInt32}

theorem checkedDrawPixel_eq (countable : canvas.Countable) (px py : Nat) (color : UInt32) :
    canvas.checkedDrawPixel px py color = some (canvas.drawPixel px py color) ∧
      (canvas.drawPixel px py color).Countable := by
  have kept : (canvas.drawPixel px py color).Countable := by
    rwa [Canvas.Countable, Canvas.drawPixel_width, Canvas.drawPixel_height]
  refine ⟨?_, kept⟩
  unfold Canvas.Countable at countable
  unfold Canvas.checkedDrawPixel
  by_cases inside : px < canvas.width ∧ py < canvas.height
  · have slot := Canvas.pixel_slot inside.1 inside.2
    rw [if_pos inside, checked_of_lt (by omega), Option.bind_eq_bind, Option.bind_some,
      checked_of_lt (by omega), Option.bind_some, if_pos slot]
  · rw [if_neg inside, Canvas.drawPixel, dif_neg inside]

theorem checkedFillRow_eq (countable : canvas.Countable) {startX w : Nat}
    (right : startX + w < 2 ^ 64) (y : Nat) (color : UInt32) :
    canvas.checkedFillRow startX w y color =
        some ((List.range' startX w).foldl (fun canvas x => canvas.drawPixel x y color) canvas) ∧
      ((List.range' startX w).foldl (fun canvas x => canvas.drawPixel x y color) canvas).Countable := by
  have pixel : ∀ (canvas : Canvas) (x : Nat), canvas.Countable →
      canvas.checkedDrawPixel x y color = some (canvas.drawPixel x y color) ∧
        (canvas.drawPixel x y color).Countable :=
    fun _ x countable => checkedDrawPixel_eq countable x y color
  rw [Canvas.checkedFillRow, checked_of_lt right, Option.bind_eq_bind, Option.bind_some,
    Nat.add_sub_cancel_left]
  exact run_eq_foldl pixel _ countable

theorem checkedFillRect_eq (countable : canvas.Countable) {startX startY w h : Nat}
    (right : startX + w < 2 ^ 64) (bottom : startY + h < 2 ^ 64) (color : UInt32) :
    canvas.checkedFillRect startX startY w h color =
        some (canvas.fillRect startX startY w h color) ∧
      (canvas.fillRect startX startY w h color).Countable := by
  have row : ∀ (canvas : Canvas) (y : Nat), canvas.Countable →
      canvas.checkedFillRow startX w y color =
          some ((List.range' startX w).foldl (fun canvas x => canvas.drawPixel x y color) canvas) ∧
        ((List.range' startX w).foldl (fun canvas x => canvas.drawPixel x y color) canvas).Countable :=
    fun _ y countable => checkedFillRow_eq countable right y color
  rw [Canvas.checkedFillRect, checked_of_lt bottom, Option.bind_eq_bind, Option.bind_some,
    Nat.add_sub_cancel_left]
  exact run_eq_foldl row _ countable

theorem checkedScrollUp_eq (canvas : Canvas) {shiftY : Nat} (shift : shiftY * canvas.width < 2 ^ 64)
    (bgColor : UInt32) :
    canvas.checkedScrollUp shiftY bgColor = some (canvas.scrollUp shiftY bgColor) := by
  rw [Canvas.checkedScrollUp, checked_of_lt shift, Option.bind_eq_bind, Option.bind_some]
  split
  · rfl
  · rw [checkedSub_of_le (by omega), Option.bind_some]

/-- The step of `drawGlyph`. -/
def drawBit (left top : Nat) (bitmap : Vector UInt8 8) (color : UInt32) (row : Fin 8)
    (canvas : Canvas) (col : Fin 8) : Canvas :=
  if glyphPixel bitmap row col then
    canvas.fillRect (left + col * 3) (top + row * 3) 3 3 color
  else canvas

theorem checkedBit_eq (countable : canvas.Countable) {left top : Nat} (right : left + 24 < 2 ^ 64)
    (bottom : top + 24 < 2 ^ 64) (bitmap : Vector UInt8 8) (color : UInt32) (row col : Fin 8) :
    checkedBit left top bitmap color row canvas col =
        some (drawBit left top bitmap color row canvas col) ∧
      (drawBit left top bitmap color row canvas col).Countable := by
  have column := col.isLt
  have line := row.isLt
  unfold checkedBit drawBit
  split
  · rw [checked_of_lt (by omega), Option.bind_eq_bind, Option.bind_some, checked_of_lt (by omega),
      Option.bind_some]
    exact checkedFillRect_eq countable (by omega) (by omega) color
  · exact ⟨rfl, countable⟩

theorem checkedGlyph_eq (countable : canvas.Countable) {left top : Nat} (right : left + 24 < 2 ^ 64)
    (bottom : top + 24 < 2 ^ 64) (bitmap : Vector UInt8 8) (color : UInt32) :
    checkedGlyph canvas left top bitmap color = some (drawGlyph canvas left top bitmap color) := by
  have bit : ∀ (row : Fin 8) (canvas : Canvas) (col : Fin 8), canvas.Countable →
      checkedBit left top bitmap color row canvas col =
          some (drawBit left top bitmap color row canvas col) ∧
        (drawBit left top bitmap color row canvas col).Countable :=
    fun row _ col countable => checkedBit_eq countable right bottom bitmap color row col
  have line : ∀ (canvas : Canvas) (row : Fin 8), canvas.Countable →
      run (checkedBit left top bitmap color row) (List.finRange 8) canvas =
          some ((List.finRange 8).foldl (drawBit left top bitmap color row) canvas) ∧
        ((List.finRange 8).foldl (drawBit left top bitmap color row) canvas).Countable :=
    fun _ row countable => run_eq_foldl (bit row) _ countable
  exact (run_eq_foldl line (List.finRange 8) countable).1

end Canvas

section Place

/-- The corner of the screen at which a canvas is shown. -/
def Canvas.corner (canvas : Canvas) : Nat × Nat := (canvas.x, canvas.y)

theorem drawPixel_corner (canvas : Canvas) (px py : Nat) (color : UInt32) :
    (canvas.drawPixel px py color).corner = canvas.corner := by
  unfold Canvas.drawPixel
  split <;> rfl

theorem fillRect_corner (canvas : Canvas) (startX startY w h : Nat) (color : UInt32) :
    (canvas.fillRect startX startY w h color).corner = canvas.corner :=
  Canvas.foldl_keeps Canvas.corner (fun canvas y =>
    Canvas.foldl_keeps Canvas.corner (fun canvas x => drawPixel_corner canvas x y color) _ canvas)
    _ canvas

theorem drawGlyph_corner (canvas : Canvas) (left top : Nat) (bitmap : Vector UInt8 8)
    (color : UInt32) : (drawGlyph canvas left top bitmap color).corner = canvas.corner := by
  refine Canvas.foldl_keeps Canvas.corner (fun canvas row => ?_) _ canvas
  refine Canvas.foldl_keeps Canvas.corner (fun canvas col => ?_) _ canvas
  split
  · exact fillRect_corner ..
  · rfl

theorem nextLine_corner (terminal : Terminal) :
    terminal.nextLine.canvas.corner = terminal.canvas.corner := by
  unfold Terminal.nextLine
  split <;> rfl

/-- A character leaves the layer where it is. -/
theorem printChar_corner {terminal next : Terminal} {color : UInt32} {c : Char}
    (prints : printChar color terminal c = some next) :
    next.canvas.corner = terminal.canvas.corner := by
  unfold printChar at prints
  split at prints
  case isTrue =>
    cases prints
    exact nextLine_corner terminal
  case isFalse =>
    dsimp only at prints
    split at prints
    case isTrue => cases prints
    case isFalse =>
      have drawn := drawGlyph_corner terminal.canvas terminal.termX terminal.termY
        (getCharBitmap c.toUpper) color
      split at prints
      · cases prints
        exact (nextLine_corner _).trans drawn
      · cases prints
        exact drawn

theorem terminalPrint_corner {terminal next : Terminal} {text : String} {color : UInt32}
    (prints : terminalPrint terminal text color = some next) :
    next.canvas.corner = terminal.canvas.corner := by
  have kept : ∀ (middle : Terminal) (c : Char) (next : Terminal),
      middle.canvas.corner = terminal.canvas.corner → printChar color middle c = some next →
      next.canvas.corner = terminal.canvas.corner :=
    fun _ _ _ same prints => (printChar_corner prints).trans same
  exact run_preserves kept text.toList rfl prints

end Place

section Cursor

variable {terminal next : Terminal} {color : UInt32} {c : Char}

theorem Terminal.Fits.bounds (fits : terminal.Fits) :
    terminal.canvas.width < 2 ^ 57 ∧ terminal.canvas.height < 2 ^ 57 ∧
      terminal.canvas.Countable :=
  layer_bounds fits.wide fits.area

theorem checkedNextLine_eq (fits : terminal.Fits) :
    terminal.checkedNextLine = some terminal.nextLine := by
  obtain ⟨width, height, -⟩ := fits.bounds
  have row := fits.row
  rw [Terminal.checkedNextLine, checked_of_lt (by omega), Option.bind_eq_bind, Option.bind_some,
    checked_of_lt (by omega), Option.bind_some, Terminal.nextLine]
  split
  · rw [checkedScrollUp_eq _ (by omega), Option.bind_eq_bind, Option.bind_some,
      checkedSub_of_le (by omega), Option.bind_some]
  · rfl

theorem Terminal.Fits.nextLine (fits : terminal.Fits) : terminal.nextLine.Ready := by
  obtain ⟨width, height⟩ := nextLine_size terminal
  have row := fits.row
  have wide := fits.wide
  refine ⟨⟨width ▸ wide, by rw [width, height]; exact fits.area, ?_⟩, ?_⟩
  · rw [height]
    unfold Terminal.nextLine
    split
    · exact Nat.add_sub_cancel .. ▸ row
    · dsimp only
      omega
  · rw [width]
    unfold Terminal.nextLine
    split <;> exact Nat.le_trans (show 20 ≤ 40 by decide) wide

/-- The terminal with a glyph drawn and the cursor behind it. -/
def Terminal.drawn (terminal : Terminal) (color : UInt32) (c : Char) : Terminal :=
  { terminal with
    canvas := drawGlyph terminal.canvas terminal.termX terminal.termY (getCharBitmap c.toUpper) color
    termX := terminal.termX + (24 + 6) }

theorem drawn_size (terminal : Terminal) (color : UInt32) (c : Char) :
    (terminal.drawn color c).canvas.width = terminal.canvas.width ∧
      (terminal.drawn color c).canvas.height = terminal.canvas.height := by
  obtain ⟨width, height, -⟩ :=
    drawGlyph_alters terminal.canvas terminal.termX terminal.termY (getCharBitmap c.toUpper) color
  exact ⟨width, height⟩

theorem Terminal.Fits.drawn (fits : terminal.Fits) (color : UInt32) (c : Char) :
    (terminal.drawn color c).Fits := by
  obtain ⟨width, height⟩ := drawn_size terminal color c
  exact ⟨width ▸ fits.wide, by rw [width, height]; exact fits.area, height ▸ fits.row⟩

/-- A character on a layer of at least 40 columns. -/
theorem printChar_eq (wide : 40 ≤ terminal.canvas.width) (color : UInt32) (c : Char) :
    printChar color terminal c = some (if c = '\n' then terminal.nextLine
      else if (terminal.drawn color c).termX > terminal.canvas.width - 40 then
        (terminal.drawn color c).nextLine
      else terminal.drawn color c) := by
  obtain ⟨width, -⟩ := drawn_size terminal color c
  unfold printChar
  split
  · rfl
  · change (if (terminal.drawn color c).canvas.width < 40 then none
      else if (terminal.drawn color c).termX > (terminal.drawn color c).canvas.width - 40 then
        some (terminal.drawn color c).nextLine
      else some (terminal.drawn color c)) = _
    rw [width, if_neg (by omega)]
    split <;> rfl

/-- A character passes all its checks and leaves the terminal ready for the next. -/
theorem Terminal.Ready.printChar (ready : terminal.Ready) (color : UInt32) (c : Char) :
    ∃ next, checkedPrintChar color terminal c = some next ∧
      Display.printChar color terminal c = some next ∧ next.Ready := by
  obtain ⟨width, height, countable⟩ := ready.bounds
  have row := ready.row
  have column := ready.column
  have wide := ready.wide
  obtain ⟨sameWidth, -⟩ := drawn_size terminal color c
  rw [printChar_eq wide]
  by_cases newline : c = '\n'
  · rw [checkedPrintChar, if_pos newline, if_pos newline]
    exact ⟨_, checkedNextLine_eq ready.toFits, rfl, ready.nextLine⟩
  have fits := ready.toFits.drawn color c
  have drawn : checkedPrintChar color terminal c =
      if (terminal.drawn color c).termX > terminal.canvas.width - 40 then
        (terminal.drawn color c).checkedNextLine
      else some (terminal.drawn color c) := by
    have glyph := checkedGlyph_eq countable (show terminal.termX + 24 < 2 ^ 64 by omega)
      (show terminal.termY + 24 < 2 ^ 64 by omega) (getCharBitmap c.toUpper) color
    have edge : checkedSub (drawGlyph terminal.canvas terminal.termX terminal.termY
        (getCharBitmap c.toUpper) color).width 40 = some (terminal.canvas.width - 40) :=
      (checkedSub_of_le (sameWidth.symm ▸ wide)).trans (congrArg (fun n => some (n - 40)) sameWidth)
    simp only [checkedPrintChar, if_neg newline, glyph, Option.bind_eq_bind, Option.bind_some,
      checked_of_lt (show terminal.termX + (24 + 6) < 2 ^ 64 by omega), edge]
    rfl
  rw [if_neg newline, drawn]
  by_cases wraps : (terminal.drawn color c).termX > terminal.canvas.width - 40
  · rw [if_pos wraps, if_pos wraps]
    exact ⟨_, checkedNextLine_eq fits, rfl, fits.nextLine⟩
  · rw [if_neg wraps, if_neg wraps]
    refine ⟨_, rfl, rfl, fits, ?_⟩
    omega

/-- On a screen that fits into memory no check fails while a text is printed. -/
theorem checkedPrint_ready (ready : terminal.Ready) (text : String) (color : UInt32) :
    ∃ next, checkedPrint terminal text color = some next ∧
      terminalPrint terminal text color = some next ∧ next.Ready := by
  unfold checkedPrint terminalPrint
  induction text.toList generalizing terminal with
  | nil => exact ⟨terminal, rfl, rfl, ready⟩
  | cons c rest ih =>
    obtain ⟨middle, checks, prints, kept⟩ := ready.printChar color c
    rw [run_next checks, run_next prints]
    exact ih kept

end Cursor

namespace Server

variable {server : Server} {canvas : Surface} {cy : Nat} {screen : Framebuffer}

/-- All rows on the screen can be copied to it. -/
def Reaches (server : Server) (canvas : Surface) : Prop :=
  ∀ cy, cy < canvas.height → canvas.y + cy < server.height →
    server.RowReaches canvas cy (canvas.y + cy)

theorem blitRow_exists_iff {screenY : Nat} :
    (∃ final, server.blitRow canvas cy screenY screen = some final) ↔
      server.RowReaches canvas cy screenY :=
  ⟨fun ⟨_, copies⟩ => (blitRow_some copies).1, fun reaches => ⟨_, blitRow_eq reaches⟩⟩

/-- The rows from `cy` on are copied exactly if all visible ones can be. -/
theorem blitRows_exists_iff (rows : Nat) (bounded : canvas.y + cy < 2 ^ 64) :
    (∃ final, server.blitRows canvas cy rows screen = some final) ↔
      ∀ row, cy ≤ row → row < cy + rows → canvas.y + row < server.height →
        server.RowReaches canvas row (canvas.y + row) := by
  induction rows generalizing cy screen with
  | zero =>
    refine ⟨fun _ row after before => absurd after (by omega), fun _ => ⟨screen, rfl⟩⟩
  | succ rows ih =>
    have high := server.high
    by_cases visible : canvas.y + cy < server.height
    · rw [blitRows_visible rows screen visible]
      constructor
      · rintro ⟨final, blits⟩ row after before shown
        obtain ⟨middle, copies, rest⟩ := Option.bind_eq_some_iff.mp blits
        rcases Nat.eq_or_lt_of_le after with rfl | later
        · exact blitRow_exists_iff.mp ⟨middle, copies⟩
        · exact (ih (by omega)).mp ⟨final, rest⟩ row later (by omega) shown
      · intro fit
        obtain ⟨middle, copies⟩ :=
          blitRow_exists_iff.mpr (fit cy (Nat.le_refl cy) (by omega) visible)
        obtain ⟨final, rest⟩ : ∃ final, server.blitRows canvas (cy + 1) rows middle = some final :=
          (ih (by omega)).mpr fun row after before => fit row (by omega) (by omega)
        exact ⟨final, by rw [copies, Option.bind_some, rest]⟩
    · rw [blitRows_below _ screen (by omega) bounded]
      exact ⟨fun _ row after _ shown => absurd shown (by omega), fun _ => ⟨screen, rfl⟩⟩

/-- `blit_canvas` gets through exactly if the visible rows can be copied. -/
theorem blitCanvas_exists_iff (bounded : canvas.y < 2 ^ 64) :
    (∃ final, server.blitCanvas canvas screen = some final) ↔ server.Reaches canvas := by
  rw [blitCanvas, blitRows_exists_iff _ bounded]
  constructor
  · exact fun fit row within shown => fit row (Nat.zero_le _) (by omega) shown
  · exact fun fit row _ within shown => fit row (by omega) shown

/-- A canvas of the kernel's own that ends on the screen is in reach. -/
theorem reaches_of_inside (own : canvas.place = none)
    (column : canvas.x + canvas.width ≤ server.width) : server.Reaches canvas := by
  intro cy within shown
  have wide := server.wide
  have sized := server.sized
  have rows : (canvas.y + cy) * server.stride ≤ server.height * server.stride :=
    Nat.mul_le_mul_right _ (Nat.le_of_lt shown)
  have source : cy * canvas.width ≤ (canvas.y + cy) * server.stride :=
    Nat.mul_le_mul (Nat.le_add_left ..) (by omega)
  rw [Nat.mul_comm server.height] at rows
  exact rowReaches_of_inside own (by omega) column shown

end Server

end QoreOS.Display
