import QoreOS.Display.Canvas
import QoreOS.Display.Font
import QoreOS.Library.Run

/-! The terminal emulator of `compositor.rs` and its refinement of an unbounded
page. The closing `blit_canvas` of a print only reads the canvas. -/

namespace QoreOS.Display

open QoreOS.Library

def white : UInt32 := 0xFFFFFF

/-- The terminal layer with its cursor. `scrolls` is a ghost counter of the
calls of `scrollUp`; the code has no such variable. -/
structure Terminal where
  canvas : Canvas
  termX : Nat
  termY : Nat
  scrolls : Nat

/-- A blank layer with the cursor at its static start values. -/
def Terminal.blank (x y width height : Nat) : Terminal where
  canvas := Canvas.new x y width height white
  termX := 20
  termY := 20
  scrolls := 0

/-- The move to the next line, the same for a newline and for a wrap. -/
def Terminal.nextLine (terminal : Terminal) : Terminal :=
  if terminal.termY + 30 + 30 > terminal.canvas.height then
    { canvas := terminal.canvas.scrollUp 30 white
      termX := 20
      termY := terminal.termY + 30 - 30
      scrolls := terminal.scrolls + 1 }
  else { terminal with termX := 20, termY := terminal.termY + 30 }

/-- The two loops over the bits of a glyph, three pixels to a bit. -/
def drawGlyph (canvas : Canvas) (left top : Nat) (bitmap : Vector UInt8 8) (color : UInt32) :
    Canvas :=
  (List.finRange 8).foldl (fun canvas row =>
    (List.finRange 8).foldl (fun canvas col =>
      if glyphPixel bitmap row col then
        canvas.fillRect (left + col * 3) (top + row * 3) 3 3 color
      else canvas) canvas) canvas

/-- One character of `terminalPrint`. The subtraction `canvas.width - 40`
panics on a narrower canvas. -/
def printChar (color : UInt32) (terminal : Terminal) (c : Char) : Option Terminal :=
  if c = '\n' then some terminal.nextLine
  else
    let bitmap := getCharBitmap c.toUpper
    let terminal := { terminal with
      canvas := drawGlyph terminal.canvas terminal.termX terminal.termY bitmap color
      termX := terminal.termX + (24 + 6) }
    if terminal.canvas.width < 40 then none
    else if terminal.termX > terminal.canvas.width - 40 then some terminal.nextLine
    else some terminal

def terminalPrint (terminal : Terminal) (text : String) (color : UInt32) : Option Terminal :=
  run (printChar color) text.toList terminal

/-- Any sequence of `terminalPrint` calls. -/
def printAll (calls : List (String × UInt32)) (terminal : Terminal) : Option Terminal :=
  run (fun terminal call => terminalPrint terminal call.1 call.2) calls terminal

/-- The characters of a sequence of calls, each with its colour. -/
def stream (calls : List (String × UInt32)) : List (Char × UInt32) :=
  calls.flatMap fun call => call.1.toList.map (·, call.2)

/-- One step of the terminal on a coloured character. -/
def printStep (terminal : Terminal) (cell : Char × UInt32) : Option Terminal :=
  printChar cell.2 terminal cell.1

theorem printAll_eq_run (calls : List (String × UInt32)) (terminal : Terminal) :
    printAll calls terminal = run printStep (stream calls) terminal := by
  have call_eq : ∀ (text : List Char) (color : UInt32) (terminal : Terminal),
      run (printChar color) text terminal = run printStep (text.map (·, color)) terminal := by
    intro text color terminal
    simp only [run, List.foldlM_map]
    rfl
  induction calls generalizing terminal with
  | nil => rfl
  | cons call rest ih =>
    rw [printAll, run_cons, stream, List.flatMap_cons, run_append, terminalPrint, call_eq]
    exact congrArg _ (funext ih)

/-- The unbounded page: the cursor cell and the colour of every point. -/
structure Page where
  column : Nat
  row : Nat
  ink : Nat × Nat → UInt32

def Page.blank : Page where
  column := 20
  row := 20
  ink := fun _ => white

/-- The set bits of a glyph whose cell starts at a point, three pixels a bit. -/
def GlyphInk (bitmap : Vector UInt8 8) (left top : Nat) (point : Nat × Nat) : Prop :=
  ∃ row col : Fin 8, glyphPixel bitmap row col = true ∧
    Canvas.Rectangle (left + col * 3) (top + row * 3) 3 3 point

instance (bitmap : Vector UInt8 8) (left top : Nat) (point : Nat × Nat) :
    Decidable (GlyphInk bitmap left top point) :=
  inferInstanceAs (Decidable (∃ _ _ : Fin 8, _ ∧ _ ≤ _ ∧ _ < _ ∧ _ ≤ _ ∧ _ < _))

/-- Lay out one character in a cell of 30 by 30 on a page `width` wide; a
newline, or a next column beyond `width - 40`, leads to column 20 below. -/
def Page.put (width : Nat) (page : Page) (cell : Char × UInt32) : Page :=
  if cell.1 = '\n' then { page with column := 20, row := page.row + 30 }
  else
    let inked : Nat × Nat → UInt32 := fun point =>
      if GlyphInk (getCharBitmap cell.1.toUpper) page.column page.row point then cell.2
      else page.ink point
    if page.column + 30 > width - 40 then { column := 20, row := page.row + 30, ink := inked }
    else { column := page.column + 30, row := page.row, ink := inked }

/-- The page on which the whole text so far is laid out. -/
def layout (width : Nat) (text : List (Char × UInt32)) : Page :=
  text.foldl (Page.put width) Page.blank

/-- The canvas shows the page from line `30 * scrolls` on, and the page is
still blank below the line of the cursor. -/
structure Shows (width height : Nat) (terminal : Terminal) (page : Page) : Prop where
  canvasWidth : terminal.canvas.width = width
  canvasHeight : terminal.canvas.height = height
  column : terminal.termX = page.column
  row : terminal.termY + 30 * terminal.scrolls = page.row
  columnBound : terminal.termX ≤ width - 40
  rowBound : terminal.termY + 30 ≤ height
  pixels : ∀ x y, x < width → y < height →
    terminal.canvas.picture (x, y) = page.ink (x, y + 30 * terminal.scrolls)
  blankBelow : ∀ x y, page.row + 30 ≤ y → page.ink (x, y) = white

theorem Shows.initial (left top : Nat) {width height : Nat} (wide : 60 ≤ width) (high : 50 ≤ height) :
    Shows width height (Terminal.blank left top width height) Page.blank where
  canvasWidth := rfl
  canvasHeight := rfl
  column := rfl
  row := rfl
  columnBound := by simp only [Terminal.blank]; omega
  rowBound := high
  pixels := fun x y column row => Canvas.picture_new ⟨column, row⟩
  blankBelow := fun _ _ _ => rfl

/-- The loops of a glyph recolour exactly its ink on the canvas. -/
theorem drawGlyph_alters (canvas : Canvas) (left top : Nat) (bitmap : Vector UInt8 8)
    (color : UInt32) :
    (drawGlyph canvas left top bitmap color).width = canvas.width ∧
    (drawGlyph canvas left top bitmap color).height = canvas.height ∧
    AltersAt (fun _ => color)
      (fun point => canvas.Contains point ∧ GlyphInk bitmap left top point)
      canvas.picture (drawGlyph canvas left top bitmap color).picture := by
  let bit (row : Fin 8) (canvas : Canvas) (col : Fin 8) : Canvas :=
    if glyphPixel bitmap row col then
      canvas.fillRect (left + col * 3) (top + row * 3) 3 3 color
    else canvas
  let line (canvas : Canvas) (row : Fin 8) : Canvas := (List.finRange 8).foldl (bit row) canvas
  have bit_width : ∀ row canvas col, (bit row canvas col).width = canvas.width := by
    intro row canvas col
    dsimp only [bit]
    split <;> simp
  have bit_height : ∀ row canvas col, (bit row canvas col).height = canvas.height := by
    intro row canvas col
    dsimp only [bit]
    split <;> simp
  have line_width : ∀ canvas row, (line canvas row).width = canvas.width :=
    fun canvas row => (Canvas.foldl_size (bit_width row) (bit_height row) _ canvas).1
  have line_height : ∀ canvas row, (line canvas row).height = canvas.height :=
    fun canvas row => (Canvas.foldl_size (bit_width row) (bit_height row) _ canvas).2
  have bit_alters : ∀ row canvas col, AltersAt (fun _ => color)
      (fun point => canvas.Contains point ∧ glyphPixel bitmap row col = true ∧
        Canvas.Rectangle (left + col * 3) (top + row * 3) 3 3 point)
      canvas.picture (bit row canvas col).picture := by
    intro row canvas col
    dsimp only [bit]
    split
    · rename_i set
      apply (canvas.fillRect_alters _ _ _ _ color).congr
      simp [set]
    · rename_i clear
      apply AltersAt.none
      simp [clear]
  have line_alters := fun (canvas : Canvas) (row : Fin 8) =>
    Canvas.foldl_alters (bit_width row) (bit_height row) (bit_alters row) (List.finRange 8) canvas
  have size := Canvas.foldl_size line_width line_height (List.finRange 8) canvas
  refine ⟨size.1, size.2, ?_⟩
  apply (Canvas.foldl_alters line_width line_height line_alters (List.finRange 8) canvas).congr
  intro point
  simp [GlyphInk]

/-- A line feed on both sides; on the canvas it may scroll. The rows which a
scroll brings in lie below the cursor line, where the page is blank. -/
theorem Shows.nextLine {width height : Nat} {terminal : Terminal} {page : Page}
    (wide : 60 ≤ width) (shows : Shows width height terminal page) :
    Shows width height terminal.nextLine { page with column := 20, row := page.row + 30 } := by
  have row := shows.row
  have bound := shows.rowBound
  have blank : ∀ x y, page.row + 30 + 30 ≤ y → page.ink (x, y) = white :=
    fun x y below => shows.blankBelow x y (by omega)
  unfold Terminal.nextLine
  split
  · refine ⟨shows.canvasWidth, shows.canvasHeight, rfl, ?_, ?_, ?_, ?_, blank⟩
    · dsimp only
      omega
    · dsimp only
      omega
    · dsimp only
      omega
    · intro x y inColumn inRow
      have inside : terminal.canvas.Contains (x, y) :=
        ⟨shows.canvasWidth ▸ inColumn, shows.canvasHeight ▸ inRow⟩
      dsimp only
      rw [Canvas.scrollUp_picture _ _ _ inside, shows.canvasHeight]
      have shift : y + 30 + 30 * terminal.scrolls = y + 30 * (terminal.scrolls + 1) := by ring
      split
      · rename_i source
        rw [shows.pixels x (y + 30) inColumn source, shift]
      · rename_i beyond
        exact (shows.blankBelow x _ (by omega)).symm
  · refine ⟨shows.canvasWidth, shows.canvasHeight, rfl, ?_, ?_, ?_, shows.pixels, blank⟩
    · dsimp only
      omega
    · dsimp only
      omega
    · have height := shows.canvasHeight
      dsimp only
      omega

/-- Drawing a glyph at the cursor: the ink lies inside the canvas, in the cell
of the page's cursor. -/
theorem Shows.draw {width height : Nat} {terminal : Terminal} {page : Page}
    (shows : Shows width height terminal page) (bitmap : Vector UInt8 8) (color : UInt32) :
    Shows width height
      { terminal with canvas := drawGlyph terminal.canvas terminal.termX terminal.termY bitmap color }
      { page with ink := fun point =>
          if GlyphInk bitmap page.column page.row point then color else page.ink point } := by
  obtain ⟨sameWidth, sameHeight, alters⟩ :=
    drawGlyph_alters terminal.canvas terminal.termX terminal.termY bitmap color
  have row := shows.row
  have bound := shows.rowBound
  refine ⟨sameWidth.trans shows.canvasWidth, sameHeight.trans shows.canvasHeight, shows.column,
    row, shows.columnBound, bound, ?_, ?_⟩
  · intro x y inColumn inRow
    have inside : terminal.canvas.Contains (x, y) :=
      ⟨shows.canvasWidth ▸ inColumn, shows.canvasHeight ▸ inRow⟩
    have shifted : GlyphInk bitmap terminal.termX terminal.termY (x, y) ↔
        GlyphInk bitmap page.column page.row (x, y + 30 * terminal.scrolls) := by
      simp only [GlyphInk, Canvas.Rectangle, ← shows.column, ← row]
      refine exists_congr fun line => exists_congr fun col => and_congr_right fun _ => ?_
      omega
    dsimp only
    by_cases ink : GlyphInk bitmap terminal.termX terminal.termY (x, y)
    · rw [(alters (x, y)).1 ⟨inside, ink⟩, if_pos (shifted.mp ink)]
    · rw [(alters (x, y)).2 (fun drawn => ink drawn.2), if_neg (fun other => ink (shifted.mpr other))]
      exact shows.pixels x y inColumn inRow
  · intro x y below
    dsimp only at below ⊢
    rw [if_neg]
    · exact shows.blankBelow x y below
    · rintro ⟨line, col, _, _, _, _, bottom⟩
      have last := line.isLt
      dsimp only at bottom
      omega

/-- One character keeps the canvas a window on the page. -/
theorem Shows.step {width height : Nat} {terminal : Terminal} {page : Page} (wide : 60 ≤ width)
    (shows : Shows width height terminal page) (cell : Char × UInt32) :
    ∃ next, printStep terminal cell = some next ∧ Shows width height next (page.put width cell) := by
  by_cases newline : cell.1 = '\n'
  · refine ⟨terminal.nextLine, by simp [printStep, printChar, newline], ?_⟩
    simp only [Page.put, newline, ↓reduceIte]
    exact shows.nextLine wide
  · have drawn := shows.draw (getCharBitmap cell.1.toUpper) cell.2
    have column := shows.column
    have sameWidth := drawn.canvasWidth
    dsimp only at sameWidth
    simp only [printStep, printChar, newline, ↓reduceIte, Page.put, sameWidth]
    rw [if_neg (by omega)]
    by_cases wraps : page.column + 30 > width - 40
    · rw [if_pos (by omega), if_pos wraps]
      exact ⟨_, rfl, drawn.nextLine wide⟩
    · rw [if_neg (by omega), if_neg wraps]
      refine ⟨_, rfl, ?_⟩
      exact { drawn with
        column := by dsimp only; omega
        columnBound := by dsimp only; omega }

theorem Shows.run {width height : Nat} {terminal : Terminal} {page : Page} (wide : 60 ≤ width)
    (shows : Shows width height terminal page) (text : List (Char × UInt32)) :
    ∃ final, Library.run printStep text terminal = some final ∧
      Shows width height final (text.foldl (Page.put width) page) := by
  induction text generalizing terminal page with
  | nil => exact ⟨terminal, rfl, shows⟩
  | cons cell rest ih =>
    obtain ⟨next, stepped, kept⟩ := shows.step wide cell
    obtain ⟨final, success, holds⟩ := ih kept
    exact ⟨final, by rw [run_cons, stepped]; exact success, holds⟩

/-- The terminal refines the scrolling page. Over any calls, and between any
two of their characters, the canvas is the page seen from line `30 * scrolls`
on, the cursor is inside its bounds and the next glyph fits on the canvas. -/
theorem terminal_refines_page {left top width height : Nat} (wide : 60 ≤ width) (high : 50 ≤ height)
    (calls : List (String × UInt32)) :
    (∃ final, printAll calls (Terminal.blank left top width height) = some final ∧
      ∀ x y, x < width → y < height →
        final.canvas.picture (x, y) = (layout width (stream calls)).ink (x, y + 30 * final.scrolls)) ∧
    ∀ text, text <+: stream calls →
      ∃ between, run printStep text (Terminal.blank left top width height) = some between ∧
        between.canvas.width = width ∧ between.canvas.height = height ∧
        (∀ x y, x < width → y < height →
          between.canvas.picture (x, y) = (layout width text).ink (x, y + 30 * between.scrolls)) ∧
        between.termX ≤ width - 40 ∧ between.termY + 30 ≤ height ∧
        between.termX + 24 ≤ width ∧ between.termY + 24 ≤ height := by
  have start := Shows.initial left top wide high
  constructor
  · obtain ⟨final, success, shows⟩ := start.run wide (stream calls)
    exact ⟨final, by rw [printAll_eq_run, success], shows.pixels⟩
  · intro text _
    obtain ⟨between, success, shows⟩ := start.run wide text
    have column := shows.columnBound
    have row := shows.rowBound
    exact ⟨between, success, shows.canvasWidth, shows.canvasHeight, shows.pixels, column, row,
      by omega, by omega⟩

theorem terminal_refines_page_narrow :
    ∃ final, printAll [("AB\nC", 0x10B981), ("\n\n!", 0xEF4444)] (Terminal.blank 0 40 70 80) =
        some final ∧
      ∀ x y, x < 70 → y < 80 → final.canvas.picture (x, y) =
        (layout 70 (stream [("AB\nC", 0x10B981), ("\n\n!", 0xEF4444)])).ink
          (x, y + 30 * final.scrolls) :=
  (terminal_refines_page (by decide) (by decide) _).1

end QoreOS.Display
