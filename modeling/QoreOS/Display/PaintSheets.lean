import QoreOS.Display.CheckedTerminal
import QoreOS.Display.Painting
import QoreOS.Library.Sheets

/-! What the calls of the main loop leave in the framebuffer: each lays a sheet over the
screen, and nothing beside it. -/

namespace QoreOS.Display

open QoreOS.Library

/-- The set bits of a letter, each a square of that scale. -/
def LetterInk (bitmap : Vector UInt8 8) (scale left top : Nat) (point : Nat × Nat) : Prop :=
  ∃ row col : Fin 8, glyphPixel bitmap row col = true ∧
    Canvas.Rectangle (left + col * scale) (top + row * scale) scale scale point

instance (bitmap : Vector UInt8 8) (scale left top : Nat) (point : Nat × Nat) :
    Decidable (LetterInk bitmap scale left top point) :=
  inferInstanceAs (Decidable (∃ _ _ : Fin 8, _ ∧ _ ≤ _ ∧ _ < _ ∧ _ ≤ _ ∧ _ < _))

/-- The letters of a text, ten bits from each to the next. -/
def TextInk (text : List Char) (scale left top : Nat) (point : Nat × Nat) : Prop :=
  ∃ index : Fin text.length,
    LetterInk (getCharBitmap (text.get index).toUpper) scale (left + 10 * scale * index) top point

instance (text : List Char) (scale left top : Nat) (point : Nat × Nat) :
    Decidable (TextInk text scale left top point) := inferInstanceAs (Decidable (∃ _ : Fin _, _))

instance (startX startY w h : Nat) (point : Nat × Nat) :
    Decidable (Canvas.Rectangle startX startY w h point) :=
  inferInstanceAs (Decidable (_ ≤ _ ∧ _ < _ ∧ _ ≤ _ ∧ _ < _))

namespace PaintCall

/-- The points that the call recolours, as far as they are on the screen. -/
def Covers : PaintCall → Nat × Nat → Prop
  | fillRect x y w h _ => Canvas.Rectangle x y w h
  | drawString x y text _ scale => TextInk text.toList scale x y

instance (call : PaintCall) : DecidablePred call.Covers := fun point =>
  match call with
  | fillRect x y w h _ => inferInstanceAs (Decidable (Canvas.Rectangle x y w h point))
  | drawString x y text _ scale => inferInstanceAs (Decidable (TextInk text.toList scale x y point))

/-- None of the sums of the call overflows. -/
def Fits : PaintCall → Prop
  | fillRect x y w h _ => x + w < 2 ^ 64 ∧ y + h < 2 ^ 64
  | drawString x y text _ scale =>
    x + 10 * scale * text.length < 2 ^ 64 ∧ y + 8 * scale < 2 ^ 64

def sheet (call : PaintCall) : Sheet (Nat × Nat) UInt32 := .filled call.Covers call.color

end PaintCall

namespace Surface

/-- Some rows of a canvas where it stands on the screen. -/
def band (canvas : Surface) (cy rows : Nat) : Sheet (Nat × Nat) UInt32 := fun (x, y) =>
  if Canvas.Rectangle canvas.x (canvas.y + cy) canvas.width rows (x, y) then
    some (canvas.pixels ((y - canvas.y) * canvas.width + (x - canvas.x)))
  else none

def sheet (canvas : Surface) : Sheet (Nat × Nat) UInt32 := canvas.band 0 canvas.height

/-- A row and those behind it. -/
theorem band_succ (canvas : Surface) (cy rows : Nat) : canvas.band cy (rows + 1) =
    Sheet.pile [canvas.band cy 1, canvas.band (cy + 1) rows] := by
  funext ⟨x, y⟩
  simp only [Sheet.pile, Sheet.clear, band, Option.none_or]
  by_cases later : Canvas.Rectangle canvas.x (canvas.y + (cy + 1)) canvas.width rows (x, y)
  · have whole : Canvas.Rectangle canvas.x (canvas.y + cy) canvas.width (rows + 1) (x, y) := by
      obtain ⟨left, right, top, bottom⟩ := later
      exact ⟨left, right, by omega, by omega⟩
    rw [if_pos whole, if_pos later, Option.some_or]
  · rw [if_neg later, Option.none_or]
    refine if_congr ?_ rfl rfl
    constructor
    · rintro ⟨left, right, top, bottom⟩
      refine ⟨left, right, top, Nat.lt_of_not_le fun below => later ⟨left, right, ?_, ?_⟩⟩
      · omega
      · omega
    · rintro ⟨left, right, top, bottom⟩
      exact ⟨left, right, top, by omega⟩

end Surface

namespace Server

/-- The point that a word of the framebuffer shows. -/
def point (server : Server) (word : Nat) : Option (Nat × Nat) :=
  if server.Visible (word % server.stride, word / server.stride) then
    some (word % server.stride, word / server.stride)
  else none

/-- A sheet as the words of the framebuffer show it. -/
def onScreen (server : Server) (sheet : Sheet (Nat × Nat) UInt32) : Sheet Nat UInt32 :=
  sheet.onto server.point

variable {server : Server} {screen : Framebuffer} {color : UInt32} {x y w h scale : Nat}
  {bitmap : Vector UInt8 8}

theorem point_eq_some {word : Nat} {point : Nat × Nat} : server.point word = some point ↔
    server.Visible point ∧ word = point.2 * server.stride + point.1 := by
  unfold Server.point
  constructor
  · intro shown
    obtain ⟨visible, same⟩ := Option.ite_none_right_eq_some.mp shown
    rw [← Option.some.inj same]
    exact ⟨visible, (Nat.div_add_mod' word server.stride).symm⟩
  · rintro ⟨visible, rfl⟩
    have wide : point.1 < server.stride := Nat.lt_of_lt_of_le visible.1 server.wide
    have row : (point.2 * server.stride + point.1) / server.stride = point.2 := by
      rw [Nat.mul_comm, Nat.mul_add_div (by omega), Nat.div_eq_of_lt wide, Nat.add_zero]
    have column : (point.2 * server.stride + point.1) % server.stride = point.1 := by
      rw [Nat.mul_comm, Nat.mul_add_mod, Nat.mod_eq_of_lt wide]
    rw [row, column, if_pos visible]

theorem point_word {point : Nat × Nat} (visible : server.Visible point) :
    server.point (point.2 * server.stride + point.1) = some point :=
  point_eq_some.mpr ⟨visible, rfl⟩

/-- The words of points that are on the screen. -/
abbrev Words (server : Server) (covers : Nat × Nat → Prop) (word : Nat) : Prop :=
  ∃ point, server.point word = some point ∧ covers point

theorem withPixel_words (screen : Framebuffer) (x y : Nat) (color : UInt32) :
    AltersAt (fun _ => color) (server.Words (· = (x, y))) screen (server.withPixel screen x y color) := by
  unfold withPixel
  by_cases visible : server.Visible (x, y)
  · rw [if_pos visible]
    apply (AltersAt.update screen (y * server.stride + x)).congr
    intro word
    constructor
    · rintro rfl
      exact ⟨(x, y), point_word visible, rfl⟩
    · rintro ⟨point, shown, rfl⟩
      exact (point_eq_some.mp shown).2
  · rw [if_neg visible]
    apply AltersAt.none
    rintro word ⟨point, shown, rfl⟩
    exact visible (point_eq_some.mp shown).1

variable (server) in
/-- `fill_rect` writes the words of its rectangle and no others. -/
theorem fillRect_words (right : x + w < 2 ^ 64) (bottom : y + h < 2 ^ 64) (color : UInt32)
    (screen : Framebuffer) : ∃ final, server.fillRect x y w h color screen = some final ∧
      AltersAt (fun _ => color) (server.Words (Canvas.Rectangle x y w h)) screen final := by
  have idempotent : ∀ value : UInt32, (fun _ => color) ((fun _ => color) value) =
      (fun _ => color) value := fun _ => rfl
  have row : ∀ (screen : Framebuffer) (currY : Nat), AltersAt (fun _ => color)
      (fun word => ∃ currX ∈ List.range' x w, server.Words (· = (currX, currY)) word)
      screen ((List.range' x w).foldl
        (fun screen currX => server.withPixel screen currX currY color) screen) :=
    fun screen currY => AltersAt.foldl id idempotent
      (fun screen currX => withPixel_words screen currX currY color)
      (fun _ _ _ _ => Iff.rfl) _ screen
  refine ⟨_, fillRect_eq right bottom color screen, ?_⟩
  refine (AltersAt.foldl id idempotent row (fun _ _ _ _ => Iff.rfl) _ screen).congr ?_
  intro word
  simp only [List.mem_range'_1]
  constructor
  · rintro ⟨currY, inside, currX, across, _, shown, rfl⟩
    exact ⟨_, shown, across.1, across.2, inside.1, inside.2⟩
  · rintro ⟨point, shown, left, within, top, above⟩
    exact ⟨point.2, ⟨top, above⟩, point.1, ⟨left, within⟩, point, shown, rfl⟩

section Letters

theorem drawBit_words (right : x + 8 * scale < 2 ^ 64) (bottom : y + 8 * scale < 2 ^ 64)
    (row col : Fin 8) (screen : Framebuffer) : ∃ final,
    server.drawBit x y bitmap color scale row screen col = some final ∧
      AltersAt (fun _ => color) (server.Words fun point => glyphPixel bitmap row col = true ∧
        Canvas.Rectangle (x + col * scale) (y + row * scale) scale scale point) screen final := by
  have column : (col.val + 1) * scale ≤ 8 * scale := Nat.mul_le_mul_right _ col.isLt
  have line : (row.val + 1) * scale ≤ 8 * scale := Nat.mul_le_mul_right _ row.isLt
  rw [Nat.succ_mul] at column line
  unfold drawBit
  split
  case isTrue set =>
    have inside : x + col * scale + scale < 2 ^ 64 := by omega
    have above : y + row * scale + scale < 2 ^ 64 := by omega
    obtain ⟨final, filled, alters⟩ := fillRect_words server inside above color screen
    rw [checked_of_lt (by omega), Option.bind_eq_bind, Option.bind_some, checked_of_lt (by omega),
      Option.bind_some, checked_of_lt (by omega), Option.bind_some, checked_of_lt (by omega),
      Option.bind_some]
    refine ⟨final, filled, alters.congr ?_⟩
    intro word
    simp [set]
  case isFalse unset =>
    exact ⟨screen, rfl, AltersAt.none _ (by simp [unset])⟩

variable (server bitmap color) in
theorem letter_words (right : x + 8 * scale < 2 ^ 64) (bottom : y + 8 * scale < 2 ^ 64)
    (screen : Framebuffer) : ∃ final,
    run (fun screen row => run (server.drawBit x y bitmap color scale row) (List.finRange 8) screen)
      (List.finRange 8) screen = some final ∧
      AltersAt (fun _ => color) (server.Words (LetterInk bitmap scale x y)) screen final := by
  have idempotent : ∀ value : UInt32, (fun _ => color) ((fun _ => color) value) =
      (fun _ => color) value := fun _ => rfl
  obtain ⟨final, drawn, alters⟩ := AltersAt.run id idempotent (List.finRange 8)
    (fun row _ screen => AltersAt.run id idempotent (List.finRange 8)
      (fun col _ screen => drawBit_words right bottom row col screen) screen) screen
  refine ⟨final, drawn, alters.congr ?_⟩
  intro word
  simp only [List.mem_finRange, true_and]
  constructor
  · rintro ⟨row, col, point, shown, set, inside⟩
    exact ⟨point, shown, row, col, set, inside⟩
  · rintro ⟨point, shown, row, col, set, inside⟩
    exact ⟨row, col, point, shown, set, inside⟩

/-- The ink of a text is that of its first letter and that of the others. -/
theorem textInk_cons (c : Char) (rest : List Char) (point : Nat × Nat) :
    TextInk (c :: rest) scale x y point ↔
      LetterInk (getCharBitmap c.toUpper) scale x y point ∨
        TextInk rest scale (x + 10 * scale) y point := by
  unfold TextInk
  refine (Fin.exists_fin_succ (n := rest.length)).trans (or_congr ?_ (exists_congr fun index => ?_))
  · simp
  · have further : x + 10 * scale * (index.val + 1) = x + 10 * scale + 10 * scale * index.val := by
      ring
    simp [further]

variable (server color) in
theorem drawLetters_words (bottom : y + 8 * scale < 2 ^ 64) (text : List Char)
    (right : x + 10 * scale * text.length < 2 ^ 64) (screen : Framebuffer) : ∃ final,
    server.drawLetters y color scale x text screen = some final ∧
      AltersAt (fun _ => color) (server.Words (TextInk text scale x y)) screen final := by
  induction text generalizing x screen with
  | nil =>
    refine ⟨screen, rfl, AltersAt.none _ ?_⟩
    rintro word ⟨point, shown, index, -⟩
    exact index.elim0
  | cons c rest ih =>
    rw [List.length_cons, Nat.mul_add, Nat.mul_one] at right
    have inside : x + 8 * scale < 2 ^ 64 := by omega
    have beyond : x + 10 * scale + 10 * scale * rest.length < 2 ^ 64 := by omega
    obtain ⟨middle, drawn, first⟩ :=
      letter_words server color (getCharBitmap c.toUpper) inside bottom screen
    obtain ⟨final, drawnRest, second⟩ := ih beyond middle
    have idempotent : ∀ value : UInt32, (fun _ => color) ((fun _ => color) value) =
      (fun _ => color) value := fun _ => rfl
    refine ⟨final, ?_, (first.trans idempotent second).congr ?_⟩
    · have advance : x + (8 * scale + 2 * scale) = x + 10 * scale := by omega
      simp only [drawLetters, drawn, Option.bind_eq_bind, Option.bind_some]
      rw [checked_of_lt (by omega), Option.bind_some, checked_of_lt (by omega), Option.bind_some,
        checked_of_lt (by omega), Option.bind_some, checked_of_lt (by omega), Option.bind_some,
        advance, drawnRest]
    · intro word
      rw [← exists_or]
      refine exists_congr fun point => ?_
      rw [← and_or_left, textInk_cons]

end Letters

section Blit

variable {canvas : Surface} {cy : Nat}

/-- A row copy that ends on the screen lays the row. -/
theorem copy_sheet (column : canvas.x + canvas.width ≤ server.width)
    (visible : canvas.y + cy < server.height) (screen : Framebuffer) :
    screen.copy ((canvas.y + cy) * server.stride + canvas.x) canvas.pixels (cy * canvas.width)
      canvas.width = (server.onScreen (canvas.band cy 1)).onTop screen := by
  funext word
  unfold Framebuffer.copy
  by_cases copied : (canvas.y + cy) * server.stride + canvas.x ≤ word ∧
      word < (canvas.y + cy) * server.stride + canvas.x + canvas.width
  · rw [if_pos copied]
    obtain ⟨cx, rfl⟩ := Nat.exists_eq_add_of_le copied.1
    have target : server.Visible (canvas.x + cx, canvas.y + cy) := ⟨by dsimp only; omega, visible⟩
    have shown : server.point ((canvas.y + cy) * server.stride + canvas.x + cx) =
        some (canvas.x + cx, canvas.y + cy) := by
      rw [Nat.add_assoc]
      exact point_word target
    refine (Sheet.onTop_of_eq_some ?_).symm
    rw [onScreen, Sheet.onto, shown, Option.bind_some, Surface.band,
      if_pos ⟨by omega, by omega, by omega, by omega⟩, Nat.add_sub_cancel_left,
      Nat.add_sub_cancel_left, Nat.add_sub_cancel_left]
  · rw [if_neg copied]
    refine (Sheet.onTop_of_eq_none ?_).symm
    rw [onScreen, Sheet.onto, Option.bind_eq_none_iff]
    rintro ⟨x, y⟩ shown
    obtain ⟨-, rfl⟩ := point_eq_some.mp shown
    refine if_neg ?_
    rintro ⟨left, right, top, bottom⟩
    have row : y = canvas.y + cy := by omega
    dsimp only at copied
    rw [row] at copied
    omega

theorem blitRows_sheet (own : canvas.place = none)
    (column : canvas.x + canvas.width ≤ server.width) (rows : Nat)
    (within : cy + rows ≤ canvas.height) (bounded : canvas.y + cy < 2 ^ 64) (screen : Framebuffer) :
    server.blitRows canvas cy rows screen =
      some ((server.onScreen (canvas.band cy rows)).onTop screen) := by
  induction rows generalizing cy screen with
  | zero =>
    refine congrArg some (funext fun word => (Sheet.onTop_of_eq_none ?_).symm)
    rw [onScreen, Sheet.onto, Option.bind_eq_none_iff]
    rintro ⟨x, y⟩ -
    exact if_neg fun inside => by
      have := inside.2.2
      omega
  | succ rows ih =>
    by_cases visible : canvas.y + cy < server.height
    · have high := server.high
      have reaches := reaches_of_inside own column cy (by omega) visible
      rw [blitRows_visible rows screen visible, blitRow_eq reaches, Option.bind_some,
        ih (by omega) (by omega), copy_sheet column visible, canvas.band_succ cy rows, onScreen,
        onScreen, onScreen, Sheet.onto_pile, List.map_cons, List.map_cons, Sheet.onTop_pile]
      rfl
    · -- the rows from here on are below the screen
      rw [blitRows_below _ screen (by omega) bounded]
      refine congrArg some (funext fun word => (Sheet.onTop_of_eq_none ?_).symm)
      rw [onScreen, Sheet.onto, Option.bind_eq_none_iff]
      rintro ⟨x, y⟩ shown
      have row := (point_eq_some.mp shown).1.2
      exact if_neg fun inside => by
        have := inside.2.2
        omega

/-- `blit_canvas` lays the canvas. -/
theorem blitCanvas_sheet (own : canvas.place = none)
    (column : canvas.x + canvas.width ≤ server.width) (row : canvas.y < 2 ^ 64) (screen : Framebuffer) : server.blitCanvas canvas screen =
      some ((server.onScreen canvas.sheet).onTop screen) :=
  blitRows_sheet own column canvas.height (by omega) row screen

end Blit

/-- A call lays its sheet. -/
theorem perform_sheet {call : PaintCall} (fits : call.Fits) (screen : Framebuffer) : ∃ final,
    server.perform screen call = some final ∧ final = (server.onScreen call.sheet).onTop screen := by
  cases call with
  | fillRect x y w h color =>
    obtain ⟨final, filled, alters⟩ := fillRect_words server fits.1 fits.2 color screen
    exact ⟨final, filled, Sheet.onTop_of_altersAt alters⟩
  | drawString x y text color scale =>
    obtain ⟨final, drawn, alters⟩ := drawLetters_words server color fits.2
      text.toList (by rw [String.length_toList]; exact fits.1) screen
    exact ⟨final, drawn, Sheet.onTop_of_altersAt alters⟩

end Server

end QoreOS.Display
