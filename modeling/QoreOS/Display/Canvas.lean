import QoreOS.Library.Alter
import Mathlib.Tactic.Ring

/-! The off-screen canvas of `compositor.rs` and the picture it holds. The
pixel buffer has `width * height` entries by construction, so a pixel that
passes the bounds test of `drawPixel` has a slot. -/

namespace QoreOS.Display

open QoreOS.Library

structure Canvas where
  x : Nat
  y : Nat
  width : Nat
  height : Nat
  pixels : Vector UInt32 (width * height)

namespace Canvas

def new (x y width height : Nat) (bgColor : UInt32) : Canvas where
  x := x
  y := y
  width := width
  height := height
  pixels := Vector.replicate (width * height) bgColor

theorem pixel_slot {width height px py : Nat} (column : px < width) (row : py < height) :
    py * width + px < width * height := by
  calc py * width + px < py * width + width := by omega
    _ = (py + 1) * width := by ring
    _ ≤ height * width := Nat.mul_le_mul_right width row
    _ = width * height := Nat.mul_comm height width

def drawPixel (canvas : Canvas) (px py : Nat) (color : UInt32) : Canvas :=
  if inside : px < canvas.width ∧ py < canvas.height then
    have := pixel_slot inside.1 inside.2
    { canvas with pixels := canvas.pixels.set (py * canvas.width + px) color }
  else canvas

def fillRect (canvas : Canvas) (startX startY w h : Nat) (color : UInt32) : Canvas :=
  (List.range' startY h).foldl (fun canvas y =>
    (List.range' startX w).foldl (fun canvas x => canvas.drawPixel x y color) canvas) canvas

/-- `copyWithin(shift.., 0)`: the tail moves to the front, the rest stays. -/
def copyWithin (pixels : Vector UInt32 size) (shift : Nat) : Vector UInt32 size :=
  Vector.ofFn fun i => if inside : i + shift < size then pixels[i + shift] else pixels[i]

/-- `pixels[start..].fill(color)`. -/
def fillFrom (pixels : Vector UInt32 size) (start : Nat) (color : UInt32) : Vector UInt32 size :=
  Vector.ofFn fun i => if start ≤ i then color else pixels[i]

/-- The effect of `scrollUp` on the buffer. -/
def scrollPixels (pixels : Vector UInt32 len) (pixelShift : Nat) (bgColor : UInt32) :
    Vector UInt32 len :=
  if pixelShift ≥ len then fillFrom pixels 0 bgColor
  else fillFrom (copyWithin pixels pixelShift) (len - pixelShift) bgColor

def scrollUp (canvas : Canvas) (shiftY : Nat) (bgColor : UInt32) : Canvas :=
  let pixelShift := shiftY * canvas.width
  { canvas with pixels := scrollPixels canvas.pixels pixelShift bgColor }

/-- The picture on the canvas: its colour at each point, 0 outside. -/
def picture (canvas : Canvas) : Nat × Nat → UInt32 := fun (x, y) =>
  if inside : x < canvas.width ∧ y < canvas.height then
    have := pixel_slot inside.1 inside.2
    canvas.pixels[y * canvas.width + x]
  else 0

/-- The points which a drawing operation may reach. -/
def Contains (canvas : Canvas) (point : Nat × Nat) : Prop :=
  point.1 < canvas.width ∧ point.2 < canvas.height

theorem picture_new {left top columns rows : Nat} {color : UInt32} {point : Nat × Nat}
    (inside : (new left top columns rows color).Contains point) :
    (new left top columns rows color).picture point = color := by
  obtain ⟨column, row⟩ := inside
  simp only [picture]
  rw [dif_pos ⟨column, row⟩]
  simp [new]

@[simp] theorem drawPixel_width (canvas : Canvas) (px py : Nat) (color : UInt32) :
    (canvas.drawPixel px py color).width = canvas.width := by
  unfold drawPixel
  split <;> rfl

@[simp] theorem drawPixel_height (canvas : Canvas) (px py : Nat) (color : UInt32) :
    (canvas.drawPixel px py color).height = canvas.height := by
  unfold drawPixel
  split <;> rfl

theorem slot_injective {width x y px py : Nat} (column : x < width) (other : px < width)
    (same : py * width + px = y * width + x) : px = x ∧ py = y := by
  have columns : px = x := by
    have reduced := congrArg (· % width) same
    simpa [Nat.mod_eq_of_lt column, Nat.mod_eq_of_lt other] using reduced
  subst columns
  have positive : 0 < width := by omega
  exact ⟨rfl, Nat.eq_of_mul_eq_mul_right positive (by omega)⟩

theorem drawPixel_alters (canvas : Canvas) (px py : Nat) (color : UInt32) :
    AltersAt (fun _ => color) (fun point => canvas.Contains point ∧ point = (px, py))
      canvas.picture (canvas.drawPixel px py color).picture := by
  rintro ⟨x, y⟩
  by_cases target : px < canvas.width ∧ py < canvas.height
  · have drawn : canvas.drawPixel px py color = { canvas with
        pixels := canvas.pixels.set (py * canvas.width + px) color
          (pixel_slot target.1 target.2) } := dif_pos target
    rw [drawn]
    constructor
    · rintro ⟨inside, same⟩
      cases same
      simp only [picture]
      rw [dif_pos target, Vector.getElem_set_self]
    · intro elsewhere
      simp only [picture]
      by_cases inside : x < canvas.width ∧ y < canvas.height
      · rw [dif_pos inside, dif_pos inside, Vector.getElem_set_ne]
        intro same
        obtain ⟨rfl, rfl⟩ := slot_injective inside.1 target.1 same
        exact elsewhere ⟨inside, rfl⟩
      · rw [dif_neg inside, dif_neg inside]
  · have skipped : canvas.drawPixel px py color = canvas := dif_neg target
    rw [skipped]
    refine ⟨?_, fun _ => rfl⟩
    rintro ⟨inside, same⟩
    cases same
    exact absurd inside target

/-- A loop of drawing steps keeps what each step keeps. -/
theorem foldl_keeps {View : Type*} (view : Canvas → View) {step : Canvas → Index → Canvas}
    (kept : ∀ canvas index, view (step canvas index) = view canvas)
    (indices : List Index) (canvas : Canvas) : view (indices.foldl step canvas) = view canvas := by
  induction indices generalizing canvas with
  | nil => rfl
  | cons index rest ih => exact (ih (step canvas index)).trans (kept canvas index)

theorem foldl_size {step : Canvas → Index → Canvas}
    (width : ∀ canvas index, (step canvas index).width = canvas.width)
    (height : ∀ canvas index, (step canvas index).height = canvas.height)
    (indices : List Index) (canvas : Canvas) :
    (indices.foldl step canvas).width = canvas.width ∧
      (indices.foldl step canvas).height = canvas.height :=
  ⟨foldl_keeps Canvas.width width indices canvas, foldl_keeps Canvas.height height indices canvas⟩

@[simp] theorem fillRect_width (canvas : Canvas) (startX startY w h : Nat) (color : UInt32) :
    (canvas.fillRect startX startY w h color).width = canvas.width :=
  (foldl_size (fun canvas _ => (foldl_size (by simp) (by simp) _ canvas).1)
    (fun canvas _ => (foldl_size (by simp) (by simp) _ canvas).2) _ canvas).1

@[simp] theorem fillRect_height (canvas : Canvas) (startX startY w h : Nat) (color : UInt32) :
    (canvas.fillRect startX startY w h color).height = canvas.height :=
  (foldl_size (fun canvas _ => (foldl_size (by simp) (by simp) _ canvas).1)
    (fun canvas _ => (foldl_size (by simp) (by simp) _ canvas).2) _ canvas).2

/-- The loop rule for drawing in one colour: the union of the regions, cut to
the canvas, takes the colour. -/
theorem foldl_alters {step : Canvas → Index → Canvas} {region : Index → Nat × Nat → Prop}
    (width : ∀ canvas index, (step canvas index).width = canvas.width)
    (height : ∀ canvas index, (step canvas index).height = canvas.height)
    (each : ∀ canvas index, AltersAt (fun _ => color)
      (fun point => canvas.Contains point ∧ region index point) canvas.picture
      (step canvas index).picture)
    (indices : List Index) (canvas : Canvas) :
    AltersAt (fun _ => color)
      (fun point => canvas.Contains point ∧ ∃ index ∈ indices, region index point)
      canvas.picture (indices.foldl step canvas).picture := by
  have idempotent : ∀ value : UInt32, (fun _ => color) ((fun _ => color) value) =
      (fun _ => color) value := fun _ => rfl
  have stable : ∀ canvas index other point,
      (step canvas index).Contains point ∧ region other point ↔
        canvas.Contains point ∧ region other point := by
    intro canvas index other point
    simp only [Contains, width, height]
  apply (AltersAt.foldl picture idempotent each stable indices canvas).congr
  intro point
  constructor
  · rintro ⟨index, member, inside, painted⟩
    exact ⟨inside, index, member, painted⟩
  · rintro ⟨inside, index, member, painted⟩
    exact ⟨index, member, inside, painted⟩

/-- The points of a rectangle. -/
def Rectangle (startX startY w h : Nat) (point : Nat × Nat) : Prop :=
  startX ≤ point.1 ∧ point.1 < startX + w ∧ startY ≤ point.2 ∧ point.2 < startY + h

/-- `fillRect` recolours exactly the points of the rectangle on the canvas. -/
theorem fillRect_alters (canvas : Canvas) (startX startY w h : Nat) (color : UInt32) :
    AltersAt (fun _ => color)
      (fun point => canvas.Contains point ∧ Rectangle startX startY w h point)
      canvas.picture (canvas.fillRect startX startY w h color).picture := by
  have row : ∀ (canvas : Canvas) (y : Nat), AltersAt (fun _ => color)
      (fun point => canvas.Contains point ∧ startX ≤ point.1 ∧ point.1 < startX + w ∧ point.2 = y)
      canvas.picture ((List.range' startX w).foldl
        (fun canvas x => canvas.drawPixel x y color) canvas).picture := by
    intro canvas y
    apply (foldl_alters (by simp) (by simp) (fun canvas x => canvas.drawPixel_alters x y color)
      _ canvas).congr
    rintro ⟨px, py⟩
    simp only [List.mem_range'_1, Prod.mk.injEq]
    constructor
    · rintro ⟨inside, x, bounds, rfl, rfl⟩
      exact ⟨inside, bounds.1, bounds.2, rfl⟩
    · rintro ⟨inside, low, high, rfl⟩
      exact ⟨inside, px, ⟨low, high⟩, rfl, rfl⟩
  apply (foldl_alters (fun canvas _ => (foldl_size (by simp) (by simp) _ canvas).1)
    (fun canvas _ => (foldl_size (by simp) (by simp) _ canvas).2) row _ canvas).congr
  rintro ⟨px, py⟩
  simp only [List.mem_range'_1, Rectangle]
  constructor
  · rintro ⟨inside, y, bounds, low, high, rfl⟩
    exact ⟨inside, low, high, bounds.1, bounds.2⟩
  · rintro ⟨inside, low, high, top, bottom⟩
    exact ⟨inside, py, ⟨top, bottom⟩, low, high, rfl⟩

@[simp] theorem scrollUp_width (canvas : Canvas) (shiftY : Nat) (color : UInt32) :
    (canvas.scrollUp shiftY color).width = canvas.width := rfl

@[simp] theorem scrollUp_height (canvas : Canvas) (shiftY : Nat) (color : UInt32) :
    (canvas.scrollUp shiftY color).height = canvas.height := rfl

theorem getElem_scrollPixels (pixels : Vector UInt32 len) (pixelShift : Nat) (color : UInt32)
    {i : Nat} (inside : i < len) : (scrollPixels pixels pixelShift color)[i] =
      if source : i + pixelShift < len then pixels[i + pixelShift] else color := by
  unfold scrollPixels
  split
  · rename_i whole
    have none : ¬ i + pixelShift < len := by omega
    simp [fillFrom, none]
  · rename_i part
    by_cases source : i + pixelShift < len
    · simp [fillFrom, copyWithin, source]
    · simp [fillFrom, source]

/-- Scrolling shows, at each point, what stood `shiftY` rows below it, and the
background where nothing did. -/
theorem scrollUp_picture (canvas : Canvas) (shiftY : Nat) (color : UInt32) {x y : Nat}
    (inside : canvas.Contains (x, y)) :
    (canvas.scrollUp shiftY color).picture (x, y) =
      if y + shiftY < canvas.height then canvas.picture (x, y + shiftY) else color := by
  obtain ⟨column, row⟩ := inside
  dsimp only at column row
  have slot : y * canvas.width + x + shiftY * canvas.width = (y + shiftY) * canvas.width + x := by
    ring
  have here := pixel_slot column row
  have scrolled : (canvas.scrollUp shiftY color).picture (x, y) =
      (scrollPixels canvas.pixels (shiftY * canvas.width) color)[y * canvas.width + x] :=
    dif_pos ⟨column, row⟩
  rw [scrolled, getElem_scrollPixels]
  by_cases source : y + shiftY < canvas.height
  · have below := pixel_slot column source
    rw [dif_pos (by omega), if_pos source]
    simp only [slot, picture]
    rw [dif_pos ⟨column, source⟩]
  · have beyond : canvas.width * canvas.height ≤ (y + shiftY) * canvas.width := by
      rw [Nat.mul_comm]
      exact Nat.mul_le_mul_right _ (Nat.le_of_not_lt source)
    rw [dif_neg (by omega), if_neg source]

end Canvas

end QoreOS.Display
