import QoreOS.Display.CheckedTerminal

/-! The canvas on a vector of any length, with every index and every sum checked, and
the picture that its operations draw. -/

namespace QoreOS.Display

open QoreOS.Library

/-- The canvas as it is stored. An index beyond `pixels` and a sum beyond the machine
words answer `none`. -/
structure VecCanvas where
  x : Nat
  y : Nat
  width : Nat
  height : Nat
  pixels : List UInt32

/-- `pixels[index] = color` -/
def setPixel (pixels : List UInt32) (index : Nat) (color : UInt32) : Option (List UInt32) :=
  if index < pixels.length then some (pixels.set index color) else none

/-- `pixels.copy_within(start.., 0)`, as if by way of a second buffer. -/
def copyToFront (pixels : List UInt32) (start : Nat) : Option (List UInt32) :=
  if start ≤ pixels.length then some (pixels.drop start ++ pixels.drop (pixels.length - start))
  else none

/-- `pixels[start..].fill(color)` -/
def fillTail (pixels : List UInt32) (start : Nat) (color : UInt32) : Option (List UInt32) :=
  if start ≤ pixels.length then
    some (pixels.take start ++ List.replicate (pixels.length - start) color)
  else none

/-- `scroll_up` on the buffer. -/
def scrollBuffer (pixels : List UInt32) (pixelShift : Nat) (bgColor : UInt32) :
    Option (List UInt32) :=
  if pixelShift ≥ pixels.length then some (List.replicate pixels.length bgColor)
  else do
    let pixels ← copyToFront pixels pixelShift
    let start ← checkedSub pixels.length pixelShift
    fillTail pixels start bgColor

namespace VecCanvas

def drawPixel (canvas : VecCanvas) (px py : Nat) (color : UInt32) : Option VecCanvas :=
  if px < canvas.width ∧ py < canvas.height then do
    let row ← checked (2 ^ 64) (py * canvas.width)
    let index ← checked (2 ^ 64) (row + px)
    let pixels ← setPixel canvas.pixels index color
    return { canvas with pixels := pixels }
  else some canvas

def fillRow (canvas : VecCanvas) (startX w y : Nat) (color : UInt32) : Option VecCanvas := do
  let endX ← checked (2 ^ 64) (startX + w)
  run (fun canvas x => canvas.drawPixel x y color) (List.range' startX (endX - startX)) canvas

def fillRect (canvas : VecCanvas) (startX startY w h : Nat) (color : UInt32) :
    Option VecCanvas := do
  let endY ← checked (2 ^ 64) (startY + h)
  run (fun canvas y => canvas.fillRow startX w y color) (List.range' startY (endY - startY)) canvas

def scrollUp (canvas : VecCanvas) (shiftY : Nat) (bgColor : UInt32) : Option VecCanvas := do
  let pixelShift ← checked (2 ^ 64) (shiftY * canvas.width)
  let pixels ← scrollBuffer canvas.pixels pixelShift bgColor
  return { canvas with pixels := pixels }

end VecCanvas

/-- A call of one of the three operations. -/
inductive CanvasCall where
  | drawPixel (px py : Nat) (color : UInt32)
  | fillRect (startX startY w h : Nat) (color : UInt32)
  | scrollUp (shiftY : Nat) (bgColor : UInt32)

namespace CanvasCall

def perform (canvas : VecCanvas) : CanvasCall → Option VecCanvas
  | drawPixel px py color => canvas.drawPixel px py color
  | fillRect startX startY w h color => canvas.fillRect startX startY w h color
  | scrollUp shiftY bgColor => canvas.scrollUp shiftY bgColor

/-- The sums and products of the arguments are machine words. -/
def Fits (width : Nat) : CanvasCall → Prop
  | drawPixel _ _ _ => True
  | fillRect startX startY w h _ => startX + w < 2 ^ 64 ∧ startY + h < 2 ^ 64
  | scrollUp shiftY _ => shiftY * width < 2 ^ 64

instance (width : Nat) (call : CanvasCall) : Decidable (call.Fits width) := by
  cases call <;> unfold Fits <;> infer_instance

/-- The points of a rectangle on a canvas in another colour. -/
def recolour (width height startX startY w h : Nat) (color : UInt32)
    (picture : Nat × Nat → UInt32) : Nat × Nat → UInt32 := fun (x, y) =>
  if (x < width ∧ y < height) ∧ startX ≤ x ∧ x < startX + w ∧ startY ≤ y ∧ y < startY + h then color
  else picture (x, y)

/-- What a call does to the picture. -/
def paint (width height : Nat) (picture : Nat × Nat → UInt32) : CanvasCall → Nat × Nat → UInt32
  | drawPixel px py color => recolour width height px py 1 1 color picture
  | fillRect startX startY w h color => recolour width height startX startY w h color picture
  | scrollUp shiftY bgColor => fun (x, y) =>
    if y + shiftY < height then picture (x, y + shiftY) else bgColor

/-- What the call does to a canvas that is of its size by construction. -/
def draw (canvas : Canvas) : CanvasCall → Canvas
  | drawPixel px py color => canvas.drawPixel px py color
  | fillRect startX startY w h color => canvas.fillRect startX startY w h color
  | scrollUp shiftY bgColor => canvas.scrollUp shiftY bgColor

end CanvasCall

namespace VecCanvas

/-- The buffer has a pixel for each point of the canvas. -/
def Sized (canvas : VecCanvas) : Prop := canvas.pixels.length = canvas.width * canvas.height

/-- The colour at each point. -/
def picture (canvas : VecCanvas) : Nat × Nat → UInt32 :=
  fun (x, y) => canvas.pixels.getD (y * canvas.width + x) 0

/-- The buffer is of its size and holds the picture. -/
structure Shows (canvas : VecCanvas) (picture : Nat × Nat → UInt32) : Prop where
  sized : canvas.Sized
  pixel : ∀ x y, x < canvas.width → y < canvas.height →
    canvas.pixels[y * canvas.width + x]? = some (picture (x, y))

end VecCanvas

/-- The canvas without the proof of its size. -/
def Canvas.stored (canvas : Canvas) : VecCanvas where
  x := canvas.x
  y := canvas.y
  width := canvas.width
  height := canvas.height
  pixels := canvas.pixels.toList

section Refinement

variable {canvas : Canvas} {color : UInt32}

@[simp] theorem stored_width (canvas : Canvas) : canvas.stored.width = canvas.width := rfl

@[simp] theorem stored_height (canvas : Canvas) : canvas.stored.height = canvas.height := rfl

theorem stored_sized (canvas : Canvas) :
    canvas.stored.pixels.length = canvas.width * canvas.height := by
  simp [Canvas.stored]

/-- Every buffer of the right size is a canvas. -/
theorem exists_stored {canvas : VecCanvas} (sized : canvas.Sized) :
    ∃ whole : Canvas, whole.stored = canvas := by
  have size : canvas.pixels.toArray.size = canvas.width * canvas.height := sized
  exact ⟨⟨canvas.x, canvas.y, canvas.width, canvas.height, ⟨canvas.pixels.toArray, size⟩⟩, rfl⟩

theorem setPixel_of_lt {pixels : List UInt32} {index : Nat} (inside : index < pixels.length) :
    setPixel pixels index color = some (pixels.set index color) := if_pos inside

theorem stored_drawPixel (countable : canvas.Countable) (px py : Nat) (color : UInt32) :
    canvas.stored.drawPixel px py color = some (canvas.drawPixel px py color).stored ∧
      (canvas.drawPixel px py color).Countable := by
  refine ⟨?_, (checkedDrawPixel_eq countable px py color).2⟩
  unfold Canvas.Countable at countable
  unfold VecCanvas.drawPixel Canvas.drawPixel
  by_cases inside : px < canvas.width ∧ py < canvas.height
  · have slot := Canvas.pixel_slot inside.1 inside.2
    have stored : py * canvas.width + px < canvas.stored.pixels.length :=
      (stored_sized canvas).symm ▸ slot
    simp only [stored_width, stored_height, if_pos inside, dif_pos inside, Option.bind_eq_bind,
      Option.bind_some, setPixel_of_lt stored, checked_of_lt (show py * canvas.width < 2 ^ 64 by omega),
      checked_of_lt (show py * canvas.width + px < 2 ^ 64 by omega)]
    simp [Canvas.stored, Vector.toList_set]
  · rw [dif_neg inside]
    exact if_neg inside

theorem stored_fillRow (countable : canvas.Countable) {startX w : Nat}
    (right : startX + w < 2 ^ 64) (y : Nat) (color : UInt32) :
    canvas.stored.fillRow startX w y color =
        some ((List.range' startX w).foldl (fun canvas x => canvas.drawPixel x y color) canvas).stored ∧
      ((List.range' startX w).foldl (fun canvas x => canvas.drawPixel x y color) canvas).Countable := by
  have pixel : ∀ (canvas : Canvas) (x : Nat), canvas.Countable →
      canvas.stored.drawPixel x y color = some (canvas.drawPixel x y color).stored ∧
        (canvas.drawPixel x y color).Countable :=
    fun _ x countable => stored_drawPixel countable x y color
  rw [VecCanvas.fillRow, checked_of_lt right, Option.bind_eq_bind, Option.bind_some,
    Nat.add_sub_cancel_left]
  exact run_simulates pixel _ countable

theorem stored_fillRect (countable : canvas.Countable) {startX startY w h : Nat}
    (right : startX + w < 2 ^ 64) (bottom : startY + h < 2 ^ 64) (color : UInt32) :
    canvas.stored.fillRect startX startY w h color =
        some (canvas.fillRect startX startY w h color).stored ∧
      (canvas.fillRect startX startY w h color).Countable := by
  have row : ∀ (canvas : Canvas) (y : Nat), canvas.Countable →
      canvas.stored.fillRow startX w y color =
          some ((List.range' startX w).foldl (fun canvas x => canvas.drawPixel x y color)
            canvas).stored ∧
        ((List.range' startX w).foldl (fun canvas x => canvas.drawPixel x y color) canvas).Countable :=
    fun _ y countable => stored_fillRow countable right y color
  rw [VecCanvas.fillRect, checked_of_lt bottom, Option.bind_eq_bind, Option.bind_some,
    Nat.add_sub_cancel_left]
  exact run_simulates row _ countable

/-- The overlapping copy and the fill of the tail, at one place. -/
theorem scrollBuffer_some (pixels : List UInt32) (shift : Nat) (color : UInt32) :
    ∃ scrolled, scrollBuffer pixels shift color = some scrolled ∧ ∀ i : Nat, scrolled[i]? =
      if i + shift < pixels.length then pixels[i + shift]?
      else if i < pixels.length then some color else none := by
  by_cases whole : shift ≥ pixels.length
  · refine ⟨_, if_pos whole, ?_⟩
    intro i
    rw [if_neg (by omega), List.getElem?_replicate]
  · have part : shift ≤ pixels.length := by omega
    have kept : (pixels.drop shift ++ pixels.drop (pixels.length - shift)).length =
        pixels.length := by
      rw [List.length_append, List.length_drop, List.length_drop]
      omega
    have copied : copyToFront pixels shift =
        some (pixels.drop shift ++ pixels.drop (pixels.length - shift)) := if_pos part
    refine ⟨pixels.drop shift ++ List.replicate shift color, ?_, ?_⟩
    · rw [scrollBuffer, if_neg whole, copied, Option.bind_eq_bind, Option.bind_some, kept,
        checkedSub_of_le part, Option.bind_eq_bind, Option.bind_some, fillTail,
        if_pos (by rw [kept]; omega), kept, Nat.sub_sub_self part,
        List.take_left' List.length_drop]
    · intro i
      by_cases front : i + shift < pixels.length
      · rw [List.getElem?_append_left (by rw [List.length_drop]; omega), List.getElem?_drop,
          if_pos front, Nat.add_comm]
      · rw [List.getElem?_append_right (by rw [List.length_drop]; omega), List.length_drop,
          List.getElem?_replicate, if_neg front]
        by_cases inside : i < pixels.length
        · rw [if_pos inside, if_pos (by omega)]
        · rw [if_neg inside, if_neg (by omega)]

/-- The scrolled buffer, at one place. -/
theorem getElem?_stored_scrollUp (canvas : Canvas) (shiftY : Nat) (bgColor : UInt32) (i : Nat) :
    (canvas.scrollUp shiftY bgColor).stored.pixels[i]? =
      if i + shiftY * canvas.width < canvas.width * canvas.height then
        canvas.stored.pixels[i + shiftY * canvas.width]?
      else if i < canvas.width * canvas.height then some bgColor else none := by
  change (Canvas.scrollPixels canvas.pixels (shiftY * canvas.width) bgColor).toList[i]? = _
  by_cases inside : i < canvas.width * canvas.height
  · rw [if_pos inside, List.getElem?_eq_getElem (by simpa using inside), Vector.getElem_toList,
      Canvas.getElem_scrollPixels _ _ _ inside]
    by_cases source : i + shiftY * canvas.width < canvas.width * canvas.height
    · rw [dif_pos source, if_pos source]
      simp [Canvas.stored, source]
    · rw [dif_neg source, if_neg source]
  · rw [if_neg (by omega), if_neg inside]
    exact List.getElem?_eq_none (by simpa using Nat.not_lt.mp inside)

theorem stored_scrollUp (canvas : Canvas) {shiftY : Nat} (shift : shiftY * canvas.width < 2 ^ 64)
    (bgColor : UInt32) :
    canvas.stored.scrollUp shiftY bgColor = some (canvas.scrollUp shiftY bgColor).stored := by
  obtain ⟨scrolled, scrolls, pixel⟩ :=
    scrollBuffer_some canvas.stored.pixels (shiftY * canvas.width) bgColor
  have same : scrolled = (canvas.scrollUp shiftY bgColor).stored.pixels := by
    apply List.ext_getElem?
    intro i
    rw [pixel, getElem?_stored_scrollUp, stored_sized]
  rw [VecCanvas.scrollUp, stored_width, checked_of_lt shift, Option.bind_eq_bind, Option.bind_some,
    scrolls, Option.bind_eq_bind, Option.bind_some, same]
  rfl

/-- One call, on a canvas that is of its size by construction. -/
theorem stored_perform (countable : canvas.Countable) {call : CanvasCall}
    (fits : call.Fits canvas.width) :
    call.perform canvas.stored = some (call.draw canvas).stored ∧ (call.draw canvas).Countable := by
  cases call with
  | drawPixel px py color => exact stored_drawPixel countable px py color
  | fillRect startX startY w h color => exact stored_fillRect countable fits.1 fits.2 color
  | scrollUp shiftY bgColor => exact ⟨stored_scrollUp canvas fits bgColor, countable⟩

end Refinement

section Picture

variable {canvas : Canvas} {picture : Nat × Nat → UInt32}

/-- The picture of a canvas is in its buffer, row by row. -/
theorem stored_shows_iff : canvas.stored.Shows picture ↔
    ∀ point, canvas.Contains point → canvas.picture point = picture point := by
  have pixel : ∀ x y, x < canvas.width → y < canvas.height →
      canvas.stored.pixels[y * canvas.width + x]? = some (canvas.picture (x, y)) := by
    intro x y column row
    have slot := Canvas.pixel_slot column row
    have colour : canvas.picture (x, y) = canvas.pixels[y * canvas.width + x] :=
      dif_pos ⟨column, row⟩
    rw [colour]
    simp [Canvas.stored, slot]
  constructor
  · rintro shows ⟨x, y⟩ ⟨column, row⟩
    exact Option.some.inj ((pixel x y column row).symm.trans (shows.pixel x y column row))
  · intro same
    refine ⟨stored_sized canvas, ?_⟩
    intro x y column row
    rw [stored_width, pixel x y column row, same (x, y) ⟨column, row⟩]

theorem draw_size (canvas : Canvas) (call : CanvasCall) :
    (call.draw canvas).width = canvas.width ∧ (call.draw canvas).height = canvas.height := by
  cases call with
  | drawPixel px py color => exact ⟨canvas.drawPixel_width .., canvas.drawPixel_height ..⟩
  | fillRect startX startY w h color => exact ⟨canvas.fillRect_width .., canvas.fillRect_height ..⟩
  | scrollUp shiftY bgColor => exact ⟨rfl, rfl⟩

/-- A change of colour at the points of a rectangle is what `recolour` says. -/
theorem recolour_of_alters {after : Nat × Nat → UInt32} {startX startY w h : Nat} {color : UInt32}
    (alters : AltersAt (fun _ => color)
      (fun point => canvas.Contains point ∧ Canvas.Rectangle startX startY w h point)
      canvas.picture after)
    (same : ∀ point, canvas.Contains point → canvas.picture point = picture point)
    {point : Nat × Nat} (inside : canvas.Contains point) : after point =
      CanvasCall.recolour canvas.width canvas.height startX startY w h color picture point := by
  by_cases region : Canvas.Rectangle startX startY w h point
  · rw [(alters point).1 ⟨inside, region⟩]
    exact (if_pos ⟨inside, region⟩).symm
  · rw [(alters point).2 fun both => region both.2, same point inside]
    exact (if_neg fun both => region both.2).symm

/-- A call paints on the picture what it should. -/
theorem draw_picture (call : CanvasCall)
    (same : ∀ point, canvas.Contains point → canvas.picture point = picture point)
    {point : Nat × Nat} (inside : canvas.Contains point) :
    (call.draw canvas).picture point = call.paint canvas.width canvas.height picture point := by
  cases call with
  | drawPixel px py color =>
    refine recolour_of_alters ((canvas.drawPixel_alters px py color).congr ?_) same inside
    rintro ⟨x, y⟩
    refine and_congr_right fun _ => ?_
    simp only [Canvas.Rectangle, Prod.mk.injEq]
    omega
  | fillRect startX startY w h color =>
    exact recolour_of_alters (canvas.fillRect_alters startX startY w h color) same inside
  | scrollUp shiftY bgColor =>
    obtain ⟨x, y⟩ := point
    change (canvas.scrollUp shiftY bgColor).picture (x, y) =
      if y + shiftY < canvas.height then picture (x, y + shiftY) else bgColor
    rw [canvas.scrollUp_picture shiftY bgColor inside]
    by_cases shown : y + shiftY < canvas.height
    · rw [if_pos shown, if_pos shown, same (x, y + shiftY) ⟨inside.1, shown⟩]
    · rw [if_neg shown, if_neg shown]

/-- Calls one after the other. -/
theorem stored_calls (countable : canvas.Countable)
    (same : ∀ point, canvas.Contains point → canvas.picture point = picture point)
    (calls : List CanvasCall) (fits : ∀ call ∈ calls, call.Fits canvas.width) :
    ∃ final : Canvas, run CanvasCall.perform calls canvas.stored = some final.stored ∧
      final.width = canvas.width ∧ final.height = canvas.height ∧
      ∀ point, final.Contains point → final.picture point =
        calls.foldl (CanvasCall.paint canvas.width canvas.height) picture point := by
  induction calls generalizing canvas picture with
  | nil => exact ⟨canvas, rfl, rfl, rfl, same⟩
  | cons call calls ih =>
    obtain ⟨performed, kept⟩ := stored_perform countable (fits call List.mem_cons_self)
    obtain ⟨width, height⟩ := draw_size canvas call
    have painted : ∀ point, (call.draw canvas).Contains point → (call.draw canvas).picture point =
        call.paint canvas.width canvas.height picture point := by
      intro point inside
      rw [Canvas.Contains, width, height] at inside
      exact draw_picture call same inside
    obtain ⟨final, reached, sameWidth, sameHeight, shown⟩ := ih kept painted (by
      intro other member
      rw [width]
      exact fits other (List.mem_cons_of_mem call member))
    refine ⟨final, ?_, sameWidth.trans width, sameHeight.trans height, ?_⟩
    · rw [run_next performed, reached]
    · rw [width, height] at shown
      exact shown

end Picture

/-- Any calls on a buffer of the right size meet no index outside of it, leave it of that
size, and paint the picture. -/
theorem calls_paint_picture (canvas : VecCanvas) (counted : canvas.pixels.length < 2 ^ 64)
    (sized : canvas.Sized) (calls : List CanvasCall)
    (fits : ∀ call ∈ calls, call.Fits canvas.width) :
    ∃ final, run CanvasCall.perform calls canvas = some final ∧ final.width = canvas.width ∧
      final.height = canvas.height ∧
      final.Shows (calls.foldl (CanvasCall.paint canvas.width canvas.height) canvas.picture) := by
  obtain ⟨whole, rfl⟩ := exists_stored sized
  have countable : whole.Countable := (stored_sized whole).symm.trans_lt counted
  have start : ∀ point, whole.Contains point → whole.picture point = whole.stored.picture point := by
    apply stored_shows_iff.mp
    refine ⟨sized, ?_⟩
    intro x y column row
    have slot : y * whole.width + x < whole.stored.pixels.length :=
      (stored_sized whole).symm ▸ Canvas.pixel_slot column row
    change _ = some (whole.stored.pixels.getD (y * whole.width + x) 0)
    rw [stored_width, List.getD_eq_getElem?_getD, List.getElem?_eq_getElem slot]
    rfl
  obtain ⟨final, reached, width, height, shown⟩ := stored_calls countable start calls fits
  exact ⟨final.stored, reached, width, height, stored_shows_iff.mpr shown⟩

/-- A canvas of three columns and two rows, painted beyond its edges and scrolled. -/
theorem calls_paint_small : ∃ final,
    run CanvasCall.perform [.fillRect 1 1 5 5 7, .drawPixel 3 0 9, .scrollUp 1 4]
      ⟨0, 40, 3, 2, [1, 2, 3, 4, 5, 6]⟩ = some final ∧ final.pixels = [4, 7, 7, 4, 4, 4] := by
  obtain ⟨final, reached, -⟩ := calls_paint_picture ⟨0, 40, 3, 2, [1, 2, 3, 4, 5, 6]⟩ (by decide) rfl
    [.fillRect 1 1 5 5 7, .drawPixel 3 0 9, .scrollUp 1 4] (by decide)
  refine ⟨final, reached, ?_⟩
  rw [← Option.some.inj reached]
  rfl

end QoreOS.Display
