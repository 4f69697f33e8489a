import QoreOS.Display.Canvas
import QoreOS.Library.Bytes
import QoreOS.Library.Run

/-! The screen of `compositor.rs`: the clipped `draw_pixel` and the row copies of
`blit_canvas`. -/

namespace QoreOS.Display

open QoreOS.Library

/-- The words of memory from the first word of the framebuffer on. -/
abbrev Framebuffer := Nat → UInt32

/-- `SERVER`, whose framebuffer of `stride * height` words is an object of the language:
its size is an `isize`, and its end an address. -/
structure Server where
  framebuffer : Nat
  width : Nat
  height : Nat
  stride : Nat
  wide : width ≤ stride
  high : height < 2 ^ 64
  sized : stride * height * 4 < 2 ^ 63
  mapped : framebuffer + stride * height * 4 < 2 ^ 64

/-- A canvas behind a pointer: `pixels` are the words from `as_ptr()` on. A vector of the
kernel's own has no `place`: it is an object apart from the framebuffer. -/
structure Surface where
  x : Nat
  y : Nat
  width : Nat
  height : Nat
  place : Option Nat
  pixels : Nat → UInt32

def Canvas.surface (canvas : Canvas) : Surface where
  x := canvas.x
  y := canvas.y
  width := canvas.width
  height := canvas.height
  place := none
  pixels := fun i => (canvas.pixels.toArray[i]?).getD 0

/-- The fields are machine words, and the buffer is a vector that the kernel has. -/
structure Canvas.Allocated (canvas : Canvas) : Prop where
  row : canvas.y < 2 ^ 64
  buffer : canvas.width * canvas.height < 2 ^ 64

/-- `copy_nonoverlapping(row_src, row_dst, count)` -/
def Framebuffer.copy (screen : Framebuffer) (rowDst : Nat) (pixels : Nat → UInt32)
    (rowSrc count : Nat) : Framebuffer := fun word =>
  if rowDst ≤ word ∧ word < rowDst + count then pixels (rowSrc + (word - rowDst)) else screen word

/-- The pointer to a row of the canvas, and what the copy of the row demands. -/
def Surface.checkRow (canvas : Surface) (srcOffset rowDst : Nat) : Option Unit :=
  match canvas.place with
  | none => some ()
  | some buffer => do
    let rowSrc ← pointerAdd 4 buffer srcOffset
    if Copyable 4 rowSrc rowDst canvas.width then some () else none

/-- A row that the copy takes, to a place in the framebuffer. -/
def Surface.Copies (canvas : Surface) (srcOffset rowDst : Nat) : Prop :=
  ∀ buffer, canvas.place = some buffer → OffsetFits 4 buffer srcOffset ∧
    Copyable 4 (buffer + srcOffset * 4) rowDst canvas.width

theorem Surface.checkRow_iff (canvas : Surface) {srcOffset rowDst : Nat} :
    canvas.checkRow srcOffset rowDst = some () ↔ canvas.Copies srcOffset rowDst := by
  unfold checkRow Copies
  cases canvas.place with
  | none => simp
  | some buffer =>
    constructor
    · rintro checks _ ⟨rfl⟩
      obtain ⟨rowSrc, adds, copies⟩ := Option.bind_eq_some_iff.mp checks
      obtain ⟨rfl, fits⟩ := pointerAdd_eq_some adds
      exact ⟨fits, of_not_not fun stops => by simp [stops] at copies⟩
    · intro copies
      obtain ⟨fits, copyable⟩ := copies buffer rfl
      dsimp only
      rw [pointerAdd_of_fits fits, Option.bind_eq_bind, Option.bind_some, if_pos copyable]

/-- The kernel's own vectors are copied from any row to any place. -/
theorem Surface.copies_own {canvas : Surface} (own : canvas.place = none) (srcOffset rowDst : Nat) :
    canvas.Copies srcOffset rowDst := by
  intro buffer placed
  cases own.symm.trans placed

namespace Server

def drawPixel (server : Server) (screen : Framebuffer) (x y : Nat) (color : UInt32) :
    Option Framebuffer :=
  if x ≥ server.width ∨ y ≥ server.height then some screen
  else do
    let row ← checked (2 ^ 64) (y * server.stride)
    let offset ← checked (2 ^ 64) (row + x)
    let bytes ← checked (2 ^ 64) (offset * 4)
    let _ ← checked (2 ^ 64) (server.framebuffer + bytes)
    return Function.update screen offset color

/-- The row `cy` of a canvas, at the row `screenY` of the screen. -/
def blitRow (server : Server) (canvas : Surface) (cy screenY : Nat) (screen : Framebuffer) :
    Option Framebuffer := do
  let srcOffset ← checked (2 ^ 64) (cy * canvas.width)
  let row ← checked (2 ^ 64) (screenY * server.stride)
  let dstOffset ← checked (2 ^ 64) (row + canvas.x)
  let rowDst ← pointerAdd 4 server.framebuffer dstOffset
  canvas.checkRow srcOffset rowDst
  return screen.copy dstOffset canvas.pixels srcOffset canvas.width

/-- The rows from `cy` on, until one is below the screen. -/
def blitRows (server : Server) (canvas : Surface) : Nat → Nat → Framebuffer → Option Framebuffer
  | _, 0, screen => some screen
  | cy, rows + 1, screen => do
    let screenY ← checked (2 ^ 64) (canvas.y + cy)
    if screenY ≥ server.height then some screen
    else do
      let screen ← server.blitRow canvas cy screenY screen
      server.blitRows canvas (cy + 1) rows screen

def blitCanvas (server : Server) (canvas : Surface) (screen : Framebuffer) : Option Framebuffer :=
  server.blitRows canvas 0 canvas.height screen

/-- A row of a canvas, pixel by pixel. -/
def drawRow (server : Server) (canvas : Surface) (screen : Framebuffer) (cy : Nat) :
    Option Framebuffer :=
  run (fun screen cx => server.drawPixel screen (canvas.x + cx) (canvas.y + cy)
    (canvas.pixels (cy * canvas.width + cx))) (List.range canvas.width) screen

/-- What `blit_canvas` is for: every pixel of the canvas by the clipped `draw_pixel`. -/
def drawCanvas (server : Server) (canvas : Surface) (screen : Framebuffer) : Option Framebuffer :=
  run (server.drawRow canvas) (List.range canvas.height) screen

variable {server : Server} {canvas : Surface} {screen : Framebuffer} {x y cx cy screenY : Nat}
  {color : UInt32}

theorem offset_lt (column : x < server.width) (row : y < server.height) :
    y * server.stride + x < server.stride * server.height := by
  have := server.wide
  calc y * server.stride + x < y * server.stride + server.stride := by omega
    _ = (y + 1) * server.stride := by ring
    _ ≤ server.height * server.stride := Nat.mul_le_mul_right _ row
    _ = server.stride * server.height := Nat.mul_comm _ _

theorem drawPixel_inside (column : x < server.width) (row : y < server.height) :
    server.drawPixel screen x y color =
      some (Function.update screen (y * server.stride + x) color) := by
  have offset := server.offset_lt column row
  have mapped := server.mapped
  rw [drawPixel, if_neg (by omega), checked_of_lt (by omega), Option.bind_eq_bind, Option.bind_some,
    checked_of_lt (by omega), Option.bind_some, checked_of_lt (by omega), Option.bind_some,
    checked_of_lt (by omega)]
  rfl

theorem drawPixel_outside (outside : ¬ (x < server.width ∧ y < server.height)) :
    server.drawPixel screen x y color = some screen :=
  if_pos (by omega)

section Row

theorem copy_none (screen : Framebuffer) (rowDst : Nat) (pixels : Nat → UInt32) (rowSrc : Nat) :
    screen.copy rowDst pixels rowSrc 0 = screen := by
  funext word
  exact if_neg (by omega)

/-- A copy goes on with its next pixel. -/
theorem copy_succ (screen : Framebuffer) (rowDst : Nat) (pixels : Nat → UInt32)
    (rowSrc count : Nat) : screen.copy rowDst pixels rowSrc (count + 1) =
      Function.update (screen.copy rowDst pixels rowSrc count) (rowDst + count)
        (pixels (rowSrc + count)) := by
  funext word
  unfold Framebuffer.copy
  by_cases last : word = rowDst + count
  · rw [last, Function.update_self, if_pos (by omega)]
    congr 2
    omega
  · rw [Function.update_of_ne last]
    by_cases copied : rowDst ≤ word ∧ word < rowDst + count
    · rw [if_pos copied, if_pos (by omega)]
    · rw [if_neg copied, if_neg (by omega)]

/-- A row that ends on the screen is drawn by one copy. -/
theorem drawRow_inside (column : canvas.x + canvas.width ≤ server.width)
    (row : canvas.y + cy < server.height) : server.drawRow canvas screen cy =
      some (screen.copy ((canvas.y + cy) * server.stride + canvas.x) canvas.pixels
        (cy * canvas.width) canvas.width) := by
  have part : ∀ count, count ≤ canvas.width →
      run (fun screen cx => server.drawPixel screen (canvas.x + cx) (canvas.y + cy)
        (canvas.pixels (cy * canvas.width + cx))) (List.range count) screen =
      some (screen.copy ((canvas.y + cy) * server.stride + canvas.x) canvas.pixels
        (cy * canvas.width) count) := by
    intro count within
    induction count with
    | zero => rw [copy_none]; rfl
    | succ count ih =>
      rw [List.range_succ, run_concat, ih (by omega), Option.bind_some,
        drawPixel_inside (by omega) row, copy_succ, Nat.add_assoc]
  exact part canvas.width (Nat.le_refl _)

theorem drawRow_below (below : server.height ≤ canvas.y + cy) :
    server.drawRow canvas screen cy = some screen := by
  have skips : ∀ (other : Framebuffer) (cx : Nat), other = screen → True →
      ∃ next, server.drawPixel other (canvas.x + cx) (canvas.y + cy)
        (canvas.pixels (cy * canvas.width + cx)) = some next ∧ next = screen := by
    intro other cx same _
    exact ⟨other, drawPixel_outside (by omega), same⟩
  obtain ⟨final, drawn, rfl⟩ :=
    run_invariant skips (List.range canvas.width) (fun _ _ => trivial) rfl
  exact drawn

/-- The words that the pixels of a canvas have on the screen. -/
def Shows (server : Server) (canvas : Surface) (word : Nat) : Prop :=
  ∃ cx cy, cx < canvas.width ∧ cy < canvas.height ∧ canvas.x + cx < server.width ∧
    canvas.y + cy < server.height ∧ word = (canvas.y + cy) * server.stride + (canvas.x + cx)

/-- No other word is written by `draw_pixel`. -/
theorem drawCanvas_frame (server : Server) (canvas : Surface) (screen : Framebuffer) {word : Nat}
    (elsewhere : ¬ server.Shows canvas word) :
    ∃ drawn, server.drawCanvas canvas screen = some drawn ∧ drawn word = screen word := by
  have pixel : ∀ cy, cy < canvas.height → ∀ (other : Framebuffer) (cx : Nat),
      other word = screen word → cx < canvas.width →
        ∃ next, server.drawPixel other (canvas.x + cx) (canvas.y + cy)
          (canvas.pixels (cy * canvas.width + cx)) = some next ∧ next word = screen word := by
    intro cy high other cx same across
    by_cases inside : canvas.x + cx < server.width ∧ canvas.y + cy < server.height
    · refine ⟨_, drawPixel_inside inside.1 inside.2, ?_⟩
      rw [Function.update_of_ne, same]
      intro found
      exact elsewhere ⟨cx, cy, across, high, inside.1, inside.2, found⟩
    · exact ⟨other, drawPixel_outside inside, same⟩
  have row : ∀ (other : Framebuffer) (cy : Nat), other word = screen word → cy < canvas.height →
      ∃ next, server.drawRow canvas other cy = some next ∧ next word = screen word := by
    intro other cy same high
    exact run_invariant (pixel cy high) _ (fun cx member => List.mem_range.mp member) same
  exact run_invariant row _ (fun cy member => List.mem_range.mp member) rfl

end Row

section Blit

theorem drawRows_below (below : server.height ≤ canvas.y + cy) (rows : Nat) :
    run (server.drawRow canvas) (List.range' cy rows) screen = some screen := by
  induction rows generalizing cy with
  | zero => rfl
  | succ rows ih =>
    rw [List.range'_succ, run_cons, drawRow_below below, Option.bind_some]
    exact ih (by omega)

theorem blitRows_visible (rows : Nat) (screen : Framebuffer)
    (visible : canvas.y + cy < server.height) :
    server.blitRows canvas cy (rows + 1) screen =
      (server.blitRow canvas cy (canvas.y + cy) screen).bind (server.blitRows canvas (cy + 1) rows) := by
  have high := server.high
  rw [blitRows, checked_of_lt (by omega), Option.bind_eq_bind, Option.bind_some, if_neg (by omega)]
  rfl

theorem blitRows_below (rows : Nat) (screen : Framebuffer)
    (below : server.height ≤ canvas.y + cy) (bounded : canvas.y + cy < 2 ^ 64) :
    server.blitRows canvas cy rows screen = some screen := by
  cases rows with
  | zero => rfl
  | succ rows =>
    rw [blitRows, checked_of_lt bounded, Option.bind_eq_bind, Option.bind_some, if_pos below]

/-- The row copies draw the canvas when each visible one does. -/
theorem blitRows_draws (agrees : ∀ cy screen, cy < canvas.height →
      canvas.y + cy < server.height → server.blitRow canvas cy (canvas.y + cy) screen =
        server.drawRow canvas screen cy)
    (rows cy : Nat) (screen : Framebuffer) (within : cy + rows ≤ canvas.height)
    (bounded : canvas.y + cy < 2 ^ 64) :
    server.blitRows canvas cy rows screen =
      run (server.drawRow canvas) (List.range' cy rows) screen := by
  induction rows generalizing cy screen with
  | zero => rfl
  | succ rows ih =>
    by_cases visible : canvas.y + cy < server.height
    · have high := server.high
      rw [blitRows_visible rows screen visible, agrees cy screen (by omega) visible,
        List.range'_succ, run_cons]
      exact congrArg _ (funext fun other => ih (cy + 1) other (by omega) (by omega))
    · rw [blitRows_below _ screen (by omega) bounded, drawRows_below (by omega)]

/-- The last visible row is copied last. -/
theorem blitRows_last (rows cy : Nat) (screen : Framebuffer) {final : Framebuffer}
    (visible : canvas.y + cy < server.height)
    (blits : server.blitRows canvas cy (rows + 1) screen = some final) :
    ∃ last before, last < cy + (rows + 1) ∧ canvas.y + last < server.height ∧
      (∀ other, other < cy + (rows + 1) → canvas.y + other < server.height → other ≤ last) ∧
      server.blitRow canvas last (canvas.y + last) before = some final := by
  induction rows generalizing cy screen with
  | zero =>
    rw [blitRows_visible 0 screen visible] at blits
    obtain ⟨middle, copies, ends⟩ := Option.bind_eq_some_iff.mp blits
    cases ends
    exact ⟨cy, screen, by omega, visible, fun other early _ => by omega, copies⟩
  | succ rows ih =>
    rw [blitRows_visible (rows + 1) screen visible] at blits
    obtain ⟨middle, copies, rest⟩ := Option.bind_eq_some_iff.mp blits
    by_cases next : canvas.y + (cy + 1) < server.height
    · obtain ⟨last, before, early, shown, latest, final⟩ := ih (cy + 1) middle next rest
      exact ⟨last, before, by omega, shown, fun other early => latest other (by omega), final⟩
    · have high := server.high
      rw [blitRows_below (rows + 1) middle (by omega) (by omega)] at rest
      cases rest
      exact ⟨cy, screen, by omega, visible, fun other _ shown => by omega, copies⟩

/-- The row `cy` of a canvas has an offset in its buffer, the row `screenY` an address in
the framebuffer, and the copy takes it there. -/
structure RowReaches (server : Server) (canvas : Surface) (cy screenY : Nat) : Prop where
  source : cy * canvas.width < 2 ^ 64
  target : OffsetFits 4 server.framebuffer (screenY * server.stride + canvas.x)
  copies : canvas.Copies (cy * canvas.width)
    (server.framebuffer + (screenY * server.stride + canvas.x) * 4)

/-- A row of the kernel's own that ends on the screen is in reach. -/
theorem rowReaches_of_inside (own : canvas.place = none) (source : cy * canvas.width < 2 ^ 64)
    (column : canvas.x + canvas.width ≤ server.width) (visible : screenY < server.height) :
    server.RowReaches canvas cy screenY := by
  have wide := server.wide
  have sized := server.sized
  have mapped := server.mapped
  have row : (screenY + 1) * server.stride ≤ server.height * server.stride :=
    Nat.mul_le_mul_right _ visible
  rw [Nat.succ_mul, Nat.mul_comm server.height] at row
  exact ⟨source, ⟨by omega, by omega⟩, Surface.copies_own own _ _⟩

/-- The canvas has no visible row, or its rows end on the screen, or they are empty and
the last visible one has an address. -/
inductive Placed (server : Server) (canvas : Surface) : Prop where
  | flat (none : canvas.height = 0)
  | below (under : server.height ≤ canvas.y)
  | inside (column : canvas.x + canvas.width ≤ server.width)
  | thin (none : canvas.width = 0) (reach : OffsetFits 4 server.framebuffer
      ((min (canvas.y + canvas.height) server.height - 1) * server.stride + canvas.x))

theorem blitRow_eq (reaches : server.RowReaches canvas cy screenY) :
    server.blitRow canvas cy screenY screen =
      some (screen.copy (screenY * server.stride + canvas.x) canvas.pixels (cy * canvas.width)
        canvas.width) := by
  have inside := reaches.target.1
  rw [blitRow, checked_of_lt reaches.source, Option.bind_eq_bind, Option.bind_some,
    checked_of_lt (by omega), Option.bind_some, checked_of_lt (by omega), Option.bind_some,
    pointerAdd_of_fits reaches.target, Option.bind_some,
    canvas.checkRow_iff.mpr reaches.copies]
  rfl

theorem blitRow_some {final : Framebuffer}
    (copies : server.blitRow canvas cy screenY screen = some final) :
    server.RowReaches canvas cy screenY ∧
      final = screen.copy (screenY * server.stride + canvas.x) canvas.pixels (cy * canvas.width)
        canvas.width := by
  obtain ⟨srcOffset, source, copies⟩ := Option.bind_eq_some_iff.mp copies
  obtain ⟨row, rowFits, copies⟩ := Option.bind_eq_some_iff.mp copies
  obtain ⟨dstOffset, fits, copies⟩ := Option.bind_eq_some_iff.mp copies
  obtain ⟨rowDst, adds, copies⟩ := Option.bind_eq_some_iff.mp copies
  obtain ⟨_, allowed, drawn⟩ := Option.bind_eq_some_iff.mp copies
  obtain ⟨rfl, bounded⟩ := checked_eq_some source
  obtain ⟨rfl, -⟩ := checked_eq_some rowFits
  obtain ⟨rfl, -⟩ := checked_eq_some fits
  obtain ⟨rfl, reach⟩ := pointerAdd_eq_some adds
  exact ⟨⟨bounded, reach, canvas.checkRow_iff.mp allowed⟩, (Option.some.inj drawn).symm⟩

theorem source_lt (allocated : canvas.width * canvas.height < 2 ^ 64) (within : cy < canvas.height) :
    cy * canvas.width < 2 ^ 64 := by
  calc cy * canvas.width ≤ canvas.height * canvas.width :=
        Nat.mul_le_mul_right _ (Nat.le_of_lt within)
    _ = canvas.width * canvas.height := Nat.mul_comm _ _
    _ < 2 ^ 64 := allocated

theorem Placed.row_agrees (placed : server.Placed canvas) (own : canvas.place = none)
    (allocated : canvas.width * canvas.height < 2 ^ 64) (cy : Nat) (screen : Framebuffer)
    (within : cy < canvas.height) (visible : canvas.y + cy < server.height) :
    server.blitRow canvas cy (canvas.y + cy) screen = server.drawRow canvas screen cy := by
  have source := source_lt allocated within
  cases placed with
  | flat none => omega
  | below under => omega
  | inside column =>
    rw [drawRow_inside column visible, blitRow_eq (rowReaches_of_inside own source column visible)]
  | thin none reach =>
    obtain ⟨inside, address⟩ := reach
    have row : (canvas.y + cy) * server.stride ≤
        (min (canvas.y + canvas.height) server.height - 1) * server.stride :=
      Nat.mul_le_mul_right _ (by omega)
    rw [blitRow_eq ⟨source, ⟨by omega, by omega⟩, Surface.copies_own own _ _⟩, drawRow, none,
      copy_none]
    rfl

/-- What the last visible row has to do with the screen behind the copies. -/
theorem blitCanvas_last {last : Nat} {final : Framebuffer} (within : last < canvas.height)
    (latest : canvas.y + last + 1 = min (canvas.y + canvas.height) server.height)
    (blits : server.blitCanvas canvas screen = some final) :
    server.RowReaches canvas last (canvas.y + last) ∧ (0 < canvas.width →
      final ((canvas.y + last) * server.stride + canvas.x + (canvas.width - 1)) =
        canvas.pixels (last * canvas.width + (canvas.width - 1))) := by
  obtain ⟨rows, high⟩ := Nat.exists_eq_succ_of_ne_zero (Nat.ne_of_gt (Nat.zero_lt_of_lt within))
  rw [blitCanvas, high] at blits
  obtain ⟨other, before, early, visible, greatest, copies⟩ :=
    blitRows_last rows 0 screen (by omega) blits
  have same : other = last := by
    have := greatest last (by omega) (by omega)
    omega
  rw [same] at copies
  obtain ⟨reaches, rfl⟩ := blitRow_some copies
  refine ⟨reaches, fun wide => ?_⟩
  rw [Framebuffer.copy, if_pos (by omega)]
  congr 2
  omega

/-- A row that does not end on the screen writes a word where no pixel belongs. -/
theorem not_shows {last : Nat} (beyond : server.width < canvas.x + canvas.width)
    (latest : canvas.y + last + 1 = min (canvas.y + canvas.height) server.height) :
    ¬ server.Shows canvas
      ((canvas.y + last) * server.stride + canvas.x + (canvas.width - 1)) := by
  rintro ⟨cx, cy, across, within, column, visible, same⟩
  have wide := server.wide
  have row : (canvas.y + cy) * server.stride ≤ (canvas.y + last) * server.stride :=
    Nat.mul_le_mul_right _ (by omega)
  omega

theorem placed_of_blitCanvas
    (draws : ∀ screen, server.blitCanvas canvas screen = server.drawCanvas canvas screen) :
    server.Placed canvas := by
  by_cases flat : canvas.height = 0
  · exact .flat flat
  by_cases below : server.height ≤ canvas.y
  · exact .below below
  by_cases column : canvas.x + canvas.width ≤ server.width
  · exact .inside column
  let last := min (canvas.y + canvas.height) server.height - 1 - canvas.y
  have latest : canvas.y + last + 1 = min (canvas.y + canvas.height) server.height := by omega
  let pixel := canvas.pixels (last * canvas.width + (canvas.width - 1))
  obtain ⟨drawn, all, kept⟩ := drawCanvas_frame server canvas (fun _ => pixel + 1)
    (not_shows (by omega) latest)
  obtain ⟨reaches, copied⟩ := blitCanvas_last (by omega) latest ((draws _).trans all)
  by_cases thin : canvas.width = 0
  · have reach := reaches.target
    rw [show canvas.y + last = min (canvas.y + canvas.height) server.height - 1 by omega] at reach
    exact .thin thin reach
  · have lost := kept.symm.trans (copied (by omega))
    simp [pixel] at lost

end Blit

/-- `blit_canvas` draws a canvas as the clipped `draw_pixel` does exactly when no visible
row of it goes over the right edge of the screen. -/
theorem blitCanvas_clips_iff (server : Server) (canvas : Canvas) (allocated : canvas.Allocated) :
    (∀ screen, server.blitCanvas canvas.surface screen =
        server.drawCanvas canvas.surface screen) ↔ server.Placed canvas.surface := by
  constructor
  · exact placed_of_blitCanvas
  · intro placed screen
    have row : canvas.y < 2 ^ 64 := allocated.row
    rw [blitCanvas, blitRows_draws (placed.row_agrees rfl allocated.buffer) _ _ _ (by omega) row,
      ← List.range_eq_range']
    rfl

/-- A screen of 1280 by 800 at the address where a firmware may have put it. -/
def laptop : Server where
  framebuffer := 0x80000000
  width := 1280
  height := 800
  stride := 1280
  wide := by decide
  high := by decide
  sized := by decide
  mapped := by decide

theorem blitCanvas_clips_iff_corner :
    laptop.blitCanvas (Canvas.new 1180 790 100 100 0).surface (fun _ => 0xFFFFFF) =
      laptop.drawCanvas (Canvas.new 1180 790 100 100 0).surface (fun _ => 0xFFFFFF) :=
  (blitCanvas_clips_iff laptop (.new 1180 790 100 100 0) ⟨by decide, by decide⟩).mpr
    (.inside (by decide)) (fun _ => 0xFFFFFF)

/-- Two columns from the last one on: the second goes to the start of the next row. -/
theorem blitCanvas_wraps : ¬ ∀ screen, laptop.blitCanvas (Canvas.new 1279 0 2 2 0).surface screen =
    laptop.drawCanvas (Canvas.new 1279 0 2 2 0).surface screen := by
  intro draws
  have word := congrArg (Option.map fun screen => screen 1280) (draws fun _ => 1)
  exact absurd word (by decide)

end Server

end QoreOS.Display
