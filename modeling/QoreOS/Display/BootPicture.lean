import QoreOS.Display.BootConsole
import QoreOS.Display.Canvas
import QoreOS.Library.Sheets

/-! What the boot console shows: the glyphs of all that was printed, in reading order, each
whole and alone on its cell. -/

namespace QoreOS.Display

open QoreOS.Library QoreOS.Memory Program

/-- `write_bytes(fb_ptr, 0x00, framebuffer_size)` -/
def writeBytes (info : BootInfo) (screen : Nat → UInt8) : Nat → UInt8 :=
  fun offset => if offset < info.framebufferSize then 0x00 else screen offset

/-- The framebuffer after the writes. -/
def stored (screen : Nat → UInt8) (written : List ByteWrite) : Nat → UInt8 :=
  written.foldl (fun screen write => Function.update screen write.offset write.value) screen

/-- The dots that are on the screen. -/
abbrev Dot (info : BootInfo) := { dot : Nat × Nat // dot.1 < info.width ∧ dot.2 < info.height }

/-- The four bytes of each dot. -/
def picture (info : BootInfo) (screen : Nat → UInt8) (dot : Dot info) : List UInt8 :=
  let offset := dot.val.2 * info.stride * 4 + dot.val.1 * 4
  [screen offset, screen (offset + 1), screen (offset + 2), screen (offset + 3)]

def grey (color : UInt8) : List UInt8 := [color, color, color, 0]

/-- The place of a glyph. -/
structure Cell where
  x : Nat
  y : Nat
  glyph : Vector UInt8 8

namespace Cell

def Covers (cell : Cell) (dot : Nat × Nat) : Prop :=
  cell.x ≤ dot.1 ∧ dot.1 < cell.x + 8 ∧ cell.y ≤ dot.2 ∧ dot.2 < cell.y + 8

instance (cell : Cell) (dot : Nat × Nat) : Decidable (cell.Covers dot) :=
  inferInstanceAs (Decidable (_ ∧ _))

/-- The cell is on the screen. -/
structure On (info : BootInfo) (cell : Cell) : Prop where
  right : cell.x + 8 ≤ info.width
  bottom : cell.y + 8 ≤ info.height

/-- The bit of the glyph. -/
def color (cell : Cell) (row col : Fin 8) : UInt8 :=
  if cell.glyph.get row &&& 1 <<< col.val.toUInt8 != 0 then 0xFF else 0x00

/-- The glyph as it is painted. -/
def sheet (info : BootInfo) (cell : Cell) : Sheet (Dot info) (List UInt8) := fun dot =>
  if covers : cell.Covers dot.val then
    some (grey (cell.color ⟨dot.val.2 - cell.y, Nat.sub_lt_left_of_lt_add covers.2.2.1 covers.2.2.2⟩
      ⟨dot.val.1 - cell.x, Nat.sub_lt_left_of_lt_add covers.1 covers.2.1⟩))
  else none

/-- On the same line with room for the glyph, or on a line below. -/
def Before (cell later : Cell) : Prop :=
  cell.y = later.y ∧ cell.x + 8 ≤ later.x ∨ cell.y + 10 ≤ later.y

end Cell

namespace VgaWriter

/-- Where the byte is drawn, if it has a glyph. -/
def cell (basicFonts : UnicodeFont) (writer : VgaWriter) (byte : UInt8) : Option Cell :=
  if byte = 0x0A then none
  else (basicFonts (asChar byte)).map (Cell.mk writer.wrapped.xPos writer.wrapped.yPos)

/-- The glyphs of a text. -/
def cells (basicFonts : UnicodeFont) : VgaWriter → List UInt8 → List Cell
  | _, [] => []
  | writer, byte :: bytes =>
    (writer.cell basicFonts byte).toList ++ cells basicFonts (writer.moved byte) bytes

/-- What the font has for the bytes of a text. -/
def glyphs (basicFonts : UnicodeFont) (bytes : List UInt8) : List (Vector UInt8 8) :=
  bytes.filterMap fun byte => if byte = 0x0A then none else basicFonts (asChar byte)

variable {info : BootInfo} {writer : VgaWriter} {basicFonts : UnicodeFont}

theorem cells_glyph (basicFonts : UnicodeFont) (writer : VgaWriter) (bytes : List UInt8) :
    (writer.cells basicFonts bytes).map Cell.glyph = glyphs basicFonts bytes := by
  induction bytes generalizing writer with
  | nil => rfl
  | cons byte bytes ih =>
    rw [cells, List.map_append, ih]
    unfold cell glyphs
    rw [List.filterMap_cons]
    by_cases line : byte = 0x0A
    · rw [if_pos line, if_pos line]
      rfl
    · rw [if_neg line, if_neg line]
      cases basicFonts (asChar byte) with
      | none => rfl
      | some glyph => rfl

theorem cell_some {byte : UInt8} {cell : Cell}
    (here : cell ∈ (writer.cell basicFonts byte).toList) :
    byte ≠ 0x0A ∧ ∃ glyph, basicFonts (asChar byte) = some glyph ∧
      cell = ⟨writer.wrapped.xPos, writer.wrapped.yPos, glyph⟩ := by
  rw [Option.mem_toList, VgaWriter.cell] at here
  split at here
  · cases here
  · obtain ⟨glyph, found, rfl⟩ := Option.map_eq_some_iff.mp here
    exact ⟨‹_›, glyph, found, rfl⟩

/-- The cells lie behind the cursor. -/
theorem mem_cells {bytes : List UInt8} {cell : Cell}
    (member : cell ∈ writer.cells basicFonts bytes) :
    writer.yPos = cell.y ∧ writer.xPos ≤ cell.x ∨ writer.yPos + 10 ≤ cell.y := by
  induction bytes generalizing writer with
  | nil => cases member
  | cons byte bytes ih =>
    rw [cells, List.mem_append] at member
    rcases member with here | later
    · obtain ⟨-, glyph, -, rfl⟩ := cell_some here
      unfold wrapped
      split
      · exact Or.inr (Nat.le_refl _)
      · exact Or.inl ⟨rfl, Nat.le_refl _⟩
    · have behind := ih later
      unfold moved wrapped at behind
      split at behind
      · dsimp only at behind
        omega
      · split at behind
        · dsimp only at behind
          omega
        · dsimp only at behind
          omega

/-- The glyphs stand in reading order. -/
theorem cells_ordered (basicFonts : UnicodeFont) (writer : VgaWriter) (bytes : List UInt8) :
    (writer.cells basicFonts bytes).Pairwise Cell.Before := by
  induction bytes generalizing writer with
  | nil => exact .nil
  | cons byte bytes ih =>
    rw [cells, List.pairwise_append]
    refine ⟨?_, ih _, ?_⟩
    · cases writer.cell basicFonts byte with
      | none => exact .nil
      | some cell => exact List.pairwise_singleton ..
    · intro cell here later member
      obtain ⟨line, glyph, -, rfl⟩ := cell_some here
      have behind := mem_cells member
      rw [moved, if_neg line] at behind
      exact behind

theorem cell_visible (wide : 19 ≤ info.width) (on : writer.On info) {byte : UInt8}
    (visible : writer.LineShown basicFonts byte) {cell : Cell}
    (here : cell ∈ (writer.cell basicFonts byte).toList) : cell.On info := by
  obtain ⟨line, glyph, found, rfl⟩ := cell_some here
  have row := visible line (by rw [found]; exact Option.some_ne_none glyph)
  exact ⟨Nat.le_of_lt (wrapped_on wide on).2, on.height ▸ row⟩

/-- On lines that are shown the glyphs are. -/
theorem cells_visible (wide : 19 ≤ info.width) (on : writer.On info) {bytes : List UInt8}
    (visible : writer.LinesShown basicFonts bytes) :
    ∀ cell ∈ writer.cells basicFonts bytes, cell.On info := by
  induction bytes generalizing writer with
  | nil => exact List.forall_mem_nil _
  | cons byte bytes ih =>
    rw [cells, List.forall_mem_append]
    exact ⟨fun cell here => cell_visible wide on visible.1 here,
      ih (moved_on wide on byte) visible.2⟩

end VgaWriter

/-- Cells of a text do not overlap. -/
theorem Cell.Before.apart {cell later : Cell} (before : cell.Before later) {dot : Nat × Nat}
    (covers : cell.Covers dot) : ¬ later.Covers dot := by
  rintro ⟨left, right, top, bottom⟩
  obtain ⟨left', right', top', bottom'⟩ := covers
  rcases before with ⟨line, room⟩ | below
  · omega
  · omega

theorem cell_unique {cells : List Cell} (ordered : cells.Pairwise Cell.Before) {cell other : Cell}
    (here : cell ∈ cells) (there : other ∈ cells) {dot : Nat × Nat} (covers : cell.Covers dot)
    (again : other.Covers dot) : other = cell := by
  induction ordered with
  | nil => cases here
  | @cons first cells before _ ih =>
    rcases List.mem_cons.mp here with rfl | member
    · rcases List.mem_cons.mp there with rfl | other_member
      · rfl
      · exact absurd again ((before other other_member).apart covers)
    · rcases List.mem_cons.mp there with rfl | other_member
      · exact absurd covers ((before cell member).apart again)
      · exact ih member other_member

section Painting

variable {info : BootInfo} {writer : VgaWriter} {basicFonts : UnicodeFont} {screen : Nat → UInt8}

/-- A screen with room for a glyph, its rows in the framebuffer and that in the address space. -/
structure Mapped (info : BootInfo) : Prop where
  wide : 19 ≤ info.width
  tall : 18 ≤ info.height
  strided : info.width ≤ info.stride
  framed : info.stride * info.height * 4 ≤ info.framebufferSize
  sized : info.framebufferSize ≤ 2 ^ 64

def dotSheet (info : BootInfo) (x y : Nat) (color : UInt8) : Sheet (Dot info) (List UInt8) :=
  .filled (fun dot => dot.val = (x, y)) (grey color)

/-- The picture behind the writes so far. -/
def shown (info : BootInfo) (screen : Nat → UInt8) (written : List ByteWrite) :
    Dot info → List UInt8 := picture info (stored screen written)

/-- The bytes of a dot that is painted. -/
def pixelWrites (stride x y : Nat) (color : UInt8) : List ByteWrite :=
  (grey color).mapIdx fun part value => ⟨x, y * stride * 4 + x * 4 + part, value⟩

theorem putPixel_exec (mapped : Mapped info) (stride : writer.stride = info.stride) {x y : Nat}
    (column : x < info.width) (row : y < info.height) (color : UInt8) (written : List ByteWrite) :
    (writer.putPixel x y color).exec written =
      (some PUnit.unit, written ++ pixelWrites info.stride x y color) := by
  have inside := (VgaWriter.inside_of_visible mapped.strided 0 column row (Nat.le_refl 3)).offset
  have framed := mapped.framed
  have sized := mapped.sized
  change y * info.stride * 4 + x * 4 + 3 < info.stride * info.height * 4 at inside
  simp only [VgaWriter.putPixel, stride, exec_bind, exec_orPanic, writeVolatile, exec_act,
    checked_of_lt (show y * info.stride < 2 ^ 64 by omega),
    checked_of_lt (show y * info.stride * 4 < 2 ^ 64 by omega),
    checked_of_lt (show x * 4 < 2 ^ 64 by omega),
    checked_of_lt (show y * info.stride * 4 + x * 4 < 2 ^ 64 by omega),
    checked_of_lt (show y * info.stride * 4 + x * 4 + 1 < 2 ^ 64 by omega),
    checked_of_lt (show y * info.stride * 4 + x * 4 + 2 < 2 ^ 64 by omega),
    checked_of_lt (show y * info.stride * 4 + x * 4 + 3 < 2 ^ 64 by omega)]
  simp [pixelWrites, grey]

/-- The four bytes and no others. -/
theorem stored_pixel (memory : Nat → UInt8) (stride x y : Nat) (color : UInt8) (offset : Nat) :
    stored memory (pixelWrites stride x y color) offset =
      if y * stride * 4 + x * 4 ≤ offset ∧ offset < y * stride * 4 + x * 4 + 4 then
        (grey color).getD (offset - (y * stride * 4 + x * 4)) 0
      else memory offset := by
  generalize base : y * stride * 4 + x * 4 = first
  simp only [stored, pixelWrites, grey, base, List.mapIdx_cons, List.mapIdx_nil, List.foldl_cons,
    List.foldl_nil, Nat.add_zero, Nat.zero_add, Function.update_apply]
  by_cases inside : first ≤ offset ∧ offset < first + 4
  · rw [if_pos inside]
    obtain rfl | rfl | rfl | rfl : offset = first ∨ offset = first + 1 ∨ offset = first + 2 ∨
        offset = first + 3 := by omega
    all_goals simp
  · rw [if_neg inside, if_neg (by omega), if_neg (by omega), if_neg (by omega), if_neg (by omega)]

theorem putPixel_lays (mapped : Mapped info) (stride : writer.stride = info.stride) {x y : Nat}
    (column : x < info.width) (row : y < info.height) (color : UInt8) :
    Sheet.Lays (shown info screen) (writer.putPixel x y color) PUnit.unit
      (dotSheet info x y color) := by
  intro written
  refine ⟨_, putPixel_exec mapped stride column row color written, ?_⟩
  have strided := mapped.strided
  funext dot
  obtain ⟨⟨left, top⟩, visible⟩ := dot
  rw [shown, stored, List.foldl_append]
  change picture info (stored (stored screen written) _) _ = _
  simp only [picture, stored_pixel]
  by_cases same : (left, top) = (x, y)
  · cases same
    have covers : dotSheet info x y color ⟨(x, y), visible⟩ = some (grey color) := if_pos rfl
    rw [Sheet.onTop_of_eq_some covers]
    simp [grey]
  · have apart : top * info.stride + left ≠ y * info.stride + x := fun words =>
      same (Prod.ext_iff.mpr (Canvas.slot_injective (column.trans_le strided)
        (visible.1.trans_le strided) words))
    have spares : dotSheet info x y color ⟨(left, top), visible⟩ = none := if_neg same
    rw [Sheet.onTop_of_eq_none spares, if_neg (by omega), if_neg (by omega), if_neg (by omega),
      if_neg (by omega)]
    rfl

/-- The dots of a glyph, row by row. -/
theorem glyph_sheet (info : BootInfo) (cell : Cell) :
    Sheet.pile ((List.finRange 8).map fun row : Fin 8 => Sheet.pile ((List.finRange 8).map
      fun col : Fin 8 => dotSheet info (cell.x + col) (cell.y + row) (cell.color row col))) =
        cell.sheet info := by
  funext dot
  have other : ∀ row col : Fin 8, dot.val ≠ (cell.x + col.val, cell.y + row.val) →
      dotSheet info (cell.x + col) (cell.y + row) (cell.color row col) dot = none :=
    fun row col different => if_neg different
  by_cases covers : cell.Covers dot.val
  · obtain ⟨left, right, top, bottom⟩ := covers
    have column : dot.val.1 - cell.x < 8 := by omega
    have line : dot.val.2 - cell.y < 8 := by omega
    rw [Sheet.pile_map_eq (List.mem_finRange ⟨_, line⟩), Sheet.pile_map_eq
      (List.mem_finRange ⟨_, column⟩)]
    · have here : dot.val = (cell.x + (dot.val.1 - cell.x), cell.y + (dot.val.2 - cell.y)) :=
        Prod.ext (by dsimp only; omega) (by dsimp only; omega)
      rw [Cell.sheet, dif_pos ⟨left, right, top, bottom⟩]
      exact if_pos here
    · intro col _ different
      refine other _ col fun same => different (Fin.ext ?_)
      have columns := congrArg Prod.fst same
      dsimp only at columns ⊢
      omega
    · intro row _ different
      refine Sheet.pile_map_eq_none fun col _ => other row col fun same => different (Fin.ext ?_)
      have rows := congrArg Prod.snd same
      dsimp only at rows ⊢
      omega
  · rw [Cell.sheet, dif_neg covers]
    refine Sheet.pile_map_eq_none fun row _ => Sheet.pile_map_eq_none fun col _ => ?_
    refine other row col fun same => covers ?_
    have column := col.isLt
    have line := row.isLt
    rw [same]
    exact ⟨by dsimp only; omega, by dsimp only; omega, by dsimp only; omega, by dsimp only; omega⟩

/-- Numbers on the screen are small. -/
theorem Mapped.small (mapped : Mapped info) : 72 * info.width ≤ 2 ^ 64 ∧
    ∀ y, y < info.height → y < 2 ^ 64 := by
  obtain ⟨wide, tall, strided, framed, sized⟩ := mapped
  have rows : info.stride * 18 ≤ info.stride * info.height := Nat.mul_le_mul_left _ tall
  have columns : 19 * info.height ≤ info.stride * info.height :=
    Nat.mul_le_mul_right _ (wide.trans strided)
  exact ⟨by omega, fun y row => by omega⟩

theorem drawGlyph_lays (mapped : Mapped info) (stride : writer.stride = info.stride)
    (glyph : Vector UInt8 8) (column : writer.xPos + 8 ≤ info.width)
    (row : writer.yPos + 8 ≤ info.height) :
    Sheet.Lays (shown info screen) (writer.drawGlyph glyph) PUnit.unit
      (Cell.sheet info ⟨writer.xPos, writer.yPos, glyph⟩) := by
  obtain ⟨narrow, short⟩ := mapped.small
  rw [← glyph_sheet]
  unfold VgaWriter.drawGlyph
  refine Sheet.lays_forM fun y _ => Sheet.lays_forM fun x _ => ?_
  have visible : writer.xPos + x.val < info.width := by omega
  have below : writer.yPos + y.val < info.height := by omega
  have tall := short _ below
  unfold VgaWriter.drawDot Cell.color
  refine Sheet.lays_orPanic (checked_of_lt (by omega)) ?_
  refine Sheet.lays_orPanic (checked_of_lt tall) ?_
  split
  · exact putPixel_lays mapped stride visible below 0xFF
  · exact putPixel_lays mapped stride visible below 0x00

theorem newline_lays (room : writer.yPos + 10 < 2 ^ 64) :
    Sheet.Lays (shown info screen) writer.newline
      { writer with yPos := writer.yPos + 10, xPos := 10 } Sheet.clear :=
  Sheet.lays_orPanic (checked_of_lt room) (Sheet.lays_pure _)

theorem wrap_lays (mapped : Mapped info) (on : writer.On info) (room : writer.yPos + 10 < 2 ^ 64) :
    Sheet.Lays (shown info screen) writer.wrap writer.wrapped Sheet.clear := by
  have narrow := mapped.small.1
  have column := on.column
  have wide := mapped.wide
  unfold VgaWriter.wrap VgaWriter.wrapped
  refine Sheet.lays_orPanic (checked_of_lt (by omega)) ?_
  split
  · exact newline_lays room
  · exact Sheet.lays_pure writer

/-- A byte lays its glyph, if it has one, and nothing else. -/
theorem writeByte_lays (mapped : Mapped info) (on : writer.On info) {byte : UInt8}
    (visible : writer.LineShown basicFonts byte) (room : writer.yPos + 10 < 2 ^ 64) :
    Sheet.Lays (shown info screen) (writer.writeByte basicFonts byte) (writer.moved byte)
      (Sheet.pile ((writer.cell basicFonts byte).toList.map (Cell.sheet info))) := by
  have narrow := mapped.small.1
  have wide := mapped.wide
  unfold VgaWriter.writeByte VgaWriter.moved VgaWriter.cell
  by_cases line : byte = 0x0A
  · rw [if_pos line, if_pos line, if_pos line]
    exact newline_lays room
  · rw [if_neg line, if_neg line, if_neg line]
    obtain ⟨kept, fits⟩ := VgaWriter.wrapped_on wide on
    have ends : Sheet.Lays (shown info screen)
        (do
          let xPos ← .orPanic (checked (2 ^ 64) (writer.wrapped.xPos + 8))
          return { writer.wrapped with xPos := xPos })
        { writer.wrapped with xPos := writer.wrapped.xPos + 8 } Sheet.clear :=
      Sheet.lays_orPanic (checked_of_lt (by omega)) (Sheet.lays_pure _)
    have draws : Sheet.Lays (shown info screen)
        (writer.wrapped.drawChar basicFonts (VgaWriter.asChar byte)) PUnit.unit
        (Sheet.pile (((basicFonts (VgaWriter.asChar byte)).map
          (Cell.mk writer.wrapped.xPos writer.wrapped.yPos)).toList.map (Cell.sheet info))) := by
      unfold VgaWriter.drawChar
      cases found : basicFonts (VgaWriter.asChar byte) with
      | none => exact Sheet.lays_pure PUnit.unit
      | some glyph =>
        have row := visible line (by rw [found]; exact Option.some_ne_none glyph)
        rw [on.height] at row
        exact drawGlyph_lays mapped kept.stride glyph (Nat.le_of_lt fits) row
    have wraps : Sheet.Lays (shown info screen) writer.wrap writer.wrapped Sheet.clear :=
      wrap_lays mapped on room
    rw [← Sheet.pile_clear_above (Sheet.pile _), ← Sheet.pile_clear_below (Sheet.pile [_, _])]
    unfold VgaWriter.writeChar
    refine Sheet.lays_bind wraps ?_
    exact Sheet.lays_bind draws ends

theorem moved_yPos (writer : VgaWriter) (byte : UInt8) :
    (writer.moved byte).yPos ≤ writer.yPos + 10 := by
  unfold VgaWriter.moved VgaWriter.wrapped
  split
  · exact Nat.le_refl _
  · split
    · exact Nat.le_refl _
    · exact Nat.le_add_right _ _

/-- The bytes lay their glyphs, a later one over an earlier one. -/
theorem writeBytes_lays (mapped : Mapped info) (on : writer.On info) {bytes : List UInt8}
    (visible : writer.LinesShown basicFonts bytes)
    (room : writer.yPos + 10 * bytes.length < 2 ^ 64) :
    Sheet.Lays (shown info screen) (bytes.foldlM (VgaWriter.writeByte basicFonts) writer)
      (bytes.foldl VgaWriter.moved writer)
      (Sheet.pile ((writer.cells basicFonts bytes).map (Cell.sheet info))) := by
  induction bytes generalizing writer with
  | nil => exact Sheet.lays_pure writer
  | cons byte bytes ih =>
    rw [List.length_cons] at room
    have low := moved_yPos writer byte
    have first : Sheet.Lays (shown info screen) (writer.writeByte basicFonts byte)
        (writer.moved byte)
        (Sheet.pile ((writer.cell basicFonts byte).toList.map (Cell.sheet info))) :=
      writeByte_lays mapped on visible.1 (by omega)
    have rest := ih (VgaWriter.moved_on mapped.wide on byte) visible.2 (by omega)
    rw [List.foldlM_cons, List.foldl_cons, VgaWriter.cells, List.map_append, Sheet.pile_append]
    exact Sheet.lays_bind first rest

/-- A dot of the cell. -/
def Cell.dot {cell : Cell} (on : cell.On info) (row col : Fin 8) : Dot info :=
  ⟨(cell.x + col, cell.y + row), (Nat.add_lt_add_left col.isLt _).trans_le on.right,
    (Nat.add_lt_add_left row.isLt _).trans_le on.bottom⟩

theorem Cell.covers_dot {cell : Cell} (on : cell.On info) (row col : Fin 8) :
    cell.Covers (Cell.dot on row col).val :=
  ⟨Nat.le_add_right _ _, Nat.add_lt_add_left col.isLt _, Nat.le_add_right _ _,
    Nat.add_lt_add_left row.isLt _⟩

theorem Cell.sheet_dot {cell : Cell} (on : cell.On info) (row col : Fin 8) :
    cell.sheet info (Cell.dot on row col) = some (grey (cell.color row col)) := by
  rw [Cell.sheet, dif_pos (Cell.covers_dot on row col)]
  simp [Cell.dot]

/-- The framebuffer is black where nothing has been printed. -/
theorem shown_writeBytes (mapped : Mapped info) (screen : Nat → UInt8) (dot : Dot info) :
    shown info (writeBytes info screen) [] dot = [0x00, 0x00, 0x00, 0x00] := by
  obtain ⟨⟨left, top⟩, column, row⟩ := dot
  have framed := mapped.framed
  have inside := (VgaWriter.inside_of_visible mapped.strided 0 column row (Nat.le_refl 3)).offset
  change top * info.stride * 4 + left * 4 + 3 < info.stride * info.height * 4 at inside
  have black : ∀ part, part ≤ 3 →
      writeBytes info screen (top * info.stride * 4 + left * 4 + part) = 0x00 :=
    fun part small => if_pos (by omega)
  change (List.range 4).map (fun part =>
    writeBytes info screen (top * info.stride * 4 + left * 4 + part)) = List.replicate 4 0x00
  refine List.map_eq_replicate_iff.mpr fun part member => black part ?_
  exact Nat.le_of_lt_succ (List.mem_range.mp member)

end Painting

open VgaWriter in
/-- The boot console on a cleared framebuffer: what is printed is the glyphs of the text, in
reading order, each whole on the screen with nothing over it, and black elsewhere. -/
theorem print_shows (basicFonts : UnicodeFont) (info : BootInfo) (mapped : Mapped info)
    (screen : Nat → UInt8) (texts : List String)
    (visible : LinesShown basicFonts (VgaWriter.new info) (texts.flatMap utf8))
    (room : 10 + 10 * (texts.flatMap utf8).length < 2 ^ 64) :
    ∃ (last : VgaWriter) (written : List ByteWrite) (cells : List Cell),
      (print basicFonts (VgaWriter.new info) texts).exec [] = (some last, written) ∧
      cells.map Cell.glyph = glyphs basicFonts (texts.flatMap utf8) ∧
      cells.Pairwise Cell.Before ∧
      (∀ cell ∈ cells, ∃ on : cell.On info, ∀ row col, shown info (writeBytes info screen) written
        (Cell.dot on row col) = grey (cell.color row col)) ∧
      ∀ dot : Dot info, (∀ cell ∈ cells, ¬ cell.Covers dot.val) →
        shown info (writeBytes info screen) written dot = [0x00, 0x00, 0x00, 0x00] := by
  have on := new_on info mapped.wide
  have onScreen := cells_visible mapped.wide on visible
  have ordered := cells_ordered basicFonts (VgaWriter.new info) (texts.flatMap utf8)
  have lays : Sheet.Lays (shown info (writeBytes info screen)) _ _ _ :=
    writeBytes_lays mapped on visible room
  obtain ⟨written, ends, laid⟩ := lays []
  refine ⟨(texts.flatMap utf8).foldl moved (VgaWriter.new info), written,
    (VgaWriter.new info).cells basicFonts (texts.flatMap utf8), ?_, cells_glyph basicFonts _ _,
    ordered, ?_, ?_⟩
  · rw [print_eq]
    exact ends
  · intro cell member
    refine ⟨onScreen cell member, fun row col => ?_⟩
    have alone : ∀ other ∈ (VgaWriter.new info).cells basicFonts (texts.flatMap utf8),
        other ≠ cell → other.sheet info (Cell.dot (onScreen cell member) row col) = none := by
      intro other there different
      refine dif_neg fun again => different ?_
      exact cell_unique ordered member there (Cell.covers_dot _ row col) again
    rw [laid]
    refine Sheet.onTop_of_eq_some ?_
    rw [Sheet.pile_map_eq member alone]
    exact Cell.sheet_dot _ row col
  · intro dot uncovered
    rw [laid, Sheet.onTop_of_eq_none]
    · exact shown_writeBytes mapped screen dot
    · exact Sheet.pile_map_eq_none fun cell member => dif_neg (uncovered cell member)

theorem print_shows_line : ∃ (last : VgaWriter) (written : List ByteWrite) (cells : List Cell),
    (VgaWriter.print letterA (VgaWriter.new smallScreen) ["A\n"]).exec [] = (some last, written) ∧
      cells.map Cell.glyph = [#v[0x0C, 0x1E, 0x33, 0x33, 0x3F, 0x33, 0x33, 0x00]] ∧
      ∀ cell ∈ cells, ∃ on : cell.On smallScreen, ∀ row col,
        shown smallScreen (writeBytes smallScreen fun _ => 0xAA) written (Cell.dot on row col) =
          grey (cell.color row col) := by
  have mapped : Mapped smallScreen := by
    constructor <;> decide
  obtain ⟨last, written, cells, ends, drawn, -, shows, -⟩ := print_shows letterA smallScreen mapped
    (fun _ => 0xAA) ["A\n"] ⟨fun _ _ => by decide, fun newline => absurd rfl newline, trivial⟩
    (by decide)
  exact ⟨last, written, cells, ends, drawn.trans (by decide), shows⟩

end QoreOS.Display
