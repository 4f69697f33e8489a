import QoreOS.Library.Program
import QoreOS.Library.Bytes
import QoreOS.Memory.FrameAllocator

/-! The console of `vga.rs`, which prints straight into the framebuffer. -/

namespace QoreOS.Display

open QoreOS.Library QoreOS.Memory

/-- The glyphs of the font crate: eight rows, the leftmost pixel in the low bit. -/
abbrev UnicodeFont := Char → Option (Vector UInt8 8)

/-- A byte written by `put_pixel`, with the column that it was called for. -/
structure ByteWrite where
  column : Nat
  offset : Nat
  value : UInt8
  deriving DecidableEq

structure VgaWriter where
  framebuffer : Nat
  width : Nat
  height : Nat
  stride : Nat
  xPos : Nat
  yPos : Nat

/-- A program that writes to the framebuffer. -/
abbrev Printing := Program (List ByteWrite)

def writeVolatile (column offset : Nat) (value : UInt8) : Printing PUnit :=
  .act fun written => (PUnit.unit, written ++ [⟨column, offset, value⟩])

namespace VgaWriter

def new (info : BootInfo) : VgaWriter where
  framebuffer := info.framebufferBase
  width := info.width
  height := info.height
  stride := info.stride
  xPos := 10
  yPos := 10

def putPixel (writer : VgaWriter) (x y : Nat) (color : UInt8) : Printing PUnit := do
  let row ← .orPanic (checked (2 ^ 64) (y * writer.stride))
  let row ← .orPanic (checked (2 ^ 64) (row * 4))
  let column ← .orPanic (checked (2 ^ 64) (x * 4))
  let offset ← .orPanic (checked (2 ^ 64) (row + column))
  writeVolatile x offset color
  let second ← .orPanic (checked (2 ^ 64) (offset + 1))
  writeVolatile x second color
  let third ← .orPanic (checked (2 ^ 64) (offset + 2))
  writeVolatile x third color
  let fourth ← .orPanic (checked (2 ^ 64) (offset + 3))
  writeVolatile x fourth 0

def newline (writer : VgaWriter) : Printing VgaWriter := do
  let yPos ← .orPanic (checked (2 ^ 64) (writer.yPos + 10))
  return { writer with yPos := yPos, xPos := 10 }

/-- One pixel of a glyph. -/
def drawDot (writer : VgaWriter) (glyph : Vector UInt8 8) (y x : Fin 8) : Printing PUnit := do
  let px ← .orPanic (checked (2 ^ 64) (writer.xPos + x))
  let py ← .orPanic (checked (2 ^ 64) (writer.yPos + y))
  if glyph.get y &&& 1 <<< x.val.toUInt8 != 0 then writer.putPixel px py 0xFF
  else writer.putPixel px py 0x00

def drawGlyph (writer : VgaWriter) (glyph : Vector UInt8 8) : Printing PUnit :=
  (List.finRange 8).forM fun y => (List.finRange 8).forM fun x => writer.drawDot glyph y x

/-- The glyph, if the font has one. -/
def drawChar (basicFonts : UnicodeFont) (writer : VgaWriter) (c : Char) : Printing PUnit :=
  match basicFonts c with
  | some glyph => writer.drawGlyph glyph
  | none => pure PUnit.unit

/-- `if self.x_pos + 8 >= self.width` -/
def wrap (writer : VgaWriter) : Printing VgaWriter := do
  let right ← .orPanic (checked (2 ^ 64) (writer.xPos + 8))
  if right ≥ writer.width then writer.newline else pure writer

def writeChar (basicFonts : UnicodeFont) (writer : VgaWriter) (c : Char) : Printing VgaWriter := do
  let writer ← writer.wrap
  writer.drawChar basicFonts c
  let xPos ← .orPanic (checked (2 ^ 64) (writer.xPos + 8))
  return { writer with xPos := xPos }

/-- `byte as char` -/
def asChar (byte : UInt8) : Char := Char.ofNat byte.toNat

def writeByte (basicFonts : UnicodeFont) (writer : VgaWriter) (byte : UInt8) :
    Printing VgaWriter :=
  if byte = 0x0A then writer.newline else writer.writeChar basicFonts (asChar byte)

def writeString (basicFonts : UnicodeFont) (writer : VgaWriter) (text : String) :
    Printing VgaWriter :=
  (utf8 text).foldlM (writeByte basicFonts) writer

/-- Texts one after the other, as `print!` hands them over. -/
def print (basicFonts : UnicodeFont) (writer : VgaWriter) (texts : List String) :
    Printing VgaWriter :=
  texts.foldlM (writeString basicFonts) writer

/-- The cursor in a line where another glyph fits. -/
def wrapped (writer : VgaWriter) : VgaWriter :=
  if writer.xPos + 8 ≥ writer.width then { writer with yPos := writer.yPos + 10, xPos := 10 }
  else writer

/-- The cursor behind a byte. -/
def moved (writer : VgaWriter) (byte : UInt8) : VgaWriter :=
  if byte = 0x0A then { writer with yPos := writer.yPos + 10, xPos := 10 }
  else { writer.wrapped with xPos := writer.wrapped.xPos + 8 }

/-- If the byte has a glyph, the eight rows of its line are on the screen. -/
def LineShown (basicFonts : UnicodeFont) (writer : VgaWriter) (byte : UInt8) : Prop :=
  byte ≠ 0x0A → basicFonts (asChar byte) ≠ none → writer.wrapped.yPos + 8 ≤ writer.height

/-- So it is for each of the bytes. -/
def LinesShown (basicFonts : UnicodeFont) : VgaWriter → List UInt8 → Prop
  | _, [] => True
  | writer, byte :: bytes =>
    LineShown basicFonts writer byte ∧ LinesShown basicFonts (writer.moved byte) bytes

end VgaWriter

/-- The write is to the framebuffer, for a column that is visible. -/
structure ByteWrite.Inside (info : BootInfo) (write : ByteWrite) : Prop where
  offset : write.offset < info.stride * info.height * 4
  column : write.column < info.width

/-- Nothing has been written elsewhere. -/
def Contained (info : BootInfo) (written : List ByteWrite) : Prop :=
  ∀ write ∈ written, write.Inside info

/-- The console is on the screen, and its cursor not beyond the right edge. -/
structure VgaWriter.On (info : BootInfo) (writer : VgaWriter) : Prop where
  width : writer.width = info.width
  height : writer.height = info.height
  stride : writer.stride = info.stride
  column : writer.xPos ≤ info.width

theorem contained_append {info : BootInfo} {first second : List ByteWrite} :
    Contained info (first ++ second) ↔ Contained info first ∧ Contained info second :=
  List.forall_mem_append

theorem contained_nil (info : BootInfo) : Contained info [] := List.forall_mem_nil _

namespace VgaWriter

open Program

variable {writer : VgaWriter} {info : BootInfo} {basicFonts : UnicodeFont}

section Keeping

variable {World α β : Type} {before : World → Prop} {last : β → World → Prop}
  {broken : World → Prop}

/-- An overflow check, which panics or gives the number itself. -/
theorem ensures_checked {limit value : Nat} {next : Nat → Program World β}
    (holds : value < limit → Ensures before (next value) last broken)
    (panics : ∀ world, before world → broken world) :
    Ensures before (Program.orPanic (checked limit value) >>= next) last broken := by
  refine ensures_orPanic ?_ fun _ => panics
  intro found checks
  obtain ⟨rfl, small⟩ := checked_eq_some checks
  exact holds small

end Keeping

section Writes

variable {keeps broken : List ByteWrite → Prop}

/-- What the writes of a pixel keep, the pixel keeps. -/
theorem putPixel_keeps (x y : Nat) (color : UInt8)
    (each : ∀ part value, part ≤ 3 → ∀ written, keeps written →
      keeps (written ++ [⟨x, y * writer.stride * 4 + x * 4 + part, value⟩]))
    (panics : ∀ written, keeps written → broken written) :
    Ensures keeps (writer.putPixel x y color) (fun _ => keeps) broken := by
  have part : ∀ part value, part ≤ 3 → Ensures keeps
      (writeVolatile x (y * writer.stride * 4 + x * 4 + part) value) (fun _ => keeps) broken :=
    fun part value small => ensures_act (each part value small)
  unfold putPixel
  refine ensures_checked (fun _ => ?_) panics
  refine ensures_checked (fun _ => ?_) panics
  refine ensures_checked (fun _ => ?_) panics
  refine ensures_checked (fun _ => ?_) panics
  refine ensures_bind (part 0 color (by decide)) fun _ => ?_
  refine ensures_checked (fun _ => ?_) panics
  refine ensures_bind (part 1 color (by decide)) fun _ => ?_
  refine ensures_checked (fun _ => ?_) panics
  refine ensures_bind (part 2 color (by decide)) fun _ => ?_
  refine ensures_checked (fun _ => ?_) panics
  exact part 3 0 (by decide)

/-- What all writes to the place of a glyph keep. -/
def GlyphKeeps (writer : VgaWriter) (keeps : List ByteWrite → Prop) : Prop :=
  ∀ x y part value, x < 8 → y < 8 → part ≤ 3 → ∀ written, keeps written → keeps (written ++
    [⟨writer.xPos + x, (writer.yPos + y) * writer.stride * 4 + (writer.xPos + x) * 4 + part, value⟩])

theorem drawDot_keeps (each : writer.GlyphKeeps keeps)
    (panics : ∀ written, keeps written → broken written) (glyph : Vector UInt8 8) (y x : Fin 8) :
    Ensures keeps (writer.drawDot glyph y x) (fun _ => keeps) broken := by
  have pixel : ∀ color, Ensures keeps (writer.putPixel (writer.xPos + x) (writer.yPos + y) color)
      (fun _ => keeps) broken :=
    fun color => putPixel_keeps _ _ color (fun part value => each x y part value x.isLt y.isLt) panics
  unfold drawDot
  refine ensures_checked (fun _ => ?_) panics
  refine ensures_checked (fun _ => ?_) panics
  split
  · exact pixel 0xFF
  · exact pixel 0x00

theorem drawGlyph_keeps (each : writer.GlyphKeeps keeps)
    (panics : ∀ written, keeps written → broken written) (glyph : Vector UInt8 8) :
    Ensures keeps (writer.drawGlyph glyph) (fun _ => keeps) broken :=
  ensures_forM _ fun y => ensures_forM _ fun x => drawDot_keeps each panics glyph y x

theorem newline_moves (panics : ∀ written, keeps written → broken written) :
    Ensures keeps writer.newline (fun next written => next = { writer with
      yPos := writer.yPos + 10, xPos := 10 } ∧ keeps written) broken :=
  ensures_checked (fun _ => ensures_pure fun _ holds => ⟨rfl, holds⟩) panics

theorem wrap_moves (panics : ∀ written, keeps written → broken written) :
    Ensures keeps writer.wrap (fun next written => next = writer.wrapped ∧ keeps written) broken := by
  refine ensures_checked (fun _ => ?_) panics
  unfold wrapped
  split
  · exact newline_moves panics
  · exact ensures_pure fun _ holds => ⟨rfl, holds⟩

theorem drawChar_keeps {c : Char} (each : basicFonts c ≠ none → writer.GlyphKeeps keeps)
    (panics : ∀ written, keeps written → broken written) :
    Ensures keeps (writer.drawChar basicFonts c) (fun _ => keeps) broken := by
  unfold drawChar
  split
  case h_1 glyph found =>
    refine drawGlyph_keeps (each ?_) panics glyph
    rw [found]
    exact Option.some_ne_none glyph
  case h_2 => exact ensures_pure fun _ holds => holds

/-- A byte moves the cursor, and draws at most its glyph. -/
theorem writeByte_moves (byte : UInt8)
    (each : byte ≠ 0x0A → basicFonts (asChar byte) ≠ none → writer.wrapped.GlyphKeeps keeps)
    (panics : ∀ written, keeps written → broken written) :
    Ensures keeps (writer.writeByte basicFonts byte)
      (fun next written => next = writer.moved byte ∧ keeps written) broken := by
  unfold writeByte moved
  by_cases line : byte = 0x0A
  · rw [if_pos line, if_pos line]
    exact newline_moves panics
  · rw [if_neg line, if_neg line]
    refine ensures_bind (wrap_moves panics) fun next => ?_
    apply ensures_given
    rintro rfl
    refine ensures_bind (drawChar_keeps (each line) panics) fun _ => ?_
    exact ensures_checked (fun _ => ensures_pure fun _ holds => ⟨rfl, holds⟩) panics

end Writes

section Screen

/-- A dot of the screen has its bytes in the framebuffer. -/
theorem inside_of_visible (strided : info.width ≤ info.stride) {x y part : Nat} (value : UInt8)
    (column : x < info.width) (row : y < info.height) (small : part ≤ 3) :
    ByteWrite.Inside info ⟨x, y * info.stride * 4 + x * 4 + part, value⟩ := by
  refine ⟨?_, column⟩
  have rows : (y + 1) * info.stride ≤ info.height * info.stride := Nat.mul_le_mul_right _ row
  rw [Nat.succ_mul, Nat.mul_comm info.height] at rows
  change y * info.stride * 4 + x * 4 + part < info.stride * info.height * 4
  omega

/-- A dot below the screen has them beyond its end. -/
theorem not_inside_of_below {x y part : Nat} (value : UInt8) (below : info.height ≤ y) :
    ¬ ByteWrite.Inside info ⟨x, y * info.stride * 4 + x * 4 + part, value⟩ := by
  intro inside
  have rows : info.height * info.stride ≤ y * info.stride := Nat.mul_le_mul_right _ below
  have offset : y * info.stride * 4 + x * 4 + part < info.stride * info.height * 4 := inside.offset
  rw [Nat.mul_comm info.stride] at offset
  omega

/-- Bytes outside stay. -/
theorem glyphKeeps_not_contained (writer : VgaWriter) :
    writer.GlyphKeeps fun written => ¬ Contained info written :=
  fun _ _ _ _ _ _ _ _ spilled contained => spilled (contained_append.mp contained).1

theorem wrapped_on (wide : 19 ≤ info.width) (on : writer.On info) :
    writer.wrapped.On info ∧ writer.wrapped.xPos + 8 < info.width := by
  have width := on.width
  unfold wrapped
  split
  · exact ⟨⟨on.width, on.height, on.stride, by dsimp only; omega⟩, by dsimp only; omega⟩
  · exact ⟨on, by omega⟩

theorem moved_on (wide : 19 ≤ info.width) (on : writer.On info) (byte : UInt8) :
    (writer.moved byte).On info := by
  obtain ⟨kept, room⟩ := wrapped_on wide on
  unfold moved
  split
  · exact ⟨on.width, on.height, on.stride, by dsimp only; omega⟩
  · exact ⟨kept.width, kept.height, kept.stride, by dsimp only; omega⟩

/-- On a line that is shown a byte writes nothing elsewhere. -/
theorem writeByte_contained (wide : 19 ≤ info.width) (strided : info.width ≤ info.stride)
    (on : writer.On info) {byte : UInt8} (shown : writer.LineShown basicFonts byte) :
    Ensures (Contained info) (writer.writeByte basicFonts byte)
      (fun next written => next = writer.moved byte ∧ Contained info written) (Contained info) := by
  obtain ⟨kept, room⟩ := wrapped_on wide on
  refine writeByte_moves byte ?_ fun _ holds => holds
  intro line glyph x y part value left top small written contained
  have row := shown line glyph
  have height := on.height
  rw [kept.stride]
  refine contained_append.mpr ⟨contained, List.forall_mem_singleton.mpr ?_⟩
  exact inside_of_visible strided value (by omega) (by omega) small

/-- A dot below the screen, once it is written, is elsewhere. -/
theorem putPixel_spills (stride : writer.stride = info.stride) {x y : Nat} (color : UInt8)
    (below : info.height ≤ y) :
    Ensures (fun _ => True) (writer.putPixel x y color) (fun _ written => ¬ Contained info written)
      (fun _ => True) := by
  unfold putPixel
  refine ensures_checked (fun _ => ?_) fun _ holds => holds
  refine ensures_checked (fun _ => ?_) fun _ holds => holds
  refine ensures_checked (fun _ => ?_) fun _ holds => holds
  refine ensures_checked (fun _ => ?_) fun _ holds => holds
  refine ensures_bind (ensures_trivial _) fun _ => ?_
  refine ensures_checked (fun _ => ?_) fun _ holds => holds
  refine ensures_bind (ensures_trivial _) fun _ => ?_
  refine ensures_checked (fun _ => ?_) fun _ holds => holds
  refine ensures_bind (ensures_trivial _) fun _ => ?_
  refine ensures_checked (fun _ => ?_) fun _ holds => holds
  apply ensures_act
  intro written _ contained
  have last := (contained_append.mp contained).2 _ (List.mem_singleton_self _)
  rw [stride] at last
  exact not_inside_of_below 0 below last

theorem drawDot_spills (stride : writer.stride = info.stride) (glyph : Vector UInt8 8) {y : Fin 8}
    (below : info.height ≤ writer.yPos + y) (x : Fin 8) :
    Ensures (fun _ => True) (writer.drawDot glyph y x)
      (fun _ written => ¬ Contained info written) (fun _ => True) := by
  unfold drawDot
  refine ensures_checked (fun _ => ?_) fun _ holds => holds
  refine ensures_checked (fun _ => ?_) fun _ holds => holds
  split
  · exact putPixel_spills stride 0xFF below
  · exact putPixel_spills stride 0x00 below

/-- A glyph spills by its last row. -/
theorem drawGlyph_spills (stride : writer.stride = info.stride) (glyph : Vector UInt8 8)
    (below : info.height < writer.yPos + 8) :
    Ensures (fun _ => True) (writer.drawGlyph glyph)
      (fun _ written => ¬ Contained info written) (fun _ => True) := by
  have keeps : writer.GlyphKeeps fun written => ¬ Contained info written :=
    glyphKeeps_not_contained writer
  have dot : ∀ y x, Ensures (fun written => ¬ Contained info written) (writer.drawDot glyph y x)
      (fun _ written => ¬ Contained info written) (fun _ => True) :=
    drawDot_keeps keeps (fun _ _ => trivial) glyph
  have row : info.height ≤ writer.yPos + (7 : Fin 8) := Nat.le_of_lt_succ below
  refine ensures_forM_mem (List.mem_finRange (7 : Fin 8)) ?_ ?_ fun _ => trivial
  · exact ensures_forM_mem (List.mem_finRange (0 : Fin 8)) (drawDot_spills stride glyph row 0)
      (dot 7) fun _ => trivial
  · exact fun y => ensures_forM _ (dot y)

/-- On a line that is not, it writes below the screen. -/
theorem writeByte_spills (wide : 19 ≤ info.width) (on : writer.On info) {byte : UInt8}
    (hidden : ¬ writer.LineShown basicFonts byte) :
    Ensures (fun _ => True) (writer.writeByte basicFonts byte)
      (fun _ written => ¬ Contained info written) (fun _ => True) := by
  obtain ⟨kept, -⟩ := wrapped_on wide on
  have height := on.height
  simp only [LineShown, Classical.not_imp, not_le] at hidden
  obtain ⟨line, present, below⟩ := hidden
  obtain ⟨glyph, found⟩ := Option.ne_none_iff_exists'.mp present
  rw [writeByte, if_neg line, writeChar]
  have wraps : Ensures (fun _ => True) writer.wrap
      (fun next _ => next = writer.wrapped ∧ True) (fun _ => True) :=
    wrap_moves fun _ holds => holds
  refine ensures_bind wraps fun next => ?_
  apply ensures_given
  rintro rfl
  have draws : Ensures (fun _ => True) (writer.wrapped.drawChar basicFonts (asChar byte))
      (fun _ written => ¬ Contained info written) (fun _ => True) := by
    rw [drawChar, found]
    exact drawGlyph_spills kept.stride glyph (height ▸ below)
  refine ensures_bind draws fun _ => ?_
  exact ensures_checked (fun _ => ensures_pure fun _ holds => holds) fun _ _ => trivial

end Screen

section Run

/-- Whatever is printed, it is printed on visible columns. -/
theorem writeBytes_visible (wide : 19 ≤ info.width) (on : writer.On info) (bytes : List UInt8) :
    Ensures (fun written => ∀ write ∈ written, write.column < info.width)
      (bytes.foldlM (writeByte basicFonts) writer)
      (fun _ written => ∀ write ∈ written, write.column < info.width)
      (fun written => ∀ write ∈ written, write.column < info.width) := by
  induction bytes generalizing writer with
  | nil => exact ensures_pure fun _ holds => holds
  | cons byte bytes ih =>
    obtain ⟨-, room⟩ := wrapped_on wide on
    rw [List.foldlM_cons]
    refine ensures_bind (writeByte_moves byte ?_ fun _ holds => holds) fun next => ?_
    · intro _ _ x y part value left _ _ written visible
      refine List.forall_mem_append.mpr ⟨visible, List.forall_mem_singleton.mpr ?_⟩
      change writer.wrapped.xPos + x < info.width
      omega
    · apply ensures_given
      rintro rfl
      exact ih (moved_on wide on byte)

/-- As long as the lines are shown, nothing is written elsewhere, be it up to a panic. -/
theorem writeBytes_contained (wide : 19 ≤ info.width) (strided : info.width ≤ info.stride)
    (on : writer.On info) (bytes : List UInt8) (shown : LinesShown basicFonts writer bytes) :
    Ensures (Contained info) (bytes.foldlM (writeByte basicFonts) writer)
      (fun _ => Contained info) (Contained info) := by
  induction bytes generalizing writer with
  | nil => exact ensures_pure fun _ holds => holds
  | cons byte bytes ih =>
    rw [List.foldlM_cons]
    refine ensures_bind (writeByte_contained wide strided on shown.1) fun next => ?_
    apply ensures_given
    rintro rfl
    exact ih (moved_on wide on byte) shown.2

theorem writeByte_stays_spilled (writer : VgaWriter) (byte : UInt8) :
    Ensures (fun written => ¬ Contained info written) (writer.writeByte basicFonts byte)
      (fun _ written => ¬ Contained info written) (fun _ => True) := by
  have moves : Ensures (fun written => ¬ Contained info written) (writer.writeByte basicFonts byte)
      (fun next written => next = writer.moved byte ∧ ¬ Contained info written) (fun _ => True) :=
    writeByte_moves byte (fun _ _ => glyphKeeps_not_contained writer.wrapped) fun _ _ => trivial
  exact ensures_weaken moves (fun _ holds => holds) (fun _ _ holds => holds.2) fun _ holds => holds

/-- If they are not all shown and the text is printed to its end, something is. -/
theorem writeBytes_spills (wide : 19 ≤ info.width) (on : writer.On info) (bytes : List UInt8)
    (hidden : ¬ LinesShown basicFonts writer bytes) :
    Ensures (fun _ => True) (bytes.foldlM (writeByte basicFonts) writer)
      (fun _ written => ¬ Contained info written) (fun _ => True) := by
  induction bytes generalizing writer with
  | nil => exact absurd trivial hidden
  | cons byte bytes ih =>
    rw [List.foldlM_cons]
    by_cases shown : writer.LineShown basicFonts byte
    · have moves : Ensures (fun _ => True) (writer.writeByte basicFonts byte)
          (fun next _ => next = writer.moved byte ∧ True) (fun _ => True) :=
        writeByte_moves byte (fun _ _ _ _ _ _ _ _ _ _ _ => trivial) fun _ holds => holds
      refine ensures_bind moves fun next => ?_
      apply ensures_given
      rintro rfl
      exact ih (moved_on wide on byte) fun rest => hidden ⟨shown, rest⟩
    · refine ensures_bind (writeByte_spills wide on shown) fun _ => ?_
      exact ensures_foldlM writeByte_stays_spilled bytes _

/-- Texts are printed byte after byte. -/
theorem print_eq (basicFonts : UnicodeFont) (writer : VgaWriter) (texts : List String) :
    print basicFonts writer texts = (texts.flatMap utf8).foldlM (writeByte basicFonts) writer := by
  induction texts generalizing writer with
  | nil => rfl
  | cons text texts ih =>
    rw [print, List.foldlM_cons, List.flatMap_cons, List.foldlM_append]
    exact bind_congr fun next => ih next

theorem new_on (info : BootInfo) (wide : 19 ≤ info.width) : (new info).On info where
  width := rfl
  height := rfl
  stride := rfl
  column := by
    change 10 ≤ info.width
    omega

end Run

end VgaWriter

open VgaWriter in
/-- The console prints on visible columns. It stays in the framebuffer while each line
that it prints a glyph on is on the screen; and of the texts that are printed to their
end, no others stay there. -/
theorem print_contained_iff (basicFonts : UnicodeFont) (info : BootInfo) (wide : 19 ≤ info.width)
    (strided : info.width ≤ info.stride) (texts : List String) :
    (∀ write ∈ ((print basicFonts (VgaWriter.new info) texts).exec []).2,
        write.column < info.width) ∧
      (LinesShown basicFonts (VgaWriter.new info) (texts.flatMap utf8) →
        Contained info ((print basicFonts (VgaWriter.new info) texts).exec []).2) ∧
      (((print basicFonts (VgaWriter.new info) texts).exec []).1 ≠ none →
        Contained info ((print basicFonts (VgaWriter.new info) texts).exec []).2 →
        LinesShown basicFonts (VgaWriter.new info) (texts.flatMap utf8)) := by
  have on := new_on info wide
  rw [print_eq]
  refine ⟨?_, ?_, ?_⟩
  · exact Program.ensures_exec (writeBytes_visible wide on _) (List.forall_mem_nil _)
  · intro shown
    exact Program.ensures_exec (writeBytes_contained wide strided on _ shown) (contained_nil info)
  · intro ends contained
    by_contra hidden
    have spills := writeBytes_spills wide on _ hidden
    cases outcome : ((texts.flatMap utf8).foldlM (writeByte basicFonts)
        (VgaWriter.new info)).exec [] with
    | mk value written =>
      rw [outcome] at ends contained
      cases value with
      | some last => exact Program.ensures_some spills trivial outcome contained
      | none => exact ends rfl

/-- The letter A of the font. -/
def letterA : UnicodeFont := fun c =>
  if c = 'A' then some #v[0x0C, 0x1E, 0x33, 0x33, 0x3F, 0x33, 0x33, 0x00] else none

/-- The smallest screen: one line of one glyph. -/
def smallScreen : BootInfo where
  framebufferBase := 0x80000000
  framebufferSize := 1368
  width := 19
  height := 18
  stride := 19
  memoryMapSize := 0
  acpi2RsdpAddr := 0
  memoryMapAddr := 0
  memoryMapDescSize := 0

theorem print_contained_line :
    Contained smallScreen ((VgaWriter.print letterA (VgaWriter.new smallScreen) ["A\n"]).exec []).2 := by
  refine (print_contained_iff letterA smallScreen (by decide) (by decide) ["A\n"]).2.1 ?_
  refine ⟨fun _ _ => by decide, fun newline => absurd rfl newline, trivial⟩

/-- A second line is below the screen. -/
theorem not_contained_below : ¬ ∀ texts, Contained smallScreen
    ((VgaWriter.print letterA (VgaWriter.new smallScreen) texts).exec []).2 := by
  intro contained
  have written : (⟨10, 1560, 0x00⟩ : ByteWrite) ∈
      ((VgaWriter.print letterA (VgaWriter.new smallScreen) ["\nA"]).exec []).2 := by
    decide +kernel
  exact absurd (contained ["\nA"] _ written).offset (by decide)

end QoreOS.Display
