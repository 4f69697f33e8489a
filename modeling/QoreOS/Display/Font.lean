/-! The bitmap font of `compositor.rs`. -/

namespace QoreOS.Display

/-- Eight rows of eight pixels, the leftmost pixel in the high bit. -/
def getCharBitmap : Char → Vector UInt8 8
  | 'A' => #v[0x18, 0x24, 0x42, 0x42, 0x7E, 0x42, 0x42, 0x00]
  | 'B' => #v[0x3C, 0x22, 0x22, 0x3C, 0x22, 0x22, 0x3C, 0x00]
  | 'C' => #v[0x3C, 0x42, 0x40, 0x40, 0x40, 0x42, 0x3C, 0x00]
  | 'D' => #v[0x38, 0x24, 0x22, 0x22, 0x22, 0x24, 0x38, 0x00]
  | 'E' => #v[0x7E, 0x40, 0x40, 0x78, 0x40, 0x40, 0x7E, 0x00]
  | 'F' => #v[0x7E, 0x40, 0x40, 0x78, 0x40, 0x40, 0x40, 0x00]
  | 'G' => #v[0x3C, 0x42, 0x40, 0x4E, 0x42, 0x42, 0x3C, 0x00]
  | 'H' => #v[0x42, 0x42, 0x42, 0x7E, 0x42, 0x42, 0x42, 0x00]
  | 'I' => #v[0x3E, 0x08, 0x08, 0x08, 0x08, 0x08, 0x3E, 0x00]
  | 'J' => #v[0x0E, 0x04, 0x04, 0x04, 0x04, 0x44, 0x38, 0x00]
  | 'K' => #v[0x44, 0x48, 0x50, 0x60, 0x50, 0x48, 0x44, 0x00]
  | 'L' => #v[0x40, 0x40, 0x40, 0x40, 0x40, 0x40, 0x7E, 0x00]
  | 'M' => #v[0x42, 0x66, 0x5A, 0x42, 0x42, 0x42, 0x42, 0x00]
  | 'N' => #v[0x42, 0x62, 0x52, 0x4A, 0x46, 0x42, 0x42, 0x00]
  | 'O' => #v[0x3C, 0x42, 0x42, 0x42, 0x42, 0x42, 0x3C, 0x00]
  | 'P' => #v[0x3C, 0x42, 0x42, 0x3C, 0x40, 0x40, 0x40, 0x00]
  | 'Q' => #v[0x3C, 0x42, 0x42, 0x42, 0x4A, 0x44, 0x3A, 0x00]
  | 'R' => #v[0x3C, 0x22, 0x22, 0x3C, 0x24, 0x22, 0x42, 0x00]
  | 'S' => #v[0x3C, 0x42, 0x40, 0x3C, 0x02, 0x42, 0x3C, 0x00]
  | 'T' => #v[0x7E, 0x18, 0x18, 0x18, 0x18, 0x18, 0x18, 0x00]
  | 'U' => #v[0x42, 0x42, 0x42, 0x42, 0x42, 0x42, 0x3C, 0x00]
  | 'V' => #v[0x42, 0x42, 0x42, 0x42, 0x24, 0x24, 0x18, 0x00]
  | 'W' => #v[0x42, 0x42, 0x42, 0x42, 0x5A, 0x66, 0x42, 0x00]
  | 'X' => #v[0x42, 0x24, 0x18, 0x18, 0x24, 0x42, 0x42, 0x00]
  | 'Y' => #v[0x42, 0x42, 0x24, 0x18, 0x18, 0x18, 0x18, 0x00]
  | 'Z' => #v[0x7E, 0x04, 0x08, 0x10, 0x20, 0x40, 0x7E, 0x00]
  | '0' => #v[0x3C, 0x46, 0x4A, 0x52, 0x62, 0x42, 0x3C, 0x00]
  | '1' => #v[0x18, 0x28, 0x08, 0x08, 0x08, 0x08, 0x3E, 0x00]
  | ' ' => #v[0x00, 0x00, 0x00, 0x00, 0x00, 0x00, 0x00, 0x00]
  | ':' => #v[0x00, 0x18, 0x18, 0x00, 0x18, 0x18, 0x00, 0x00]
  | '-' => #v[0x00, 0x00, 0x00, 0x3C, 0x00, 0x00, 0x00, 0x00]
  | '>' => #v[0x00, 0x08, 0x04, 0x02, 0x04, 0x08, 0x00, 0x00]
  | '(' => #v[0x08, 0x10, 0x20, 0x20, 0x20, 0x10, 0x08, 0x00]
  | ')' => #v[0x20, 0x10, 0x08, 0x08, 0x08, 0x10, 0x20, 0x00]
  | '.' => #v[0x00, 0x00, 0x00, 0x00, 0x00, 0x18, 0x18, 0x00]
  | '!' => #v[0x18, 0x18, 0x18, 0x18, 0x00, 0x18, 0x18, 0x00]
  | _ => #v[0xFF, 0xFF, 0xFF, 0xFF, 0xFF, 0xFF, 0xFF, 0xFF]

/-- The test `bitmap[row] & (1 << (7 - col)) != 0` of both text renderers. -/
def glyphPixel (bitmap : Vector UInt8 8) (row col : Fin 8) : Bool :=
  bitmap[row] &&& 1 <<< (7 - col.val).toUInt8 != 0

end QoreOS.Display
