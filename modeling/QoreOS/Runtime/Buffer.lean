import Mathlib.Algebra.Ring.Nat
import QoreOS.Library.Budget

/-! The allocator calls behind `Vec`, `String` and `Box`. -/

namespace QoreOS.Runtime

open QoreOS.Library

/-- How a `String` is opened by `format!` and how a `Vec` or `String` that is
too small grows: the new room for the old one and the length to be held. -/
structure Growth where
  opening : Nat → Nat
  grown : Nat → Nat → Nat
  enough : ∀ room length, length ≤ grown room length

/-- As `Vec` and `String` grow in practice: they double. -/
def Growth.doubling : Growth where
  opening := fun literals => 2 * literals
  grown := fun room length => max (2 * room) (max length 8)
  enough := fun _ _ => by omega

/-- A part of a format string. -/
inductive Piece where
  | literal (text : String)
  | argument (text : String)

def Piece.length : Piece → Nat
  | .literal text => text.utf8ByteSize
  | .argument text => text.utf8ByteSize

/-- The bytes which the format string itself contributes. -/
def Piece.literals : Piece → Nat
  | .literal text => text.utf8ByteSize
  | .argument _ => 0

/-- A `Vec` or `String` and the calls that have built it. -/
structure Buffer where
  room : Nat
  length : Nat
  calls : List HeapCall

namespace Buffer

/-- `vec![..]` -/
def vec (length : Nat) : Buffer where
  room := length
  length := length
  calls := [.take length]

/-- `with_capacity` -/
def empty (room : Nat) : Buffer where
  room := room
  length := 0
  calls := [.take room]

/-- The allocator has no `realloc` of its own: the new memory is taken before
the old is given back. -/
def move (buffer : Buffer) (room : Nat) : Buffer :=
  { buffer with room := room, calls := buffer.calls ++ [.take room, .give buffer.room] }

def extend (growth : Growth) (buffer : Buffer) (more : Nat) : Buffer :=
  if buffer.length + more ≤ buffer.room then { buffer with length := buffer.length + more }
  else { buffer.move (growth.grown buffer.room (buffer.length + more)) with
    length := buffer.length + more }

/-- `into_boxed_slice` -/
def intoBoxedSlice (buffer : Buffer) : Buffer :=
  if buffer.length < buffer.room then buffer.move buffer.length else buffer

def drop (buffer : Buffer) : List HeapCall := [.give buffer.room]

/-- `format!`: the text is written piece by piece. -/
def format (growth : Growth) (pieces : List Piece) : Buffer :=
  (pieces.map Piece.length).foldl (extend growth)
    (empty (growth.opening (pieces.map Piece.literals).sum))

/-- The calls are served to whoever owns nothing, and leave the room. -/
def Sound (buffer : Buffer) : Prop := run HeapCall.own buffer.calls 0 = some buffer.room

variable {buffer : Buffer} {growth : Growth}

theorem vec_sound (length : Nat) : (vec length).Sound := by
  rw [Sound, vec, run_cons, HeapCall.own, Nat.zero_add]
  rfl

theorem empty_sound (room : Nat) : (empty room).Sound := vec_sound room

theorem Sound.move (sound : buffer.Sound) (room : Nat) : (buffer.move room).Sound := by
  apply HeapCall.run_own_append sound
  simp only [run_cons, run_nil, HeapCall.own, Option.bind_some, Nat.le_add_right, ↓reduceIte,
    Nat.add_sub_cancel_left]
  rfl

theorem Sound.extend (sound : buffer.Sound) (growth : Growth) (more : Nat) :
    (buffer.extend growth more).Sound := by
  unfold Buffer.extend
  split
  · exact sound
  · exact sound.move _

theorem Sound.intoBoxedSlice (sound : buffer.Sound) : buffer.intoBoxedSlice.Sound := by
  unfold Buffer.intoBoxedSlice
  split
  · exact sound.move _
  · exact sound

theorem Sound.dropped (sound : buffer.Sound) : run HeapCall.own (buffer.calls ++ buffer.drop) 0 = some 0 := by
  apply HeapCall.run_own_append sound
  rw [drop, run_cons, HeapCall.own, if_pos (Nat.le_refl _), Nat.sub_self]
  rfl

theorem format_sound (growth : Growth) (pieces : List Piece) : (format growth pieces).Sound := by
  have opened := empty_sound (growth.opening (pieces.map Piece.literals).sum)
  unfold format
  generalize empty (growth.opening (pieces.map Piece.literals).sum) = buffer at opened
  induction pieces.map Piece.length generalizing buffer with
  | nil => exact opened
  | cons piece pieces ih => exact ih _ (opened.extend growth piece)

/-- A buffer that lives as long as other code runs. -/
theorem Sound.around (sound : buffer.Sound) {calls : List HeapCall} {kept : Nat}
    (inner : run HeapCall.own calls 0 = some kept) :
    run HeapCall.own (buffer.calls ++ (calls ++ buffer.drop)) 0 = some kept := by
  have shifted := HeapCall.run_own_frame inner buffer.room
  rw [Nat.zero_add] at shifted
  apply HeapCall.run_own_append sound
  apply HeapCall.run_own_append shifted
  rw [drop, run_cons, HeapCall.own, if_pos (Nat.le_add_left ..), Nat.add_sub_cancel]
  rfl

theorem extend_length (buffer : Buffer) (growth : Growth) (more : Nat) :
    (buffer.extend growth more).length = buffer.length + more := by
  unfold extend
  split <;> rfl

theorem extend_room (buffer : Buffer) (growth : Growth) (more : Nat) :
    (buffer.extend growth more).length ≤ (buffer.extend growth more).room := by
  unfold extend
  split
  · assumption
  · exact growth.enough ..

/-- A boxed slice takes no more than its length. -/
theorem intoBoxedSlice_room (fits : buffer.length ≤ buffer.room) :
    buffer.intoBoxedSlice.room = buffer.length := by
  unfold intoBoxedSlice
  split
  · rfl
  · omega

end Buffer

end QoreOS.Runtime
