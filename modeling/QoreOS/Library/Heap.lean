import Mathlib.Data.List.Basic

/-! Allocations of one type, numbered from 1. Address 0 is the null pointer,
behind which there is nothing. -/

namespace QoreOS.Library

universe u

abbrev Heap (Value : Type u) := List Value

namespace Heap

variable {Value : Type u} {heap : Heap Value} {address other : Nat} {value old new : Value}

/-- A new allocation. A heap that may run out is a budget that its user spends beside it. -/
def alloc (heap : Heap Value) (value : Value) : Nat × Heap Value :=
  (heap.length + 1, heap ++ [value])

def read (heap : Heap Value) (address : Nat) : Option Value :=
  match address with
  | 0 => none
  | index + 1 => heap[index]?

def write (heap : Heap Value) (address : Nat) (value : Value) : Heap Value :=
  match address with
  | 0 => heap
  | index + 1 => List.set heap index value

theorem read_alloc (heap : Heap Value) (value : Value) :
    (heap.alloc value).2.read (heap.alloc value).1 = some value :=
  List.getElem?_concat_length

/-- What was allocated before is still there. -/
theorem read_alloc_old (found : heap.read address = some old) (value : Value) :
    (heap.alloc value).2.read address = some old := by
  cases address with
  | zero => cases found
  | succ index =>
    obtain ⟨inside, -⟩ := List.getElem?_eq_some_iff.mp found
    exact (List.getElem?_append_left inside).trans found

/-- After an allocation there is what was there before, and the new value. -/
theorem read_alloc_cases (found : (heap.alloc new).2.read address = some value) :
    heap.read address = some value ∨ value = new := by
  cases address with
  | zero => cases found
  | succ index =>
    change (heap ++ [new])[index]? = some value at found
    by_cases inside : index < heap.length
    · rw [List.getElem?_append_left inside] at found
      exact .inl found
    · rw [List.getElem?_append_right (Nat.le_of_not_lt inside), List.getElem?_singleton] at found
      split at found
      · exact .inr (Option.some.inj found).symm
      · cases found

theorem read_write (found : heap.read address = some old) (new : Value) :
    (heap.write address new).read address = some new := by
  cases address with
  | zero => cases found
  | succ index =>
    obtain ⟨inside, -⟩ := List.getElem?_eq_some_iff.mp found
    exact List.getElem?_set_self inside

theorem read_write_of_ne (apart : address ≠ other) (value : Value) :
    (heap.write address value).read other = heap.read other := by
  cases address with
  | zero => rfl
  | succ index =>
    cases other with
    | zero => rfl
    | succ another => exact List.getElem?_set_ne fun same => apart (congrArg (· + 1) same)

end Heap

end QoreOS.Library
