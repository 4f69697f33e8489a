import Mathlib.Data.List.Basic
import Mathlib.Data.List.Range

/-! Rings of slots. Positions count without end; position `p` lives in slot
`p % size`, so a producer may run at most `size` positions ahead. -/

namespace QoreOS.Library.Ring

universe u
variable {Value : Type u} {size first last : Nat}

/-- Steps from slot `start` forward to slot `stop`. -/
def distance (size start stop : Nat) : Nat := (stop + size - start) % size

/-- The slots from `start` up to but excluding `stop`, in ring order. -/
def window (size start stop : Nat) : List Nat :=
  (List.range (distance size start stop)).map fun step => (start + step) % size

theorem distance_mod (ordered : first ≤ last) (short : last - first < size) :
    distance size (first % size) (last % size) = last - first := by
  obtain ⟨steps, rfl⟩ := Nat.exists_eq_add_of_le ordered
  have positive : 0 < size := by omega
  have bound : first % size < size := Nat.mod_lt _ positive
  rw [Nat.add_sub_cancel_left] at short ⊢
  rw [distance, ← Nat.mod_add_mod]
  by_cases wraps : first % size + steps < size
  · rw [Nat.mod_eq_of_lt wraps]
    have shifted : first % size + steps + size - first % size = steps + size := by omega
    rw [shifted, Nat.add_mod_right, Nat.mod_eq_of_lt short]
  · have once : (first % size + steps) % size = first % size + steps - size := by
      rw [Nat.mod_eq_sub_mod (by omega), Nat.mod_eq_of_lt (by omega)]
    have shifted : first % size + steps - size + size - first % size = steps := by omega
    rw [once, shifted, Nat.mod_eq_of_lt short]

theorem window_mod (ordered : first ≤ last) (short : last - first < size) :
    window size (first % size) (last % size) =
      (List.range (last - first)).map fun step => (first + step) % size := by
  rw [window, distance_mod ordered short]
  apply List.map_congr_left
  intro step _
  exact Nat.mod_add_mod ..

/-- The producer's step makes the window longer at its end. -/
theorem window_mod_push (ordered : first ≤ last) (short : last + 1 - first < size) :
    window size (first % size) ((last + 1) % size) =
      window size (first % size) (last % size) ++ [last % size] := by
  rw [window_mod (by omega) short, window_mod ordered (by omega)]
  have steps : last + 1 - first = last - first + 1 := by omega
  rw [steps, List.range_succ, List.map_append, List.map_singleton, Nat.add_sub_cancel' ordered]

/-- The consumer's step takes the first slot from the window. -/
theorem window_mod_pop (before : first < last) (short : last - first < size) :
    window size (first % size) (last % size) =
      first % size :: window size ((first + 1) % size) (last % size) := by
  rw [window_mod (by omega) short, window_mod before (by omega)]
  have steps : last - first = last - (first + 1) + 1 := by omega
  rw [steps, List.range_succ_eq_map, List.map_cons, List.map_map, Nat.add_zero]
  congr 1
  apply List.map_congr_left
  intro step _
  have same : first + (step + 1) = first + 1 + step := by omega
  exact congrArg (· % size) same

theorem mem_window_mod {slot : Nat} (ordered : first ≤ last) (short : last - first < size) :
    slot ∈ window size (first % size) (last % size) ↔
      ∃ position, first ≤ position ∧ position < last ∧ position % size = slot := by
  rw [window_mod ordered short, List.mem_map]
  constructor
  · rintro ⟨step, inside, rfl⟩
    rw [List.mem_range] at inside
    exact ⟨first + step, by omega, by omega, rfl⟩
  · rintro ⟨position, after, before, rfl⟩
    refine ⟨position - first, List.mem_range.mpr (by omega), ?_⟩
    rw [Nat.add_sub_cancel' after]

/-- Two positions less than one lap apart never share a slot. -/
theorem slot_ne {other : Nat} (before : first < other) (short : other - first < size) :
    first % size ≠ other % size := by
  intro same
  have lap : size ∣ other - first := Nat.dvd_of_mod_eq_zero (Nat.sub_mod_eq_zero_of_mod_eq same.symm)
  have long := Nat.le_of_dvd (by omega) lap
  omega

/-- A slot lies in the window when its distance from the start is short enough. -/
theorem mem_window {start stop slot : Nat} (inside : slot < size) (begins : start < size) :
    slot ∈ window size start stop ↔ distance size start slot < distance size start stop := by
  have positive : 0 < size := by omega
  simp only [window, List.mem_map, List.mem_range]
  constructor
  · rintro ⟨step, close, rfl⟩
    have short : step < size := Nat.lt_trans close (Nat.mod_lt _ positive)
    have steps : distance size (start % size) ((start + step) % size) = start + step - start :=
      distance_mod (Nat.le_add_right start step) (by omega)
    rw [Nat.mod_eq_of_lt begins, Nat.add_sub_cancel_left] at steps
    rwa [steps]
  · intro close
    refine ⟨distance size start slot, close, ?_⟩
    rw [distance, Nat.add_mod_mod, show start + (slot + size - start) = slot + size by omega,
      Nat.add_mod_right, Nat.mod_eq_of_lt inside]

/-- From position `first` on the ring holds `items`, one a slot. What it means
that a slot holds an item is up to `cell`. -/
def Holds (size : Nat) (cell : Nat → Value → Prop) (first : Nat) (items : List Value) : Prop :=
  ∀ offset item, items[offset]? = some item → cell ((first + offset) % size) item

variable {cell next : Nat → Value → Prop} {items : List Value} {item : Value}

theorem Holds.nil : Holds size cell first [] := by
  intro offset item found
  cases found

theorem Holds.head (held : Holds size cell first (item :: items)) : cell (first % size) item :=
  held 0 item rfl

theorem Holds.pop (held : Holds size cell first (item :: items)) :
    Holds size cell (first + 1) items := by
  intro offset other found
  have same : first + 1 + offset = first + (offset + 1) := by omega
  rw [same]
  exact held (offset + 1) other found

/-- Changes outside the occupied slots do not matter. -/
theorem Holds.frame (held : Holds size cell first items)
    (kept : ∀ offset item, offset < items.length →
      cell ((first + offset) % size) item → next ((first + offset) % size) item) :
    Holds size next first items := by
  intro offset item found
  obtain ⟨inside, -⟩ := List.getElem?_eq_some_iff.mp found
  exact kept offset item inside (held offset item found)

/-- Filling the first free slot of a ring that is not full appends the item. -/
theorem Holds.push (held : Holds size cell first items) (room : items.length < size)
    (filled : next ((first + items.length) % size) item)
    (kept : ∀ slot item, slot ≠ (first + items.length) % size → cell slot item → next slot item) :
    Holds size next first (items ++ [item]) := by
  intro offset other found
  rcases Nat.lt_trichotomy offset items.length with inside | last | beyond
  · rw [List.getElem?_append_left inside] at found
    have apart : (first + offset) % size ≠ (first + items.length) % size :=
      slot_ne (by omega) (by omega)
    exact kept _ other apart (held offset other found)
  · subst last
    rw [List.getElem?_concat_length, Option.some.injEq] at found
    exact found ▸ filled
  · rw [List.getElem?_eq_none (by simp; omega)] at found
    cases found

end QoreOS.Library.Ring
