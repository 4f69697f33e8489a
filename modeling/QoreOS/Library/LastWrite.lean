import Mathlib.Data.List.Basic

/-! Loops over a list in which a later write to a variable replaces the earlier one. -/

namespace QoreOS.Library

universe u v w
variable {State : Type u} {Item : Type v} {Value : Type w}

/-- What the last item that writes at all has written. -/
def lastWrite (write : Item → Option Value) (items : List Item) : Option Value :=
  (items.filterMap write).getLast?

@[simp] theorem lastWrite_nil (write : Item → Option Value) : lastWrite write [] = none := rfl

theorem lastWrite_cons (write : Item → Option Value) (item : Item) (items : List Item) :
    lastWrite write (item :: items) = (lastWrite write items).or (write item) := by
  cases written : write item with
  | none => simp [lastWrite, written]
  | some value => cases later : (items.filterMap write).getLast? <;>
      simp [lastWrite, written, List.getLast?_cons, later]

/-- With an earlier value to fall back on. -/
theorem lastWrite_cons_getD (write : Item → Option Value) (item : Item) (items : List Item)
    (value : Value) : (lastWrite write (item :: items)).getD value =
      (lastWrite write items).getD ((write item).getD value) := by
  rw [lastWrite_cons]
  cases lastWrite write items <;> rfl

theorem lastWrite_map {Other : Type*} (write : Item → Option Value) (change : Value → Other)
    (items : List Item) :
    lastWrite (fun item => (write item).map change) items = (lastWrite write items).map change := by
  rw [lastWrite, lastWrite, ← List.getLast?_map, List.map_filterMap]

theorem mem_of_lastWrite {write : Item → Option Value} {items : List Item} {value : Value}
    (last : lastWrite write items = some value) : ∃ item ∈ items, write item = some value :=
  List.mem_filterMap.mp (List.mem_of_getLast? last)

/-- A variable behind a loop whose turns each write it or leave it. -/
theorem foldl_lastWrite {step : State → Item → State} (view : State → Value)
    {write : Item → Option Value} {items : List Item}
    (turn : ∀ item ∈ items, ∀ state, view (step state item) = (write item).getD (view state))
    (state : State) :
    view (items.foldl step state) = (lastWrite write items).getD (view state) := by
  induction items generalizing state with
  | nil => rfl
  | cons item items ih =>
    have later := ih (fun other member => turn other (List.mem_cons_of_mem _ member))
    rw [List.foldl_cons, later, turn item List.mem_cons_self, lastWrite_cons_getD]

/-- The same behind a loop whose turns may panic, when none does. -/
theorem foldlM_lastWrite {step : State → Item → Option State} (view : State → Value)
    (write : Item → Option Value) {items : List Item} {state final : State}
    (turn : ∀ item state next, step state item = some next →
      view next = (write item).getD (view state))
    (ran : items.foldlM step state = some final) :
    view final = (lastWrite write items).getD (view state) := by
  induction items generalizing state with
  | nil =>
    rw [← Option.some.inj ran]
    rfl
  | cons item items ih =>
    rw [List.foldlM_cons] at ran
    obtain ⟨next, stepped, rest⟩ := Option.bind_eq_some_iff.mp ran
    rw [ih rest, turn item state next stepped, lastWrite_cons_getD]

end QoreOS.Library
