import Mathlib.Data.List.Basic
import Mathlib.Logic.Function.Basic
import QoreOS.Library.Run

/-! Idempotent pointwise updates. A loop that applies one idempotent change at
some points per round applies it once at the union of these points. -/

namespace QoreOS.Library

universe u v
variable {Point : Type u} {Value : Type v} {change : Value → Value}
variable {chosen more : Point → Prop} {before middle after : Point → Value}

/-- `after` is `before` with the values at the chosen points changed. -/
def AltersAt (change : Value → Value) (chosen : Point → Prop) (before after : Point → Value) : Prop :=
  ∀ point, (chosen point → after point = change (before point)) ∧
    (¬ chosen point → after point = before point)

theorem AltersAt.trans (idempotent : ∀ value, change (change value) = change value)
    (first : AltersAt change chosen before middle) (second : AltersAt change more middle after) :
    AltersAt change (fun point => chosen point ∨ more point) before after := by
  intro point
  constructor
  · intro either
    by_cases picked : chosen point
    · by_cases again : more point
      · rw [(second point).1 again, (first point).1 picked, idempotent]
      · rw [(second point).2 again, (first point).1 picked]
    · rw [(second point).1 (either.resolve_left picked), (first point).2 picked]
  · intro neither
    rw [not_or] at neither
    rw [(second point).2 neither.2, (first point).2 neither.1]

/-- A second update at the same points changes nothing. -/
theorem AltersAt.again (idempotent : ∀ value, change (change value) = change value)
    (first : AltersAt change chosen before middle) (second : AltersAt change chosen middle after) :
    after = middle := by
  funext point
  by_cases picked : chosen point
  · rw [(second point).1 picked, (first point).1 picked, idempotent]
  · exact (second point).2 picked

theorem AltersAt.congr (alters : AltersAt change chosen before after)
    (same : ∀ point, chosen point ↔ more point) : AltersAt change more before after := by
  intro point
  rw [← same point]
  exact alters point

theorem AltersAt.none (values : Point → Value) (empty : ∀ point, ¬ chosen point) :
    AltersAt change chosen values values :=
  fun point => ⟨fun picked => absurd picked (empty point), fun _ => rfl⟩

theorem AltersAt.update [DecidableEq Point] (values : Point → Value) (target : Point) :
    AltersAt change (· = target) values (Function.update values target (change (values target))) := by
  intro point
  constructor
  · rintro rfl
    exact Function.update_self ..
  · intro apart
    exact Function.update_of_ne apart _ values

/-- The loop rule. A round may choose its points by looking at the state, as
long as other rounds do not change the choice. -/
theorem AltersAt.foldl {State Index : Type*} (view : State → Point → Value)
    {step : State → Index → State} {region : State → Index → Point → Prop}
    (idempotent : ∀ value, change (change value) = change value)
    (each : ∀ state index, AltersAt change (region state index) (view state) (view (step state index)))
    (stable : ∀ state index other point,
      region (step state index) other point ↔ region state other point)
    (indices : List Index) (state : State) :
    AltersAt change (fun point => ∃ index ∈ indices, region state index point)
      (view state) (view (indices.foldl step state)) := by
  induction indices generalizing state with
  | nil => exact AltersAt.none _ (by simp)
  | cons index rest ih =>
    apply ((each state index).trans idempotent (ih (step state index))).congr
    intro point
    simp only [stable, List.mem_cons, exists_eq_or_imp]

/-- The loop rule for rounds that may fail, over those that are really made. -/
theorem AltersAt.run {State Index : Type*} (view : State → Point → Value)
    {step : State → Index → Option State} {region : Index → Point → Prop}
    (idempotent : ∀ value, change (change value) = change value) (indices : List Index)
    (each : ∀ index ∈ indices, ∀ state, ∃ next, step state index = some next ∧
      AltersAt change (region index) (view state) (view next)) (state : State) :
    ∃ final, Library.run step indices state = some final ∧
      AltersAt change (fun point => ∃ index ∈ indices, region index point) (view state) (view final) := by
  induction indices generalizing state with
  | nil => exact ⟨state, rfl, AltersAt.none _ (by simp)⟩
  | cons index rest ih =>
    obtain ⟨next, stepped, first⟩ := each index (by simp) state
    obtain ⟨final, reached, second⟩ := ih (fun other member => each other (by simp [member])) next
    refine ⟨final, by rw [run_next stepped, reached], (first.trans idempotent second).congr ?_⟩
    intro point
    simp only [List.mem_cons, exists_eq_or_imp]

end QoreOS.Library
