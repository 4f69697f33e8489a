import Mathlib.Order.WellFounded

/-! `while` loops whose body may panic, with the rule of invariant and variant
and an induction over the turns of a loop that ends. -/

namespace QoreOS.Library

universe u
variable {State : Type u}

/-- What a bounded number of turns comes to. -/
inductive Outcome (State : Type u) where
  | ended (final : State)
  | panicked (last : State)
  | running (state : State)
  deriving DecidableEq

/-- `while test { body }`, watched for some turns. -/
def whileLoop (test : State → Bool) (body : State → Option State) : Nat → State → Outcome State
  | 0, state => if test state then .running state else .ended state
  | turns + 1, state =>
    if test state then
      match body state with
      | some next => whileLoop test body turns next
      | none => .panicked state
    else .ended state

/-- The loop comes to its end without a panic. -/
def Ends (test : State → Bool) (body : State → Option State) (state final : State) : Prop :=
  ∃ turns, whileLoop test body turns state = .ended final

variable {test : State → Bool} {body : State → Option State} {state next final : State}

theorem ends_of_false (done : test state = false) : Ends test body state state :=
  ⟨0, by rw [whileLoop, if_neg (Bool.not_eq_true _ ▸ done)]⟩

theorem ends_of_turn (goesOn : test state = true) (turned : body state = some next)
    (rest : Ends test body next final) : Ends test body state final := by
  obtain ⟨turns, ended⟩ := rest
  refine ⟨turns + 1, ?_⟩
  rw [whileLoop, if_pos goesOn, turned]
  exact ended

/-- What holds at the end and, before a turn, whenever it holds after it, holds at
the start of a loop that ends. -/
theorem Ends.backwards {motive : State → Prop} (ends : Ends test body state final)
    (stop : test final = false → motive final)
    (turn : ∀ state next, test state = true → body state = some next → motive next → motive state) :
    motive state := by
  obtain ⟨turns, ended⟩ := ends
  induction turns generalizing state with
  | zero =>
    rw [whileLoop] at ended
    split at ended
    case isTrue => cases ended
    case isFalse done =>
      cases ended
      exact stop (Bool.eq_false_of_not_eq_true done)
  | succ turns ih =>
    rw [whileLoop] at ended
    split at ended
    case isTrue goesOn =>
      split at ended
      case h_1 next turned => exact turn state next goesOn turned (ih ended)
      case h_2 => cases ended
    case isFalse done =>
      cases ended
      exact stop (Bool.eq_false_of_not_eq_true done)

/-- Inside the invariant no turn panics, and every turn brings the loop closer to
its end. -/
theorem ends_of_variant (invariant : State → Prop) (variant : State → Nat)
    (turn : ∀ state, invariant state → test state = true →
      ∃ next, body state = some next ∧ invariant next ∧ variant next < variant state)
    (initial : invariant state) :
    ∃ final, Ends test body state final ∧ invariant final ∧ test final = false := by
  induction size : variant state using Nat.strong_induction_on generalizing state with
  | _ size ih =>
    cases goesOn : test state with
    | false => exact ⟨state, ends_of_false goesOn, initial, goesOn⟩
    | true =>
      obtain ⟨next, turned, kept, closer⟩ := turn state initial goesOn
      obtain ⟨final, rest, holds, done⟩ := ih _ (size ▸ closer) kept rfl
      exact ⟨final, ends_of_turn goesOn turned rest, holds, done⟩

end QoreOS.Library
