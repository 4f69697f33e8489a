import Mathlib.Algebra.BigOperators.Group.Finset.Basic
import Mathlib.Logic.Function.Iterate

/-! Busy waiting. A loop tests a condition and gives up after a fixed number of
turns; between two tests the environment takes steps of its own. -/

namespace QoreOS.Library

universe u
variable {State : Type u}

/-- `while !test { timeout += 1; if timeout > bound { break; } }`, where the
environment takes `pace turn` steps before the test of that turn. -/
def await (step : State → State) (test : State → Bool) :
    Nat → (Nat → Nat) → State → Bool × State
  | 0, pace, state => (test (step^[pace 0] state), step^[pace 0] state)
  | bound + 1, pace, state =>
    if test (step^[pace 0] state) then (true, step^[pace 0] state)
    else await step test bound (fun turn => pace (turn + 1)) (step^[pace 0] state)

/-- The environment takes at least that many steps before the last test. -/
def Prompt (bound steps : Nat) (pace : Nat → Nat) : Prop :=
  steps ≤ ∑ turn ∈ Finset.range (bound + 1), pace turn

theorem prompt_of_first {bound steps : Nat} (pace : Nat → Nat) (first : steps ≤ pace 0) :
    Prompt bound steps pace := by
  rw [Prompt, Finset.sum_range_succ']
  exact Nat.le_trans first (Nat.le_add_left ..)

variable {step : State → State} {test : State → Bool} {state final : State}

theorem iterate_settled (settled : step final = final) (steps : Nat) : step^[steps] final = final :=
  Function.iterate_fixed settled steps

/-- An environment that settles in time is found settled: either the test
succeeds there, or the loop gives up. -/
theorem await_settled {bound steps : Nat} {pace : Nat → Nat} (prompt : Prompt bound steps pace)
    (reached : step^[steps] state = final) (settled : step final = final)
    (early : ∀ earlier, earlier < steps → test (step^[earlier] state) = false) :
    await step test bound pace state = (test final, final) := by
  have after : ∀ more, steps ≤ more → step^[more] state = final := by
    intro more enough
    obtain ⟨rest, rfl⟩ := Nat.exists_eq_add_of_le enough
    rw [Nat.add_comm, Function.iterate_add_apply, reached, iterate_settled settled]
  induction bound generalizing pace state steps with
  | zero =>
    have enough : steps ≤ pace 0 := by simpa [Prompt] using prompt
    rw [await, after _ enough]
  | succ bound ih =>
    rw [await]
    rcases Nat.lt_or_ge (pace 0) steps with sooner | enough
    · rw [early _ sooner, if_neg Bool.false_ne_true]
      have rest : step^[steps - pace 0] (step^[pace 0] state) = final := by
        rw [← Function.iterate_add_apply, Nat.sub_add_cancel (Nat.le_of_lt sooner), reached]
      refine ih ?_ rest ?_ ?_
      · rw [Prompt, Finset.sum_range_succ'] at prompt
        exact Nat.sub_le_of_le_add prompt
      · intro earlier before
        rw [← Function.iterate_add_apply]
        exact early _ (by omega)
      · intro more enough
        rw [← Function.iterate_add_apply]
        exact after _ (by omega)
    · rw [after _ enough]
      cases found : test final with
      | true => rfl
      | false =>
        have rest : Prompt bound 0 fun turn => pace (turn + 1) := Nat.zero_le _
        rw [if_neg Bool.false_ne_true, ih rest rfl, found]
        · intro earlier before
          cases before
        · intro more _
          exact iterate_settled settled more

/-- An environment that is too slow leaves the loop to give up. -/
theorem await_unsettled {bound steps : Nat} {pace : Nat → Nat}
    (total : ∑ turn ∈ Finset.range (bound + 1), pace turn = steps)
    (early : ∀ earlier, earlier ≤ steps → test (step^[earlier] state) = false) :
    await step test bound pace state = (false, step^[steps] state) := by
  induction bound generalizing pace state steps with
  | zero =>
    rw [Nat.zero_add, Finset.sum_range_one] at total
    rw [await, total, early steps (Nat.le_refl steps)]
  | succ bound ih =>
    rw [Finset.sum_range_succ'] at total
    have sooner : pace 0 ≤ steps := by omega
    rw [await, early _ sooner, if_neg Bool.false_ne_true]
    have joined : ∀ later, step^[later] (step^[pace 0] state) = step^[later + pace 0] state :=
      fun later => (Function.iterate_add_apply step later (pace 0) state).symm
    rw [ih (Nat.eq_sub_of_add_eq total)]
    · rw [joined, Nat.sub_add_cancel sooner]
    · intro earlier before
      rw [joined]
      exact early _ (by omega)

/-- An environment that settles during the wait, or in some steps behind it, is found settled
behind those. -/
theorem await_left_settled {bound steps left : Nat} {pace : Nat → Nat}
    (inTime : steps ≤ ∑ turn ∈ Finset.range (bound + 1), pace turn + left)
    (reached : step^[steps] state = final) (settled : step final = final)
    (early : ∀ earlier, earlier < steps → test (step^[earlier] state) = false) :
    ∃ seen waited, await step test bound pace state = (seen, waited) ∧
      step^[left] waited = final ∧
      (Prompt bound steps pace → seen = test final ∧ waited = final) := by
  by_cases prompt : Prompt bound steps pace
  · exact ⟨_, _, await_settled prompt reached settled early, iterate_settled settled left,
      fun _ => ⟨rfl, rfl⟩⟩
  · obtain ⟨total, sum⟩ : ∃ total, ∑ turn ∈ Finset.range (bound + 1), pace turn = total := ⟨_, rfl⟩
    rw [Prompt, sum, Nat.not_le] at prompt
    have waited := await_unsettled sum fun earlier before =>
      early earlier (Nat.lt_of_le_of_lt before prompt)
    refine ⟨_, _, waited, ?_, fun given => ?_⟩
    · rw [sum] at inTime
      obtain ⟨more, enough⟩ := Nat.exists_eq_add_of_le inTime
      rw [← Function.iterate_add_apply, Nat.add_comm left, enough, Nat.add_comm,
        Function.iterate_add_apply, reached, iterate_settled settled]
    · rw [Prompt, sum] at given
      exact absurd given (Nat.not_le.mpr prompt)

/-- What every step of the environment keeps holds after the wait. -/
theorem await_keeps {invariant : State → Prop}
    (kept : ∀ state, invariant state → invariant (step state)) (bound : Nat) (pace : Nat → Nat)
    (initial : invariant state) : invariant (await step test bound pace state).2 := by
  induction bound generalizing pace state with
  | zero => exact Function.Iterate.rec invariant initial kept (pace 0)
  | succ bound ih =>
    have turned := Function.Iterate.rec invariant initial kept (pace 0)
    rw [await]
    split
    · exact turned
    · exact ih (fun turn => pace (turn + 1)) turned

/-- The loop says whether its last test succeeded. -/
theorem await_tested (bound : Nat) (pace : Nat → Nat) :
    (await step test bound pace state).1 = test (await step test bound pace state).2 := by
  induction bound generalizing pace state with
  | zero => rw [await]
  | succ bound ih =>
    rw [await]
    split
    case isTrue passed => exact passed.symm
    case isFalse => exact ih fun turn => pace (turn + 1)

/-- Two environments agree for as long as they agree wherever the first one gets to. -/
theorem iterate_agrees {other : State → State} {invariant : State → Prop}
    (agree : ∀ state, invariant state → other state = step state)
    (kept : ∀ state, invariant state → invariant (step state)) (initial : invariant state)
    (count : Nat) : other^[count] state = step^[count] state := by
  induction count with
  | zero => rfl
  | succ count ih =>
    rw [Function.iterate_succ_apply', Function.iterate_succ_apply', ih]
    exact agree _ (Function.Iterate.rec invariant initial kept count)

/-- Two environments that agree wherever the first one gets to are waited for alike. -/
theorem await_agrees {other : State → State} {invariant : State → Prop}
    (agree : ∀ state, invariant state → other state = step state)
    (kept : ∀ state, invariant state → invariant (step state)) (bound : Nat) (pace : Nat → Nat)
    (initial : invariant state) :
    await other test bound pace state = await step test bound pace state := by
  induction bound generalizing pace state with
  | zero => rw [await, await, iterate_agrees agree kept initial]
  | succ bound ih =>
    rw [await, await, iterate_agrees agree kept initial]
    split
    · rfl
    · exact ih (fun turn => pace (turn + 1)) (Function.Iterate.rec invariant initial kept (pace 0))

-- The bounds in use are far too large for the loop to be unfolded.
attribute [irreducible] await

end QoreOS.Library
