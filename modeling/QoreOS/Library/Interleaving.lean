import Mathlib.Data.List.Count
import Mathlib.Logic.Function.Iterate

/-! Agents that take turns at something they share. -/

namespace QoreOS.Library

universe u v
variable {Shared : Type u} {Agent : Type v}

/-- The agent with the index takes a step. -/
def takeTurn (step : Shared → Agent → Agent × Shared) (state : Shared × List Agent) (index : Nat) :
    Shared × List Agent :=
  match state.2[index]? with
  | some agent => ((step state.1 agent).2, state.2.set index (step state.1 agent).1)
  | none => state

def interleave (step : Shared → Agent → Agent × Shared) (schedule : List Nat)
    (state : Shared × List Agent) : Shared × List Agent :=
  schedule.foldl (takeTurn step) state

/-- What an agent becomes with nobody else around. -/
def alone (step : Shared → Agent → Agent × Shared) (shared : Shared) (agent : Agent) : Agent :=
  (step shared agent).1

variable {step : Shared → Agent → Agent × Shared} {shared : Shared} {invariant : Agent → Prop}

/-- Agents that leave what they share as it is run as each would alone. -/
theorem interleave_alone (quiet : ∀ agent, invariant agent → (step shared agent).2 = shared)
    (kept : ∀ agent, invariant agent → invariant (alone step shared agent))
    (schedule : List Nat) {agents : List Agent} (initial : ∀ agent ∈ agents, invariant agent) :
    interleave step schedule (shared, agents) =
      (shared, agents.mapIdx fun index agent => (alone step shared)^[schedule.count index] agent) := by
  induction schedule generalizing agents with
  | nil =>
    change (shared, agents) = _
    congr 1
    apply List.ext_getElem?
    intro place
    rw [List.getElem?_mapIdx]
    simp
  | cons index schedule ih =>
    have unfolded : interleave step (index :: schedule) (shared, agents) =
      interleave step schedule (takeTurn step (shared, agents) index) := rfl
    rw [unfolded, takeTurn]
    cases found : agents[index]? with
    | none =>
      change interleave step schedule (shared, agents) = _
      rw [ih initial]
      congr 1
      apply List.ext_getElem?
      intro place
      rw [List.getElem?_mapIdx, List.getElem?_mapIdx]
      cases there : agents[place]? with
      | none => rfl
      | some agent =>
        have other : index ≠ place := by
          rintro rfl
          rw [found] at there
          cases there
        rw [List.count_cons_of_ne other]
    | some agent =>
      have holds := initial agent (List.mem_of_getElem? found)
      have moved : ∀ other ∈ agents.set index (alone step shared agent), invariant other := by
        intro other member
        rcases List.mem_or_eq_of_mem_set member with old | same
        · exact initial other old
        · rw [same]
          exact kept agent holds
      have turned : ((step shared agent).2, agents.set index (step shared agent).1) =
          (shared, agents.set index (alone step shared agent)) := by
        rw [quiet agent holds, alone]
      change interleave step schedule ((step shared agent).2, agents.set index (step shared agent).1) = _
      rw [turned, ih moved]
      congr 1
      apply List.ext_getElem?
      intro place
      rw [List.getElem?_mapIdx, List.getElem?_mapIdx]
      by_cases same : index = place
      · subst same
        rw [List.getElem?_set_self (List.getElem?_eq_some_iff.mp found).1, found,
          List.count_cons_self]
        rfl
      · rw [List.getElem?_set_ne same, List.count_cons_of_ne same]

theorem iterate_kept (kept : ∀ agent, invariant agent → invariant (alone step shared agent))
    {agent : Agent} (holds : invariant agent) (count : Nat) :
    invariant ((alone step shared)^[count] agent) := by
  induction count generalizing agent with
  | zero => exact holds
  | succ count ih => exact ih (kept agent holds)

end QoreOS.Library
