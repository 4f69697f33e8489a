import Mathlib.Data.List.Forall2

/-! Machines that answer every input with a list of outputs. -/

namespace QoreOS.Library

universe u v w
variable {State : Type u} {Input : Type v} {Output : Type w}

/-- What an input makes of the state, and what the machine says to it. -/
structure Transducer (State : Type u) (Input : Type v) (Output : Type w) where
  next : State → Input → State
  speaks : State → Input → List Output

namespace Transducer

variable (machine : Transducer State Input Output)

/-- The state behind the inputs. -/
def after (state : State) (inputs : List Input) : State := inputs.foldl machine.next state

/-- All that the machine says to the inputs, in order. -/
def transcript (state : State) : List Input → List Output
  | [] => []
  | input :: later => machine.speaks state input ++ transcript (machine.next state input) later

@[simp] theorem after_concat (state : State) (inputs : List Input) (input : Input) :
    machine.after state (inputs ++ [input]) = machine.next (machine.after state inputs) input := by
  rw [after, List.foldl_append]
  rfl

theorem transcript_append (state : State) (first second : List Input) :
    machine.transcript state (first ++ second) =
      machine.transcript state first ++ machine.transcript (machine.after state first) second := by
  induction first generalizing state with
  | nil => rfl
  | cons input first ih =>
    simp only [List.cons_append, transcript, ih, List.append_assoc]
    rfl

/-- The last input adds what is said to it in the state then reached. -/
theorem transcript_concat (state : State) (inputs : List Input) (input : Input) :
    machine.transcript state (inputs ++ [input]) =
      machine.transcript state inputs ++ machine.speaks (machine.after state inputs) input := by
  rw [transcript_append]
  exact congrArg _ (List.append_nil _)

/-- A machine that answers each of the inputs as another one does, up to a relation between what
they say, answers them all so. -/
theorem transcript_refines {Spec : Type*} {Word : Type*} (spec : Transducer Spec Input Word)
    {related : Spec → State → Prop} {fulfils : Word → Output → Prop}
    {inputs : List Input}
    (exact : ∀ input ∈ inputs, ∀ specState state, related specState state →
      List.Forall₂ fulfils (spec.speaks specState input) (machine.speaks state input) ∧
        related (spec.next specState input) (machine.next state input))
    {specState : Spec} {state : State} (start : related specState state) :
    List.Forall₂ fulfils (spec.transcript specState inputs) (machine.transcript state inputs) := by
  induction inputs generalizing specState state with
  | nil => exact .nil
  | cons input later ih =>
    obtain ⟨now, next⟩ := exact input (.head later) specState state start
    exact List.rel_append now (ih (fun other member => exact other (.tail input member)) next)

theorem length_transcript (brief : ∀ state input, (machine.speaks state input).length ≤ 1)
    (state : State) (inputs : List Input) :
    (machine.transcript state inputs).length ≤ inputs.length := by
  induction inputs generalizing state with
  | nil => exact Nat.le_refl 0
  | cons input later ih =>
    have now := brief state input
    have behind := ih (machine.next state input)
    rw [transcript, List.length_append, List.length_cons]
    omega

/-- Words of a kind that answer each input once, whatever the state, answer the inputs in order. -/
theorem filterMap_transcript {Word : Type*} {Kind : Type*} {spec : Transducer State Input Word}
    {answers : Word → Option Kind} {asks : Input → Option Kind}
    (exact : ∀ state input, (spec.speaks state input).filterMap answers = (asks input).toList)
    (state : State) (inputs : List Input) :
    (spec.transcript state inputs).filterMap answers = inputs.filterMap asks := by
  induction inputs generalizing state with
  | nil => rfl
  | cons input later ih =>
    rw [transcript, List.filterMap_append, exact, ih]
    cases asked : asks input with
    | none => rw [List.filterMap_cons_none asked, Option.toList_none, List.nil_append]
    | some kind => rw [List.filterMap_cons_some asked, Option.toList_some, List.singleton_append]

end Transducer

end QoreOS.Library
