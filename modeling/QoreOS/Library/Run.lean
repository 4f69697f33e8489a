import Mathlib.Data.List.Basic
import Mathlib.Data.List.Infix

/-! Finite runs of a partial step function. A step that answers `none` stands
for a crash, so a run that answers `some` has met no crash. -/

namespace QoreOS.Library

universe u v
variable {State : Type u} {Event : Type v}

/-- Feed the events to the machine from left to right. -/
def run (step : State → Event → Option State) (events : List Event) (state : State) : Option State :=
  events.foldlM step state

@[simp] theorem run_nil (step : State → Event → Option State) (state : State) :
    run step [] state = some state := rfl

@[simp] theorem run_cons (step : State → Event → Option State) (event : Event)
    (events : List Event) (state : State) :
    run step (event :: events) state = (step state event).bind (run step events) := rfl

theorem run_next {step : State → Event → Option State} {state next : State} {event : Event}
    (stepped : step state event = some next) (events : List Event) :
    run step (event :: events) state = run step events next := by
  rw [run_cons, stepped, Option.bind_some]

theorem run_append (step : State → Event → Option State) (first second : List Event) (state : State) :
    run step (first ++ second) state = (run step first state).bind (run step second) := by
  simp only [run, List.foldlM_append]
  rfl

/-- The last event acts on the state which the earlier ones reach. -/
theorem run_concat (step : State → Event → Option State) (events : List Event) (event : Event)
    (state : State) :
    run step (events ++ [event]) state = (run step events state).bind (step · event) := by
  rw [run_append]
  cases run step events state with
  | none => rfl
  | some middle =>
    simp only [Option.bind_some, run_cons]
    cases step middle event <;> rfl

theorem run_total (step : State → Event → State) (events : List Event) (state : State) :
    run (fun state event => some (step state event)) events state = some (events.foldl step state) :=
  List.foldlM_pure

/-- A step that, inside the invariant, is a total function of what it has a view of. -/
theorem run_simulates {Model : Type*} {step : State → Event → Option State}
    {next : Model → Event → Model} {view : Model → State} {invariant : Model → Prop}
    (exact : ∀ model event, invariant model →
      step (view model) event = some (view (next model event)) ∧ invariant (next model event))
    (events : List Event) {model : Model} (initial : invariant model) :
    run step events (view model) = some (view (events.foldl next model)) ∧
      invariant (events.foldl next model) := by
  induction events generalizing model with
  | nil => exact ⟨rfl, initial⟩
  | cons event events ih =>
    obtain ⟨stepped, kept⟩ := exact model event initial
    rw [run_next stepped, List.foldl_cons]
    exact ih kept

/-- A step that does not crash inside the invariant folds a total function. -/
theorem run_eq_foldl {step : State → Event → Option State} {next : State → Event → State}
    {invariant : State → Prop}
    (exact : ∀ state event, invariant state →
      step state event = some (next state event) ∧ invariant (next state event))
    (events : List Event) {state : State} (initial : invariant state) :
    run step events state = some (events.foldl next state) ∧ invariant (events.foldl next state) :=
  run_simulates exact events initial

/-- A step that neither crashes nor leaves the invariant keeps a whole run
inside it. The admitted events may be restricted by `allowed`. -/
theorem run_invariant {step : State → Event → Option State} {invariant : State → Prop}
    {allowed : Event → Prop}
    (preserved : ∀ state event, invariant state → allowed event →
      ∃ next, step state event = some next ∧ invariant next)
    (events : List Event) (admitted : ∀ event ∈ events, allowed event)
    {state : State} (initial : invariant state) :
    ∃ final, run step events state = some final ∧ invariant final := by
  induction events generalizing state with
  | nil => exact ⟨state, rfl, initial⟩
  | cons event events ih =>
    obtain ⟨next, stepped, kept⟩ := preserved state event initial (admitted event (by simp))
    obtain ⟨final, rest, holds⟩ := ih (fun other member => admitted other (by simp [member])) kept
    exact ⟨final, by simpa [stepped] using rest, holds⟩

/-- A step that a test of the event guards: the run gets through when all the tests succeed. -/
theorem run_guarded {step : State → Event → Option State} {next : State → Event → State}
    {allowed : Event → Prop} [DecidablePred allowed]
    (guarded : ∀ state event,
      step state event = if allowed event then some (next state event) else none)
    (events : List Event) (state : State) :
    run step events state =
      if ∀ event ∈ events, allowed event then some (events.foldl next state) else none := by
  induction events generalizing state with
  | nil =>
    rw [run_nil, List.foldl_nil, if_pos]
    exact fun _ member => nomatch member
  | cons event events ih =>
    by_cases first : allowed event
    · have stepped : step state event = some (next state event) := by
        rw [guarded, if_pos first]
      rw [run_next stepped, ih, List.foldl_cons]
      simp only [List.forall_mem_cons, first, true_and]
    · have refused : step state event = none := by
        rw [guarded, if_neg first]
      rw [run_cons, refused, Option.bind_none, if_neg fun all => first (all event List.mem_cons_self)]

/-- A step that follows a total machine, related to it, never crashes and follows it to the end. -/
theorem run_follows {Model : Type*} {step : State → Event → Option State}
    {next : Model → Event → Model} {related : State → Model → Prop}
    (follows : ∀ state model event, related state model →
      ∃ after, step state event = some after ∧ related after (next model event))
    (events : List Event) {state : State} {model : Model} (initial : related state model) :
    ∃ final, run step events state = some final ∧ related final (events.foldl next model) := by
  induction events generalizing state model with
  | nil => exact ⟨state, rfl, initial⟩
  | cons event events ih =>
    obtain ⟨after, stepped, still⟩ := follows state model event initial
    obtain ⟨final, rest, holds⟩ := ih still
    exact ⟨final, by rw [run_next stepped, rest], holds⟩

/-- What every successful step preserves holds after every successful run. -/
theorem run_preserves {step : State → Event → Option State} {invariant : State → Prop}
    (preserved : ∀ state event next, invariant state → step state event = some next → invariant next)
    (events : List Event) {state final : State} (initial : invariant state)
    (reached : run step events state = some final) : invariant final := by
  induction events generalizing state with
  | nil =>
    cases reached
    exact initial
  | cons event events ih =>
    rw [run_cons, Option.bind_eq_some_iff] at reached
    obtain ⟨next, stepped, rest⟩ := reached
    exact ih (preserved state event next initial stepped) rest

/-- Every prefix of a run that does not crash does not crash either. -/
theorem run_prefix {step : State → Event → Option State} {first events : List Event}
    (earlier : first <+: events) {state final : State}
    (success : run step events state = some final) :
    ∃ middle, run step first state = some middle := by
  obtain ⟨rest, rfl⟩ := earlier
  rw [run_append] at success
  cases reached : run step first state with
  | none => simp [reached] at success
  | some middle => exact ⟨middle, rfl⟩

/-- A run gets through exactly when each of its steps does. -/
theorem run_succeeds_iff {step : State → Event → Option State} (events : List Event)
    (state : State) :
    (∃ final, run step events state = some final) ↔
      ∀ earlier event, earlier ++ [event] <+: events → ∀ middle,
        run step earlier state = some middle → ∃ next, step middle event = some next := by
  induction events generalizing state with
  | nil => simp
  | cons head events ih =>
    cases stepped : step state head with
    | none =>
      constructor
      · intro success
        simp [stepped] at success
      · intro steps
        obtain ⟨next, impossible⟩ := steps [] head (by simp) state rfl
        rw [stepped] at impossible
        cases impossible
    | some next =>
      simp only [run_cons, stepped, Option.bind_some, ih next]
      constructor
      · intro steps earlier event early middle reached
        cases earlier with
        | nil =>
          rw [List.nil_append, List.cons_prefix_cons] at early
          cases reached
          exact ⟨next, early.1 ▸ stepped⟩
        | cons other earlier =>
          rw [List.cons_append, List.cons_prefix_cons] at early
          obtain ⟨rfl, early⟩ := early
          rw [run_cons, stepped, Option.bind_some] at reached
          exact steps earlier event early middle reached
      · intro steps earlier event early middle reached
        refine steps (head :: earlier) event (List.cons_prefix_cons.mpr ⟨rfl, early⟩) middle ?_
        rw [run_cons, stepped, Option.bind_some, reached]

/-- A run from without a property to within it has a step that takes it there. -/
theorem run_turns {step : State → Event → Option State} (holds : State → Prop)
    (events : List Event) {state final : State} (starts : ¬ holds state)
    (runs : run step events state = some final) (ends : holds final) :
    ∃ before event middle next, before ++ [event] <+: events ∧
      run step before state = some middle ∧ ¬ holds middle ∧ step middle event = some next ∧
      holds next := by
  induction events generalizing state with
  | nil =>
    cases runs
    exact absurd ends starts
  | cons event events ih =>
    rw [run_cons] at runs
    obtain ⟨next, stepped, rest⟩ := Option.bind_eq_some_iff.mp runs
    by_cases turned : holds next
    · exact ⟨[], event, state, next, List.cons_prefix_cons.mpr ⟨rfl, List.nil_prefix⟩, rfl,
        starts, stepped, turned⟩
    · obtain ⟨before, last, middle, after, early, reached, outside, turns, inside⟩ :=
        ih turned rest
      refine ⟨event :: before, last, middle, after, ?_, ?_, outside, turns, inside⟩
      · rw [List.cons_append]
        exact List.cons_prefix_cons.mpr ⟨rfl, early⟩
      · rw [run_cons, stepped, Option.bind_some, reached]

/-- When a step from an invariant state leads to a good state exactly if it was
allowed, all states of a run are good exactly if all its steps are allowed. -/
theorem run_good_iff {step : State → Event → Option State} {invariant good : State → Prop}
    {allowed : State → Event → Prop} (sound : ∀ state, invariant state → good state)
    (exact : ∀ state event, invariant state → ∃ next, step state event = some next ∧
      (allowed state event → invariant next) ∧ (good next → allowed state event))
    (events : List Event) {state : State} (initial : invariant state) :
    (∀ first, first <+: events → ∃ final, run step first state = some final ∧ good final) ↔
      ∀ first event, first ++ [event] <+: events →
        ∃ middle, run step first state = some middle ∧ allowed middle event := by
  induction events generalizing state with
  | nil =>
    constructor
    · intro _ first event early
      simp at early
    · intro _ first early
      rw [List.prefix_nil.mp early]
      exact ⟨state, rfl, sound state initial⟩
  | cons head events ih =>
    obtain ⟨next, stepped, kept, needed⟩ := exact state head initial
    have later : ∀ first, run step (head :: first) state = run step first next := by
      intro first
      rw [run_cons, stepped, Option.bind_some]
    constructor
    · intro good
      have admitted : allowed state head := by
        obtain ⟨final, reached, fine⟩ := good [head] (by simp)
        rw [later, run_nil, Option.some.injEq] at reached
        exact needed (reached ▸ fine)
      intro first event early
      cases first with
      | nil =>
        rw [List.nil_append, List.cons_prefix_cons] at early
        exact ⟨state, rfl, early.1 ▸ admitted⟩
      | cons other first =>
        rw [List.cons_append, List.cons_prefix_cons] at early
        obtain ⟨rfl, early⟩ := early
        rw [later]
        refine (ih (kept admitted)).mp ?_ first event early
        intro part within
        rw [← later]
        exact good _ (List.cons_prefix_cons.mpr ⟨rfl, within⟩)
    · intro steps first early
      cases first with
      | nil => exact ⟨state, rfl, sound state initial⟩
      | cons other first =>
        rw [List.cons_prefix_cons] at early
        obtain ⟨rfl, early⟩ := early
        have admitted : allowed state other := by
          obtain ⟨middle, reached, admitted⟩ := steps [] other (by simp)
          cases reached
          exact admitted
        rw [later]
        refine (ih (kept admitted)).mpr ?_ first early
        intro part event within
        rw [← later]
        exact steps _ event (List.cons_prefix_cons.mpr ⟨rfl, within⟩)

end QoreOS.Library
