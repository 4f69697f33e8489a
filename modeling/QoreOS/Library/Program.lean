import Mathlib.Data.List.Basic

/-! Programs that may panic, over a world that keeps what they did to it even
when they do, and the rules of their pre- and postconditions. -/

namespace QoreOS.Library

abbrev Program (World : Type) : Type → Type := OptionT (StateM World)

namespace Program

variable {World α β : Type}

/-- The value, unless the program panics, and the world it leaves. -/
def exec (program : Program World α) (world : World) : Option α × World := program.run.run world

/-- A step that looks at the world and changes it. -/
def act (step : World → α × World) : Program World α :=
  OptionT.mk fun world => (some (step world).1, (step world).2)

/-- A value that is missing where the source panics. -/
def orPanic (value : Option α) : Program World α := OptionT.mk (pure value)

/-- A debug build panics where a null pointer is used: `slice::from_raw_parts`
checks its pointer, and so does each access through a raw one. -/
def notNull (pointer : Nat) : Program World Unit :=
  orPanic (if pointer = 0 then none else some ())

/-- `while !test { timeout += 1; if timeout > bound { give up } }`; the answer
tells whether the test succeeded. -/
def waitFor (test : Program World Bool) : Nat → Program World Bool
  | 0 => test
  | bound + 1 => do
    if ← test then pure true else waitFor test bound

theorem exec_pure (value : α) (world : World) :
    (pure value : Program World α).exec world = (some value, world) := rfl

theorem exec_act (step : World → α × World) (world : World) :
    (act step).exec world = (some (step world).1, (step world).2) := rfl

theorem exec_orPanic (value : Option α) (world : World) :
    (orPanic value).exec world = (value, world) := rfl

theorem exec_bind (program : Program World α) (next : α → Program World β) (world : World) :
    (program >>= next).exec world = match program.exec world with
      | (some value, after) => (next value).exec after
      | (none, after) => (none, after) := by
  change (StateT.run (program.run >>= fun result => match result with
    | some value => (next value).run
    | none => pure none) world) = _
  change _ = match program.run.run world with
    | (some value, after) => (next value).run.run after
    | (none, after) => (none, after)
  rw [StateT.run_bind]
  rcases StateT.run program.run world with ⟨value, after⟩
  cases value <;> rfl

theorem waitFor_zero (test : Program World Bool) : waitFor test 0 = test := rfl

theorem waitFor_succ (test : Program World Bool) (bound : Nat) :
    waitFor test (bound + 1) = (do if ← test then pure true else waitFor test bound) := rfl

/-- From a world in which `before` holds the program ends with `after`, or
panics and leaves `broken`. -/
def Ensures (before : World → Prop) (program : Program World α) (after : α → World → Prop)
    (broken : World → Prop) : Prop :=
  ∀ world, before world → match program.exec world with
    | (some value, final) => after value final
    | (none, final) => broken final

variable {before : World → Prop} {broken : World → Prop} {program : Program World α}
  {next : α → Program World β} {after : α → World → Prop} {last : β → World → Prop}

theorem ensures_pure {value : α} (holds : ∀ world, before world → after value world) :
    Ensures before (pure value) after broken :=
  holds

theorem ensures_act {step : World → α × World}
    (holds : ∀ world, before world → after (step world).1 (step world).2) :
    Ensures before (act step) after broken :=
  holds

theorem ensures_bind (first : Ensures before program after broken)
    (rest : ∀ value, Ensures (after value) (next value) last broken) :
    Ensures before (program >>= next) last broken := by
  intro world initial
  have middle := first world initial
  rw [exec_bind]
  cases result : program.exec world with
  | mk value final =>
    rw [result] at middle
    cases value with
    | none => exact middle
    | some value => exact rest value final middle

theorem ensures_orPanic {value : Option α}
    (holds : ∀ found, value = some found → Ensures before (next found) last broken)
    (panics : value = none → ∀ world, before world → broken world) :
    Ensures before (orPanic value >>= next) last broken := by
  cases value with
  | none => exact panics rfl
  | some found => exact holds found rfl

theorem ensures_notNull {pointer : Nat} {next : Unit → Program World β} (there : pointer ≠ 0)
    (rest : Ensures before (next ()) last broken) :
    Ensures before (notNull pointer >>= next) last broken := by
  refine ensures_orPanic (fun _ _ => rest) fun null => ?_
  rw [if_neg there] at null
  cases null

theorem ensures_weaken {stronger : World → Prop} {weaker : α → World → Prop}
    {damage : World → Prop} (ensured : Ensures before program after broken)
    (first : ∀ world, stronger world → before world)
    (final : ∀ value world, after value world → weaker value world)
    (panic : ∀ world, broken world → damage world) : Ensures stronger program weaker damage := by
  intro world initial
  have result := ensured world (first world initial)
  cases outcome : program.exec world with
  | mk value world =>
    rw [outcome] at result
    cases value with
    | none => exact panic world result
    | some value => exact final value world result

/-- A fact that does not depend on the world may be assumed. -/
theorem ensures_given {fact : Prop} (ensured : fact → Ensures before program after broken) :
    Ensures (fun world => fact ∧ before world) program after broken :=
  fun world initial => ensured initial.1 world initial.2

theorem ensures_fact {fact : Prop} (ensured : fact → Ensures (fun _ => True) program after broken) :
    Ensures (fun _ => fact) program after broken :=
  fun world holds => ensured holds world trivial

/-- What holds for some value may be assumed for a fixed one. -/
theorem ensures_fixed {γ : Type*} {before : γ → World → Prop}
    (ensured : ∀ fixed, Ensures (before fixed) program after broken) :
    Ensures (fun world => ∃ fixed, before fixed world) program after broken := by
  rintro world ⟨fixed, initial⟩
  exact ensured fixed world initial

/-- What every test keeps, the whole loop keeps. -/
theorem ensures_waitFor {test : Program World Bool} {keeps : World → Prop}
    (kept : Ensures keeps test (fun _ => keeps) broken) (bound : Nat) :
    Ensures keeps (waitFor test bound) (fun _ => keeps) broken := by
  induction bound with
  | zero => exact kept
  | succ bound ih =>
    apply ensures_bind kept
    intro found
    cases found with
    | true => exact ensures_pure fun _ holds => holds
    | false => exact ih

-- The bounds in use are far too large for the loop to be unfolded.
attribute [irreducible] waitFor

theorem ensures_forM {body : α → Program World PUnit} {keeps : World → Prop} (items : List α)
    (kept : ∀ item, Ensures keeps (body item) (fun _ => keeps) broken) :
    Ensures keeps (items.forM body) (fun _ => keeps) broken := by
  induction items with
  | nil => exact ensures_pure fun _ holds => holds
  | cons item items ih => exact ensures_bind (kept item) fun _ => ih

/-- What each turn of a counting loop carries on. -/
theorem ensures_forM_range {body : Nat → Program World PUnit} {keeps : Nat → World → Prop}
    (count : Nat)
    (turn : ∀ i < count, Ensures (keeps i) (body i) (fun _ => keeps (i + 1)) broken) :
    Ensures (keeps 0) ((List.range count).forM body) (fun _ => keeps count) broken := by
  induction count with
  | zero => exact ensures_pure fun _ holds => holds
  | succ count ih =>
    rw [List.range_succ, List.forM_eq_forM, List.forM_append, List.forM_cons, List.forM_nil]
    refine ensures_bind (ih fun i inside => turn i (Nat.lt_succ_of_lt inside)) fun _ => ?_
    exact ensures_bind (turn count (Nat.lt_succ_self count)) fun _ =>
      ensures_pure fun _ holds => holds

theorem ensures_trivial (program : Program World α) :
    Ensures before program (fun _ _ => True) (fun _ => True) := by
  intro world _
  cases outcome : program.exec world with
  | mk value final => cases value <;> trivial

/-- What the body establishes for one item and keeps for all of them, a loop that ends
has established. -/
theorem ensures_forM_mem {body : α → Program World PUnit} {fact : World → Prop} {item : α}
    {items : List α} (member : item ∈ items)
    (established : Ensures before (body item) (fun _ => fact) (fun _ => True))
    (kept : ∀ other, Ensures fact (body other) (fun _ => fact) (fun _ => True))
    (before_true : ∀ world, before world) :
    Ensures before (items.forM body) (fun _ => fact) (fun _ => True) := by
  induction items with
  | nil => cases member
  | cons head items ih =>
    rcases List.mem_cons.mp member with rfl | later
    · exact ensures_bind established fun _ => ensures_forM items kept
    · apply ensures_bind (ensures_trivial (body head))
      intro _
      exact ensures_weaken (ih later) (fun world _ => before_true world) (fun _ _ holds => holds)
        fun _ holds => holds

theorem ensures_foldlM {step : β → α → Program World β} {keeps : β → World → Prop}
    (kept : ∀ state item, Ensures (keeps state) (step state item) keeps broken) (items : List α)
    (state : β) : Ensures (keeps state) (items.foldlM step state) keeps broken := by
  induction items generalizing state with
  | nil => exact ensures_pure fun _ holds => holds
  | cons item items ih => exact ensures_bind (kept state item) ih

theorem ensures_some (ensured : Ensures before program after broken) {world final : World}
    {value : α} (initial : before world) (ended : program.exec world = (some value, final)) :
    after value final := by
  have result := ensured world initial
  rwa [ended] at result

theorem ensures_none (ensured : Ensures before program after broken) {world final : World}
    (initial : before world) (panicked : program.exec world = (none, final)) : broken final := by
  have result := ensured world initial
  rwa [panicked] at result

/-- A program that cannot end panics. -/
theorem exec_none (ensured : Ensures before program (fun _ _ => False) broken) {world : World}
    (initial : before world) : (program.exec world).1 = none := by
  cases outcome : program.exec world with
  | mk value last =>
    cases value with
    | some value => exact (ensures_some ensured initial outcome).elim
    | none => rfl

/-- A program that cannot panic comes to its end. -/
theorem exec_some (ensured : Ensures before program after fun _ => False) {world : World}
    (initial : before world) :
    ∃ value final, program.exec world = (some value, final) ∧ after value final := by
  cases outcome : program.exec world with
  | mk value last =>
    cases value with
    | some value => exact ⟨value, last, rfl, ensures_some ensured initial outcome⟩
    | none => exact (ensures_none ensured initial outcome).elim

/-- A fact about the world that also holds when the program panics. -/
theorem ensures_exec {final : World → Prop} (ensured : Ensures before program (fun _ => final) final)
    {world : World} (initial : before world) : final (program.exec world).2 := by
  cases outcome : program.exec world with
  | mk value last =>
    cases value with
    | some value => exact ensures_some ensured initial outcome
    | none => exact ensures_none ensured initial outcome

-- The rules above say all there is to know.
attribute [irreducible] Ensures

end Program

end QoreOS.Library
