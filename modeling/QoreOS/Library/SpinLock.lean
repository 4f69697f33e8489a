import QoreOS.Library.Run

/-! A spin lock that is not reentrant, on a single processor: a main program
and the interrupt handlers that preempt it between any two of its steps. Both
take the lock around each piece of their work. -/

namespace QoreOS.Library

universe u v
variable {World : Type u} {Work : Type v}

inductive Holder where
  | main
  | handler
  deriving DecidableEq

/-- Where code stands in a piece of work. -/
inductive Phase (Work : Type v) where
  | outside
  | working (item : Work)
  | leaving

/-- The work that is still to be done, besides the piece in `phase`. -/
structure Thread (Work : Type v) where
  phase : Phase Work
  items : List Work

namespace Thread

def begin (items : List Work) : Thread Work where
  phase := .outside
  items := items

def done (thread : Thread Work) : Bool :=
  match thread.phase, thread.items with
  | .outside, [] => true
  | _, _ => false

def Inside (thread : Thread Work) : Prop :=
  match thread.phase with
  | .outside => False
  | _ => True

/-- The next step takes the lock. -/
def AtLock (thread : Thread Work) : Prop := ¬ thread.Inside ∧ thread.items ≠ []

variable {thread : Thread Work}

theorem begin_done (items : List Work) : (begin items).done = items.isEmpty := by
  cases items <;> rfl

theorem begin_not_inside (items : List Work) : ¬ (begin items).Inside := id

theorem done_not_inside (done : thread.done = true) : ¬ thread.Inside := by
  unfold Thread.done at done
  unfold Inside
  split at done
  · rename_i outside _
    rw [outside]
    exact id
  · cases done

theorem AtLock.not_done (waiting : thread.AtLock) : thread.done = false := by
  unfold Thread.done
  split
  · rename_i nothing
    exact absurd nothing waiting.2
  · rfl

end Thread

/-- What the two share. -/
structure Shared (World : Type u) where
  world : World
  lock : Option Holder

/-- One step, and whether it went well; work that fails gives the lock back and
is the last. -/
def Thread.step (serve : World → Work → Option World) (holder : Holder) (shared : Shared World)
    (thread : Thread Work) : Shared World × Thread Work × Bool :=
  match thread.phase, thread.items with
  | .outside, [] => (shared, thread, true)
  | .outside, item :: items =>
    match shared.lock with
    | none => ({ shared with lock := some holder }, { phase := .working item, items := items }, true)
    | some _ => (shared, thread, true)
  | .working item, items =>
    match serve shared.world item with
    | some world => ({ shared with world := world }, { phase := .leaving, items := items }, true)
    | none => (shared, { phase := .leaving, items := [] }, false)
  | .leaving, items => ({ shared with lock := none }, { phase := .outside, items := items }, true)

namespace Thread

variable {serve : World → Work → Option World} {holder other : Holder} {shared : Shared World}
  {thread : Thread Work}

/-- Code holds the lock as long as it is inside. -/
theorem step_own (own : shared.lock = some holder ↔ thread.Inside) :
    (thread.step serve holder shared).1.lock = some holder ↔
      (thread.step serve holder shared).2.1.Inside := by
  cases phase : thread.phase with
  | outside =>
    cases items : thread.items with
    | nil => simpa only [step, phase, items] using own
    | cons item items =>
      cases lock : shared.lock with
      | none => simp only [step, phase, items, lock, Inside]
      | some taken => simpa only [step, phase, items, lock] using own
  | working item =>
    have held : shared.lock = some holder := own.mpr (by rw [Inside, phase]; trivial)
    cases served : serve shared.world item <;> simp only [step, phase, served, held, Inside]
  | leaving => simp only [step, phase, Inside, reduceCtorEq]

/-- Code neither takes the lock from others nor gives theirs back. -/
theorem step_other (own : shared.lock = some holder ↔ thread.Inside) (apart : other ≠ holder) :
    (thread.step serve holder shared).1.lock = some other ↔ shared.lock = some other := by
  cases phase : thread.phase with
  | outside =>
    cases items : thread.items with
    | nil => simp only [step, phase, items]
    | cons item items =>
      cases lock : shared.lock with
      | none => simp only [step, phase, items, lock, Option.some.injEq, apart.symm, reduceCtorEq]
      | some taken => simp only [step, phase, items, lock]
  | working item => cases served : serve shared.world item <;> simp only [step, phase, served]
  | leaving =>
    have held : shared.lock = some holder := own.mpr (by rw [Inside, phase]; trivial)
    simp only [step, phase, held, Option.some.injEq, apart.symm, reduceCtorEq]

end Thread

/-- The processor. The main program comes in portions; `ended` says that there
is none to come. When it has `halted` only the running handler moves. -/
structure Processor (World : Type u) (Work : Type v) where
  shared : Shared World
  main : Thread Work
  handler : Thread Work
  ended : Bool
  halted : Bool

namespace Processor

inductive Event (Work : Type v) where
  | start (items : List Work) (last : Bool)
  | interrupt (items : List Work)
  | advance

def boot (world : World) : Processor World Work where
  shared := { world := world, lock := none }
  main := .begin []
  handler := .begin []
  ended := false
  halted := false

/-- Whether a handler may be started. -/
def quiet (processor : Processor World Work) : Bool := processor.handler.done && !processor.halted

/-- The handler runs to its end before the main program goes on. -/
def advance (serve : World → Work → Option World) (processor : Processor World Work) :
    Processor World Work :=
  if processor.quiet then
    let (shared, main, well) := processor.main.step serve .main processor.shared
    { processor with shared := shared, main := main, ended := processor.ended || !well }
  else
    let (shared, handler, well) := processor.handler.step serve .handler processor.shared
    { processor with shared := shared, handler := handler, halted := processor.halted || !well }

/-- A portion is started when the one before it is done. -/
def start (processor : Processor World Work) (items : List Work) (last : Bool) :
    Processor World Work :=
  if processor.quiet && processor.main.done && !processor.ended then
    { processor with main := .begin items, ended := last }
  else processor

def interrupt (processor : Processor World Work) (items : List Work) : Processor World Work :=
  if processor.quiet then { processor with handler := .begin items } else processor

def step (serve : World → Work → Option World) (processor : Processor World Work) :
    Event Work → Processor World Work
  | .start items last => processor.start items last
  | .interrupt items => processor.interrupt items
  | .advance => processor.advance serve

/-- The handler is about to take the lock which the main program holds. -/
def Deadlocked (processor : Processor World Work) : Prop :=
  processor.handler.AtLock ∧ processor.shared.lock = some .main

/-- Each holds the lock while it is inside, and handlers run while the main
program is outside. -/
structure Apart (processor : Processor World Work) : Prop where
  main : processor.shared.lock = some .main ↔ processor.main.Inside
  handler : processor.shared.lock = some .handler ↔ processor.handler.Inside
  busy : processor.quiet = false → ¬ processor.main.Inside

/-- Handlers that work preempt the main program only outside. -/
def Allows (processor : Processor World Work) : Event Work → Prop
  | .interrupt items => items ≠ [] → ¬ processor.main.Inside
  | _ => True

variable {serve : World → Work → Option World} {processor : Processor World Work}

theorem boot_apart (world : World) : (boot world : Processor World Work).Apart := by
  constructor
  · simp [boot, Thread.begin_not_inside]
  · simp [boot, Thread.begin_not_inside]
  · intro _
    exact Thread.begin_not_inside []

theorem Apart.not_deadlocked (apart : processor.Apart) : ¬ processor.Deadlocked := by
  rintro ⟨waiting, held⟩
  refine apart.busy ?_ (apart.main.mp held)
  rw [quiet, waiting.not_done, Bool.false_and]

theorem Apart.advance (apart : processor.Apart) : (processor.advance serve).Apart := by
  unfold Processor.advance
  cases idle : processor.quiet with
  | true =>
    rw [if_pos rfl]
    refine ⟨Thread.step_own apart.main, ?_, ?_⟩
    · exact (Thread.step_other apart.main (by simp)).trans apart.handler
    · intro busy
      rw [quiet] at idle
      exact absurd (busy.symm.trans idle) (by simp)
  | false =>
    rw [if_neg (by simp)]
    exact ⟨(Thread.step_other apart.handler (by simp)).trans apart.main,
      Thread.step_own apart.handler, fun _ => apart.busy idle⟩

theorem Apart.start (apart : processor.Apart) (items : List Work) (last : Bool) :
    (processor.start items last).Apart := by
  unfold Processor.start
  split
  · rename_i started
    rw [Bool.and_eq_true, Bool.and_eq_true] at started
    have outside := Thread.done_not_inside started.1.2
    refine ⟨?_, apart.handler, fun _ => Thread.begin_not_inside items⟩
    exact apart.main.trans (iff_of_false outside (Thread.begin_not_inside items))
  · exact apart

theorem Apart.interrupt (apart : processor.Apart) {items : List Work}
    (allowed : items ≠ [] → ¬ processor.main.Inside) :
    (processor.interrupt items).Apart := by
  unfold Processor.interrupt
  cases idle : processor.quiet with
  | true =>
    rw [if_pos rfl]
    rw [quiet, Bool.and_eq_true] at idle
    refine ⟨apart.main, ?_, ?_⟩
    · exact apart.handler.trans
        (iff_of_false (Thread.done_not_inside idle.1) (Thread.begin_not_inside items))
    · intro busy
      apply allowed
      intro nothing
      rw [quiet, Thread.begin_done, nothing, idle.2] at busy
      cases busy
  | false =>
    rw [if_neg (by simp)]
    exact apart

/-- A handler that preempts the main program inside hangs at its first step. -/
theorem Apart.allows (apart : processor.Apart) (event : Event Work)
    (live : ¬ (processor.step serve event).Deadlocked) : processor.Allows event := by
  cases event with
  | start items last => trivial
  | advance => trivial
  | interrupt items =>
    intro work inside
    cases idle : processor.quiet with
    | true =>
      rw [step, Processor.interrupt, if_pos idle] at live
      exact live ⟨⟨Thread.begin_not_inside items, work⟩, apart.main.mpr inside⟩
    | false => exact apart.busy idle inside

theorem Apart.step (apart : processor.Apart) {event : Event Work}
    (allowed : processor.Allows event) : (processor.step serve event).Apart := by
  cases event with
  | start items last => exact apart.start items last
  | interrupt items => exact apart.interrupt allowed
  | advance => exact apart.advance

variable (serve) in
/-- A run whose events have causes outside is free of deadlock exactly if each
of them is allowed. -/
theorem deadlock_free_iff {Cause : Type*} (event : Cause → Event Work)
    (apart : processor.Apart) (causes : List Cause) :
    (∀ earlier, earlier <+: causes →
      ¬ (earlier.foldl (fun processor cause => processor.step serve (event cause))
        processor).Deadlocked) ↔
      ∀ earlier cause, earlier ++ [cause] <+: causes →
        (earlier.foldl (fun processor cause => processor.step serve (event cause))
          processor).Allows (event cause) := by
  have exact : ∀ (processor : Processor World Work) (cause : Cause), processor.Apart →
      ∃ next, some (processor.step serve (event cause)) = some next ∧
        (processor.Allows (event cause) → next.Apart) ∧
        (¬ next.Deadlocked → processor.Allows (event cause)) :=
    fun processor cause apart => ⟨_, rfl, apart.step, apart.allows (event cause)⟩
  have whole := run_good_iff (fun _ apart => Apart.not_deadlocked apart) exact causes apart
  simpa only [run_total, Option.some.injEq, exists_eq_left'] using whole

/-- No handler is running, and none has halted. -/
def alone (world : World) (items : List Work) (ended : Bool) : Processor World Work where
  shared := { world := world, lock := none }
  main := .begin items
  handler := .begin []
  ended := ended
  halted := false

theorem advance_idle (world : World) (ended : Bool) :
    (alone world [] ended).advance serve = alone world [] ended := by
  cases ended <;> rfl

/-- Three steps do a piece of work. -/
theorem advance_item {world next : World} {item : Work} (served : serve world item = some next)
    (items : List Work) (ended : Bool) :
    (Processor.advance serve)^[3] (alone world (item :: items) ended) = alone next items ended := by
  have working : (Processor.advance serve)^[2] (alone world (item :: items) ended) =
      { alone next items ended with
        shared := { world := next, lock := some .main }
        main := { phase := .leaving, items := items } } := by
    cases ended <;> simp [Processor.advance, alone, quiet, Thread.done, Thread.begin, Thread.step, served]
  rw [Function.iterate_succ_apply', working]
  cases ended <;> rfl

theorem advance_failed {world : World} {item : Work} (failed : serve world item = none)
    (items : List Work) (ended : Bool) :
    (Processor.advance serve)^[3] (alone world (item :: items) ended) = alone world [] true := by
  have working : (Processor.advance serve)^[2] (alone world (item :: items) ended) =
      { alone world [] true with
        shared := { world := world, lock := some .main }
        main := { phase := .leaving, items := [] } } := by
    cases ended <;> simp [Processor.advance, alone, quiet, Thread.done, Thread.begin, Thread.step, failed]
  rw [Function.iterate_succ_apply', working]
  rfl

variable (serve) in
/-- A main program that is left alone does its work in order, up to the piece
that fails. -/
theorem advance_all (items : List Work) (world : World) (ended : Bool) :
    match run serve items world with
    | some final =>
      (Processor.advance serve)^[3 * items.length] (alone world items ended) = alone final [] ended
    | none => ∃ final,
      (Processor.advance serve)^[3 * items.length] (alone world items ended) =
        alone final [] true := by
  induction items generalizing world with
  | nil => rfl
  | cons item items ih =>
    rw [List.length_cons, Nat.mul_succ, Function.iterate_add_apply]
    cases served : serve world item with
    | none =>
      rw [run_cons, served, Option.bind_none]
      refine ⟨world, ?_⟩
      rw [advance_failed served, Function.iterate_fixed (advance_idle world true)]
    | some next =>
      rw [run_cons, served, Option.bind_some, advance_item served]
      exact ih next

end Processor
end QoreOS.Library
