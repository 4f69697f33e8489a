import QoreOS.Library.Program

/-! Programs at a device which has events of its own. Between two accesses of the program any of
them may happen, in any order; the rules say what that leaves certain. -/

namespace QoreOS.Library

/-- A device, and the events that will happen before each of the accesses to come. -/
structure Bus (Device Event : Type) where
  device : Device
  schedule : Nat → List Event

namespace Bus

open Program

variable {Device Event α β : Type} (react : Device → Event → Device)

/-- What is due before an access has happened. -/
def settle (bus : Bus Device Event) : Bus Device Event where
  device := (bus.schedule 0).foldl react bus.device
  schedule := fun turn => bus.schedule (turn + 1)

/-- The program looks at the device and changes it. -/
def access (touch : Device → α × Device) : Program (Bus Device Event) α := .act fun bus =>
  ((touch (bus.settle react).device).1,
    { bus.settle react with device := (touch (bus.settle react).device).2 })

/-- A fact that no event touches. -/
def Stable (holds : Device → Prop) : Prop := ∀ device event, holds device → holds (react device event)

/-- Each of the events that are `due` happens at least once in so many accesses. -/
def Lively (due : Event → Prop) (bound : Nat) (schedule : Nat → List Event) : Prop :=
  ∀ event, due event → ∀ start, ∃ turn < bound, event ∈ schedule (start + turn)

/-- The fact holds of the device, and its events go on. -/
structure At (due : Event → Prop) (bound : Nat) (holds : Device → Prop) (bus : Bus Device Event) :
    Prop where
  holds : holds bus.device
  lively : Lively due bound bus.schedule

variable {react} {due : Event → Prop} {bound : Nat} {before : Device → Prop}
  {broken : Bus Device Event → Prop}

theorem Stable.foldl {holds : Device → Prop} (stable : Stable react holds) (events : List Event)
    {device : Device} (initial : holds device) : holds (events.foldl react device) := by
  induction events generalizing device with
  | nil => exact initial
  | cons event events ih => exact ih (stable device event initial)

theorem Lively.next {schedule : Nat → List Event} (lively : Lively due bound schedule) :
    Lively due bound fun turn => schedule (turn + 1) := by
  intro event member start
  obtain ⟨turn, soon, happens⟩ := lively event member (start + 1)
  exact ⟨turn, soon, by rwa [Nat.add_right_comm] at happens⟩

theorem At.settle {bus : Bus Device Event} (stable : Stable react before)
    (at_bus : At due bound before bus) : At due bound before (bus.settle react) :=
  ⟨stable.foldl _ at_bus.holds, at_bus.lively.next⟩

/-- An access finds what is stable, and leaves what it does to that. -/
theorem ensures_access (after : α → Device → Prop) {touch : Device → α × Device}
    (stable : Stable react before)
    (touches : ∀ device, before device → after (touch device).1 (touch device).2) :
    Ensures (At due bound before) (access react touch) (fun value => At due bound (after value))
      broken :=
  ensures_act fun _ at_bus =>
    ⟨touches _ (at_bus.settle stable).holds, (at_bus.settle stable).lively⟩

theorem ensures_keeps {touch : Device → α × Device} (stable : Stable react before)
    (kept : ∀ device, before device → before (touch device).2) :
    Ensures (At due bound before) (access react touch) (fun _ => At due bound before) broken :=
  ensures_access (fun _ => before) stable kept

/-- An access that tells a fact. -/
theorem ensures_reads (fact : α → Prop) {touch : Device → α × Device} (stable : Stable react before)
    (reads : ∀ device, before device → fact (touch device).1 ∧ before (touch device).2) :
    Ensures (At due bound before) (access react touch)
      (fun value bus => fact value ∧ At due bound before bus) broken :=
  ensures_act fun _ at_bus =>
    have settled := at_bus.settle stable
    ⟨(reads _ settled.holds).1, (reads _ settled.holds).2, settled.lively⟩

section Await

variable {look : Device → Bool} {waiting done : Device → Prop} {awaited : Event} {turns : Nat}

/-- Among the events there is the one awaited. -/
theorem foldl_happens (waits : Stable react fun device => waiting device ∨ done device)
    (stays : Stable react done)
    (happens : ∀ device, waiting device ∨ done device → done (react device awaited))
    {events : List Event} (member : awaited ∈ events) {device : Device}
    (initial : waiting device ∨ done device) : done (events.foldl react device) := by
  induction events generalizing device with
  | nil => cases member
  | cons event events ih =>
    rcases List.mem_cons.mp member with rfl | later
    · exact stays.foldl events (happens device initial)
    · exact ih later (waits device event initial)

/-- A wait for an event that is due: while it has not happened the test fails, behind it the test
succeeds, so that the loop ends in time and tells so. -/
theorem ensures_await (member : due awaited) (patient : bound ≤ turns + 1)
    (waits : Stable react fun device => waiting device ∨ done device) (stays : Stable react done)
    (happens : ∀ device, waiting device ∨ done device → done (react device awaited))
    (early : ∀ device, waiting device → look device = false)
    (late : ∀ device, done device → look device = true) :
    Ensures (At due bound fun device => waiting device ∨ done device)
      (waitFor (access react fun device => (look device, device)) turns)
      (fun found bus => found = true ∧ At due bound done bus) broken := by
  -- the induction counts the accesses within which the event must happen
  have counted : Ensures (fun bus => At due bound (fun device => waiting device ∨ done device) bus ∧
        ∃ turn ≤ turns, awaited ∈ bus.schedule turn)
      (waitFor (access react fun device => (look device, device)) turns)
      (fun found bus => found = true ∧ At due bound done bus) broken := by
    clear patient
    induction turns with
    | zero =>
      rw [waitFor_zero]
      refine ensures_act fun bus ⟨at_bus, turn, soon, happened⟩ => ?_
      obtain rfl := Nat.le_zero.mp soon
      have ended := foldl_happens waits stays happens happened at_bus.holds
      exact ⟨late _ ended, ended, at_bus.lively.next⟩
    | succ turns ih =>
      rw [waitFor_succ]
      have test : Ensures (fun bus => At due bound (fun device => waiting device ∨ done device) bus ∧
            ∃ turn ≤ turns + 1, awaited ∈ bus.schedule turn)
          (access react fun device => (look device, device))
          (fun found bus => if found then At due bound done bus else
            At due bound (fun device => waiting device ∨ done device) bus ∧
              ∃ turn ≤ turns, awaited ∈ bus.schedule turn) broken := by
        refine ensures_act fun bus ⟨at_bus, turn, soon, happened⟩ => ?_
        have settled := at_bus.settle waits
        change if look (bus.settle react).device then At due bound done (bus.settle react) else
          At due bound _ (bus.settle react) ∧
            ∃ turn ≤ turns, awaited ∈ (bus.settle react).schedule turn
        cases turn with
        | zero =>
          have ended := foldl_happens waits stays happens happened at_bus.holds
          rw [if_pos (late (bus.settle react).device ended)]
          exact ⟨ended, settled.lively⟩
        | succ turn =>
          split
          · rename_i found
            refine ⟨settled.holds.resolve_left fun still => ?_, settled.lively⟩
            exact absurd found (by rw [early _ still]; decide)
          · exact ⟨settled, turn, Nat.le_of_succ_le_succ soon, happened⟩
      refine ensures_bind test fun found => ?_
      cases found with
      | true => exact ensures_pure fun _ ended => ⟨rfl, ended⟩
      | false => exact ih
  refine ensures_weaken counted (fun bus at_bus => ⟨at_bus, ?_⟩) (fun _ _ holds => holds)
    fun _ holds => holds
  obtain ⟨turn, soon, happened⟩ := at_bus.lively awaited member 0
  exact ⟨turn, by omega, by rwa [Nat.zero_add] at happened⟩

end Await

end Bus

end QoreOS.Library
