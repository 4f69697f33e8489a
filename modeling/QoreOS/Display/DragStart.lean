import Mathlib.Data.List.Induction
import QoreOS.Display.DesktopBounds

/-! Where a drag begins: the history of the left button. -/

namespace QoreOS.Display

open QoreOS.Library

/-- The left button is down behind the readings. -/
def heldAfter (readings : List Reading) : Bool :=
  (readings.getLast?.map fun reading => leftDown reading.btn).getD false

/-- The cursor of an iteration as the loop clamps it. -/
structure Cursor (screen : Screen) (reading : Reading) (mx my : Int) : Prop where
  x : clampAxis screen.width reading.x.toInt = some mx
  y : clampAxis screen.height reading.y.toInt = some my

def InTitleBar (window : Window) (mx my : Int) : Prop :=
  Covers window.x window.y window.width 24 mx my

def InCloseButton (window : Window) (mx my : Int) : Prop :=
  Covers (window.x + window.width - 20) (window.y + 4) 16 16 mx my

/-- An iteration has its cursor in the title bar, off the close button. -/
def Grips (screen : Screen) (manager : WindowManager) (reading : Reading) : Prop :=
  ∃ mx my, Cursor screen reading mx my ∧ InTitleBar manager.window mx my ∧
    ¬ InCloseButton manager.window mx my

/-- The button is held behind the readings, and the press which began that has
gripped the title bar. -/
def Gripped (screen : Screen) (readings : List Reading) : Prop :=
  ∃ earlier press held manager, readings = earlier ++ press :: held ∧
    heldAfter earlier = false ∧ leftDown press.btn ∧ (∀ reading ∈ held, leftDown reading.btn) ∧
    run (WindowManager.step screen) earlier WindowManager.start = some manager ∧
    Grips screen manager press

/-- With the button held since earlier and no drag under way, the cursor is in the
title bar of the open window. -/
structure Slips (screen : Screen) (manager : WindowManager) (reading : Reading) : Prop where
  running : manager.dropped = false
  isOpen : manager.window.isOpen
  before : leftDown manager.oldMbtn
  now : leftDown reading.btn
  idle : manager.isDragging = false
  title : ∃ mx my, Cursor screen reading mx my ∧ InTitleBar manager.window mx my

section History

variable {screen : Screen} {readings : List Reading} {reading : Reading}

theorem heldAfter_concat (readings : List Reading) (reading : Reading) :
    heldAfter (readings ++ [reading]) = leftDown reading.btn := by
  rw [heldAfter, List.getLast?_concat]
  rfl

theorem heldAfter_press {earlier held : List Reading} {press : Reading} (down : leftDown press.btn)
    (holds : ∀ reading ∈ held, leftDown reading.btn) : heldAfter (earlier ++ press :: held) := by
  rcases List.eq_nil_or_concat held with rfl | ⟨front, last, rfl⟩
  · rw [heldAfter_concat]
    exact down
  · rw [List.concat_eq_append, ← List.cons_append, ← List.append_assoc, heldAfter_concat]
    exact holds last (by simp)

/-- A hold that goes on began where it began. -/
theorem gripped_hold (held : heldAfter readings) (now : leftDown reading.btn) :
    Gripped screen (readings ++ [reading]) ↔ Gripped screen readings := by
  constructor
  · rintro ⟨earlier, press, rest, manager, split, released, down, holds, reached, grips⟩
    rcases List.eq_nil_or_concat rest with rfl | ⟨front, last, rfl⟩
    · obtain ⟨rfl, -⟩ := List.append_inj' split rfl
      rw [held] at released
      cases released
    · rw [List.concat_eq_append, ← List.cons_append, ← List.append_assoc] at split
      obtain ⟨rfl, -⟩ := List.append_inj' split rfl
      exact ⟨earlier, press, front, manager, rfl, released, down,
        fun reading member => holds reading (by simp [member]), reached, grips⟩
  · rintro ⟨earlier, press, rest, manager, rfl, released, down, holds, reached, grips⟩
    refine ⟨earlier, press, rest ++ [reading], manager, by simp, released, down, ?_, reached, grips⟩
    intro other member
    rcases List.mem_append.mp member with old | new
    · exact holds other old
    · rw [List.mem_singleton.mp new]
      exact now

/-- A fresh press begins a hold. -/
theorem gripped_press {manager : WindowManager} (released : heldAfter readings = false)
    (now : leftDown reading.btn)
    (reached : run (WindowManager.step screen) readings WindowManager.start = some manager) :
    Gripped screen (readings ++ [reading]) ↔ Grips screen manager reading := by
  constructor
  · rintro ⟨earlier, press, rest, other, split, free, down, holds, arrived, grips⟩
    rcases List.eq_nil_or_concat rest with rfl | ⟨front, last, rfl⟩
    · obtain ⟨rfl, same⟩ := List.append_inj' split rfl
      cases same
      cases reached.symm.trans arrived
      exact grips
    · rw [List.concat_eq_append, ← List.cons_append, ← List.append_assoc] at split
      obtain ⟨rfl, -⟩ := List.append_inj' split rfl
      have still : heldAfter (earlier ++ press :: front) :=
        heldAfter_press down fun reading member => holds reading (by simp [member])
      rw [released] at still
      cases still
  · intro grips
    exact ⟨readings, reading, [], manager, rfl, released, now, by simp, reached, grips⟩

end History

/-- What the locals of the loop remember of the readings. -/
structure Remembers (screen : Screen) (readings : List Reading) (manager : WindowManager) : Prop where
  width : manager.window.width = 600
  dragging : manager.isDragging → manager.dropped = false ∧ manager.window.isOpen ∧
    leftDown manager.oldMbtn
  buttons : manager.dropped = false → leftDown manager.oldMbtn = heldAfter readings
  loose : manager.dropped = false → manager.window.isOpen → leftDown manager.oldMbtn →
    manager.isDragging = false → ¬ Gripped screen readings

theorem start_remembers (screen : Screen) : Remembers screen [] WindowManager.start where
  width := rfl
  dragging := nofun
  buttons := fun _ => rfl
  loose := nofun

theorem dragTo_keeps {screen : Screen} {window moved : Window} {mx my offsetX offsetY : Int}
    (moves : window.dragTo screen mx my offsetX offsetY = some moved) :
    moved.width = window.width ∧ moved.isOpen = window.isOpen := by
  obtain ⟨_, -, moves⟩ := Option.bind_eq_some_iff.mp moves
  obtain ⟨_, -, moves⟩ := Option.bind_eq_some_iff.mp moves
  obtain ⟨_, -, moves⟩ := Option.bind_eq_some_iff.mp moves
  obtain ⟨_, -, moves⟩ := Option.bind_eq_some_iff.mp moves
  cases moves
  exact ⟨rfl, rfl⟩

section Step

variable {screen : Screen} {readings : List Reading} {manager next : WindowManager} {reading : Reading}
  (remembers : Remembers screen readings manager)
  (reached : run (WindowManager.step screen) readings WindowManager.start = some manager)

theorem step_handled (running : manager.dropped = false)
    (steps : manager.step screen reading = some next) :
    ∃ mx my, Cursor screen reading mx my ∧ ∃ handled,
      Handled screen manager mx my reading.btn handled ∧
      next = if handled.dropped then handled else { handled with oldMbtn := reading.btn } := by
  rw [WindowManager.step, if_neg (Bool.eq_false_iff.mp running)] at steps
  obtain ⟨mx, clampedX, steps⟩ := Option.bind_eq_some_iff.mp steps
  obtain ⟨my, clampedY, steps⟩ := Option.bind_eq_some_iff.mp steps
  exact ⟨mx, my, ⟨clampedX, clampedY⟩, WindowManager.iterate_handled steps⟩

theorem Cursor.unique {mx my otherX otherY : Int} (cursor : Cursor screen reading mx my)
    (other : Cursor screen reading otherX otherY) : mx = otherX ∧ my = otherY :=
  ⟨Option.some.inj (cursor.x.symm.trans other.x), Option.some.inj (cursor.y.symm.trans other.y)⟩

include remembers in
theorem Remembers.width_asI32 : asI32 manager.window.width = manager.window.width := by
  rw [remembers.width]
  rfl

include remembers reached in
theorem Remembers.step (steps : manager.step screen reading = some next) :
    Remembers screen (readings ++ [reading]) next := by
  cases running : manager.dropped with
  | true =>
    rw [WindowManager.step, if_pos running] at steps
    cases steps
    exact ⟨remembers.width, remembers.dragging, (fun halted => nomatch running.symm.trans halted),
      (fun halted => nomatch running.symm.trans halted)⟩
  | false =>
    obtain ⟨mx, my, cursor, handled, handles, rfl⟩ := step_handled running steps
    have buttons := fun _ : manager.dropped = false => (heldAfter_concat readings reading).symm
    cases handles with
    | shut isShut =>
      rw [if_neg (Bool.eq_false_iff.mp running)]
      refine ⟨remembers.width, fun dragging => ?_, buttons, fun _ isOpen => ?_⟩
      · exact nomatch isShut.symm.trans (remembers.dragging dragging).2.1
      · exact nomatch isShut.symm.trans isOpen
    | closes =>
      rw [if_neg (Bool.eq_false_iff.mp running)]
      exact ⟨remembers.width, nofun, buttons, nofun⟩
    | drops isOpen fresh =>
      refine ⟨remembers.width, fun dragging => ?_, nofun, nofun⟩
      rw [(remembers.dragging dragging).2.2, Bool.not_true, Bool.and_false] at fresh
      cases fresh
    | drags isOpen left dragging window moved =>
      rw [if_neg (Bool.eq_false_iff.mp running)]
      obtain ⟨width, stillOpen⟩ := dragTo_keeps moved
      exact ⟨width.trans remembers.width, fun _ => ⟨running, stillOpen.trans isOpen, left⟩, buttons,
        fun _ _ _ idle => nomatch dragging.symm.trans idle⟩
    | takes isOpen left =>
      rw [if_neg (Bool.eq_false_iff.mp running)]
      exact ⟨remembers.width, fun _ => ⟨running, isOpen, left⟩, buttons, nofun⟩
    | passes isOpen left idle title =>
      rw [if_neg (Bool.eq_false_iff.mp running)]
      refine ⟨remembers.width, (fun dragging => nomatch idle.symm.trans dragging), buttons, ?_⟩
      intro _ _ _ _ gripped
      cases before : leftDown manager.oldMbtn with
      | true =>
        have held := (remembers.buttons running).symm.trans before
        exact remembers.loose running isOpen before idle ((gripped_hold held left).mp gripped)
      | false =>
        have released := (remembers.buttons running).symm.trans before
        obtain ⟨otherX, otherY, other, inside, -⟩ := (gripped_press released left reached).mp gripped
        obtain ⟨rfl, rfl⟩ := cursor.unique other
        rw [remembers.width_asI32] at title
        exact title inside
    | releases isOpen released =>
      rw [if_neg (Bool.eq_false_iff.mp running)]
      exact ⟨remembers.width, nofun, buttons, fun _ _ down => nomatch released.symm.trans down⟩

include remembers reached in
/-- Without a slip, a drag goes on or is begun by a press on the title bar. -/
theorem Remembers.gripped (firm : manager.isDragging → Gripped screen readings)
    (holds : ¬ Slips screen manager reading) (steps : manager.step screen reading = some next)
    (dragging : next.isDragging) : Gripped screen (readings ++ [reading]) := by
  cases running : manager.dropped with
  | true =>
    rw [WindowManager.step, if_pos running] at steps
    cases steps
    exact nomatch running.symm.trans (remembers.dragging dragging).1
  | false =>
    have buttons := remembers.buttons running
    obtain ⟨mx, my, cursor, handled, handles, rfl⟩ := step_handled running steps
    cases handles with
    | shut isShut =>
      rw [if_neg (Bool.eq_false_iff.mp running)] at dragging
      exact nomatch isShut.symm.trans (remembers.dragging dragging).2.1
    | closes =>
      rw [if_neg (Bool.eq_false_iff.mp running)] at dragging
      cases dragging
    | drops isOpen fresh =>
      rw [(remembers.dragging dragging).2.2, Bool.not_true, Bool.and_false] at fresh
      cases fresh
    | drags isOpen left dragged =>
      have held := buttons.symm.trans (remembers.dragging dragged).2.2
      exact (gripped_hold held left).mpr (firm dragged)
    | takes isOpen left idle beside title =>
      rw [remembers.width_asI32] at beside title
      cases before : leftDown manager.oldMbtn with
      | true => exact absurd ⟨running, isOpen, before, left, idle, mx, my, cursor, title⟩ holds
      | false =>
        have released := buttons.symm.trans before
        exact (gripped_press released left reached).mpr ⟨mx, my, cursor, title, beside before⟩
    | passes isOpen left idle =>
      rw [if_neg (Bool.eq_false_iff.mp running)] at dragging
      exact nomatch idle.symm.trans dragging
    | releases =>
      rw [if_neg (Bool.eq_false_iff.mp running)] at dragging
      cases dragging

end Step

/-- No iteration of the readings slips. -/
def Firm (screen : Screen) (readings : List Reading) : Prop :=
  ∀ first reading, first ++ [reading] <+: readings → ∀ manager,
    run (WindowManager.step screen) first WindowManager.start = some manager →
      ¬ Slips screen manager reading

/-- Whenever the window is dragged, the button is held since a press that gripped
its title bar. -/
def DragsFromTitle (screen : Screen) (readings : List Reading) : Prop :=
  ∀ first, first <+: readings → ∀ manager,
    run (WindowManager.step screen) first WindowManager.start = some manager →
      manager.isDragging → Gripped screen first

section Run

variable {screen : Screen} {readings : List Reading}

theorem run_concat_some {reading : Reading} {next : WindowManager}
    (reached : run (WindowManager.step screen) (readings ++ [reading]) WindowManager.start = some next) :
    ∃ manager, run (WindowManager.step screen) readings WindowManager.start = some manager ∧
      manager.step screen reading = some next := by
  rw [run_concat] at reached
  exact Option.bind_eq_some_iff.mp reached

theorem run_remembers {manager : WindowManager}
    (reached : run (WindowManager.step screen) readings WindowManager.start = some manager) :
    Remembers screen readings manager := by
  induction readings using List.reverseRecOn generalizing manager with
  | nil =>
    cases reached
    exact start_remembers screen
  | append_singleton readings reading ih =>
    obtain ⟨before, earlier, steps⟩ := run_concat_some reached
    exact (ih earlier).step earlier steps

theorem Firm.dragsFromTitle (firm : Firm screen readings) : DragsFromTitle screen readings := by
  intro first early
  induction first using List.reverseRecOn with
  | nil =>
    intro manager reached dragging
    cases reached
    cases dragging
  | append_singleton first reading ih =>
    intro manager reached dragging
    obtain ⟨before, earlier, steps⟩ := run_concat_some reached
    have drags := ih ((List.prefix_append first [reading]).trans early) before earlier
    exact (run_remembers earlier).gripped earlier drags (firm first reading early before earlier) steps
      dragging

/-- A slip begins a drag that no press on the title bar has begun. -/
theorem Slips.drags {manager next : WindowManager} {reading : Reading}
    (slips : Slips screen manager reading)
    (reached : run (WindowManager.step screen) readings WindowManager.start = some manager)
    (steps : manager.step screen reading = some next) :
    next.isDragging ∧ ¬ Gripped screen (readings ++ [reading]) := by
  have remembers := run_remembers reached
  have held := (remembers.buttons slips.running).symm.trans slips.before
  have loose := remembers.loose slips.running slips.isOpen slips.before slips.idle
  refine ⟨?_, fun gripped => loose ((gripped_hold held slips.now).mp gripped)⟩
  obtain ⟨otherX, otherY, other, inside⟩ := slips.title
  obtain ⟨mx, my, cursor, handled, handles, rfl⟩ := step_handled slips.running steps
  obtain ⟨rfl, rfl⟩ := cursor.unique other
  cases handles with
  | shut isShut => exact nomatch isShut.symm.trans slips.isOpen
  | closes isOpen fresh =>
    rw [slips.before, Bool.not_true, Bool.and_false] at fresh
    cases fresh
  | drops isOpen fresh =>
    rw [slips.before, Bool.not_true, Bool.and_false] at fresh
    cases fresh
  | drags isOpen left dragging => exact nomatch slips.idle.symm.trans dragging
  | takes =>
    rw [if_neg (Bool.eq_false_iff.mp slips.running)]
  | passes isOpen left idle title =>
    rw [remembers.width_asI32] at title
    exact absurd inside title
  | releases isOpen released => exact nomatch released.symm.trans slips.now

/-- A slip is possible on every roomy screen without a crash. -/
theorem Slips.not_dragsFromTitle {manager : WindowManager} {first : List Reading} {reading : Reading}
    (slips : Slips screen manager reading) (roomy : Roomy screen)
    (early : first ++ [reading] <+: readings)
    (reached : run (WindowManager.step screen) first WindowManager.start = some manager) :
    ¬ DragsFromTitle screen readings := by
  intro dragsFromTitle
  obtain ⟨final, whole, -⟩ := windowManager_runs roomy (first ++ [reading])
  obtain ⟨before, earlier, steps⟩ := run_concat_some whole
  cases reached.symm.trans earlier
  obtain ⟨dragging, elsewhere⟩ := slips.drags reached steps
  exact elsewhere (dragsFromTitle _ early final whole dragging)

end Run

/-- On every screen a drag begins with a press on the title bar, when the cursor never
comes over the title bar of the open window with a button that is already held; and
where the window fits on the screen, only then. -/
theorem dragsFromTitle_of_firm (screen : Screen) (readings : List Reading) :
    (Firm screen readings → DragsFromTitle screen readings) ∧
      (Roomy screen → DragsFromTitle screen readings → Firm screen readings) := by
  refine ⟨Firm.dragsFromTitle, ?_⟩
  intro roomy dragsFromTitle first reading early manager reached slips
  exact slips.not_dragsFromTitle roomy early reached dragsFromTitle

/-- The button goes down below the title bar and is still down when the cursor gets
there. -/
theorem dragsFromTitle_slips : ¬ DragsFromTitle ⟨1280, 800⟩ [⟨400, 350, 1⟩, ⟨400, 210, 1⟩] := by
  have roomy : Roomy ⟨1280, 800⟩ := ⟨by decide, by decide, by decide, by decide⟩
  have title : InTitleBar WindowManager.start.window 400 210 := ⟨by decide, by decide⟩
  have slips : Slips ⟨1280, 800⟩ { WindowManager.start with oldMbtn := 1 } ⟨400, 210, 1⟩ :=
    ⟨rfl, rfl, rfl, rfl, rfl, 400, 210, ⟨rfl, rfl⟩, title⟩
  have early : [⟨400, 350, 1⟩] ++ [⟨400, 210, 1⟩] <+: [(⟨400, 350, 1⟩ : Reading), ⟨400, 210, 1⟩] :=
    List.prefix_refl _
  exact slips.not_dragsFromTitle roomy early rfl

end QoreOS.Display
