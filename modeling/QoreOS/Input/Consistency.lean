import Mathlib.Data.List.Infix
import Mathlib.Tactic.IntervalCases
import QoreOS.Input.Accesses

/-! What an iteration reads of the mouse, against what the cells hold behind a whole number
of packets. -/

namespace QoreOS.Input

open QoreOS.Library QoreOS.Display

section Packets

variable {mouse : Mouse} {bytes first : List UInt8}

theorem Mouse.movements_prefix (early : first <+: bytes) :
    mouse.movements first <+: mouse.movements bytes := by
  obtain ⟨rest, rfl⟩ := early
  rw [movements_append]
  exact List.prefix_append _ _

/-- Every packet ends with some byte. -/
theorem Mouse.exists_movements {cut : List Movement} (mouse : Mouse) (bytes : List UInt8)
    (early : cut <+: mouse.movements bytes) : ∃ first, first <+: bytes ∧ mouse.movements first = cut := by
  induction bytes generalizing mouse cut with
  | nil => exact ⟨[], List.prefix_refl _, (List.prefix_nil.mp early).symm⟩
  | cons byte bytes ih =>
    rw [movements] at early
    cases ends : mouse.completed byte with
    | none =>
      rw [ends] at early
      obtain ⟨first, within, same⟩ := ih (mouse.processPacketByte byte) early
      refine ⟨byte :: first, List.cons_prefix_cons.mpr ⟨rfl, within⟩, ?_⟩
      rw [movements, ends, same]
      rfl
    | some packet =>
      rw [ends] at early
      cases cut with
      | nil => exact ⟨[], List.nil_prefix, rfl⟩
      | cons other cut =>
        obtain ⟨rfl, rest⟩ := List.cons_prefix_cons.mp early
        obtain ⟨first, within, same⟩ := ih (mouse.processPacketByte byte) rest
        refine ⟨byte :: first, List.cons_prefix_cons.mpr ⟨rfl, within⟩, ?_⟩
        rw [movements, ends, same]
        rfl

end Packets

/-- Two positions clamp to the same one: both beyond the same end, unless they are equal. (A
screen without columns has but one.) -/
def Alike (edge first second : Int) : Prop :=
  first = second ∨ StaysLow edge first ∧ StaysLow edge second ∨
    StaysHigh edge first ∧ StaysHigh edge second ∨ edge ≤ 0

theorem clampAxis_alike (limit : Nat) (first second : Int) :
    clampAxis limit first = clampAxis limit second ↔ Alike (asI32 limit) first second := by
  by_cases wide : 0 < asI32 limit
  · rw [clampAxis_wide wide, clampAxis_wide wide, Option.some.injEq]
    unfold Alike StaysLow StaysHigh
    split_ifs <;> omega
  · have same : ∀ value, clampAxis limit value = checkedI32 (asI32 limit - 10) := by
      intro value
      have low := clampLow_nonneg value
      exact clampAxis_high (by omega)
    rw [same, same]
    exact iff_of_true rfl (Or.inr (Or.inr (Or.inr (Int.not_lt.mp wide))))

/-- Of the packets that are completed between the load of `MOUSE_X` and that of `MOUSE_BTN`,
the first ones do not move the pointer sideways, and the others neither move it up or down
before `MOUSE_Y` is loaded nor leave other buttons. -/
def Settled (screen : Screen) (gaps : Gaps) (mouse : Mouse) : Prop :=
  let loaded := mouse.receive gaps.loadX
  let untilY := loaded.movements gaps.loadY
  let untilBtn := loaded.movements (gaps.loadY ++ gaps.loadBtn)
  ∃ first, first <+: untilBtn ∧
    Alike (asI32 screen.width) loaded.x.toInt (loaded.x + Mouse.movedX first).toInt ∧
    Alike (asI32 screen.height) (loaded.y + Mouse.movedY first).toInt
      (loaded.y + Mouse.movedY untilY).toInt ∧
    Mouse.pressed loaded.btn first = Mouse.pressed loaded.btn untilBtn

/-- The cells hold, up to clamping, what the iteration goes on with. -/
structure Holds (screen : Screen) (mouse : Mouse) (sampled : Sample) : Prop where
  x : clampAxis screen.width mouse.x.toInt = some sampled.mx
  y : clampAxis screen.height mouse.y.toInt = some sampled.my
  btn : mouse.btn = sampled.mbtn

section Sample

variable {screen : Screen} {gaps : Gaps} {mouse : Mouse} {sampled : Sample}

/-- What the iteration goes on with are the clamped loads. -/
theorem sample_loads (taken : sample screen gaps mouse = some sampled) :
    clampAxis screen.width (mouse.receive gaps.loadX).x.toInt = some sampled.mx ∧
      clampAxis screen.height ((mouse.receive gaps.loadX).receive gaps.loadY).y.toInt =
        some sampled.my ∧
      (((mouse.receive gaps.loadX).receive gaps.loadY).receive gaps.loadBtn).btn = sampled.mbtn := by
  obtain ⟨highX, -, taken⟩ := Option.bind_eq_some_iff.mp taken
  obtain ⟨mx, clampsX, taken⟩ := Option.bind_eq_some_iff.mp taken
  obtain ⟨highY, -, taken⟩ := Option.bind_eq_some_iff.mp taken
  obtain ⟨my, clampsY, ends⟩ := Option.bind_eq_some_iff.mp taken
  rw [← Option.some.inj ends]
  exact ⟨clampsX, clampsY, rfl⟩

/-- An iteration is settled exactly when the cells held what it goes on with at a moment
between the first and the last of its loads. -/
theorem settled_iff (taken : sample screen gaps mouse = some sampled) :
    Settled screen gaps mouse ↔ ∃ arrived, arrived <+: gaps.loadY ++ gaps.loadBtn ∧
      Holds screen ((mouse.receive gaps.loadX).receive arrived) sampled := by
  obtain ⟨loadsX, loadsY, loadsBtn⟩ := sample_loads taken
  rw [Mouse.receive_y] at loadsY
  rw [← Mouse.receive_append, Mouse.receive_btn] at loadsBtn
  constructor
  · rintro ⟨packets, early, sameX, sameY, sameBtn⟩
    obtain ⟨arrived, within, rfl⟩ := Mouse.exists_movements _ _ early
    rw [← clampAxis_alike] at sameX sameY
    rw [← Mouse.receive_x, loadsX] at sameX
    rw [← Mouse.receive_y, loadsY] at sameY
    rw [← Mouse.receive_btn, loadsBtn] at sameBtn
    exact ⟨arrived, within, sameX.symm, sameY, sameBtn⟩
  · rintro ⟨arrived, early, sameX, sameY, sameBtn⟩
    rw [Mouse.receive_x, ← loadsX] at sameX
    rw [Mouse.receive_y, ← loadsY] at sameY
    rw [Mouse.receive_btn, ← loadsBtn] at sameBtn
    exact ⟨_, Mouse.movements_prefix early, (clampAxis_alike ..).mp sameX.symm,
      (clampAxis_alike ..).mp sameY, sameBtn⟩

end Sample

/-- All iterations of a run, with their accesses. -/
def eventsOf (history : List Gaps) : List MouseEvent := history.flatMap Gaps.events

/-- What has happened when the last of some iterations has loaded `MOUSE_BTN`. -/
def untilSeen (history : List Gaps) : List MouseEvent :=
  eventsOf history.dropLast ++ (history.getLast?.map Gaps.loads).getD []

/-- The byte completes the packet that turns the left button from released to pressed. -/
def Presses (screen : Screen) (before : List MouseEvent) (byte : UInt8) : Prop :=
  ∃ reader, run (MouseEvent.step screen) before .start = some reader ∧
    reader.mouse.btn &&& 1 = 0 ∧ (reader.mouse.processPacketByte byte).btn &&& 1 ≠ 0

/-- At some moment of the run, no later than the last load, the cells held what the iteration
goes on with; and when it sees a press that the iteration before it (which left `oldMbtn`) did
not, the packet that carried the press had been completed at that moment, and not been seen. -/
def Consistent (screen : Screen) (earlier : List Gaps) (gaps : Gaps) (oldMbtn : UInt8)
    (sampled : Sample) : Prop :=
  ∃ moment reader, moment <+: eventsOf earlier ++ gaps.loads ∧
    run (MouseEvent.step screen) moment .start = some reader ∧
    Holds screen reader.mouse sampled ∧
    (sampled.mbtn &&& 1 ≠ 0 → oldMbtn &&& 1 = 0 → ∃ before byte,
      untilSeen earlier <+: before ∧ before ++ [.interrupt byte] <+: moment ∧
        Presses screen before byte)

/-- A fact about each iteration of a run of the main loop, behind the ones before it. -/
def Throughout (screen : Screen) (history : List Gaps)
    (fact : List Gaps → Gaps → Reader → Sample → Prop) : Prop :=
  ∀ earlier gaps, earlier ++ [gaps] <+: history → ∀ reader,
    run (MouseEvent.step screen) (eventsOf earlier) .start = some reader → ∀ sampled,
      sample screen gaps reader.mouse = some sampled → fact earlier gaps reader sampled

section Moments

variable {screen : Screen} {gaps : Gaps} {reader : Reader} {arrived : List UInt8}

/-- A moment between the first and the last load. -/
theorem exists_moment (screen : Screen) (reader : Reader)
    (early : arrived <+: gaps.loadY ++ gaps.loadBtn) : ∃ moment, moment <+: gaps.loads ∧
      (run (MouseEvent.step screen) moment reader).map Reader.mouse =
        some ((reader.mouse.receive gaps.loadX).receive arrived) := by
  rcases List.prefix_or_prefix_of_prefix early (List.prefix_append gaps.loadY gaps.loadBtn) with
    within | ⟨rest, rfl⟩
  · obtain ⟨rest, split⟩ := within
    refine ⟨behind gaps.loadX .loadX ++ arrived.map .interrupt, ?_, ?_⟩
    · refine ⟨rest.map .interrupt ++ [.access .loadY] ++ behind gaps.loadBtn .loadBtn, ?_⟩
      simp only [Gaps.loads, behind, ← split, List.map_append, List.append_assoc]
    · rw [run_append, run_behind, Access.perform, Option.bind_some, run_interrupts]
      rfl
  · obtain ⟨later, split⟩ := (List.prefix_append_right_inj _).mp early
    refine ⟨behind gaps.loadX .loadX ++ behind gaps.loadY .loadY ++ rest.map .interrupt, ?_, ?_⟩
    · refine ⟨later.map .interrupt ++ [.access .loadBtn], ?_⟩
      simp only [Gaps.loads, behind, ← split, List.map_append, List.append_assoc]
    · rw [run_append, run_append, run_behind, Access.perform, Option.bind_some, run_behind,
        Access.perform, Option.bind_some, run_interrupts, Mouse.receive_append]
      rfl

theorem eventsOf_concat (history : List Gaps) (gaps : Gaps) :
    eventsOf (history ++ [gaps]) = eventsOf history ++ gaps.events := by
  rw [eventsOf, List.flatMap_append, List.flatMap_singleton]
  rfl

/-- `old_mbtn` is what the cell held when the iteration before loaded it. -/
theorem run_untilSeen {earlier : List Gaps}
    (reached : run (MouseEvent.step screen) (eventsOf earlier) .start = some reader) :
    untilSeen earlier <+: eventsOf earlier ∧ ∃ seen,
      run (MouseEvent.step screen) (untilSeen earlier) .start = some seen ∧
        seen.mouse.btn = reader.mbtn := by
  rcases earlier.eq_nil_or_concat with rfl | ⟨before, last, rfl⟩
  · cases reached
    exact ⟨List.nil_prefix, .start, rfl, rfl⟩
  · have seen : untilSeen (before ++ [last]) = eventsOf before ++ last.loads := by
      rw [untilSeen, List.dropLast_concat, List.getLast?_concat]
      rfl
    rw [List.concat_eq_append, eventsOf_concat] at reached ⊢
    rw [seen]
    refine ⟨(List.prefix_append_right_inj _).mpr ?_, ?_⟩
    · simp only [Gaps.events, List.append_assoc]
      exact List.prefix_append _ _
    · rw [run_append] at reached ⊢
      obtain ⟨middle, reaches, ends⟩ := Option.bind_eq_some_iff.mp reached
      rw [run_events] at ends
      obtain ⟨sampled, taken, rfl⟩ := Option.map_eq_some_iff.mp ends
      rw [reaches, Option.bind_some, run_loads]
      exact ⟨_, rfl, (sample_loads taken).2.2⟩

/-- Only an interrupt changes the buttons. -/
theorem perform_btn {access : Access} {next : Reader}
    (performs : access.perform screen reader = some next) : next.mouse.btn = reader.mouse.btn := by
  cases access with
  | loadX | loadY | loadBtn =>
    cases performs
    rfl
  | lowX =>
    rw [perform_lowX] at performs
    cases performs
    rfl
  | lowY =>
    rw [perform_lowY] at performs
    cases performs
    rfl
  | highX =>
    rw [perform_highX] at performs
    obtain ⟨stored, -, clamps⟩ := Option.bind_eq_some_iff.mp performs
    obtain ⟨mx, -, ends⟩ := Option.bind_eq_some_iff.mp clamps
    cases ends
    rfl
  | highY =>
    rw [perform_highY] at performs
    obtain ⟨stored, -, clamps⟩ := Option.bind_eq_some_iff.mp performs
    obtain ⟨my, -, ends⟩ := Option.bind_eq_some_iff.mp clamps
    cases ends
    rfl

end Moments

/-- In a run whose iterations are all settled, each of them sees the mouse as it was behind a
whole number of packets, and a press at the place of its packet or of a later one. -/
theorem snapshots_consistent (screen : Screen) (history : List Gaps)
    (settled : Throughout screen history fun _ gaps reader _ => Settled screen gaps reader.mouse) :
    Throughout screen history fun earlier gaps reader sampled =>
      Consistent screen earlier gaps reader.mbtn sampled := by
  intro earlier gaps early reader reached sampled taken
  obtain ⟨arrived, within, holds⟩ :=
    (settled_iff taken).mp (settled earlier gaps early reader reached sampled taken)
  obtain ⟨part, loads, arrives⟩ := exists_moment screen reader within
  obtain ⟨next, arrives, cells⟩ := Option.map_eq_some_iff.mp arrives
  have runs : run (MouseEvent.step screen) (eventsOf earlier ++ part) .start = some next := by
    rw [run_append, reached, Option.bind_some, arrives]
  have shown : Holds screen next.mouse sampled := cells ▸ holds
  refine ⟨eventsOf earlier ++ part, next, (List.prefix_append_right_inj _).mpr loads, runs, shown,
    ?_⟩
  intro pressed released
  obtain ⟨⟨rest, split⟩, seen, reaches, old⟩ := run_untilSeen reached
  rw [← split, List.append_assoc, run_append, reaches, Option.bind_some] at runs
  obtain ⟨before, event, middle, after, turning, leads, up, steps, down⟩ :=
    run_turns (fun reader => reader.mouse.btn &&& 1 ≠ 0) _ (not_not.mpr (old ▸ released)) runs
      (shown.btn ▸ pressed)
  cases event with
  | access access =>
    rw [perform_btn steps] at down
    exact absurd down up
  | interrupt byte =>
    cases steps
    refine ⟨untilSeen earlier ++ before, byte, List.prefix_append _ _, ?_, middle, ?_,
      not_not.mp up, down⟩
    · rw [← split, List.append_assoc, List.append_assoc]
      exact (List.prefix_append_right_inj _).mpr turning
    · rw [run_append, reaches, Option.bind_some, leads]

/-- The packet between the loads of `MOUSE_X` and `MOUSE_Y` moves the pointer up only. -/
def risingPress : List Gaps :=
  [{ Gaps.quiet with loadX := [0x08, 20, 0], loadY := [0x09, 0, 10] }]

theorem snapshots_consistent_risingPress :
    Throughout ⟨1280, 800⟩ risingPress fun earlier gaps reader sampled =>
      Consistent ⟨1280, 800⟩ earlier gaps reader.mbtn sampled := by
  refine snapshots_consistent ⟨1280, 800⟩ risingPress ?_
  intro earlier gaps early reader reached sampled taken
  obtain ⟨rfl, rfl⟩ : earlier = [] ∧
      gaps = { Gaps.quiet with loadX := [0x08, 20, 0], loadY := [0x09, 0, 10] } := by
    cases earlier with
    | nil => exact ⟨rfl, (List.cons_prefix_cons.mp early).1⟩
    | cons first rest =>
      have short := (List.cons_prefix_cons.mp early).2.length_le
      simp at short
  cases reached
  exact ⟨[⟨0, -10, 1⟩], List.prefix_refl _, Or.inl (by decide), Or.inl (by decide), by decide⟩

/-- The first packet presses the left button and falls between the loads of `MOUSE_X`
and `MOUSE_Y`. -/
theorem snapshots_tear : ¬ Throughout ⟨1280, 800⟩
    [{ Gaps.quiet with loadY := [0x09, 20, 10] }] fun earlier gaps reader sampled =>
      Consistent ⟨1280, 800⟩ earlier gaps reader.mbtn sampled := by
  intro consistent
  obtain ⟨moment, reader, early, reached, holds, -⟩ := consistent [] _ (List.prefix_refl _) .start rfl
    ⟨⟨420, 290, 1, 0, #v[0x09, 20, 10]⟩, 400, 290, 1, none, none⟩ rfl
  have within := early.length_le
  rw [List.prefix_iff_eq_take.mp early] at reached
  change moment.length ≤ 6 at within
  -- the packet is complete from the fourth event on
  rcases Nat.lt_or_ge moment.length 4 with half | whole
  · have released : reader.mouse.btn = 0 := by
      interval_cases moment.length <;> cases reached <;> rfl
    exact absurd (released.symm.trans holds.btn) (by decide)
  · have moved : reader.mouse.x = 420 := by
      interval_cases moment.length <;> cases reached <;> rfl
    exact absurd (moved ▸ holds.x) (by decide)

end QoreOS.Input
