import QoreOS.Input.Consistency
import QoreOS.Input.Packets

/-! The cursor as the sum of the mouse's movements, kept on the screen. -/

namespace QoreOS.Input

open QoreOS.Library QoreOS.Display

/-- A coordinate with the nearest point of the screen in place of one beside it. -/
def saturate (size : Nat) (value : Int) : Int := min (max value 0) (size - 1)

/-- The mouse behind an iteration of the main loop, and the coordinates that it has used. -/
structure Cursor where
  mouse : Mouse
  mx : Int
  my : Int

namespace Cursor

def start : Cursor where
  mouse := Mouse.start
  mx := 400
  my := 300

/-- A packet, and one iteration behind it. -/
def follow (screen : Screen) (cursor : Cursor) (report : Report) : Option Cursor := do
  let sampled ← sample screen Gaps.quiet (cursor.mouse.receive report.encode)
  return { mouse := sampled.mouse, mx := sampled.mx, my := sampled.my }

/-- The packet moves the cursor by what it says as far as the screen goes, and so in no
direction but its own. -/
structure Saturated (screen : Screen) (cursor : Cursor) (report : Report) (next : Cursor) :
    Prop where
  mx : next.mx = saturate screen.width (cursor.mx + report.dx)
  my : next.my = saturate screen.height (cursor.my - report.dy)
  right : 0 ≤ report.dx → cursor.mx ≤ next.mx
  left : report.dx ≤ 0 → next.mx ≤ cursor.mx
  up : 0 ≤ report.dy → next.my ≤ cursor.my
  down : report.dy ≤ 0 → cursor.my ≤ next.my

def Integrates (screen : Screen) (cursor : Cursor) (report : Report) : Prop :=
  ∃ next, cursor.follow screen report = some next ∧ Saturated screen cursor report next

/-- The packet does not carry the cursor to the right of the screen or below it. -/
structure WithinEdges (screen : Screen) (cursor : Cursor) (report : Report) : Prop where
  right : max (cursor.mx + report.dx) 0 < asI32 screen.width
  bottom : max (cursor.my - report.dy) 0 < asI32 screen.height

/-- A fact about each packet and the cursor that it meets. -/
def Always (screen : Screen) (fact : Cursor → Report → Prop) : Cursor → List Report → Prop
  | _, [] => True
  | cursor, report :: reports => fact cursor report ∧
    ∀ next, cursor.follow screen report = some next → Always screen fact next reports

/-- The driver is between packets and has the coordinates that the loop has used. -/
structure Written (cursor : Cursor) : Prop where
  cycle : cursor.mouse.cycle = 0
  x : cursor.mouse.x.toInt = cursor.mx
  y : cursor.mouse.y.toInt = cursor.my

/-- Besides, the cursor is on the screen. -/
structure Placed (screen : Screen) (cursor : Cursor) : Prop extends Written cursor where
  column : 0 ≤ cursor.mx ∧ cursor.mx < screen.width
  row : 0 ≤ cursor.my ∧ cursor.my < screen.height

end Cursor

section Axis

variable {limit : Nat} {cell : Int32} {result moved : Int}

/-- Without interrupts the cell ends with the clamped coordinate. -/
theorem storeHigh_clampAxis (clamps : clampAxis limit cell.toInt = some result) :
    ∃ high, storeHigh limit (cellAfter cell (storeLow cell cell.toInt)) (clampLow cell.toInt) =
        some high ∧
      (cellAfter (cellAfter cell (storeLow cell cell.toInt)) high).toInt = result := by
  have lowered : (cellAfter cell (storeLow cell cell.toInt)).toInt = clampLow cell.toInt := by
    rw [storeLow, clampLow]
    split <;> rfl
  rw [clampAxis, clampHigh] at clamps
  by_cases above : clampLow cell.toInt ≥ asI32 limit
  · rw [if_pos above] at clamps
    obtain ⟨same, fits⟩ := checkedI32_eq_some clamps
    rw [storeHigh, if_pos above, clamps]
    refine ⟨some ⟨_, Int32.ofInt result⟩, rfl, ?_⟩
    rw [← same] at fits
    exact Int32.toInt_ofInt_of_le fits.1 fits.2
  · rw [if_neg above] at clamps
    rw [storeHigh, if_neg above]
    exact ⟨none, rfl, lowered.trans (Option.some.inj clamps)⟩

/-- The sum wraps at most once. -/
theorem toInt_add_ofInt (nonneg : 0 ≤ cell.toInt) (range : -256 ≤ moved ∧ moved ≤ 256) :
    (cell + Int32.ofInt moved).toInt =
      if cell.toInt + moved < 2 ^ 31 then cell.toInt + moved else cell.toInt + moved - 2 ^ 32 := by
  have below := Int32.toInt_lt cell
  rw [Int32.toInt_add, Int32.toInt_ofInt_of_le (by omega) (by omega), Int.bmod_def]
  split <;> omega

/-- One coordinate, from a screen position: the clamping code saturates exactly when the
sum does not reach the far edge. -/
theorem clampAxis_saturate_iff (limit : Nat) (cell : Int32) (moved : Int) (wide : 1 < limit)
    (nonneg : 0 ≤ cell.toInt) (range : -256 ≤ moved ∧ moved ≤ 256) :
    clampAxis limit (cell + Int32.ofInt moved).toInt = some (saturate limit (cell.toInt + moved)) ↔
      max (cell.toInt + moved) 0 < asI32 limit := by
  have narrow := asI32_le limit
  have bounded := asI32_isI32 limit
  have below := Int32.toInt_lt cell
  unfold IsI32 at bounded
  rw [toInt_add_ofInt nonneg range, saturate]
  by_cases there : 0 < asI32 limit
  · rw [clampAxis_wide there, Option.some.injEq]
    split <;> split <;> (try split) <;> omega
  · have beyond : asI32 limit ≤ clampLow _ := Int.le_trans (Int.not_lt.mp there)
      (clampLow_nonneg (if cell.toInt + moved < 2 ^ 31 then cell.toInt + moved
        else cell.toInt + moved - 2 ^ 32))
    rw [clampAxis_high beyond]
    constructor
    · intro clamps
      have same := (checkedI32_eq_some clamps).1
      omega
    · intro inside
      omega

end Axis

section Sample

variable {screen : Screen} {mouse : Mouse} {sampled : Sample} {mx my : Int}

/-- An iteration without interrupts ends with the coordinates that it has used. -/
theorem sample_quiet (clampsX : clampAxis screen.width mouse.x.toInt = some mx)
    (clampsY : clampAxis screen.height mouse.y.toInt = some my) :
    ∃ sampled, sample screen Gaps.quiet mouse = some sampled ∧ sampled.mx = mx ∧ sampled.my = my ∧
      sampled.mouse.x.toInt = mx ∧ sampled.mouse.y.toInt = my ∧
      sampled.mouse.cycle = mouse.cycle := by
  obtain ⟨highX, storedX, cellX⟩ := storeHigh_clampAxis clampsX
  obtain ⟨highY, storedY, cellY⟩ := storeHigh_clampAxis clampsY
  have taken : sample screen Gaps.quiet mouse = (do
      let storeX ← storeHigh screen.width (cellAfter mouse.x (storeLow mouse.x mouse.x.toInt))
        (clampLow mouse.x.toInt)
      let mx ← clampAxis screen.width mouse.x.toInt
      let storeY ← storeHigh screen.height (cellAfter mouse.y (storeLow mouse.y mouse.y.toInt))
        (clampLow mouse.y.toInt)
      let my ← clampAxis screen.height mouse.y.toInt
      return {
        mouse := { mouse with
          x := cellAfter (cellAfter mouse.x (storeLow mouse.x mouse.x.toInt)) storeX
          y := cellAfter (cellAfter mouse.y (storeLow mouse.y mouse.y.toInt)) storeY }
        mx := mx
        my := my
        mbtn := mouse.btn
        storeX := storeX <|> storeLow mouse.x mouse.x.toInt
        storeY := storeY <|> storeLow mouse.y mouse.y.toInt }) := rfl
  rw [storedX, clampsX, storedY, clampsY] at taken
  exact ⟨_, taken, rfl, rfl, cellX, cellY, rfl⟩

/-- It needs both clamped coordinates. -/
theorem sample_quiet_clamps (taken : sample screen Gaps.quiet mouse = some sampled) :
    clampAxis screen.width mouse.x.toInt = some sampled.mx ∧
      clampAxis screen.height mouse.y.toInt = some sampled.my :=
  ⟨(sample_loads taken).1, (sample_loads taken).2.1⟩

end Sample

namespace Cursor

variable {screen : Screen} {cursor next : Cursor} {report : Report} {mx my : Int}

/-- A packet is handled when both sums are clamped. -/
theorem follow_some (written : cursor.Written)
    (clampsX : clampAxis screen.width (cursor.mouse.x + Int32.ofInt report.dx).toInt = some mx)
    (clampsY : clampAxis screen.height (cursor.mouse.y + Int32.ofInt (-report.dy)).toInt = some my) :
    ∃ next, cursor.follow screen report = some next ∧ next.mx = mx ∧ next.my = my ∧
      next.Written := by
  have received := Mouse.receive_encode written.cycle report
  have column : clampAxis screen.width (cursor.mouse.receive report.encode).x.toInt = some mx := by
    rw [received]
    exact clampsX
  have row : clampAxis screen.height (cursor.mouse.receive report.encode).y.toInt = some my := by
    rw [received]
    exact clampsY
  obtain ⟨sampled, taken, sameX, sameY, cellX, cellY, cycle⟩ := sample_quiet column row
  refine ⟨⟨sampled.mouse, sampled.mx, sampled.my⟩, by rw [follow, taken]; rfl, sameX, sameY, ?_⟩
  exact ⟨by rw [cycle, received], by rw [cellX, sameX], by rw [cellY, sameY]⟩

theorem follow_clamps (written : cursor.Written) (followed : cursor.follow screen report = some next) :
    clampAxis screen.width (cursor.mouse.x + Int32.ofInt report.dx).toInt = some next.mx ∧
      clampAxis screen.height (cursor.mouse.y + Int32.ofInt (-report.dy)).toInt = some next.my := by
  obtain ⟨sampled, taken, ends⟩ := Option.bind_eq_some_iff.mp followed
  have clamps := sample_quiet_clamps taken
  rw [Mouse.receive_encode written.cycle report] at clamps
  rw [← Option.some.inj ends]
  exact clamps

theorem saturated_of_eq (placed : cursor.Placed screen)
    (mx : next.mx = saturate screen.width (cursor.mx + report.dx))
    (my : next.my = saturate screen.height (cursor.my - report.dy)) :
    Saturated screen cursor report next := by
  have column := placed.column
  have row := placed.row
  refine ⟨mx, my, ?_, ?_, ?_, ?_⟩
  all_goals
    rw [saturate] at mx my
    omega

/-- One packet: the cursor saturates exactly when it does not reach the edges on the
right and at the bottom. -/
theorem integrates_iff (wide : 400 < screen.width) (high : 300 < screen.height)
    (placed : cursor.Placed screen) :
    Integrates screen cursor report ↔ WithinEdges screen cursor report := by
  have written := placed.toWritten
  have horizontal := report.horizontal
  have vertical := report.vertical
  have x := clampAxis_saturate_iff screen.width cursor.mouse.x report.dx (by omega)
    (written.x ▸ placed.column.1) (by omega)
  have y := clampAxis_saturate_iff screen.height cursor.mouse.y (-report.dy) (by omega)
    (written.y ▸ placed.row.1) (by omega)
  rw [written.x] at x
  rw [written.y, ← Int.sub_eq_add_neg] at y
  constructor
  · rintro ⟨next, followed, saturated⟩
    obtain ⟨clampsX, clampsY⟩ := follow_clamps written followed
    exact ⟨x.mp (saturated.mx ▸ clampsX), y.mp (saturated.my ▸ clampsY)⟩
  · intro within
    obtain ⟨next, followed, mx, my, -⟩ := follow_some written (x.mpr within.right) (y.mpr within.bottom)
    exact ⟨next, followed, saturated_of_eq placed mx my⟩

theorem Saturated.placed (placed : cursor.Placed screen)
    (followed : cursor.follow screen report = some next)
    (saturated : Saturated screen cursor report next) : next.Placed screen := by
  have written := placed.toWritten
  obtain ⟨clampsX, clampsY⟩ := follow_clamps written followed
  obtain ⟨other, again, -, -, kept⟩ := follow_some written clampsX clampsY
  have same : other = next := Option.some.inj (again.symm.trans followed)
  have column := placed.column
  have row := placed.row
  have mx := saturated.mx
  have my := saturated.my
  rw [saturate] at mx my
  exact ⟨same ▸ kept, by omega, by omega⟩

theorem start_placed (wide : 400 < screen.width) (high : 300 < screen.height) :
    start.Placed screen where
  cycle := rfl
  x := rfl
  y := rfl
  column := by
    change (0 : Int) ≤ 400 ∧ (400 : Int) < screen.width
    omega
  row := by
    change (0 : Int) ≤ 300 ∧ (300 : Int) < screen.height
    omega

/-- Packets one after the other, from a cursor on the screen. -/
theorem always_integrates_iff (wide : 400 < screen.width) (high : 300 < screen.height)
    (placed : cursor.Placed screen) (reports : List Report) :
    Always screen (Integrates screen) cursor reports ↔
      Always screen (WithinEdges screen) cursor reports := by
  induction reports generalizing cursor with
  | nil => exact Iff.rfl
  | cons report reports ih =>
    have one : Integrates screen cursor report ↔ WithinEdges screen cursor report :=
      integrates_iff wide high placed
    have later : Integrates screen cursor report → ∀ next, cursor.follow screen report = some next →
        next.Placed screen := by
      rintro ⟨next, followed, saturated⟩ other again
      rw [← Option.some.inj (followed.symm.trans again)]
      exact saturated.placed placed followed
    constructor
    · rintro ⟨integrates, rest⟩
      refine ⟨one.mp integrates, ?_⟩
      intro next followed
      exact (ih (later integrates next followed)).mp (rest next followed)
    · rintro ⟨within, rest⟩
      have integrates := one.mpr within
      refine ⟨integrates, ?_⟩
      intro next followed
      exact (ih (later integrates next followed)).mpr (rest next followed)

/-- Over every run the cursor is a saturating sum of the packets exactly when none of
them carries it over the right or the lower edge. -/
theorem saturates_iff (screen : Screen) (wide : 400 < screen.width) (high : 300 < screen.height)
    (reports : List Report) :
    Always screen (Integrates screen) start reports ↔
      Always screen (WithinEdges screen) start reports :=
  always_integrates_iff wide high (start_placed wide high) reports

/-- A movement to the side, without buttons. -/
def sideways (dx : Int) (horizontal : -256 ≤ dx ∧ dx ≤ 255) : Report where
  left := false
  right := false
  middle := false
  dx := dx
  dy := 0
  horizontal := horizontal
  vertical := by decide

/-- Two packets to the left of the screen. -/
theorem saturates_left : Always ⟨800, 600⟩ (Integrates ⟨800, 600⟩) start
    [sideways (-256) (by decide), sideways (-256) (by decide)] := by
  refine (saturates_iff ⟨800, 600⟩ (by decide) (by decide) _).mpr ?_
  refine ⟨⟨by decide, by decide⟩, ?_⟩
  intro next followed
  have first : start.follow ⟨800, 600⟩ (sideways (-256) (by decide)) =
      some ⟨⟨144, 300, 0, 0, #v[0x18, 0, 0]⟩, 144, 300⟩ := rfl
  rw [← Option.some.inj (first.symm.trans followed)]
  exact ⟨⟨by decide, by decide⟩, fun _ _ => trivial⟩

/-- A packet to the right at the last column of 800, which two others have reached, takes
the cursor back to column 790. -/
theorem not_saturates_right :
    ¬ ∀ reports, Always ⟨800, 600⟩ (Integrates ⟨800, 600⟩) start reports := by
  intro saturates
  have first : start.follow ⟨800, 600⟩ (sideways 255 (by decide)) =
      some ⟨⟨655, 300, 0, 0, #v[0x08, 255, 0]⟩, 655, 300⟩ := rfl
  have second : follow ⟨800, 600⟩ ⟨⟨655, 300, 0, 0, #v[0x08, 255, 0]⟩, 655, 300⟩
      (sideways 144 (by decide)) = some ⟨⟨799, 300, 0, 0, #v[0x08, 144, 0]⟩, 799, 300⟩ := rfl
  have third : follow ⟨800, 600⟩ ⟨⟨799, 300, 0, 0, #v[0x08, 144, 0]⟩, 799, 300⟩
      (sideways 1 (by decide)) = some ⟨⟨790, 300, 0, 0, #v[0x08, 1, 0]⟩, 790, 300⟩ := rfl
  have run := saturates
    [sideways 255 (by decide), sideways 144 (by decide), sideways 1 (by decide)]
  obtain ⟨next, followed, saturated⟩ := ((run.2 _ first).2 _ second).1
  have forward := saturated.right (by decide)
  rw [← Option.some.inj (third.symm.trans followed)] at forward
  exact absurd forward (by decide)

end Cursor

end QoreOS.Input
