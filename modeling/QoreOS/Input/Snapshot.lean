import QoreOS.Display.WindowManager
import QoreOS.Input.Mouse

/-! The main loop's reading of the mouse, with interrupts between any two of its
loads and stores. -/

namespace QoreOS.Input

open QoreOS.Library QoreOS.Display

/-- The bytes that arrive before each load and each test of an iteration. -/
structure Gaps where
  loadX : List UInt8
  loadY : List UInt8
  loadBtn : List UInt8
  lowX : List UInt8
  lowY : List UInt8
  highX : List UInt8
  highY : List UInt8

/-- A store of the main loop, with what the cell has held until then. -/
structure Overwrite where
  old : Int32
  new : Int32
  deriving DecidableEq

/-- `if mx < 0 { mx = 0; MOUSE_X.store(0) }` -/
def storeLow (cell : Int32) (value : Int) : Option Overwrite :=
  if value < 0 then some ⟨cell, 0⟩ else none

/-- `if mx >= width as i32 { mx = width as i32 - 10; MOUSE_X.store(mx) }` -/
def storeHigh (limit : Nat) (cell : Int32) (value : Int) : Option (Option Overwrite) :=
  if value ≥ asI32 limit then do
    let value ← checkedI32 (asI32 limit - 10)
    return some ⟨cell, Int32.ofInt value⟩
  else some none

/-- The cell behind a store that may have been skipped. -/
def cellAfter (cell : Int32) : Option Overwrite → Int32
  | some store => store.new
  | none => cell

/-- The loads and the tests against 0. -/
structure Lowered where
  mouse : Mouse
  mx : Int
  my : Int
  mbtn : UInt8
  storeX : Option Overwrite
  storeY : Option Overwrite

def lower (gaps : Gaps) (mouse : Mouse) : Lowered :=
  let mouse := mouse.receive gaps.loadX
  let mx := mouse.x.toInt
  let mouse := mouse.receive gaps.loadY
  let my := mouse.y.toInt
  let mouse := mouse.receive gaps.loadBtn
  let mbtn := mouse.btn
  let mouse := mouse.receive gaps.lowX
  let storeX := storeLow mouse.x mx
  let mouse := mouse.storeX (cellAfter mouse.x storeX)
  let mx := clampLow mx
  let mouse := mouse.receive gaps.lowY
  let storeY := storeLow mouse.y my
  let mouse := mouse.storeY (cellAfter mouse.y storeY)
  let my := clampLow my
  { mouse := mouse, mx := mx, my := my, mbtn := mbtn, storeX := storeX, storeY := storeY }

/-- The cells behind the clamping code, what the iteration goes on with, and the last
store to each coordinate. -/
structure Sample where
  mouse : Mouse
  mx : Int
  my : Int
  mbtn : UInt8
  storeX : Option Overwrite
  storeY : Option Overwrite

def sample (screen : Screen) (gaps : Gaps) (mouse : Mouse) : Option Sample := do
  let lowered := lower gaps mouse
  let mouse := lowered.mouse.receive gaps.highX
  let storeX ← storeHigh screen.width mouse.x lowered.mx
  let mouse := mouse.storeX (cellAfter mouse.x storeX)
  let mx ← clampHigh screen.width lowered.mx
  let mouse := mouse.receive gaps.highY
  let storeY ← storeHigh screen.height mouse.y lowered.my
  let mouse := mouse.storeY (cellAfter mouse.y storeY)
  let my ← clampHigh screen.height lowered.my
  return {
    mouse := mouse
    mx := mx
    my := my
    mbtn := lowered.mbtn
    storeX := storeX <|> lowered.storeX
    storeY := storeY <|> lowered.storeY }

section Axis

variable {limit : Nat} {loaded low between : Int32} {high : Option Overwrite} {value : Int}

/-- The position still clamps to 0. (Ten columns clamp to 0 from both sides.) -/
def StaysLow (edge value : Int) : Prop := value ≤ 0 ∨ edge = 10 ∧ edge ≤ value

/-- The position still clamps to the right end. -/
def StaysHigh (edge value : Int) : Prop :=
  edge ≤ value ∨ value = edge - 10 ∧ 0 ≤ value ∨ edge = 10 ∧ value ≤ 0

/-- A coordinate that is loaded beyond an end of the screen has not come back when the
packets behind the load have moved it on. -/
structure Undisturbed (edge : Int) (loaded low between : Int32) : Prop where
  left : 0 < edge → loaded.toInt < 0 → StaysLow edge (loaded + low).toInt
  right : 0 < edge → edge ≤ loaded.toInt → StaysHigh edge (loaded + low + between).toInt

theorem clampLow_nonneg (value : Int) : 0 ≤ clampLow value := by
  unfold clampLow
  split <;> omega

theorem clampAxis_high (above : asI32 limit ≤ clampLow value) :
    clampAxis limit value = checkedI32 (asI32 limit - 10) := by
  rw [clampAxis, clampHigh, if_pos above]

theorem checkedI32_end (wide : 0 < asI32 limit) :
    checkedI32 (asI32 limit - 10) = some (asI32 limit - 10) := by
  have bounded := asI32_isI32 limit
  refine checkedI32_of_isI32 ?_
  unfold IsI32 at bounded ⊢
  omega

/-- The clamp of a screen that is there. -/
theorem clampAxis_wide (wide : 0 < asI32 limit) : clampAxis limit value =
    some (if value < 0 then 0 else if asI32 limit ≤ value then asI32 limit - 10 else value) := by
  by_cases negative : value < 0
  · have zero : clampLow value = 0 := if_pos negative
    rw [clampAxis, zero, clampHigh, if_neg (Int.not_le.mpr wide), if_pos negative]
  · have kept : clampLow value = value := if_neg negative
    rw [clampAxis, kept, clampHigh, if_neg negative]
    by_cases above : asI32 limit ≤ value
    · rw [if_pos above, if_pos above]
      exact checkedI32_end wide
    · rw [if_neg above, if_neg above]

theorem clampAxis_eq_zero (wide : 0 < asI32 limit) :
    clampAxis limit value = some 0 ↔ StaysLow (asI32 limit) value := by
  rw [clampAxis_wide wide, Option.some.injEq, StaysLow]
  split
  · omega
  · split <;> omega

theorem clampAxis_eq_end (wide : 0 < asI32 limit) :
    clampAxis limit value = some (asI32 limit - 10) ↔ StaysHigh (asI32 limit) value := by
  rw [clampAxis_wide wide, Option.some.injEq, StaysHigh]
  split
  · omega
  · split <;> omega

/-- A store of the clamping code puts the clamped position in place of the position. -/
def Stores (limit : Nat) (store : Option Overwrite) : Prop :=
  ∀ overwrite, store = some overwrite →
    clampAxis limit overwrite.old.toInt = some overwrite.new.toInt

theorem stores_some (overwrite : Overwrite) : Stores limit (some overwrite) ↔
    clampAxis limit overwrite.old.toInt = some overwrite.new.toInt := by
  constructor
  · intro stores
    exact stores overwrite rfl
  · intro same other found
    rw [Option.some.injEq] at found
    rw [← found]
    exact same

theorem stores_none : Stores limit none :=
  fun _ found => nomatch found

/-- The last store, when the second test stores. -/
theorem storeHigh_stores {cell : Int32} (above : asI32 limit ≤ clampLow value)
    (stored : storeHigh limit cell (clampLow value) = some high) (other : Option Overwrite) :
    Stores limit (high <|> other) ↔
      clampAxis limit cell.toInt = checkedI32 (asI32 limit - 10) := by
  rw [storeHigh, if_pos above] at stored
  obtain ⟨result, checks, ends⟩ := Option.bind_eq_some_iff.mp stored
  have fits := (checkedI32_eq_some checks).2
  rw [← (checkedI32_eq_some checks).1] at fits
  have last : (high <|> other) = some ⟨cell, Int32.ofInt result⟩ := by
    rw [← Option.some.inj ends]
    rfl
  rw [last, stores_some, Int32.toInt_ofInt_of_le fits.1 fits.2, checks]

/-- One coordinate: its last store loses nothing exactly when the packets between the
load and that store do not bring it back. -/
theorem axis_stores (stored : storeHigh limit
      (cellAfter (loaded + low) (storeLow (loaded + low) loaded.toInt) + between)
      (clampLow loaded.toInt) = some high) :
    Stores limit (high <|> storeLow (loaded + low) loaded.toInt) ↔
      Undisturbed (asI32 limit) loaded low between := by
  by_cases wide : 0 < asI32 limit
  · by_cases negative : loaded.toInt < 0
    · have zero : clampLow loaded.toInt = 0 := if_pos negative
      have low_store : storeLow (loaded + low) loaded.toInt = some ⟨loaded + low, 0⟩ :=
        if_pos negative
      rw [zero, storeHigh, if_neg (Int.not_le.mpr wide), Option.some.injEq] at stored
      rw [← stored, low_store]
      change Stores limit (some ⟨loaded + low, 0⟩) ↔ _
      rw [stores_some, Int32.toInt_zero, clampAxis_eq_zero wide]
      exact ⟨fun stays => ⟨fun _ _ => stays, fun _ above => absurd above (by omega)⟩,
        fun undisturbed => undisturbed.left wide negative⟩
    · have kept : clampLow loaded.toInt = loaded.toInt := if_neg negative
      have low_kept : storeLow (loaded + low) loaded.toInt = none := if_neg negative
      by_cases above : asI32 limit ≤ loaded.toInt
      · rw [storeHigh_stores (kept.symm ▸ above) stored, low_kept, checkedI32_end wide,
          clampAxis_eq_end wide]
        exact ⟨fun stays => ⟨fun _ absurdity => absurd absurdity negative, fun _ _ => stays⟩,
          fun undisturbed => undisturbed.right wide above⟩
      · rw [kept, storeHigh, if_neg above, Option.some.injEq] at stored
        rw [← stored, low_kept]
        exact ⟨fun _ => ⟨fun _ absurdity => absurd absurdity negative,
          fun _ absurdity => absurd absurdity above⟩, fun _ => stores_none⟩
  · -- whatever stands in the cell is clamped alike
    have alike : ∀ value, asI32 limit ≤ clampLow value :=
      fun value => Int.le_trans (Int.not_lt.mp wide) (clampLow_nonneg value)
    rw [storeHigh_stores (alike _) stored, clampAxis_high (alike _)]
    exact ⟨fun _ => ⟨fun absurdity => absurd absurdity wide, fun absurdity => absurd absurdity wide⟩,
      fun _ => rfl⟩

end Axis

section Sample

variable (screen : Screen) (gaps : Gaps) (mouse : Mouse)

/-- `MOUSE_X` when it is loaded, and what the packets then move it by until the first
and until the second test. -/
def UndisturbedX : Prop :=
  let loaded := mouse.receive gaps.loadX
  let low := gaps.loadY ++ (gaps.loadBtn ++ gaps.lowX)
  let between := gaps.lowY ++ gaps.highX
  Undisturbed (asI32 screen.width) loaded.x (Mouse.movedX (loaded.movements low))
    (Mouse.movedX ((loaded.receive low).movements between))

/-- The same for `MOUSE_Y`. -/
def UndisturbedY : Prop :=
  let loaded := (mouse.receive gaps.loadX).receive gaps.loadY
  let low := gaps.loadBtn ++ (gaps.lowX ++ gaps.lowY)
  let between := gaps.highX ++ gaps.highY
  Undisturbed (asI32 screen.height) loaded.y (Mouse.movedY (loaded.movements low))
    (Mouse.movedY ((loaded.receive low).movements between))

variable {screen gaps mouse} {sampled : Sample}

/-- `MOUSE_X` at the first test and at the second one. -/
theorem lower_x (gaps : Gaps) (mouse : Mouse) {tested : Mouse}
    (before : tested = (((mouse.receive gaps.loadX).receive gaps.loadY).receive gaps.loadBtn).receive
      gaps.lowX) :
    (lower gaps mouse).storeX = storeLow tested.x (mouse.receive gaps.loadX).x.toInt ∧
      ((lower gaps mouse).mouse.receive gaps.highX).x =
        cellAfter tested.x (storeLow tested.x (mouse.receive gaps.loadX).x.toInt) +
          Mouse.movedX (tested.movements (gaps.lowY ++ gaps.highX)) := by
  rw [before]
  exact ⟨rfl, Mouse.storeX_receive_x _ _ _ gaps.lowY gaps.highX⟩

/-- `MOUSE_Y` at the first test and at the second one, with any store to `MOUSE_X`. -/
theorem lower_y (gaps : Gaps) (mouse : Mouse) (stored : Int32) {tested : Mouse}
    (before : tested = ((((mouse.receive gaps.loadX).receive gaps.loadY).receive gaps.loadBtn).receive
      gaps.lowX).receive gaps.lowY) :
    (lower gaps mouse).storeY =
        storeLow tested.y ((mouse.receive gaps.loadX).receive gaps.loadY).y.toInt ∧
      ((((lower gaps mouse).mouse.receive gaps.highX).storeX stored).receive gaps.highY).y =
        cellAfter tested.y
            (storeLow tested.y ((mouse.receive gaps.loadX).receive gaps.loadY).y.toInt) +
          Mouse.movedY (tested.movements (gaps.highX ++ gaps.highY)) := by
  rw [before, ← Mouse.storeX_receive_y _ (cellAfter _ (lower gaps mouse).storeX)]
  refine ⟨rfl, ?_⟩
  rw [← Mouse.movements_receive_storeX _ (cellAfter _ (lower gaps mouse).storeX)]
  exact Mouse.storeY_receive_y _ _ _ gaps.highX gaps.highY

/-- The clamping code loses nothing of a coordinate exactly when it is not disturbed. -/
theorem sample_stores (taken : sample screen gaps mouse = some sampled) :
    (Stores screen.width sampled.storeX ↔ UndisturbedX screen gaps mouse) ∧
      (Stores screen.height sampled.storeY ↔ UndisturbedY screen gaps mouse) := by
  obtain ⟨highX, storedX, taken⟩ := Option.bind_eq_some_iff.mp taken
  obtain ⟨mx, -, taken⟩ := Option.bind_eq_some_iff.mp taken
  obtain ⟨highY, storedY, taken⟩ := Option.bind_eq_some_iff.mp taken
  obtain ⟨my, -, ends⟩ := Option.bind_eq_some_iff.mp taken
  obtain ⟨lowX, cellX⟩ := lower_x gaps mouse rfl
  obtain ⟨lowY, cellY⟩ := lower_y gaps mouse
    (cellAfter ((lower gaps mouse).mouse.receive gaps.highX).x highX) rfl
  rw [cellX] at storedX
  rw [cellY] at storedY
  rw [← Option.some.inj ends]
  dsimp only
  rw [lowX, lowY]
  constructor
  · rw [← Mouse.receive_append, ← Mouse.receive_append, Mouse.receive_x] at storedX ⊢
    exact axis_stores storedX
  · rw [← Mouse.receive_append, ← Mouse.receive_append, Mouse.receive_y] at storedY ⊢
    exact axis_stores storedY

/-- Each store of the clamping code keeps every packet that is completed before it. -/
structure NothingLost (screen : Screen) (sampled : Sample) : Prop where
  x : Stores screen.width sampled.storeX
  y : Stores screen.height sampled.storeY

/-- No movement is lost exactly when no packet between the load of a coordinate and the
store of its clamped value brings it back from beyond the screen. -/
theorem nothingLost_iff (screen : Screen) (gaps : Gaps) (mouse : Mouse) (sampled : Sample)
    (taken : sample screen gaps mouse = some sampled) :
    NothingLost screen sampled ↔ UndisturbedX screen gaps mouse ∧ UndisturbedY screen gaps mouse := by
  obtain ⟨x, y⟩ := sample_stores taken
  rw [← x, ← y]
  exact ⟨fun nothingLost => ⟨nothingLost.x, nothingLost.y⟩, fun stores => ⟨stores.1, stores.2⟩⟩

end Sample

/-- No interrupt within an iteration. -/
def Gaps.quiet : Gaps := ⟨[], [], [], [], [], [], []⟩

/-- The pointer is 112 columns left of the screen and nothing follows until the store. -/
theorem nothingLost_iff_quiet :
    UndisturbedX ⟨1280, 800⟩ { Gaps.quiet with loadX := [0x18, 0, 0, 0x18, 0, 0] } .start ∧
      UndisturbedY ⟨1280, 800⟩ { Gaps.quiet with loadX := [0x18, 0, 0, 0x18, 0, 0] } .start := by
  refine (nothingLost_iff _ _ _
    ⟨⟨0, 300, 0, 0, #v[0x18, 0, 0]⟩, 0, 300, 0, some ⟨-112, 0⟩, none⟩ rfl).mp ?_
  exact ⟨(stores_some _).mpr (by decide), stores_none⟩

/-- Two packets leave the pointer 112 columns left of the screen, and the next one, which
moves it right by 200, falls between the load and the store of 0. -/
theorem nothingLost_drops : ¬ ∀ sampled, sample ⟨1280, 800⟩
    { Gaps.quiet with loadX := [0x18, 0, 0, 0x18, 0, 0], loadY := [0x08, 200, 0] } .start =
      some sampled → NothingLost ⟨1280, 800⟩ sampled := by
  intro kept
  have lost := (kept ⟨⟨0, 300, 0, 0, #v[0x08, 200, 0]⟩, 0, 300, 0, some ⟨88, 0⟩, none⟩ rfl).x _ rfl
  exact absurd lost (by decide)

end QoreOS.Input
