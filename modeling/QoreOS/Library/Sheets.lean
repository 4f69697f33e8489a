import QoreOS.Library.Alter
import QoreOS.Library.Program
import QoreOS.Library.Run

/-! Pictures that are painted in sheets. A sheet covers some points and lets the picture
below be seen at the others; a later sheet covers an earlier one. -/

namespace QoreOS.Library

universe u v w
variable {Point : Type u} {Value : Type v} {Word : Type w}

/-- The values at the points that the sheet covers. -/
abbrev Sheet (Point : Type u) (Value : Type v) := Point → Option Value

namespace Sheet

variable {sheet : Sheet Point Value} {below : Point → Value} {point : Point} {value : Value}

/-- The picture with the sheet laid over it. -/
def onTop (sheet : Sheet Point Value) (below : Point → Value) : Point → Value :=
  fun point => (sheet point).getD (below point)

def clear : Sheet Point Value := fun _ => none

/-- One value at all points that are covered. -/
def filled (covers : Point → Prop) [DecidablePred covers] (value : Value) : Sheet Point Value :=
  fun point => if covers point then some value else none

/-- Sheets on top of each other, the last one uppermost. -/
def pile : List (Sheet Point Value) → Sheet Point Value
  | [] => clear
  | sheet :: above => fun point => (pile above point).or (sheet point)

/-- The sheet on a carrier whose words show points, or nothing. -/
def onto (place : Word → Option Point) (sheet : Sheet Point Value) : Sheet Word Value :=
  fun word => (place word).bind sheet

@[simp] theorem onTop_clear (below : Point → Value) : (clear : Sheet Point Value).onTop below = below :=
  rfl

theorem onTop_of_eq_some (covers : sheet point = some value) : sheet.onTop below point = value := by
  rw [onTop, covers, Option.getD_some]

theorem onTop_of_eq_none (spared : sheet point = none) : sheet.onTop below point = below point := by
  rw [onTop, spared, Option.getD_none]

theorem onTop_pile_cons (sheet : Sheet Point Value) (above : List (Sheet Point Value))
    (below : Point → Value) : (pile (sheet :: above)).onTop below = (pile above).onTop (sheet.onTop below) := by
  funext point
  simp only [onTop, pile]
  cases pile above point with
  | none => rfl
  | some value => rfl

/-- Laying sheets one after the other lays their pile. -/
theorem onTop_pile (sheets : List (Sheet Point Value)) (below : Point → Value) :
    (pile sheets).onTop below = sheets.foldl (fun picture sheet => sheet.onTop picture) below := by
  induction sheets generalizing below with
  | nil => rfl
  | cons sheet above ih => rw [onTop_pile_cons, ih, List.foldl_cons]

theorem pile_isSome (sheets : List (Sheet Point Value)) (point : Point) :
    (pile sheets point).isSome ↔ ∃ sheet ∈ sheets, (sheet point).isSome := by
  induction sheets with
  | nil => simp [pile, clear]
  | cons sheet above ih =>
    rw [pile, Option.isSome_or, Bool.or_eq_true, ih]
    simp only [List.mem_cons, exists_eq_or_imp]
    exact Or.comm

/-- A change to one value lays a sheet of it. -/
theorem onTop_of_altersAt {place : Word → Option Point} {covers : Point → Prop} [DecidablePred covers]
    {before after : Word → Value}
    (alters : AltersAt (fun _ => value) (fun word => ∃ point, place word = some point ∧ covers point)
      before after) : after = (onto place (filled covers value)).onTop before := by
  funext word
  unfold onTop onto filled
  cases shown : place word with
  | none =>
    rw [(alters word).2 (by simp [shown])]
    rfl
  | some point =>
    rw [Option.bind_some]
    by_cases covered : covers point
    · rw [if_pos covered, Option.getD_some, (alters word).1 ⟨point, shown, covered⟩]
    · rw [if_neg covered, Option.getD_none, (alters word).2 (by simp [shown, covered])]

theorem onto_pile (place : Word → Option Point) (sheets : List (Sheet Point Value)) :
    onto place (pile sheets) = pile (sheets.map (onto place)) := by
  induction sheets with
  | nil =>
    funext word
    simp [onto, pile, clear]
  | cons sheet above ih =>
    funext word
    rw [List.map_cons, pile, pile, ← ih]
    simp only [onto]
    cases place word with
    | none => simp
    | some point => simp

/-- Events that lay their sheets one after the other lay the pile. -/
theorem run_pile {State Event : Type*} {step : State → Event → Option State}
    (view : State → Point → Value) (sheet : Event → Sheet Point Value) (events : List Event)
    (each : ∀ event ∈ events, ∀ state, ∃ next, step state event = some next ∧
      view next = (sheet event).onTop (view state)) (state : State) :
    ∃ final, run step events state = some final ∧
      view final = (pile (events.map sheet)).onTop (view state) := by
  induction events generalizing state with
  | nil => exact ⟨state, rfl, rfl⟩
  | cons event events ih =>
    obtain ⟨next, stepped, laid⟩ := each event (by simp) state
    obtain ⟨final, reached, piled⟩ := ih (fun other member => each other (by simp [member])) next
    refine ⟨final, by rw [run_next stepped, reached], ?_⟩
    rw [piled, laid, List.map_cons, onTop_pile_cons]

section Pick

variable {Item : Type*} {items : List Item} {lay : Item → Sheet Point Value} {item : Item}

theorem pile_map_eq_none (spares : ∀ other ∈ items, lay other point = none) :
    pile (items.map lay) point = none := by
  induction items with
  | nil => rfl
  | cons first items ih =>
    change (pile (items.map lay) point).or (lay first point) = none
    rw [ih fun other member => spares other (by simp [member]), spares first (by simp),
      Option.or_none]

/-- Where one sheet alone covers, it is seen wherever it lies in the pile. -/
theorem pile_map_eq (member : item ∈ items)
    (alone : ∀ other ∈ items, other ≠ item → lay other point = none) :
    pile (items.map lay) point = lay item point := by
  classical
  induction items with
  | nil => cases member
  | cons first items ih =>
    change (pile (items.map lay) point).or (lay first point) = lay item point
    by_cases later : item ∈ items
    · rw [ih later fun other there => alone other (by simp [there])]
      by_cases same : first = item
      · rw [same, Option.or_self]
      · rw [alone first (by simp) same, Option.or_none]
    · obtain rfl := (List.mem_cons.mp member).resolve_right later
      have spared : pile (items.map lay) point = none := by
        refine pile_map_eq_none fun other there => alone other (by simp [there]) ?_
        rintro rfl
        exact later there
      rw [spared, Option.none_or]

end Pick

/-- Whatever the world, the program comes to the value, and lays the sheet over what it shows. -/
def Lays {World Result : Type} (view : World → Point → Value) (program : Program World Result)
    (value : Result) (sheet : Sheet Point Value) : Prop :=
  ∀ world, ∃ final, program.exec world = (some value, final) ∧
    view final = sheet.onTop (view world)

theorem pile_cons (sheet : Sheet Point Value) (above : List (Sheet Point Value)) :
    pile (sheet :: above) = pile [sheet, pile above] := rfl

@[simp] theorem pile_clear_below (sheet : Sheet Point Value) : pile [clear, sheet] = sheet := by
  funext point
  exact Option.or_none

@[simp] theorem pile_clear_above (sheet : Sheet Point Value) : pile [sheet, clear] = sheet := rfl

theorem pile_append (lower upper : List (Sheet Point Value)) :
    pile (lower ++ upper) = pile [pile lower, pile upper] := by
  induction lower with
  | nil => exact (pile_clear_below (pile upper)).symm
  | cons sheet above ih =>
    funext point
    change (pile (above ++ upper) point).or (sheet point) =
      (pile upper point).or ((pile above point).or (sheet point))
    rw [ih]
    exact Option.or_assoc

section Lays

variable {World First Result : Type} {view : World → Point → Value}

theorem lays_pure (value : Result) : Lays view (pure value) value clear :=
  fun world => ⟨world, Program.exec_pure value world, rfl⟩

theorem lays_bind {program : Program World First} {next : First → Program World Result}
    {first : First} {result : Result} {lower upper : Sheet Point Value}
    (lays : Lays view program first lower) (rest : Lays view (next first) result upper) :
    Lays view (program >>= next) result (pile [lower, upper]) := by
  intro world
  obtain ⟨middle, ends, laid⟩ := lays world
  obtain ⟨final, ends', laid'⟩ := rest middle
  refine ⟨final, ?_, ?_⟩
  · rw [Program.exec_bind, ends]
    exact ends'
  · rw [laid', laid, onTop_pile]
    rfl

theorem lays_orPanic {value : Option First} {next : First → Program World Result} {found : First}
    {result : Result} {sheet : Sheet Point Value} (there : value = some found)
    (rest : Lays view (next found) result sheet) :
    Lays view (Program.orPanic value >>= next) result sheet := by
  intro world
  obtain ⟨final, ends, laid⟩ := rest world
  refine ⟨final, ?_, laid⟩
  rw [Program.exec_bind, Program.exec_orPanic, there]
  exact ends

theorem lays_forM {Item : Type} {body : Item → Program World PUnit}
    {lay : Item → Sheet Point Value} {items : List Item}
    (each : ∀ item ∈ items, Lays view (body item) PUnit.unit (lay item)) :
    Lays view (items.forM body) PUnit.unit (pile (items.map lay)) := by
  induction items with
  | nil => exact lays_pure PUnit.unit
  | cons item items ih =>
    have first : Lays view (body item) PUnit.unit (lay item) := each item (by simp)
    rw [List.map_cons, pile_cons]
    exact lays_bind first (ih fun other member => each other (by simp [member]))

end Lays

end Sheet

end QoreOS.Library
