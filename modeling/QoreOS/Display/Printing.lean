import QoreOS.Display.Terminal

/-! When printing returns. -/

namespace QoreOS.Display

open QoreOS.Library

variable {color : UInt32} {terminal next : Terminal} {c : Char} {text : String}

theorem nextLine_size (terminal : Terminal) :
    terminal.nextLine.canvas.width = terminal.canvas.width ∧
      terminal.nextLine.canvas.height = terminal.canvas.height := by
  unfold Terminal.nextLine
  split <;> exact ⟨rfl, rfl⟩

/-- A character keeps the size of the layer. -/
theorem printChar_size (prints : printChar color terminal c = some next) :
    next.canvas.width = terminal.canvas.width ∧ next.canvas.height = terminal.canvas.height := by
  obtain ⟨width, height, -⟩ :=
    drawGlyph_alters terminal.canvas terminal.termX terminal.termY (getCharBitmap c.toUpper) color
  unfold printChar at prints
  split at prints
  case isTrue =>
    cases prints
    exact nextLine_size terminal
  case isFalse =>
    dsimp only at prints
    split at prints
    case isTrue => cases prints
    case isFalse =>
      split at prints
      case isTrue =>
        cases prints
        obtain ⟨sameWidth, sameHeight⟩ := nextLine_size { terminal with
          canvas := drawGlyph terminal.canvas terminal.termX terminal.termY
            (getCharBitmap c.toUpper) color
          termX := terminal.termX + (24 + 6) }
        exact ⟨sameWidth.trans width, sameHeight.trans height⟩
      case isFalse =>
        cases prints
        exact ⟨width, height⟩

theorem printChar_wide (wide : 40 ≤ terminal.canvas.width) (color : UInt32) (c : Char) :
    ∃ next, printChar color terminal c = some next := by
  have width := (drawGlyph_alters terminal.canvas terminal.termX terminal.termY
    (getCharBitmap c.toUpper) color).1
  unfold printChar
  split
  · exact ⟨_, rfl⟩
  · dsimp only
    rw [if_neg (by omega)]
    split <;> exact ⟨_, rfl⟩

/-- On a layer of less than 40 columns only a newline gets through. -/
theorem printChar_narrow (narrow : terminal.canvas.width < 40) (glyph : c ≠ '\n') :
    printChar color terminal c = none := by
  have width := (drawGlyph_alters terminal.canvas terminal.termX terminal.termY
    (getCharBitmap c.toUpper) color).1
  rw [printChar, if_neg glyph]
  exact if_pos (by dsimp only; omega)

theorem terminalPrint_size (prints : terminalPrint terminal text color = some next) :
    next.canvas.width = terminal.canvas.width ∧ next.canvas.height = terminal.canvas.height := by
  have kept : ∀ (middle : Terminal) (c : Char) (next : Terminal),
      middle.canvas.width = terminal.canvas.width ∧
        middle.canvas.height = terminal.canvas.height → printChar color middle c = some next →
      next.canvas.width = terminal.canvas.width ∧ next.canvas.height = terminal.canvas.height := by
    intro middle c next same prints
    obtain ⟨width, height⟩ := printChar_size prints
    exact ⟨width.trans same.1, height.trans same.2⟩
  exact run_preserves kept text.toList ⟨rfl, rfl⟩ prints

theorem terminalPrint_wide (wide : 40 ≤ terminal.canvas.width) (text : String) (color : UInt32) :
    ∃ next, terminalPrint terminal text color = some next := by
  have goes : ∀ (middle : Terminal) (c : Char), 40 ≤ middle.canvas.width → True →
      ∃ next, printChar color middle c = some next ∧ 40 ≤ next.canvas.width := by
    intro middle c wide _
    obtain ⟨next, prints⟩ := printChar_wide wide color c
    exact ⟨next, prints, (printChar_size prints).1 ▸ wide⟩
  obtain ⟨next, prints, -⟩ := run_invariant goes text.toList (fun _ _ => trivial) wide
  exact ⟨next, prints⟩

/-- Printing needs 40 columns for any text with more than newlines. -/
theorem terminalPrint_narrow (narrow : terminal.canvas.width < 40)
    (glyph : ∃ c ∈ text.toList, c ≠ '\n') : terminalPrint terminal text color = none := by
  obtain ⟨c, member, glyph⟩ := glyph
  obtain ⟨before, behind, split⟩ := List.append_of_mem member
  rw [terminalPrint, split, run_append]
  cases reached : run (printChar color) before terminal with
  | none => rfl
  | some middle =>
    have prints : terminalPrint terminal (String.ofList before) color = some middle := by
      rw [terminalPrint, String.toList_ofList]
      exact reached
    have width := (terminalPrint_size prints).1
    rw [Option.bind_some, run_cons, printChar_narrow (width.symm ▸ narrow) glyph]
    rfl

end QoreOS.Display
