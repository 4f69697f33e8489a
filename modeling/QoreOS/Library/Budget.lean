import QoreOS.Library.Run

/-! A memory allocator as a budget of bytes: which lists of calls it serves. -/

namespace QoreOS.Library

inductive HeapCall where
  | take (size : Nat)
  | give (size : Nat)
  deriving DecidableEq

namespace HeapCall

/-- The bytes in use after a call; a request beyond the budget is refused. -/
def serve (budget used : Nat) : HeapCall → Option Nat
  | take size => if used + size ≤ budget then some (used + size) else none
  | give size => some (used - size)

/-- The bytes that the caller owns after a call; it gives back only its own. -/
def own (owned : Nat) : HeapCall → Option Nat
  | take size => some (owned + size)
  | give size => if size ≤ owned then some (owned - size) else none

/-- The most bytes that the calls have in use at once. -/
def peak : List HeapCall → Nat
  | [] => 0
  | take size :: calls => size + peak calls
  | give size :: calls => peak calls - size

/-- Who owns more keeps the difference. -/
theorem run_own_frame {calls : List HeapCall} {owned after : Nat}
    (balanced : run own calls owned = some after) (more : Nat) :
    run own calls (owned + more) = some (after + more) := by
  induction calls generalizing owned with
  | nil =>
    cases balanced
    rfl
  | cons call calls ih =>
    cases call with
    | take size =>
      have shifted : run own calls (owned + size + more) = some (after + more) := ih balanced
      rwa [Nat.add_right_comm] at shifted
    | give size =>
      simp only [run_cons, own] at balanced ⊢
      by_cases enough : size ≤ owned
      · rw [if_pos enough, Option.bind_some] at balanced
        rw [if_pos (by omega), Option.bind_some, Nat.sub_add_comm enough]
        exact ih balanced
      · rw [if_neg enough] at balanced
        cases balanced

theorem run_own_append {first second : List HeapCall} {owned middle after : Nat}
    (earlier : run own first owned = some middle) (later : run own second middle = some after) :
    run own (first ++ second) owned = some after := by
  rw [run_append, earlier]
  exact later

/-- The calls are all served exactly if the budget has room for their peak. -/
theorem run_serve {calls : List HeapCall} {owned after budget base : Nat}
    (balanced : run own calls owned = some after) (fits : base + owned ≤ budget) :
    run (serve budget) calls (base + owned) =
      if base + owned + peak calls ≤ budget then some (base + after) else none := by
  induction calls generalizing owned with
  | nil =>
    cases balanced
    rw [peak, Nat.add_zero, if_pos fits, run_nil]
  | cons call calls ih =>
    cases call with
    | take size =>
      rw [run_cons, serve, peak, ← Nat.add_assoc]
      by_cases room : base + owned + size ≤ budget
      · rw [if_pos room, Option.bind_some, Nat.add_assoc base owned size]
        exact ih balanced (by omega)
      · rw [if_neg room, if_neg (by omega), Option.bind_none]
    | give size =>
      simp only [run_cons, own] at balanced
      by_cases enough : size ≤ owned
      · rw [if_pos enough, Option.bind_some] at balanced
        rw [run_cons, serve, peak, Option.bind_some, Nat.add_sub_assoc enough, ih balanced (by omega)]
        congr 1
        apply propext
        omega
      · rw [if_neg enough] at balanced
        cases balanced

theorem run_serve_some {calls : List HeapCall} {after budget used : Nat}
    (balanced : run own calls 0 = some after) (room : used + peak calls ≤ budget) :
    run (serve budget) calls used = some (used + after) := by
  have served := run_serve balanced (show used + 0 ≤ budget by omega)
  rwa [Nat.add_zero, if_pos room] at served

theorem run_serve_none {calls : List HeapCall} {after budget used : Nat}
    (balanced : run own calls 0 = some after) (fits : used ≤ budget)
    (full : ¬ used + peak calls ≤ budget) : run (serve budget) calls used = none := by
  have served := run_serve balanced (show used + 0 ≤ budget from fits)
  rwa [Nat.add_zero, if_neg full] at served

/-- What is kept in the end was in use at once. -/
theorem own_le_peak {calls : List HeapCall} {owned after : Nat}
    (balanced : run own calls owned = some after) : after ≤ owned + peak calls := by
  induction calls generalizing owned with
  | nil =>
    cases balanced
    exact Nat.le_add_right ..
  | cons call calls ih =>
    cases call with
    | take size =>
      have later : after ≤ owned + size + peak calls := ih balanced
      rw [peak]
      omega
    | give size =>
      simp only [run_cons, own] at balanced
      by_cases enough : size ≤ owned
      · rw [if_pos enough, Option.bind_some] at balanced
        have later := ih balanced
        rw [peak]
        omega
      · rw [if_neg enough] at balanced
        cases balanced

/-- Calls in a row need the most that either part needs. -/
theorem peak_append {first : List HeapCall} {owned after : Nat}
    (balanced : run own first owned = some after) (second : List HeapCall) :
    owned + peak (first ++ second) = max (owned + peak first) (after + peak second) := by
  induction first generalizing owned with
  | nil =>
    cases balanced
    rw [List.nil_append, peak]
    omega
  | cons call calls ih =>
    cases call with
    | take size =>
      have later : owned + size + peak (calls ++ second) =
          max (owned + size + peak calls) (after + peak second) := ih balanced
      rw [List.cons_append, peak, peak]
      omega
    | give size =>
      simp only [run_cons, own] at balanced
      by_cases enough : size ≤ owned
      · rw [if_pos enough, Option.bind_some] at balanced
        have later := ih balanced
        rw [List.cons_append, peak, peak]
        omega
      · rw [if_neg enough] at balanced
        cases balanced

end HeapCall

end QoreOS.Library
