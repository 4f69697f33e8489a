import Mathlib.Data.List.Basic
import Mathlib.Data.List.Nodup
import Mathlib.Data.List.Induction

/-! Histories of insertions: the value that a key was given last, and the keys that find
a place when there are only so many of them, first come, first served. -/

namespace QoreOS.Library

universe u v
variable {Key : Type u} {Value : Type v} [DecidableEq Key]

/-- The value of the last insertion of a key. -/
def latest (history : List (Key × Value)) (key : Key) : Option Value :=
  (history.reverse.find? fun insertion => insertion.1 == key).map Prod.snd

/-- The first keys, as many as there are places. -/
def admitted (places : Nat) (history : List (Key × Value)) : List Key :=
  (history.map Prod.fst).eraseDups.take places

variable {history : List (Key × Value)} {key other : Key} {value : Value} {places : Nat}

theorem latest_concat_self (history : List (Key × Value)) (key : Key) (value : Value) :
    latest (history ++ [(key, value)]) key = some value := by
  simp [latest]

theorem latest_concat_of_ne (differs : other ≠ key) (history : List (Key × Value)) (value : Value) :
    latest (history ++ [(key, value)]) other = latest history other := by
  simp [latest, differs.symm]

theorem eraseDups_concat (keys : List Key) (key : Key) :
    (keys ++ [key]).eraseDups = if key ∈ keys then keys.eraseDups else keys.eraseDups ++ [key] := by
  rw [List.eraseDups_append]
  split
  case isTrue old => simp [List.removeAll, old]
  case isFalse fresh => simp [List.removeAll, fresh, List.eraseDups_cons]

theorem nodup_eraseDups (keys : List Key) : keys.eraseDups.Nodup := by
  induction keys using List.reverseRecOn with
  | nil => exact List.nodup_nil
  | append_singleton keys key ih =>
    rw [eraseDups_concat]
    split
    case isTrue => exact ih
    case isFalse fresh =>
      refine List.nodup_append.mpr ⟨ih, List.nodup_singleton key, ?_⟩
      intro old member new same
      rw [List.mem_singleton] at same
      rw [same]
      rintro rfl
      exact fresh (List.mem_eraseDups.mp member)

theorem admitted_nodup (places : Nat) (history : List (Key × Value)) :
    (admitted places history).Nodup :=
  (nodup_eraseDups _).sublist (List.take_sublist _ _)

theorem admitted_length_le (places : Nat) (history : List (Key × Value)) :
    (admitted places history).length ≤ places :=
  List.length_take_le _ _

/-- A key that has its place keeps it. -/
theorem admitted_concat_old (old : key ∈ admitted places history) (value : Value) :
    admitted places (history ++ [(key, value)]) = admitted places history := by
  have seen : key ∈ history.map Prod.fst := List.mem_eraseDups.mp (List.mem_of_mem_take old)
  rw [admitted, List.map_append, List.map_cons, List.map_nil, eraseDups_concat, if_pos seen]
  rfl

/-- A new key takes the next place. -/
theorem admitted_concat_new (new : key ∉ admitted places history)
    (room : (admitted places history).length < places) (value : Value) :
    admitted places (history ++ [(key, value)]) = admitted places history ++ [key] := by
  have all : admitted places history = (history.map Prod.fst).eraseDups := by
    unfold admitted at room ⊢
    rw [List.length_take] at room
    exact List.take_of_length_le (by omega)
  rw [all] at new room ⊢
  rw [admitted, List.map_append, List.map_cons, List.map_nil, eraseDups_concat,
    if_neg (fun seen => new (List.mem_eraseDups.mpr seen))]
  apply List.take_of_length_le
  rw [List.length_append, List.length_singleton]
  exact room

/-- Without a place a new key is turned away. -/
theorem admitted_concat_full (full : (admitted places history).length = places) (key : Key)
    (value : Value) : admitted places (history ++ [(key, value)]) = admitted places history := by
  unfold admitted at full ⊢
  rw [List.length_take] at full
  rw [List.map_append, List.map_cons, List.map_nil, eraseDups_concat]
  split
  case isTrue => rfl
  case isFalse => rw [List.take_append_of_le_length (by omega)]

end QoreOS.Library
