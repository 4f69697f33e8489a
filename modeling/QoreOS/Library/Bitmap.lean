import Mathlib.Data.List.Nodup
import Mathlib.Data.List.Range

/-! Bitmaps: a vector of machine words read as the set of its one bits. -/

namespace QoreOS.Library.Bitmap

variable {size w : Nat}

/-- Bit `index` of the bitmap; indices beyond the last word are absent. -/
def member (words : Vector (BitVec w) size) (index : Nat) : Bool :=
  if bound : index / w < size then words[index / w].getLsbD (index % w) else false

/-- The present indices in ascending order. -/
def members (words : Vector (BitVec w) size) : List Nat :=
  (List.range (size * w)).filter (member words)

def insert (words : Vector (BitVec w) size) (index : Nat) (bound : index / w < size) :
    Vector (BitVec w) size :=
  words.set (index / w) (words[index / w] ||| 1#w <<< (index % w))

def erase (words : Vector (BitVec w) size) (index : Nat) (bound : index / w < size) :
    Vector (BitVec w) size :=
  words.set (index / w) (words[index / w] &&& ~~~(1#w <<< (index % w)))

theorem member_lt {words : Vector (BitVec w) size} {index : Nat} (positive : 0 < w)
    (present : member words index = true) : index < size * w := by
  unfold member at present
  split at present
  · rename_i bound
    exact (Nat.div_lt_iff_lt_mul positive).mp bound
  · cases present

theorem mem_members (positive : 0 < w) (words : Vector (BitVec w) size) (index : Nat) :
    index ∈ members words ↔ member words index = true := by
  simp only [members, List.mem_filter, List.mem_range, and_iff_right_iff_imp]
  exact member_lt positive

theorem members_nodup (words : Vector (BitVec w) size) : (members words).Nodup :=
  List.nodup_range.filter _

theorem members_length_le (words : Vector (BitVec w) size) :
    (members words).length ≤ size * w := by
  simpa [members] using List.length_filter_le (member words) (List.range (size * w))

private theorem getLsbD_unit (positive : 0 < w) (shift bit : Nat) (small : bit < w) :
    (1#w <<< shift).getLsbD bit = decide (shift = bit) := by
  rw [BitVec.getLsbD_shiftLeft, BitVec.getLsbD_one]
  by_cases same : shift = bit
  · simp [same, small, positive]
  · simp only [same, decide_false]
    by_cases before : bit < shift
    · simp [before]
    · have apart : ¬ bit - shift = 0 := by omega
      simp [apart]

/-- The word test of a scan, `words[i / w] & (1 << i % w) != 0`, is membership. -/
theorem member_eq_test (positive : 0 < w) (words : Vector (BitVec w) size) (index : Nat)
    (bound : index / w < size) :
    decide (words[index / w] &&& 1#w <<< (index % w) ≠ 0#w) = member words index := by
  have small : index % w < w := Nat.mod_lt _ positive
  simp only [member, bound, ↓reduceDIte]
  cases bit : words[index / w].getLsbD (index % w) with
  | true =>
    simp only [decide_eq_true_eq]
    intro zero
    have read := congrArg (·.getLsbD (index % w)) zero
    simp [BitVec.getLsbD_and, bit, getLsbD_unit positive _ _ small] at read
  | false =>
    simp only [ne_eq, decide_eq_false_iff_not, not_not]
    apply BitVec.eq_of_getLsbD_eq
    intro other inside
    rw [BitVec.getLsbD_and, getLsbD_unit positive _ _ inside]
    by_cases same : index % w = other
    · subst same; simp [bit]
    · simp [same]

private theorem same_index {first second : Nat} (word : first / w = second / w)
    (bit : first % w = second % w) : first = second := by
  rw [← Nat.div_add_mod first w, ← Nat.div_add_mod second w, word, bit]

theorem member_insert (positive : 0 < w) (words : Vector (BitVec w) size) (index other : Nat)
    (bound : index / w < size) :
    member (insert words index bound) other = (decide (index = other) || member words other) := by
  have small : other % w < w := Nat.mod_lt _ positive
  unfold member insert
  by_cases inside : other / w < size
  · simp only [inside, ↓reduceDIte, Vector.getElem_set]
    by_cases word : index / w = other / w
    · have read : words[index / w] = words[other / w] := by simp only [word]
      rw [if_pos word, BitVec.getLsbD_or, getLsbD_unit positive _ _ small, read]
      have bits : index % w = other % w ↔ index = other :=
        ⟨same_index word, fun same => by rw [same]⟩
      simp only [bits, Bool.or_comm]
    · have apart : index ≠ other := fun same => word (by rw [same])
      simp [word, apart]
  · have apart : index ≠ other := fun same => inside (same ▸ bound)
    simp [inside, apart]

theorem member_erase (positive : 0 < w) (words : Vector (BitVec w) size) (index other : Nat)
    (bound : index / w < size) :
    member (erase words index bound) other = (decide (index ≠ other) && member words other) := by
  have small : other % w < w := Nat.mod_lt _ positive
  unfold member erase
  by_cases inside : other / w < size
  · simp only [inside, ↓reduceDIte, Vector.getElem_set]
    by_cases word : index / w = other / w
    · have read : words[index / w] = words[other / w] := by simp only [word]
      rw [if_pos word, BitVec.getLsbD_and, BitVec.getLsbD_not, getLsbD_unit positive _ _ small,
        read]
      have bits : index % w = other % w ↔ index = other :=
        ⟨same_index word, fun same => by rw [same]⟩
      simp only [small, decide_true, Bool.true_and, bits, ne_eq, decide_not, Bool.and_comm]
    · have apart : index ≠ other := fun same => word (by rw [same])
      simp [word, apart]
  · simp [inside]

/-- Inserting an absent index adds exactly one present index. -/
theorem members_insert_length (positive : 0 < w) (words : Vector (BitVec w) size)
    (index : Nat) (bound : index / w < size) (absent : member words index = false) :
    (members (insert words index bound)).length = (members words).length + 1 := by
  have fresh : index ∉ members words := by simp [mem_members positive, absent]
  have same : (members (insert words index bound)).Perm (index :: members words) := by
    rw [List.perm_ext_iff_of_nodup (members_nodup _)
      (List.nodup_cons.mpr ⟨fresh, members_nodup words⟩)]
    intro other
    rw [mem_members positive, member_insert positive, List.mem_cons, mem_members positive,
      Bool.or_eq_true, decide_eq_true_eq, eq_comm]
  simpa using same.length_eq

/-- Erasing the least present index leaves the rest of the enumeration. -/
theorem members_erase_head (positive : 0 < w) (words : Vector (BitVec w) size)
    {index : Nat} {rest : List Nat} (bound : index / w < size)
    (least : members words = index :: rest) : members (erase words index bound) = rest := by
  have distinct : index ∉ rest := by
    have nodup := members_nodup words
    rw [least] at nodup
    exact (List.nodup_cons.mp nodup).1
  have filtered : members (erase words index bound) =
      (members words).filter (fun other => decide (index ≠ other)) := by
    simp only [members, List.filter_filter]
    apply List.filter_congr
    intro other _
    rw [member_erase positive]
  rw [filtered, least, List.filter_cons]
  simp only [ne_eq, not_true_eq_false, decide_false, Bool.false_eq_true, ↓reduceIte]
  apply List.filter_eq_self.mpr
  intro other member
  have apart : index ≠ other := fun same => distinct (same ▸ member)
  simpa using apart

theorem member_replicate_zero (index : Nat) :
    member (Vector.replicate size (0#w)) index = false := by
  simp [member]

theorem members_replicate_zero : members (Vector.replicate size (0#w)) = [] := by
  simp [members, List.filter_eq_nil_iff, member_replicate_zero]

end QoreOS.Library.Bitmap
