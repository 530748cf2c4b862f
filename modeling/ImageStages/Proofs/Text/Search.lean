import ImageStages.Text.CodePoint
import Mathlib.Data.List.Basic

namespace ImageStages.Text

variable {word s : Text} {c first : CodePoint} {skip : Nat}

theorem removeWord_cons_of_ne (apart : c ≠ first) (s : Text) :
    removeWord (first :: word) 0 (c :: s) = c :: removeWord (first :: word) 0 s := by
  simp [removeWord, apart.symm]

theorem removeWord_of_notMem (absent : first ∉ s) : removeWord (first :: word) 0 s = s := by
  induction s with
  | nil => rfl
  | cons c rest ih =>
      rw [List.mem_cons, not_or] at absent
      rw [removeWord_cons_of_ne (Ne.symm absent.1), ih absent.2]

theorem isPrefixOf_append_singleton (absent : c ∉ word) :
    word.isPrefixOf (s ++ [c]) = word.isPrefixOf s := by
  rw [Bool.eq_iff_iff, List.isPrefixOf_iff_prefix, List.isPrefixOf_iff_prefix,
    List.prefix_concat_iff]
  refine ⟨fun found => found.resolve_left ?_, .inr⟩
  rintro rfl
  simp at absent

/-- What follows a text without a part in the word is not touched. -/
theorem removeWord_append_singleton (absent : c ∉ word) (within : skip ≤ s.length) :
    removeWord word skip (s ++ [c]) = removeWord word skip s ++ [c] := by
  induction s generalizing skip with
  | nil =>
      obtain rfl : skip = 0 := Nat.le_zero.mp within
      have unlike := isPrefixOf_append_singleton (s := []) absent
      cases word with
      | nil => rfl
      | cons first rest =>
          rw [List.nil_append] at unlike
          simp [removeWord, unlike]
  | cons d rest ih =>
      cases skip with
      | succ skip => exact ih (Nat.le_of_succ_le_succ within)
      | zero =>
          have same := isPrefixOf_append_singleton (s := d :: rest) absent
          rw [List.cons_append] at same
          rw [List.cons_append, removeWord, removeWord, same]
          split
          · rename_i found
            rw [Bool.and_eq_true, List.isPrefixOf_iff_prefix] at found
            refine ih ?_
            have short := found.2.length_le
            rw [List.length_cons] at short
            omega
          · rw [ih (Nat.zero_le _), List.cons_append]

end ImageStages.Text
