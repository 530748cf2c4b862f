import Mathlib.Data.List.TakeWhile
import ImageStages.Proofs.Text.Runs
import ImageStages.Text.Segments

namespace ImageStages.Text

section Segments

variable {α : Type} [DecidableEq α] {slash c : α} {path word rest first : List α}
  {others : List (List α)}

theorem segments_ne_nil (slash : α) (path : List α) : segments slash path ≠ [] := by
  cases path with
  | nil => simp [segments]
  | cons c rest =>
      unfold segments
      split
      · simp
      · split <;> simp

theorem segments_slash (slash : α) (rest : List α) :
    segments slash (slash :: rest) = [] :: segments slash rest := by
  cases given : segments slash rest with
  | nil => exact absurd given (segments_ne_nil slash rest)
  | cons first others => simp [segments, given]

theorem segments_cons (ordinary : c ≠ slash) (given : segments slash rest = first :: others) :
    segments slash (c :: rest) = (c :: first) :: others := by
  simp [segments, given, ordinary]

theorem segments_append_slash (slash : α) (left right : List α) :
    segments slash (left ++ slash :: right) = segments slash left ++ segments slash right := by
  induction left with
  | nil => exact segments_slash slash right
  | cons c left ih =>
      by_cases same : c = slash
      · subst same
        rw [List.cons_append, segments_slash, segments_slash, ih, List.cons_append]
      · obtain ⟨first, others, given⟩ := List.exists_cons_of_ne_nil (segments_ne_nil slash left)
        rw [given] at ih
        rw [List.cons_append, segments_cons same given, segments_cons same ih]
        rfl

theorem namedSegments_append_slash (left right : List α) :
    namedSegments slash (left ++ slash :: right) =
      namedSegments slash left ++ namedSegments slash right := by
  rw [namedSegments, segments_append_slash, List.filter_append]
  rfl

theorem segments_word (slashless : slash ∉ word) : segments slash word = [word] := by
  induction word with
  | nil => rfl
  | cons c rest ih =>
      rw [List.mem_cons, not_or] at slashless
      exact segments_cons (Ne.symm slashless.1) (ih slashless.2)

theorem namedSegments_word (slashless : slash ∉ word) (filled : word ≠ []) :
    namedSegments slash word = [word] := by
  simp [namedSegments, segments_word slashless, filled]

theorem ne_nil_of_mem_namedSegments (member : word ∈ namedSegments slash path) : word ≠ [] := by
  simpa using (List.mem_filter.mp member).2

/-- A path is a word, or a path with a slash and a word behind it. -/
theorem slash_induction {motive : List α → Prop}
    (word : ∀ word, slash ∉ word → motive word)
    (joined : ∀ front word, slash ∉ word → motive front → motive (front ++ slash :: word))
    (path : List α) : motive path := by
  by_cases present : slash ∈ path.reverse
  · obtain ⟨after, before, split, slashless⟩ := List.eq_append_cons_of_mem present
    have parts : path = before.reverse ++ slash :: after.reverse := by
      simpa using congrArg List.reverse split
    have shorter : before.reverse.length < path.length := by
      simp [parts]
    rw [parts]
    exact joined _ _ (by simpa using slashless) (slash_induction word joined before.reverse)
  · exact word path (by simpa using present)
termination_by path.length

theorem namedSegments_eq_nil_iff : namedSegments slash path = [] ↔ ∀ c ∈ path, c = slash := by
  induction path with
  | nil => simp [namedSegments, segments]
  | cons c rest ih =>
      by_cases same : c = slash
      · subst same
        simpa [namedSegments, segments_slash] using ih
      · obtain ⟨first, others, given⟩ := List.exists_cons_of_ne_nil (segments_ne_nil slash rest)
        simp [namedSegments, segments_cons same given, same]

end Segments

section LastSegment

variable {word : Text}

theorem slash_notMem_lastSegment (path : Text) : .char '/' ∉ lastSegment path := by
  intro member
  simpa using List.mem_takeWhile_imp (List.mem_reverse.mp member)

theorem lastSegment_append_slash (path : Text) :
    lastSegment (path ++ [.char '/']) = lastSegment path := by
  simp [lastSegment]

theorem lastSegment_append_slashes (path : Text) (count : Nat) :
    lastSegment (path ++ List.replicate count (.char '/')) = lastSegment path := by
  induction count with
  | zero => simp
  | succ count ih =>
      rw [List.replicate_succ', ← List.append_assoc, lastSegment_append_slash, ih]

/-- A word at the end of a path is its last segment. -/
theorem lastSegment_append_word (front : Text)
    (ends : Stops (· != CodePoint.char '/') front.reverse) (slashless : .char '/' ∉ word)
    (filled : word ≠ []) : lastSegment (front ++ word) = word := by
  obtain ⟨c, rest, spelled⟩ := List.exists_cons_of_ne_nil (List.reverse_ne_nil_iff.mpr filled)
  have ordinary : ∀ c ∈ word.reverse, (c != .char '/') = true := by
    intro c member
    rw [bne_iff_ne]
    rintro rfl
    exact slashless (List.mem_reverse.mp member)
  have kept : (word.reverse ++ front.reverse).dropWhile (· == .char '/') =
      word.reverse ++ front.reverse := by
    have first := ordinary c (by simp [spelled])
    simp [spelled, bne_iff_ne.mp first]
  rw [lastSegment, List.reverse_append, kept, takeWhile_run_append ordinary ends,
    List.reverse_reverse]

theorem lastSegment_eq_getLast (path : Text) :
    lastSegment path = (namedSegments (.char '/') path).getLast?.getD [] := by
  induction path using slash_induction with
  | word word slashless =>
      by_cases filled : word = []
      · subst filled
        rfl
      · have last := lastSegment_append_word [] (by simp [Stops]) slashless filled
        rw [namedSegments_word slashless filled]
        exact last
  | joined front word slashless ih =>
      rw [namedSegments_append_slash]
      by_cases filled : word = []
      · subst filled
        rw [lastSegment_append_slash, ih]
        simp [namedSegments, segments]
      · have last :=
          lastSegment_append_word (front ++ [.char '/']) (by simp [Stops]) slashless filled
        rw [namedSegments_word slashless filled, List.getLast?_concat]
        simpa using last

end LastSegment

end ImageStages.Text
