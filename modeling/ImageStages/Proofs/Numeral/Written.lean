import ImageStages.Proofs.Numeral.Hexadecimal
import ImageStages.Proofs.Text.Runs

namespace ImageStages.Literal

/-! How integer literals are written.

A literal is read exactly if it is blanks, a sign, a radix mark, a run of digits and blanks
again, of which only the run must be there. -/

variable {base : Base} {s rest sign mark run before after : List Char} {digits : List Nat}
  {c : Char} {negative : Bool} {value : Int}

/-- Digits with single underscores between them. -/
inductive Run (base : Base) : List Char → List Nat → Prop where
  | last {c : Char} {digit : Nat} (isDigit : digit? base c = some digit) : Run base [c] [digit]
  | next {c : Char} {digit : Nat} {s : List Char} {digits : List Nat}
      (isDigit : digit? base c = some digit) (rest : Run base s digits) :
      Run base (c :: s) (digit :: digits)
  | spaced {c : Char} {digit : Nat} {s : List Char} {digits : List Nat}
      (isDigit : digit? base c = some digit) (rest : Run base s digits) :
      Run base (c :: '_' :: s) (digit :: digits)

/-- The signs, and whether they make a number negative. -/
def signs : List (List Char × Bool) :=
  [([], false), (['+'], false), (['-'], true)]

def radixMarks : Base → List (List Char)
  | .decimal => [[]]
  | .hexadecimal => [[], ['0', 'x'], ['0', 'X'], ['0', 'x', '_'], ['0', 'X', '_']]

def Blank (s : List Char) : Prop :=
  ∀ c ∈ s, Text.isBlank c = true

/-- A literal with these digits, in plain characters. -/
inductive Writes (base : Base) (negative : Bool) (digits : List Nat) : List Char → Prop where
  | parts {before sign mark run after : List Char} (blankBefore : Blank before)
      (signed : (sign, negative) ∈ signs) (marked : mark ∈ radixMarks base)
      (spelled : Run base run digits) (blankAfter : Blank after) :
      Writes base negative digits (before ++ (sign ++ (mark ++ (run ++ after))))

section Run

/-- What may follow a digit in a run. -/
def Continues (base : Base) (s : List Char) (digits : List Nat) : Prop :=
  (s = [] ∧ digits = []) ∨ Run base s digits ∨ ∃ rest, s = '_' :: rest ∧ Run base rest digits

theorem not_run_nil : ¬ Run base [] digits := fun spelled => nomatch spelled

theorem run_cons_iff :
    Run base (c :: s) digits ↔
      ∃ digit others, digit? base c = some digit ∧ digits = digit :: others ∧
        Continues base s others := by
  constructor
  · intro spelled
    cases spelled with
    | last isDigit => exact ⟨_, _, isDigit, rfl, .inl ⟨rfl, rfl⟩⟩
    | next isDigit rest => exact ⟨_, _, isDigit, rfl, .inr (.inl rest)⟩
    | spaced isDigit rest => exact ⟨_, _, isDigit, rfl, .inr (.inr ⟨_, rfl, rest⟩)⟩
  · intro known
    obtain ⟨digit, others, isDigit, rfl, ⟨rfl, rfl⟩ | rest | ⟨rest, rfl, spelled⟩⟩ := known
    · exact .last isDigit
    · exact .next isDigit rest
    · exact .spaced isDigit spelled

theorem digit?_underscore : digit? base '_' = none := by
  cases base <;> rfl

theorem digitsOf_iff :
    (digitsOf base false s = some digits ↔ Run base s digits) ∧
      (digitsOf base true s = some digits ↔ Continues base s digits) := by
  induction s generalizing digits with
  | nil => simp [digitsOf, Continues, not_run_nil, eq_comm]
  | cons c rest ih =>
      by_cases underscore : c = '_'
      · subst underscore
        simp [digitsOf, Continues, run_cons_iff, digit?_underscore, ih.1]
      · have starts : digitsOf base false (c :: rest) = some digits ↔
            Run base (c :: rest) digits := by
          rw [run_cons_iff]
          cases isDigit : digit? base c with
          | none => simp [digitsOf, underscore, isDigit]
          | some digit =>
              simp only [digitsOf, underscore, if_false, isDigit, Option.map_eq_some_iff, ih.2,
                Option.some.injEq]
              constructor
              · rintro ⟨others, follows, rfl⟩
                exact ⟨digit, others, rfl, rfl, follows⟩
              · rintro ⟨_, others, rfl, rfl, follows⟩
                exact ⟨others, follows, rfl⟩
        have same : digitsOf base true (c :: rest) = digitsOf base false (c :: rest) := by
          simp [digitsOf, underscore]
        exact ⟨starts, by simp [same, starts, Continues, underscore]⟩

theorem Run.isRunChar (spelled : Run base run digits) :
    ∀ c ∈ run, isRunChar base c = true := by
  induction spelled with
  | last isDigit => simp [Literal.isRunChar, isDigit]
  | next isDigit _ ih => simpa [Literal.isRunChar, isDigit] using ih
  | spaced isDigit _ ih => simpa [Literal.isRunChar, isDigit] using ih

theorem Run.starts (spelled : Run base run digits) :
    ∃ c rest, run = c :: rest ∧ (digit? base c).isSome = true := by
  cases run with
  | nil => exact absurd spelled not_run_nil
  | cons c rest =>
      obtain ⟨digit, _, isDigit, _⟩ := run_cons_iff.mp spelled
      exact ⟨c, rest, rfl, by simp [isDigit]⟩

end Run

theorem isBlank_of_isRunChar (runs : isRunChar base c = true) : Text.isBlank c = false := by
  rw [isRunChar, Bool.or_eq_true, beq_iff_eq] at runs
  rcases runs with rfl | isDigit
  · rfl
  · obtain ⟨digit, read⟩ := Option.isSome_iff_exists.mp isDigit
    exact isBlank_of_isDigit (by simp [(Option.filter_eq_some_iff.mp read).1])

section Reading

/-- The sign is one of the signs, and nothing else is taken away. -/
theorem splitSign_parts (s : List Char) :
    ∃ sign, (sign, (splitSign s).1) ∈ signs ∧ s = sign ++ (splitSign s).2 := by
  unfold splitSign
  split
  · exact ⟨['+'], by simp [signs], rfl⟩
  · exact ⟨['-'], by simp [signs], rfl⟩
  · exact ⟨[], by simp [signs], rfl⟩

theorem dropRadixMark_parts (base : Base) (s : List Char) :
    ∃ mark ∈ radixMarks base, s = mark ++ dropRadixMark base s := by
  unfold dropRadixMark
  split
  · exact ⟨['0', 'x', '_'], by simp [radixMarks], rfl⟩
  · exact ⟨['0', 'X', '_'], by simp [radixMarks], rfl⟩
  · exact ⟨['0', 'x'], by simp [radixMarks], rfl⟩
  · exact ⟨['0', 'X'], by simp [radixMarks], rfl⟩
  · exact ⟨[], by cases base <;> simp [radixMarks], rfl⟩

/-- No run goes on in blanks. -/
theorem stops_of_blank (blankAfter : Blank after) : Text.Stops (isRunChar base) after := by
  intro c first
  have blank := blankAfter c (List.mem_of_mem_head? first)
  by_contra runs
  rw [isBlank_of_isRunChar (by simpa using runs)] at blank
  cases blank

variable (spelled : Run base run digits)

include spelled

theorem not_underscore_of_run (starts : run ++ after = c :: rest) : c ≠ '_' := by
  rintro rfl
  obtain ⟨first, others, rfl, isDigit⟩ := spelled.starts
  obtain ⟨rfl, _⟩ := List.cons.inj starts
  simp [digit?_underscore] at isDigit

/-- The second character of a run, or the first behind it, is no letter of a radix mark. -/
theorem not_mark_of_run {letter : Char} (blankAfter : Blank after)
    (starts : run ++ after = c :: letter :: rest) : letter ≠ 'x' ∧ letter ≠ 'X' := by
  have known : isRunChar base letter = true ∨ Text.isBlank letter = true := by
    obtain ⟨first, others, rfl, _⟩ := spelled.starts
    rw [List.cons_append] at starts
    obtain ⟨_, continued⟩ := List.cons.inj starts
    have member : letter ∈ others ++ after := by
      rw [continued]
      exact List.mem_cons_self ..
    rcases List.mem_append.mp member with member | member
    · exact .inl (spelled.isRunChar letter (by simp [member]))
    · exact .inr (blankAfter letter member)
  constructor
  · rintro rfl
    cases base <;> exact absurd known (by decide)
  · rintro rfl
    cases base <;> exact absurd known (by decide)

theorem dropRadixMark_run (blankAfter : Blank after) (marked : mark ∈ radixMarks base) :
    dropRadixMark base (mark ++ (run ++ after)) = run ++ after := by
  have bare : dropRadixMark base (run ++ after) = run ++ after := by
    unfold dropRadixMark
    split
    · rename_i starts
      exact absurd rfl (not_mark_of_run spelled blankAfter starts).1
    · rename_i starts
      exact absurd rfl (not_mark_of_run spelled blankAfter starts).2
    · rename_i starts
      exact absurd rfl (not_mark_of_run spelled blankAfter starts).1
    · rename_i starts
      exact absurd rfl (not_mark_of_run spelled blankAfter starts).2
    · rfl
  cases base with
  | decimal =>
      obtain rfl := List.mem_singleton.mp marked
      exact bare
  | hexadecimal =>
      -- Behind a mark without an underscore there is none, since the run begins with a digit.
      have unspaced (letter : Char) (isMark : letter = 'x' ∨ letter = 'X') :
          dropRadixMark .hexadecimal ('0' :: letter :: (run ++ after)) = run ++ after := by
        cases starts : run ++ after with
        | nil => rcases isMark with rfl | rfl <;> rfl
        | cons c rest =>
            have apart := not_underscore_of_run spelled starts
            rcases isMark with rfl | rfl <;> simp [dropRadixMark, apart]
      simp only [radixMarks, List.mem_cons, List.not_mem_nil, or_false] at marked
      rcases marked with rfl | rfl | rfl | rfl | rfl
      · exact bare
      · exact unspaced 'x' (.inl rfl)
      · exact unspaced 'X' (.inr rfl)
      · rfl
      · rfl

theorem unsigned_starts (after : List Char) (marked : mark ∈ radixMarks base) :
    ∃ c rest, mark ++ (run ++ after) = c :: rest ∧ isRunChar base c = true := by
  have bare : ∃ c rest, run ++ after = c :: rest ∧ isRunChar base c = true := by
    obtain ⟨c, rest, rfl, isDigit⟩ := spelled.starts
    exact ⟨c, rest ++ after, rfl, by simp [isRunChar, isDigit]⟩
  cases base with
  | decimal =>
      obtain rfl := List.mem_singleton.mp marked
      exact bare
  | hexadecimal =>
      simp only [radixMarks, List.mem_cons, List.not_mem_nil, or_false] at marked
      rcases marked with rfl | rfl | rfl | rfl | rfl
      · exact bare
      all_goals exact ⟨_, _, rfl, rfl⟩

theorem splitSign_signed (signed : (sign, negative) ∈ signs) (marked : mark ∈ radixMarks base) :
    splitSign (sign ++ (mark ++ (run ++ after))) = (negative, mark ++ (run ++ after)) := by
  obtain ⟨c, rest, starts, runs⟩ := unsigned_starts spelled after marked
  simp only [signs, List.mem_cons, List.not_mem_nil, or_false, Prod.mk.injEq] at signed
  rcases signed with ⟨rfl, rfl⟩ | ⟨rfl, rfl⟩ | ⟨rfl, rfl⟩
  · rw [List.nil_append, starts]
    unfold splitSign
    split
    · rename_i same
      obtain ⟨rfl, _⟩ := List.cons.inj same
      cases base <;> exact absurd runs (by decide)
    · rename_i same
      obtain ⟨rfl, _⟩ := List.cons.inj same
      cases base <;> exact absurd runs (by decide)
    · rfl
  · rfl
  · rfl

theorem dropWhile_blank (blankBefore : Blank before) (signed : (sign, negative) ∈ signs)
    (marked : mark ∈ radixMarks base) :
    (before ++ (sign ++ (mark ++ (run ++ after)))).dropWhile Text.isBlank =
      sign ++ (mark ++ (run ++ after)) := by
  obtain ⟨c, rest, starts, runs⟩ := unsigned_starts spelled after marked
  have unblank := isBlank_of_isRunChar runs
  rw [List.dropWhile_append_of_pos blankBefore, starts]
  simp only [signs, List.mem_cons, List.not_mem_nil, or_false, Prod.mk.injEq] at signed
  rcases signed with ⟨rfl, rfl⟩ | ⟨rfl, rfl⟩ | ⟨rfl, rfl⟩
  · exact List.dropWhile_cons_of_neg (by simp [unblank])
  · rfl
  · rfl

end Reading

/-- A literal is read as the number of its digits, if there are not too many of them. -/
theorem read_ok_iff {s : Text} :
    read base s = .ok value ↔
      ∃ negative digits, Writes base negative digits (s.map plainChar) ∧
        base.digitLimit?.any (· < digits.length) = false ∧
        value = if negative then -(ofDigits base digits : Int) else ofDigits base digits := by
  constructor
  · intro accepted
    simp only [read] at accepted
    set body := (s.map plainChar).dropWhile Text.isBlank with opened
    obtain ⟨sign, signed, same⟩ := splitSign_parts body
    obtain ⟨mark, marked, unmarked⟩ := dropRadixMark_parts base (splitSign body).2
    set unsigned := dropRadixMark base (splitSign body).2
    split at accepted
    · cases accepted
    · rename_i digits spelled
      have spelled := digitsOf_iff.1.mp spelled
      split at accepted
      · cases accepted
      · rename_i limited
        split at accepted
        · rename_i blankAfter
          have whole : s.map plainChar = (s.map plainChar).takeWhile Text.isBlank ++ (sign ++
              (mark ++ (unsigned.takeWhile (isRunChar base) ++
                unsigned.dropWhile (isRunChar base)))) := by
            rw [List.takeWhile_append_dropWhile, ← unmarked, ← same, opened,
              List.takeWhile_append_dropWhile]
          refine ⟨(splitSign body).1, digits, whole ▸ .parts
            (fun c member => List.mem_takeWhile_imp member) signed marked spelled
            (List.all_eq_true.mp blankAfter), by simpa using limited, ?_⟩
          exact (Except.ok.inj accepted).symm
        · cases accepted
  · rintro ⟨negative, digits, written, limited, rfl⟩
    simp only [read]
    generalize s.map plainChar = plain at written
    obtain ⟨blankBefore, signed, marked, spelled, blankAfter⟩ := written
    have taken := Text.takeWhile_run_append spelled.isRunChar (stops_of_blank blankAfter)
    have left := Text.dropWhile_run_append spelled.isRunChar (stops_of_blank blankAfter)
    rw [dropWhile_blank spelled blankBefore signed marked, splitSign_signed spelled signed marked]
    simp only [dropRadixMark_run spelled blankAfter marked, taken, left, digitsOf_iff.1.mpr spelled,
      limited, Bool.false_eq_true, if_false, List.all_eq_true.mpr blankAfter, if_true]

/-- A hyphen stays a hyphen, and nothing else becomes one. -/
theorem eq_hyphen_of_plainChar {c : CodePoint} (plain : plainChar c = '-') : c = '-' := by
  cases c with
  | surrogate offset => exact absurd plain (by simp [plainChar])
  | char c =>
      rw [plainChar] at plain
      split at plain
      · exact congrArg CodePoint.char plain
      · split at plain
        · exact absurd plain (by decide)
        · split at plain
          · rename_i value read
            obtain ⟨first, found, rfl⟩ := Option.map_eq_some_iff.mp read
            have small : c.toNat - first < 10 := by
              have within := List.find?_some found
              simp at within
              omega
            interval_cases c.toNat - first <;> exact absurd plain (by decide)
          · exact absurd plain (by decide)

theorem Writes.positive (written : Writes .hexadecimal negative digits s)
    (absent : '-' ∉ s) : negative = false := by
  obtain ⟨_, signed, _, _, _⟩ := written
  simp only [signs, List.mem_cons, List.not_mem_nil, or_false, Prod.mk.injEq] at signed
  rcases signed with ⟨rfl, rfl⟩ | ⟨rfl, rfl⟩ | ⟨rfl, rfl⟩
  · rfl
  · rfl
  · simp at absent

theorem Writes.small (written : Writes base negative digits s) :
    ∀ digit ∈ digits, digit < base.value := by
  obtain ⟨_, _, _, spelled, _⟩ := written
  exact digitsOf_lt (digitsOf_iff.1.mpr spelled)

theorem Writes.length_le (written : Writes base negative digits s) :
    digits.length ≤ s.length := by
  obtain ⟨_, _, _, spelled, _⟩ := written
  have short := length_digitsOf_le (digitsOf_iff.1.mpr spelled)
  simp only [List.length_append]
  omega

theorem run_of_digits (read : s.map hexValue? = digits.map some) (filled : s ≠ []) :
    Run .hexadecimal s digits :=
  digitsOf_iff.1.mp (digitsOf_of_map read (.inr filled))

/-- Digits are a literal with nothing around them. -/
theorem writes_of_digits (read : s.map hexValue? = digits.map some) (filled : s ≠ []) :
    Writes .hexadecimal false digits s := by
  have written : Writes .hexadecimal false digits ([] ++ ([] ++ ([] ++ (s ++ [])))) :=
    .parts (by simp [Blank]) (by simp [signs]) (by simp [radixMarks]) (run_of_digits read filled)
      (by simp [Blank])
  simpa using written

end ImageStages.Literal
