import Mathlib.Data.List.Basic
import Mathlib.Data.List.TakeWhile
import ImageStages.Proofs.Numeral.Magnitude
import ImageStages.Proofs.Template.Faults
import ImageStages.Proofs.Text.Runs

namespace ImageStages.Template

/-! How the directives are spelled that show a text.

A text is shown as it is, quoted, or, if it is a single character, as a character, and in each
case there may be flags, a width, a precision and a size letter before the letter of the
conversion.  No other directive of a template is filled with a text. -/

variable {reading left : Reading} {limit count : Nat} {digits after spec text : Text}
  {flags width precision size : Text} {letter : CodePoint}

/-- Digits of a number within the limit. -/
structure IsCount (limit : Nat) (digits : Text) : Prop where
  areDigits : ∀ c ∈ digits, c.isDigit = true
  bounded : Nat.ofDigitChars 10 digits.chars 0 ≤ limit

/-- A width does not begin with zero, which is a flag. -/
def IsWidth (width : Text) : Prop :=
  IsCount widthLimit width ∧ width.head? ≠ some (.char '0')

/-- A precision is a point and digits, if there is one. -/
def IsPrecision (precision : Text) : Prop :=
  precision = [] ∨ ∃ digits, precision = .char '.' :: digits ∧ IsCount precisionLimit digits

def IsSize (size : Text) : Prop :=
  size = [] ∨ ∃ c, size = [c] ∧ (c = 'h' ∨ c = 'l' ∨ c = 'L')

/-- The letter of a conversion that takes the text. -/
def TakesText (text : Text) (letter : CodePoint) : Prop :=
  letter = 's' ∨ letter = 'r' ∨ letter = 'a' ∨ (letter = 'c' ∧ text.length = 1)

/-- What stands behind the percent sign of a directive that shows the text. -/
inductive ShowsText (text : Text) : Text → Prop where
  | spelled {flags width precision size : Text} {letter : CodePoint}
      (areFlags : ∀ c ∈ flags, isFlag c = true) (isWidth : IsWidth width)
      (isPrecision : IsPrecision precision) (isSize : IsSize size)
      (takes : TakesText text letter) :
      ShowsText text (flags ++ (width ++ (precision ++ (size ++ [letter]))))

/-- The letter may stand alone. -/
theorem ShowsText.ofTakesText (takes : TakesText text letter) : ShowsText text [letter] := by
  have noWidth : IsWidth [] := ⟨⟨by simp, by decide⟩, by simp⟩
  have noFlags : ∀ c ∈ ([] : Text), isFlag c = true := by simp
  exact .spelled noFlags noWidth (.inl rfl) (.inl rfl) takes

section Count

theorem readCount_concat (digits : Text) (c : CodePoint) :
    readCount limit (digits ++ [c]) = (readCount limit digits).bind fun count =>
      if count ≤ (limit - (c.toNat - '0'.toNat)) / 10 then
        some (count * 10 + (c.toNat - '0'.toNat)) else none := by
  simp [readCount, List.foldl_append]

/-- Digits are counted up to the limit, which is passed for good as soon as it is passed. -/
theorem readCount_eq (wide : 9 ≤ limit) (areDigits : ∀ c ∈ digits, c.isDigit = true) :
    readCount limit digits =
      if Nat.ofDigitChars 10 digits.chars 0 ≤ limit then
        some (Nat.ofDigitChars 10 digits.chars 0)
      else none := by
  induction digits using List.reverseRecOn with
  | nil => simp [readCount, Text.chars]
  | append_singleton before last ih =>
      obtain ⟨digit, rfl, isDigit⟩ := CodePoint.isDigit_iff.mp (areDigits last (by simp))
      have small := isDigit_toNat isDigit
      have value : Nat.ofDigitChars 10 (Text.chars (before ++ [.char digit])) 0 =
          10 * Nat.ofDigitChars 10 (Text.chars before) 0 + (digit.toNat - '0'.toNat) := by
        rw [Text.chars_append, Nat.ofDigitChars_append]
        exact Nat.ofDigitChars_cons
      rw [readCount_concat, CodePoint.toNat_char,
        ih fun c member => areDigits c (by simp [member]), value]
      split
      · simp only [Option.bind_some]
        split <;> split <;> simp <;> omega
      · rw [if_neg (by omega)]
        rfl

end Count

/-- A text is no count of a star, and gives no key. -/
theorem takeCount_fails (holds : reading.argument.HoldsText) (least greatest : Int)
    (tooBig : String) : ∃ fault, takeCount reading least greatest tooBig = .error fault := by
  obtain ⟨text, current⟩ := holds.current
  cases used : reading.argument.used <;>
    simp [takeCount, Argument.take, used, current, Scalar.int?]

theorem readKey_ok_iff (holds : reading.argument.HoldsText) :
    readKey reading = .ok left ↔ reading.rest.head? ≠ some (.char '(') ∧ left = reading := by
  unfold readKey
  split
  · rename_i rest opened
    simp [holds.isMapping_eq_false, opened]
  · rename_i unopened
    have apart : reading.rest.head? ≠ some (.char '(') := by
      intro first
      obtain ⟨rest, opened⟩ := List.head?_eq_some_iff.mp first
      exact unopened rest opened
    simp [apart, eq_comm]

section Parts

variable {directive : Directive} {found flagsRead : Flags} {widthRead precisionRead : Option Nat}

theorem isCount_of_readCount (wide : 9 ≤ limit) (areDigits : ∀ c ∈ digits, c.isDigit = true)
    (read : readCount limit digits = some count) : IsCount limit digits := by
  refine ⟨areDigits, ?_⟩
  rw [readCount_eq wide areDigits] at read
  by_contra passed
  rw [if_neg passed] at read
  cases read

theorem width_of_readWidth (holds : reading.argument.HoldsText)
    (unflagged : Text.Stops isFlag reading.rest)
    (read : readWidth flagsRead reading = .ok (found, widthRead, left)) :
    ∃ width, reading.rest = width ++ left.rest ∧ IsWidth width := by
  unfold readWidth at read
  split at read
  · obtain ⟨fault, failed⟩ := takeCount_fails holds (-(widthLimit + 1 : Nat)) widthLimit
      "Python int too large to convert to C ssize_t"
    rw [failed] at read
    cases read
  · simp only at read
    split at read
    · obtain ⟨_, _, rfl⟩ : _ ∧ _ ∧ reading = left := by simpa using read
      exact ⟨[], rfl, ⟨by simp, Nat.zero_le _⟩, by simp⟩
    · split at read
      · cases read
      · rename_i width counted
        obtain ⟨_, _, rfl⟩ : _ ∧ _ ∧
            reading.advance (reading.rest.dropWhile CodePoint.isDigit) = left := by simpa using read
        refine ⟨_, List.takeWhile_append_dropWhile.symm, isCount_of_readCount (by decide)
          (fun c member => List.mem_takeWhile_imp member) counted, fun zero => ?_⟩
        obtain ⟨rest, starts⟩ := List.head?_eq_some_iff.mp zero
        have first : reading.rest.head? = some (.char '0') := by
          rw [← List.takeWhile_append_dropWhile (p := CodePoint.isDigit) (l := reading.rest),
            starts]
          rfl
        exact absurd (unflagged (.char '0') first) (by decide)

theorem precision_of_readPrecision (holds : reading.argument.HoldsText)
    (read : readPrecision reading = .ok (precisionRead, left)) :
    ∃ precision, reading.rest = precision ++ left.rest ∧ IsPrecision precision := by
  unfold readPrecision at read
  split at read
  · obtain ⟨fault, failed⟩ := takeCount_fails holds (-(precisionLimit + 1 : Nat)) precisionLimit
      "Python int too large to convert to C int"
    rw [failed] at read
    cases read
  · rename_i rest _ opened
    split at read
    · cases read
    · rename_i precision counted
      obtain ⟨_, rfl⟩ : _ ∧ reading.advance (rest.dropWhile CodePoint.isDigit) = left := by
        simpa using read
      refine ⟨.char '.' :: rest.takeWhile CodePoint.isDigit, ?_, .inr ⟨_, rfl, isCount_of_readCount
        (by decide) (fun c member => List.mem_takeWhile_imp member) counted⟩⟩
      simp [opened, Reading.advance]
  · obtain ⟨_, rfl⟩ : _ ∧ reading = left := by simpa using read
    exact ⟨[], rfl, .inl rfl⟩

theorem size_of_dropSizeLetter (s : Text) :
    ∃ size, s = size ++ dropSizeLetter s ∧ IsSize size := by
  cases s with
  | nil => exact ⟨[], rfl, .inl rfl⟩
  | cons c rest =>
      by_cases letter : c = 'h' ∨ c = 'l' ∨ c = 'L'
      · exact ⟨[c], by simp [dropSizeLetter, letter], .inr ⟨c, rfl, letter⟩⟩
      · exact ⟨[], by simp [dropSizeLetter, letter], .inl rfl⟩

/-- A directive that is read consists of its parts. -/
theorem parts_of_readDirective (holds : reading.argument.HoldsText)
    (read : readDirective reading = .ok (directive, left)) :
    ∃ flags width precision size,
      reading.rest = flags ++ (width ++ (precision ++ (size ++ directive.letter :: left.rest))) ∧
      (∀ c ∈ flags, isFlag c = true) ∧ IsWidth width ∧ IsPrecision precision ∧ IsSize size := by
  simp only [readDirective, Except.bind_eq_ok_iff] at read
  obtain ⟨keyed, keyless, ⟨found, widthRead, widened⟩, counted, ⟨precisionRead, cut⟩, pointed,
    read⟩ := read
  obtain ⟨_, rfl⟩ := (readKey_ok_iff holds).mp keyless
  have flagged : (readFlags keyed).2.argument.HoldsText := holds
  have kept := readWidth_keeps flagged (readFlags keyed).1
  rw [counted, keeps_ok] at kept
  obtain ⟨width, afterFlags, isWidth⟩ :=
    width_of_readWidth flagged (Text.stops_dropWhile keyed.rest) counted
  obtain ⟨precision, afterWidth, isPrecision⟩ :=
    precision_of_readPrecision (kept ▸ flagged) pointed
  obtain ⟨size, afterPrecision, isSize⟩ := size_of_dropSizeLetter cut.rest
  refine ⟨keyed.rest.takeWhile isFlag, width, precision, size, ?_,
    fun c member => List.mem_takeWhile_imp member, isWidth, isPrecision, isSize⟩
  have final : dropSizeLetter cut.rest = directive.letter :: left.rest := by
    simp only [Reading.advance] at read
    split at read
    · cases read
    · rename_i letter rest starts
      cases read
      exact starts
  rw [← final, ← afterPrecision, ← afterWidth, ← afterFlags]
  exact List.takeWhile_append_dropWhile.symm

end Parts

section Spelled

variable {rest : Text}

/-- What may stand at the start of a directive behind its precision. -/
def lateOpeners : Text :=
  ['h', 'l', 'L', 's', 'r', 'a', 'c']

/-- What may stand there behind its width. -/
def openers : Text :=
  .char '.' :: lateOpeners

theorem opener_of_isSize (after : Text) (isSize : IsSize size)
    (takes : TakesText text letter) :
    ∀ c ∈ (size ++ letter :: after).head?, c ∈ lateOpeners := by
  rcases isSize with rfl | ⟨c, rfl, rfl | rfl | rfl⟩
  · rcases takes with rfl | rfl | rfl | ⟨rfl, _⟩ <;> simp [lateOpeners]
  all_goals simp [lateOpeners]

theorem opener_of_isPrecision (isPrecision : IsPrecision precision)
    (late : ∀ c ∈ rest.head?, c ∈ lateOpeners) :
    ∀ c ∈ (precision ++ rest).head?, c ∈ openers := by
  rcases isPrecision with rfl | ⟨digits, rfl, _⟩
  · exact fun c first => List.mem_cons_of_mem _ (late c first)
  · simp [openers]

theorem opener_of_digits (areDigits : ∀ c ∈ digits, c.isDigit = true)
    (opens : ∀ c ∈ rest.head?, c ∈ openers) :
    ∀ c ∈ (digits ++ rest).head?, c.isDigit = true ∨ c ∈ openers := by
  cases digits with
  | nil => exact fun c first => .inr (opens c first)
  | cons c others => simpa using .inl (areDigits c (by simp))

theorem not_opener_of_digits {c : CodePoint} (areDigits : ∀ c ∈ digits, c.isDigit = true)
    (opens : ∀ c ∈ rest.head?, c ∈ openers) (other : c.isDigit = false ∧ c ∉ openers) :
    c ∉ (digits ++ rest).head? := by
  intro first
  rcases opener_of_digits areDigits opens c first with isDigit | member
  · simp [other.1] at isDigit
  · exact other.2 member

theorem stops_of_openers {sort : CodePoint → Bool} (others : openers.any sort = false)
    (opens : ∀ c ∈ rest.head?, c ∈ openers) : Text.Stops sort rest := by
  intro c first
  simpa using List.any_eq_false.mp others c (opens c first)

theorem eq_zero_of_isFlag {c : CodePoint} (flag : isFlag c = true) (isDigit : c.isDigit = true) :
    c = '0' := by
  simp only [isFlag, Bool.or_eq_true, beq_iff_eq] at flag
  rcases flag with (((rfl | rfl) | rfl) | rfl) | rfl
  all_goals first | rfl | exact absurd isDigit (by decide)

theorem unflagged_of_isWidth (isWidth : IsWidth width) (opens : ∀ c ∈ rest.head?, c ∈ openers) :
    Text.Stops isFlag (width ++ rest) := by
  cases width with
  | nil => exact stops_of_openers (by decide) opens
  | cons c others =>
      rw [List.cons_append, Text.stops_cons]
      by_contra flag
      have zero := eq_zero_of_isFlag (by simpa using flag) (isWidth.1.areDigits c (by simp))
      exact isWidth.2 (congrArg some zero)

theorem readWidth_spelled (flagsRead : Flags) (isWidth : IsWidth width)
    (opens : ∀ c ∈ rest.head?, c ∈ openers) (spelled : reading.rest = width ++ rest) :
    ∃ widthRead, readWidth flagsRead reading =
      .ok (flagsRead, widthRead, reading.advance rest) := by
  have stops : Text.Stops CodePoint.isDigit rest := stops_of_openers (by decide) opens
  have taken := Text.takeWhile_run_append isWidth.1.areDigits stops
  have dropped := Text.dropWhile_run_append isWidth.1.areDigits stops
  unfold readWidth
  split
  · rename_i others starts
    refine absurd ?_ (not_opener_of_digits isWidth.1.areDigits opens (c := .char '*') (by decide))
    rw [← spelled, starts]
    rfl
  · simp only [spelled, taken, dropped]
    split
    · rename_i empty
      obtain rfl : width = [] := by simpa using empty
      exact ⟨none, by rw [Reading.advance, ← List.nil_append rest, ← spelled]⟩
    · rw [readCount_eq (by decide) isWidth.1.areDigits, if_pos isWidth.1.bounded]
      exact ⟨_, rfl⟩

theorem readPrecision_spelled (reading : Reading) (isPrecision : IsPrecision precision)
    (late : ∀ c ∈ rest.head?, c ∈ lateOpeners) (spelled : reading.rest = precision ++ rest) :
    ∃ precisionRead, readPrecision reading = .ok (precisionRead, reading.advance rest) := by
  have opens : ∀ c ∈ rest.head?, c ∈ openers := fun c first => List.mem_cons_of_mem _ (late c first)
  rcases isPrecision with rfl | ⟨digits, rfl, counted⟩
  · refine ⟨none, ?_⟩
    have unmoved : reading.advance rest = reading := by
      rw [← List.nil_append rest, ← spelled]
      rfl
    have unpointed (others : Text) : reading.rest ≠ .char '.' :: others := by
      rintro starts
      refine absurd (late (.char '.') ?_) (by decide)
      rw [← List.nil_append rest, ← spelled, starts]
      rfl
    simp only [readPrecision, unmoved]
    split
    · rename_i starts
      exact absurd starts (unpointed _)
    · rename_i starts
      exact absurd starts (unpointed _)
    · rfl
  · have spelled : reading.rest = .char '.' :: (digits ++ rest) := spelled
    have stops : Text.Stops CodePoint.isDigit rest := stops_of_openers (by decide) opens
    have taken := Text.takeWhile_run_append counted.areDigits stops
    have dropped := Text.dropWhile_run_append counted.areDigits stops
    unfold readPrecision
    split
    · rename_i others starts
      refine absurd ?_ (not_opener_of_digits counted.areDigits opens (c := .char '*') (by decide))
      obtain ⟨_, starred⟩ := List.cons.inj (spelled.symm.trans starts)
      rw [starred]
      rfl
    · rename_i others _ starts
      obtain ⟨_, rfl⟩ := List.cons.inj (spelled.symm.trans starts)
      rw [taken, dropped, readCount_eq (by decide) counted.areDigits, if_pos counted.bounded]
      exact ⟨_, rfl⟩
    · rename_i unpointed
      exact absurd spelled (unpointed _)

theorem dropSizeLetter_spelled (after : Text) (isSize : IsSize size)
    (takes : TakesText text letter) :
    dropSizeLetter (size ++ letter :: after) = letter :: after := by
  rcases isSize with rfl | ⟨c, rfl, kind⟩
  · rcases takes with rfl | rfl | rfl | ⟨rfl, _⟩ <;> rfl
  · simp [dropSizeLetter, kind]

/-- A directive of these parts is read up to its letter. -/
theorem readDirective_spelled (holds : reading.argument.HoldsText)
    (areFlags : ∀ c ∈ flags, isFlag c = true) (isWidth : IsWidth width)
    (isPrecision : IsPrecision precision) (isSize : IsSize size) (takes : TakesText text letter)
    (spelled : reading.rest = flags ++ (width ++ (precision ++ (size ++ letter :: after)))) :
    ∃ directive, readDirective reading = .ok (directive, reading.advance after) ∧
      directive.letter = letter := by
  have late := opener_of_isSize after isSize takes
  have opens := opener_of_isPrecision isPrecision late
  have unflagged := unflagged_of_isWidth isWidth opens
  have keyless : reading.rest.head? ≠ some (.char '(') := by
    rw [spelled]
    cases flags with
    | nil =>
        rw [List.nil_append]
        exact not_opener_of_digits isWidth.1.areDigits opens (by decide)
    | cons c others =>
        intro first
        obtain rfl : c = '(' := by simpa using first
        exact absurd (areFlags (.char '(') (by simp)) (by decide)
  have dropped := Text.dropWhile_run_append areFlags unflagged
  have unflaggedRest : (readFlags reading).2.rest =
      width ++ (precision ++ (size ++ letter :: after)) := by
    simp only [readFlags, spelled, dropped, Reading.advance]
  obtain ⟨widthRead, counted⟩ :=
    readWidth_spelled (readFlags reading).1 isWidth opens unflaggedRest
  obtain ⟨precisionRead, pointed⟩ :=
    readPrecision_spelled ((readFlags reading).2.advance (precision ++ (size ++ letter :: after)))
      isPrecision late rfl
  have final := dropSizeLetter_spelled after isSize takes
  simp only [readDirective, (readKey_ok_iff holds).mpr ⟨keyless, rfl⟩, Except.ok_bind, counted,
    pointed]
  simp only [Reading.advance, final]
  exact ⟨_, rfl, rfl⟩

end Spelled

end ImageStages.Template
