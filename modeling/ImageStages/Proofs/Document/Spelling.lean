import Mathlib.Data.List.Chain
import Mathlib.Tactic.IntervalCases
import ImageStages.Document.Reader
import ImageStages.Document.Writer
import ImageStages.Proofs.Results

namespace ImageStages

/-! What is written for a text or for an integer is read back as it.

Reading a code point of a text takes what was written for it, whether it stands for itself
or is escaped.  Only a first half of a pair before a second one is read otherwise: the two
are one character.  Reading an integer takes its digits up to what cannot continue a number. -/

/-- A digit more at the end is one more of the width. -/
theorem Text.hexDigits_succ {width : Nat} (filled : 0 < width) (value : Nat) :
    Text.hexDigits (width + 1) value =
      Text.hexDigits width (value / 16) ++ [Nat.digitChar (value % 16)] := by
  by_cases below : value < 16
  · have none : value / 16 = 0 := Nat.div_eq_of_lt below
    obtain ⟨width, rfl⟩ : ∃ less, width = less + 1 := ⟨width - 1, by omega⟩
    simp [hexDigits, none, Nat.toDigits_of_lt_base below, Nat.mod_eq_of_lt below,
      Nat.toDigits_zero, List.replicate_succ']
  · have split := Nat.toDigits_of_base_le (b := 16) (n := value) (by omega) (by omega)
    simp [hexDigits, split]

/-- No first half of a pair stands directly before a second half of one. -/
def Text.Unsplit (text : Text) : Prop :=
  text.IsChain fun first second =>
    Json.isHighSurrogate first.toNat = true → Json.isLowSurrogate second.toNat = false

instance (text : Text) : Decidable text.Unsplit :=
  inferInstanceAs (Decidable (text.IsChain _))

theorem Json.isHighSurrogate_char (c : Char) : isHighSurrogate c.toNat = false := by
  have valid : c.toNat < 0xd800 ∨ 0xdfff < c.toNat ∧ c.toNat < 0x110000 := c.valid
  simp only [isHighSurrogate, Bool.and_eq_false_iff, decide_eq_false_iff_not]
  omega

theorem Text.unsplit_ofChars (s : List Char) : (ofChars s).Unsplit := by
  induction s with
  | nil => exact .nil
  | cons c rest ih =>
      refine List.isChain_cons.mpr ⟨fun second _ high => ?_, ih⟩
      rw [CodePoint.toNat_char, Json.isHighSurrogate_char] at high
      cases high

@[simp] theorem Text.unsplit_nil : Text.Unsplit [] := .nil

@[simp] theorem Text.unsplit_ofString (s : String) : (ofString s).Unsplit :=
  unsplit_ofChars s.toList

theorem Literal.hexValue?_digitChar {digit : Nat} (below : digit < 16) :
    hexValue? (Nat.digitChar digit) = some digit := by
  interval_cases digit <;> rfl

namespace Json

open Text (doubleQuote)

variable {index start fuel : Nat} {c : Char} {rest : List Char}

section Hex

/-- The digits of a unit, and what they are read as. -/
theorem hexDigits_unit {unit : Nat} (below : unit < 0x10000) :
    ∃ first second third fourth, Text.hexDigits 4 unit = [first, second, third, fourth] ∧
      hexUnit? first second third fourth = some unit := by
  have last : Text.hexDigits 1 (unit / 16 / 16 / 16) =
      [Nat.digitChar (unit / 16 / 16 / 16)] := by
    simp [Text.hexDigits, Nat.toDigits_of_lt_base (show unit / 16 / 16 / 16 < 16 by omega)]
  refine ⟨Nat.digitChar (unit / 16 / 16 / 16), Nat.digitChar (unit / 16 / 16 % 16),
    Nat.digitChar (unit / 16 % 16), Nat.digitChar (unit % 16), ?_, ?_⟩
  · rw [Text.hexDigits_succ (by omega), Text.hexDigits_succ (by omega),
      Text.hexDigits_succ (by omega), last]
    rfl
  · simp only [hexUnit?, Literal.hexValue?_digitChar (show unit / 16 / 16 / 16 < 16 by omega),
      Literal.hexValue?_digitChar (Nat.mod_lt _ (show 0 < 16 by omega)), Option.bind_eq_bind,
      Option.bind_some, Option.pure_def, Option.some.injEq]
    omega

theorem unitEscape_eq {unit : Nat} (below : unit < 0x10000) :
    ∃ first second third fourth,
      unitEscape unit = ['\\', 'u', first, second, third, fourth] ∧
      hexUnit? first second third fourth = some unit := by
  obtain ⟨first, second, third, fourth, spelled, read⟩ := hexDigits_unit below
  exact ⟨first, second, third, fourth, by rw [unitEscape, spelled], read⟩

end Hex

section Chars

/-- A code point that was read stands before the rest of the text. -/
def before (c : CodePoint) (read : Except ReadFault (Text × Cursor)) :
    Except ReadFault (Text × Cursor) :=
  read.map fun read => (c :: read.1, read.2)

theorem readChars_plain (unquoted : c ≠ doubleQuote) (unescaped : c ≠ '\\')
    (printed : 0x20 ≤ c.toNat) :
    readChars (fuel + 1) start ⟨index, c :: rest⟩ =
      before (.char c) (readChars fuel start ⟨index + 1, rest⟩) := by
  have control : ¬ c.toNat ≤ 0x1f := by omega
  simp only [readChars, unquoted, unescaped, control, if_false]
  cases readChars fuel start ⟨index + 1, rest⟩ <;> rfl

theorem readChars_escaped {letter : Char} (noUnit : letter ≠ 'u')
    (escape : plainEscape? letter = some c) :
    readChars (fuel + 1) start ⟨index, '\\' :: letter :: rest⟩ =
      before (.char c) (readChars fuel start ⟨index + 2, rest⟩) := by
  have unquoted : '\\' ≠ doubleQuote := by decide
  simp only [readChars, unquoted, if_false, if_true]
  split
  · cases ‹_›
  · rename_i spelled
    exact absurd (List.cons.inj spelled).1 noUnit
  · rename_i spelled
    obtain ⟨rfl, rfl⟩ := List.cons.inj spelled
    simp only [noUnit, if_false, escape]
    cases readChars fuel start ⟨index + 2, _⟩ <;> rfl

/-- What follows does not go on as the second half of a pair. -/
def Alone (rest : List Char) : Prop :=
  ∀ index, lowHalf index rest = .ok none

/-- A unit is a code point by itself, if it is not the first half of a pair. -/
theorem readChars_unit {unit : Nat} {next : Char} (below : unit < 0x10000)
    (alone : isHighSurrogate unit = true → Alone (next :: rest)) :
    readChars (fuel + 1) start ⟨index, unitEscape unit ++ next :: rest⟩ =
      before (.ofNat unit) (readChars fuel start ⟨index + 6, next :: rest⟩) := by
  obtain ⟨first, second, third, fourth, spelled, read⟩ := unitEscape_eq below
  have unquoted : '\\' ≠ doubleQuote := by decide
  rw [spelled]
  simp only [readChars, List.cons_append, List.nil_append, unquoted, if_false, if_true, read]
  by_cases high : isHighSurrogate unit = true
  · simp only [high, if_true, alone high (index + 6), Except.ok_bind]
    cases readChars fuel start ⟨index + 6, next :: rest⟩ <;> rfl
  · simp only [high, Bool.false_eq_true, if_false]
    cases readChars fuel start ⟨index + 6, next :: rest⟩ <;> rfl

/-- The two halves of a pair are one character. -/
theorem readChars_pair {high low : Nat} {next : Char} (first : isHighSurrogate high = true)
    (second : isLowSurrogate low = true) :
    readChars (fuel + 1) start
        ⟨index, unitEscape high ++ (unitEscape low ++ next :: rest)⟩ =
      before (pairChar high low) (readChars fuel start ⟨index + 12, next :: rest⟩) := by
  have bounds : high < 0x10000 ∧ low < 0x10000 := by
    simp only [isHighSurrogate, isLowSurrogate, Bool.and_eq_true, decide_eq_true_eq] at first second
    omega
  obtain ⟨a, b, c, d, spelled, read⟩ := unitEscape_eq bounds.1
  obtain ⟨a', b', c', d', spelledLow, readLow⟩ := unitEscape_eq bounds.2
  have unquoted : '\\' ≠ doubleQuote := by decide
  rw [spelled, spelledLow]
  simp only [readChars, List.cons_append, List.nil_append, unquoted, if_false, if_true, read, first,
    lowHalf, readLow, second, Except.ok_bind, List.drop_succ_cons, List.drop_zero]
  cases readChars fuel start ⟨index + 12, next :: rest⟩ <;> rfl

variable {point : CodePoint}

/-- The escapes of the units of a code point are read as it. -/
theorem readChars_units {next : Char}
    (alone : isHighSurrogate point.toNat = true → Alone (next :: rest)) :
    ∃ stop, readChars (fuel + 1) start
        ⟨index, (utf16Units point.toNat).flatMap unitEscape ++ next :: rest⟩ =
      before point (readChars fuel start ⟨stop, next :: rest⟩) := by
  have valid := point.toNat_lt
  by_cases short : point.toNat < 0x10000
  · refine ⟨index + 6, ?_⟩
    rw [utf16Units, if_pos short, List.flatMap_singleton, readChars_unit short alone,
      point.ofNat_toNat]
  · have first : isHighSurrogate (0xd800 + (point.toNat - 0x10000) / 0x400) = true := by
      simp only [isHighSurrogate, Bool.and_eq_true, decide_eq_true_eq]
      omega
    have second : isLowSurrogate (0xdc00 + (point.toNat - 0x10000) % 0x400) = true := by
      simp only [isLowSurrogate, Bool.and_eq_true, decide_eq_true_eq]
      omega
    have whole : pairChar (0xd800 + (point.toNat - 0x10000) / 0x400)
        (0xdc00 + (point.toNat - 0x10000) % 0x400) = point := by
      have sum : 0x10000 + (0xd800 + (point.toNat - 0x10000) / 0x400 - 0xd800) * 0x400 +
          (0xdc00 + (point.toNat - 0x10000) % 0x400 - 0xdc00) = point.toNat := by omega
      rw [pairChar, sum]
      exact point.ofNat_toNat
    refine ⟨index + 12, ?_⟩
    rw [utf16Units, if_neg short, List.flatMap_cons, List.flatMap_singleton, List.append_assoc,
      readChars_pair first second, whole]

/-- A character with a short form is written as itself, or by the letter of an escape. -/
inductive ShortForm (c : Char) : List Char → Prop where
  | itself (unquoted : c ≠ doubleQuote) (unescaped : c ≠ '\\') (printed : 0x20 ≤ c.toNat) :
      ShortForm c [c]
  | letter {letter : Char} (noUnit : letter ≠ 'u') (escape : plainEscape? letter = some c) :
      ShortForm c ['\\', letter]

theorem plainJson?_shortForm {spelled : List Char} (short : plainJson? c = some spelled) :
    ShortForm c spelled := by
  unfold plainJson? at short
  split at short
  · rename_i marked
    obtain rfl := Option.some.inj short
    rcases marked with rfl | rfl
    · exact .letter (by decide) (by decide)
    · exact .letter (by decide) (by decide)
  split at short
  · rename_i same
    obtain rfl := Option.some.inj short
    exact .letter (by decide) (same ▸ by decide)
  split at short
  · rename_i same
    obtain rfl := Option.some.inj short
    exact .letter (by decide) (same ▸ by decide)
  split at short
  · rename_i same
    obtain rfl := Option.some.inj short
    exact .letter (by decide) (same ▸ by decide)
  split at short
  · rename_i same
    obtain rfl : c = '\x0c' := Char.toNat_inj.mp same
    obtain rfl := Option.some.inj short
    exact .letter (by decide) (by decide)
  split at short
  · rename_i same
    obtain rfl : c = '\x08' := Char.toNat_inj.mp same
    obtain rfl := Option.some.inj short
    exact .letter (by decide) (by decide)
  split at short
  · rename_i unmarked _ _ _ _ _ printable
    obtain rfl := Option.some.inj short
    simp only [Text.isPrintableAscii, Bool.and_eq_true, decide_eq_true_eq] at printable
    exact .itself (fun quoted => unmarked (.inl quoted)) (fun escaped => unmarked (.inr escaped))
      printable.1
  · cases short

/-- A code point is written in its short form, or by its units. -/
theorem jsonChar_cases (point : CodePoint) :
    (∃ c, point = .char c ∧ ShortForm c (jsonChar point)) ∨
      jsonChar point = (utf16Units point.toNat).flatMap unitEscape := by
  cases point with
  | surrogate offset => exact .inr rfl
  | char c =>
      cases short : plainJson? c with
      | none => exact .inr (by simp [jsonChar, CodePoint.char?, short])
      | some spelled =>
          refine .inl ⟨c, rfl, ?_⟩
          have written : jsonChar (.char c) = spelled := by
            simp [jsonChar, CodePoint.char?, short]
          rw [written]
          exact plainJson?_shortForm short

/-- What was written for a code point is read as it, wherever the text goes on. -/
theorem readChars_jsonChar (fuel start index : Nat) {next : Char}
    (alone : isHighSurrogate point.toNat = true → Alone (next :: rest)) :
    ∃ stop, readChars (fuel + 1) start ⟨index, jsonChar point ++ next :: rest⟩ =
      before point (readChars fuel start ⟨stop, next :: rest⟩) := by
  rcases jsonChar_cases point with ⟨c, rfl, short⟩ | units
  · generalize jsonChar c = spelled at short
    cases short with
    | itself unquoted unescaped printed =>
        exact ⟨_, readChars_plain unquoted unescaped printed⟩
    | letter noUnit escape => exact ⟨_, readChars_escaped noUnit escape⟩
  · rw [units]
    exact readChars_units alone

theorem alone_of_ne {next : Char} (plain : next ≠ '\\') : Alone (next :: rest) := by
  intro index
  unfold lowHalf
  split
  · exact absurd (List.cons.inj ‹_›).1 plain
  · rfl

theorem alone_of_letter {letter : Char} (noUnit : letter ≠ 'u') :
    Alone ('\\' :: letter :: rest) := by
  intro index
  unfold lowHalf
  split
  · exact absurd (List.cons.inj (List.cons.inj ‹_›).2).1 noUnit
  · rfl

theorem alone_of_unit {unit : Nat} (below : unit < 0x10000)
    (whole : isLowSurrogate unit = false) (follows : List Char) :
    Alone (unitEscape unit ++ follows) := by
  obtain ⟨first, second, third, fourth, spelled, read⟩ := unitEscape_eq below
  intro index
  rw [spelled]
  cases follows with
  | nil => rfl
  | cons next rest => simp [lowHalf, read, whole]

/-- The spelling of a code point that is no second half of a pair. -/
theorem alone_of_jsonChar (whole : isLowSurrogate point.toNat = false) :
    Alone (jsonChar point ++ rest) := by
  rcases jsonChar_cases point with ⟨c, rfl, short⟩ | units
  · generalize jsonChar c = spelled at short
    cases short with
    | itself unquoted unescaped printed => exact alone_of_ne unescaped
    | letter noUnit escape => exact alone_of_letter noUnit
  · have valid := point.toNat_lt
    rw [units, utf16Units]
    split
    · rw [List.flatMap_singleton]
      exact alone_of_unit ‹_› whole rest
    · rw [List.flatMap_cons, List.append_assoc]
      refine alone_of_unit (by omega) ?_ _
      simp only [isLowSurrogate, Bool.and_eq_false_iff, decide_eq_false_iff_not]
      omega

theorem readChars_spelled (fuel start index : Nat) (rest : List Char) {text : Text}
    (unsplit : text.Unsplit) (enough : text.length < fuel) :
    ∃ stop, readChars fuel start ⟨index, text.flatMap jsonChar ++ doubleQuote :: rest⟩ =
      .ok (text, ⟨stop, rest⟩) := by
  induction text generalizing fuel index with
  | nil =>
      obtain ⟨fuel, rfl⟩ : ∃ less, fuel = less + 1 := ⟨fuel - 1, by simp at enough; omega⟩
      exact ⟨index + 1, by simp [readChars]⟩
  | cons point others ih =>
      obtain ⟨fuel, rfl⟩ : ∃ less, fuel = less + 1 := ⟨fuel - 1, by simp at enough; omega⟩
      have alone (high : isHighSurrogate point.toNat = true) :
          Alone (others.flatMap jsonChar ++ doubleQuote :: rest) := by
        cases others with
        | nil => exact alone_of_ne (by decide)
        | cons second others =>
            rw [List.flatMap_cons, List.append_assoc]
            exact alone_of_jsonChar ((List.isChain_cons_cons.mp unsplit).1 high)
      obtain ⟨next, remaining, follows⟩ : ∃ next remaining,
          others.flatMap jsonChar ++ doubleQuote :: rest = next :: remaining :=
        List.exists_cons_of_ne_nil (by simp)
      obtain ⟨middle, first⟩ :=
        readChars_jsonChar fuel start index (follows ▸ alone)
      obtain ⟨stop, read⟩ := ih fuel middle unsplit.tail (by simpa using enough)
      refine ⟨stop, ?_⟩
      rw [List.flatMap_cons, List.append_assoc, follows, first, ← follows, read]
      rfl

theorem readText_spelled (fuel index : Nat) (rest : List Char) {text : Text}
    (unsplit : text.Unsplit) (enough : text.length < fuel) :
    ∃ stop, readText fuel ⟨index, text.flatMap jsonChar ++ doubleQuote :: rest⟩ =
      .ok (text, ⟨stop, rest⟩) :=
  readChars_spelled fuel (index - 1) index rest unsplit enough

end Chars

section Numbers

variable {magnitude : Nat}

/-- Nothing at the start of the text continues a number. -/
def EndsNumber (rest : List Char) : Prop :=
  ∀ c ∈ rest.head?, c.isDigit = false ∧ c ≠ '.' ∧ c ≠ 'e' ∧ c ≠ 'E'

theorem EndsNumber.takeWhile (ends : EndsNumber rest) : rest.takeWhile Char.isDigit = [] := by
  cases rest with
  | nil => rfl
  | cons c others => simp [(ends c rfl).1]

theorem EndsNumber.fractionPart (ends : EndsNumber rest) : fractionPart rest = [] := by
  unfold Json.fractionPart
  split
  · exact absurd rfl (ends '.' rfl).2.1
  · rfl

theorem EndsNumber.exponentPart (ends : EndsNumber rest) : exponentPart rest = none := by
  cases rest with
  | nil => rfl
  | cons c others =>
      obtain ⟨_, _, lower, upper⟩ := ends c rfl
      simp [Json.exponentPart, lower, upper]

/-- Only zero is written with a leading zero. -/
theorem toDigits_first (magnitude : Nat) :
    ∃ first others, Nat.toDigits 10 magnitude = first :: others ∧ first.isDigit = true ∧
      (first = '0' → magnitude = 0) := by
  induction magnitude using Nat.strongRecOn with
  | _ magnitude ih =>
      by_cases below : magnitude < 10
      · refine ⟨Nat.digitChar magnitude, [], Nat.toDigits_of_lt_base below, ?_, ?_⟩
        · simpa [Nat.isDigit_digitChar] using below
        · exact Nat.digitChar_eq_zero.mp
      · obtain ⟨first, others, spelled, digit, zero⟩ := ih (magnitude / 10) (by omega)
        have split := Nat.toDigits_of_base_le (b := 10) (n := magnitude) (by omega) (by omega)
        refine ⟨first, others ++ [Nat.digitChar (magnitude % 10)], ?_, digit, ?_⟩
        · rw [split, spelled, List.cons_append]
        · intro leading
          have none := zero leading
          omega

theorem wholePart_toDigits (ends : EndsNumber rest) :
    wholePart (Nat.toDigits 10 magnitude ++ rest) = Nat.toDigits 10 magnitude := by
  have digits : ∀ c ∈ Nat.toDigits 10 magnitude, c.isDigit = true := fun c member =>
    Nat.isDigit_of_mem_toDigits (by omega) (by omega) member
  obtain ⟨first, others, spelled, _, zero⟩ := toDigits_first magnitude
  by_cases leading : first = '0'
  · rw [zero leading, Nat.toDigits_zero]
    rfl
  · have all : (Nat.toDigits 10 magnitude ++ rest).takeWhile Char.isDigit =
        Nat.toDigits 10 magnitude := by
      rw [List.takeWhile_append_of_pos digits, ends.takeWhile, List.append_nil]
    rw [wholePart, all]
    intro others same
    rw [spelled, List.cons_append] at same
    exact leading (List.cons.inj same).1

theorem readMagnitude_toDigits (negative : Bool) (start index : Nat) (ends : EndsNumber rest)
    (bounded : magnitude < 10 ^ integerDigitLimit) :
    ∃ stop, readMagnitude negative start ⟨index, Nat.toDigits 10 magnitude ++ rest⟩ =
      .ok (.int (if negative then -magnitude else magnitude), ⟨stop, rest⟩) := by
  have filled : (Nat.toDigits 10 magnitude).isEmpty = false := by simp
  have short : ¬ integerDigitLimit < (Nat.toDigits 10 magnitude).length := by
    rw [Nat.not_lt]
    exact (Nat.length_toDigits_le_iff (by omega) (by decide)).mpr bounded
  refine ⟨index + (Nat.toDigits 10 magnitude).length, ?_⟩
  simp only [readMagnitude, wholePart_toDigits ends, filled, Bool.false_eq_true, if_false,
    Cursor.skip, List.drop_left, ends.fractionPart, ends.exponentPart, List.isEmpty_nil,
    Option.isNone_none, Bool.and_self, if_true, short, Nat.ofDigitChars_ten_toDigits]

theorem ne_of_isDigit {other : Char} (digit : c.isDigit = true)
    (sign : other.isDigit = false) : c ≠ other := by
  rintro rfl
  rw [digit] at sign
  contradiction

/-- Digits are no word that stands for a value, with a sign or without one. -/
theorem readNamed?_digit (digit : c.isDigit = true) :
    readNamed? ⟨index, c :: rest⟩ = none ∧ readNamed? ⟨index, '-' :: c :: rest⟩ = none := by
  have apart (other : Char) (sign : other.isDigit = false) : other ≠ c :=
    (ne_of_isDigit digit sign).symm
  constructor
  · simp [readNamed?, namedValues, dropWord?, apart 'n' rfl, apart 't' rfl, apart 'f' rfl,
      apart 'N' rfl, apart 'I' rfl, apart '-' rfl]
  · simp [readNamed?, namedValues, dropWord?, apart 'I' rfl]

theorem readSimple_decimalChars (index : Nat) {value : Int} (ends : EndsNumber rest)
    (bounded : value.natAbs < 10 ^ integerDigitLimit) :
    ∃ stop, readSimple ⟨index, decimalChars value ++ rest⟩ =
      .ok (.int value, ⟨stop, rest⟩) := by
  obtain ⟨first, others, spelled, digit, _⟩ := toDigits_first value.natAbs
  by_cases below : value < 0
  · obtain ⟨stop, read⟩ := readMagnitude_toDigits true index (index + 1) ends bounded
    have sign : -(value.natAbs : Int) = value := by omega
    rw [if_pos rfl, sign, spelled] at read
    refine ⟨stop, ?_⟩
    rw [decimalChars, if_pos below, readSimple, List.cons_append, spelled, List.cons_append,
      (readNamed?_digit digit).2]
    exact read
  · obtain ⟨stop, read⟩ := readMagnitude_toDigits false index index ends bounded
    have sign : (value.natAbs : Int) = value := by omega
    rw [if_neg Bool.false_ne_true, sign, spelled] at read
    refine ⟨stop, ?_⟩
    have unsigned : first ≠ '-' := ne_of_isDigit digit (by decide)
    rw [decimalChars, if_neg below, readSimple, spelled, List.cons_append,
      (readNamed?_digit digit).1]
    simpa [unsigned] using read

end Numbers

end Json

end ImageStages
