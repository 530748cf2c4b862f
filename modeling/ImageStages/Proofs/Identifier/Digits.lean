import ImageStages.Proofs.Identifier
import ImageStages.Proofs.Numeral.Written

namespace ImageStages.Identifier

open Literal (Writes)

variable {s id : Text} {digits : List Nat} {number : Nat}

def IsDigit : CodePoint → Prop
  | .char c => IsLowerDigit c ∨ ('A' ≤ c ∧ c ≤ 'F')
  | .surrogate _ => False

/-- Hexadecimal digits of either case, as many as an identifier has, and nothing else. -/
def AreDigits (s : Text) : Prop :=
  s.length = digitCount ∧ ∀ c ∈ s, IsDigit c

/-- The result is an identifier of the same digits, and none if there are others than digits. -/
structure KeepsDigits (id : Text) (result : Except Failure Text) : Prop where
  kept : AreDigits (unmarked id) → ∃ form, result = .ok form ∧
    form.filter (· != .char '-') = Text.ofChars ((unmarked id).chars.map Char.toLower)
  refused : ¬ AreDigits (unmarked id) →
    ∃ reason, result = .error (.invalid (.identifier (.text id) reason))

/-- As many characters as an identifier has digits make up a literal, although one of them is
no digit: blanks, a sign, a radix mark, an underscore, or a digit of another script. -/
structure HasLeeway (s : Text) : Prop where
  count : s.length = digitCount
  other : ∃ c ∈ s, ¬ IsDigit c
  written : ∃ negative digits, Writes .hexadecimal negative digits (s.map Literal.plainChar)

theorem isDigit_char_iff {c : Char} :
    IsDigit (.char c) ↔ (Literal.hexValue? c).isSome = true := by
  unfold Literal.hexValue? IsDigit IsLowerDigit
  repeat' split
  all_goals simp_all

theorem exists_ofChars (areDigits : ∀ c ∈ s, IsDigit c) : ∃ digits, s = Text.ofChars digits := by
  induction s with
  | nil => exact ⟨[], rfl⟩
  | cons c rest ih =>
      obtain ⟨first, others⟩ := List.forall_mem_cons.mp areDigits
      obtain ⟨digits, rfl⟩ := ih others
      cases c with
      | char c => exact ⟨c :: digits, rfl⟩
      | surrogate offset => exact first.elim

theorem no_hyphen : '-' ∉ (unmarked s).map Literal.plainChar := by
  intro member
  obtain ⟨c, inside, plain⟩ := List.mem_map.mp member
  have remains := (List.mem_filter.mp inside).2
  simp [Literal.eq_hyphen_of_plainChar plain] at remains

theorem valueOf_ok_iff :
    valueOf id = .ok number ↔
      (unmarked id).length = digitCount ∧
        ∃ digits, Writes .hexadecimal false digits ((unmarked id).map Literal.plainChar) ∧
          number = Literal.ofDigits .hexadecimal digits := by
  simp only [valueOf]
  split
  · rename_i count
    cases read : Literal.read .hexadecimal (unmarked id) with
    | error fault =>
        simp only [reduceCtorEq, count, true_and, false_iff, not_exists, not_and]
        intro digits written _
        have accepted := Literal.read_ok_iff.mpr ⟨false, digits, written, rfl, rfl⟩
        rw [read] at accepted
        cases accepted
    | ok value =>
        obtain ⟨negative, digits, written, _, rfl⟩ := Literal.read_ok_iff.mp read
        obtain rfl := written.positive no_hyphen
        simp only [Bool.false_eq_true, if_false, Int.toNat_natCast, Except.ok.injEq, count,
          true_and]
        constructor
        · rintro rfl
          exact ⟨digits, written, rfl⟩
        · rintro ⟨others, again, rfl⟩
          have reread := Literal.read_ok_iff.mpr ⟨false, others, again, rfl, rfl⟩
          rw [read] at reread
          simpa using reread
  · rename_i other
    simp [other]

/-- The digits of a literal become those of the identifier, with zeros in front. -/
theorem parse_of_writes (count : (unmarked id).length = digitCount)
    (written : Writes .hexadecimal false digits
      ((unmarked id).map Literal.plainChar)) :
    ∃ form, parse (.text id) = .ok form ∧ form.filter (· != .char '-') =
      Text.ofChars
        (List.replicate (digitCount - digits.length) '0' ++ digits.map Nat.digitChar) := by
  have read := valueOf_ok_iff.mpr ⟨count, digits, written, rfl⟩
  refine ⟨_, parse_ok_iff.mpr ⟨id, _, rfl, read, rfl⟩, ?_⟩
  rw [filter_canonical (lt_of_valueOf read)]
  refine congrArg Text.ofChars (Literal.hexDigits_ofDigits (by decide) written.small ?_)
  exact written.length_le.trans (by rw [List.length_map, count])

theorem parse_of_areDigits (areDigits : AreDigits (unmarked id)) :
    ∃ form, parse (.text id) = .ok form ∧
      form.filter (· != .char '-') = Text.ofChars ((unmarked id).chars.map Char.toLower) := by
  obtain ⟨count, each⟩ := areDigits
  obtain ⟨digits, bare⟩ := exists_ofChars fun c member => each c member
  rw [bare] at count each
  rw [Text.length_ofChars] at count
  have areDigits (c : Char) (member : c ∈ digits) : (Literal.hexValue? c).isSome = true :=
    isDigit_char_iff.mp (each (.char c) (List.mem_map_of_mem member))
  have read (c : Char) (member : c ∈ digits) :
      Literal.hexValue? c = some ((Literal.hexValue? c).getD 0) := by
    obtain ⟨digit, found⟩ := Option.isSome_iff_exists.mp (areDigits c member)
    rw [found, Option.getD_some]
  have filled : digits ≠ [] := by
    rintro rfl
    cases count
  have written : Writes .hexadecimal false
      (digits.map fun c => (Literal.hexValue? c).getD 0)
      ((unmarked id).map Literal.plainChar) := by
    rw [bare, Literal.map_plainChar_digits areDigits]
    exact Literal.writes_of_digits (by simpa using read) filled
  obtain ⟨form, accepted, spelled⟩ :=
    parse_of_writes (by rw [bare, Text.length_ofChars, count]) written
  refine ⟨form, accepted, spelled.trans (congrArg Text.ofChars ?_)⟩
  simp only [List.length_map, count, Nat.sub_self, List.replicate_zero, List.nil_append,
    List.map_map, bare, Text.chars_ofChars]
  exact List.map_congr_left fun c member => Literal.digitChar_of_hexValue? (read c member)

/-- Only leeway of the literals costs an identifier its digits. -/
theorem parse_keepsDigits_iff (id : Text) :
    KeepsDigits id (parse (.text id)) ↔ ¬ HasLeeway (unmarked id) := by
  constructor
  · rintro keeps ⟨count, ⟨c, member, other⟩, negative, digits, written⟩
    obtain rfl := written.positive no_hyphen
    obtain ⟨form, accepted, _⟩ := parse_of_writes count written
    obtain ⟨reason, failed⟩ := keeps.refused fun areDigits => other (areDigits.2 c member)
    rw [accepted] at failed
    cases failed
  · intro strict
    refine ⟨fun areDigits => parse_of_areDigits areDigits, fun others => ?_⟩
    cases ended : parse (.text id) with
    | error failure =>
        obtain ⟨reason, _, rfl⟩ := parse_error_iff.mp ended
        exact ⟨_, rfl⟩
    | ok form =>
        obtain ⟨_, number, same, read, _⟩ := parse_ok_iff.mp ended
        obtain rfl : id = _ := by simpa using same
        obtain ⟨count, digits, written, _⟩ := valueOf_ok_iff.mp read
        refine absurd ⟨count, ?_, false, digits, written⟩ strict
        by_contra plain
        push Not at plain
        exact others ⟨count, plain⟩

/-- A radix mark makes thirty digits an identifier that begins with zeros. -/
theorem parse_radixMark :
    parse (.text "0x4ff95f-f662-45ee-a82a-bdf44a2d0b75") =
        .ok "004ff95f-f662-45ee-a82a-bdf44a2d0b75" ∧
      ¬ KeepsDigits "0x4ff95f-f662-45ee-a82a-bdf44a2d0b75"
        (parse (.text "0x4ff95f-f662-45ee-a82a-bdf44a2d0b75")) := by
  have accepted : parse (.text "0x4ff95f-f662-45ee-a82a-bdf44a2d0b75") =
      .ok "004ff95f-f662-45ee-a82a-bdf44a2d0b75" :=
    Except.eq_ok_of_toOption (by decide +kernel)
  refine ⟨accepted, fun keeps => ?_⟩
  have mark : .char 'x' ∈ unmarked "0x4ff95f-f662-45ee-a82a-bdf44a2d0b75" := by decide +kernel
  obtain ⟨reason, failed⟩ := keeps.refused fun areDigits =>
    absurd (isDigit_char_iff.mp (areDigits.2 (.char 'x') mark)) (by decide)
  rw [accepted] at failed
  cases failed

end ImageStages.Identifier
