import ImageStages.Identifier
import ImageStages.Proofs.Numeral.Hexadecimal
import ImageStages.Proofs.Text.Search

namespace ImageStages.Identifier

open Literal (Spells)

variable {s id form : Text} {digits : List Char} {number : Nat} {c : CodePoint}

theorem parse_ok_iff {value : Document} :
    parse value = .ok form ↔
      ∃ id number, value = .text id ∧ valueOf id = .ok number ∧ form = canonical number := by
  cases value with
  | scalar scalar =>
      cases scalar with
      | text id => cases read : valueOf id <;> simp [parse, read, eq_comm]
      | _ => simp [parse]
  | _ => simp [parse]

theorem parse_error_iff {failure : Failure} :
    parse (.text id) = .error failure ↔
      ∃ reason, valueOf id = .error reason ∧
        failure = .invalid (.identifier (.text id) (.text reason)) := by
  cases read : valueOf id <;> simp [parse, read, eq_comm (a := failure)]

theorem parse_succeeds_iff :
    (∃ canonical, parse (.text id) = .ok canonical) ↔ ∃ number, valueOf id = .ok number := by
  cases read : valueOf id <;> simp [parse, read]

/-- Ways to spell a number: its 32 hexadecimal digits in either case, with hyphens anywhere
between them, and such a spelling in braces or behind its marks. -/
inductive Spelling (number : Nat) : Text → Prop where
  | hyphened {s : Text} {digits : List Char}
      (bare : s.filter (· != .char '-') = Text.ofChars digits)
      (spelled : Spells digits number) (count : digits.length = digitCount) : Spelling number s
  | braced {s : Text} (within : Spelling number s) :
      Spelling number (.char '\x7b' :: (s ++ [.char '\x7d']))
  | marked {s : Text} (behind : Spelling number s) :
      Spelling number (Text.ofString "urn:uuid:" ++ s)

def IsLowerDigit (c : Char) : Prop :=
  ('0' ≤ c ∧ c ≤ '9') ∨ ('a' ≤ c ∧ c ≤ 'f')

instance : DecidablePred IsLowerDigit := fun _ => inferInstanceAs (Decidable (_ ∨ _))

/-- Groups of 8, 4, 4, 4 and 12 hexadecimal digits in lower case, with hyphens between them. -/
def IsCanonical (form : Text) : Prop :=
  ∃ parts : List (List Char), form = Text.ofChars (['-'].intercalate parts) ∧
    parts.map List.length = [8, 4, 4, 4, 12] ∧ ∀ part ∈ parts, ∀ c ∈ part, IsLowerDigit c

section Unmarked

theorem unmarked_marked (s : Text) : unmarked (Text.ofString "urn:uuid:" ++ s) = unmarked s :=
  rfl

theorem stripBraces_braced (s : Text) :
    stripBraces (.char '\x7b' :: (s ++ [.char '\x7d'])) = stripBraces s := by
  have opening : isBrace '\x7b' = true := rfl
  have closing : isBrace '\x7d' = true := rfl
  simp only [stripBraces, List.dropWhile_cons, opening, if_true, List.dropWhile_append]
  split
  · rename_i none
    simp [List.isEmpty_iff.mp none]
  · simp [closing]

theorem unmarked_braced (s : Text) :
    unmarked (.char '\x7b' :: (s ++ [.char '\x7d'])) = unmarked s := by
  have first (s : Text) : Text.removeWord "urn:" 0 (.char '\x7b' :: (s ++ [.char '\x7d'])) =
      .char '\x7b' :: (Text.removeWord "urn:" 0 s ++ [.char '\x7d']) := by
    rw [← Text.removeWord_append_singleton (by decide) (Nat.zero_le _)]
    exact Text.removeWord_cons_of_ne (by decide) _
  have second (s : Text) : Text.removeWord "uuid:" 0 (.char '\x7b' :: (s ++ [.char '\x7d'])) =
      .char '\x7b' :: (Text.removeWord "uuid:" 0 s ++ [.char '\x7d']) := by
    rw [← Text.removeWord_append_singleton (by decide) (Nat.zero_le _)]
    exact Text.removeWord_cons_of_ne (by decide) _
  simp only [unmarked, first, second, stripBraces_braced]

theorem stripBraces_of_plain (plain : ∀ c ∈ s, isBrace c = false) : stripBraces s = s := by
  have kept {s : Text} (plain : ∀ c ∈ s, isBrace c = false) : s.dropWhile isBrace = s := by
    cases s with
    | nil => rfl
    | cons c rest => exact List.dropWhile_cons_of_neg (by simp [plain c (by simp)])
  rw [stripBraces, kept plain, kept fun c member => plain c (List.mem_reverse.mp member),
    List.reverse_reverse]

/-- Digits with hyphens between them lose the hyphens alone. -/
theorem unmarked_hyphened (bare : s.filter (· != .char '-') = Text.ofChars digits)
    (spelled : Spells digits number) : unmarked s = Text.ofChars digits := by
  have absent {c : Char} (strange : (Literal.hexValue? c).isSome = false) (other : c ≠ '-') :
      .char c ∉ s := by
    intro member
    have kept : .char c ∈ s.filter (· != .char '-') :=
      List.mem_filter.mpr ⟨member, by simpa using other⟩
    rw [bare, Text.ofChars, List.mem_map] at kept
    obtain ⟨_, inside, same⟩ := kept
    obtain rfl := CodePoint.char.inj same
    have isDigit := spelled.isDigit _ inside
    simp [strange] at isDigit
  have plain : ∀ c ∈ s, isBrace c = false := by
    intro c member
    by_contra brace
    simp only [isBrace, Bool.not_eq_false, Bool.or_eq_true, beq_iff_eq] at brace
    rcases brace with rfl | rfl
    · exact absent (by decide) (by decide) member
    · exact absent (by decide) (by decide) member
  have first : Text.removeWord "urn:" 0 s = s :=
    Text.removeWord_of_notMem (absent (by decide) (by decide))
  have second : Text.removeWord "uuid:" 0 s = s :=
    Text.removeWord_of_notMem (absent (by decide) (by decide))
  simp only [unmarked, first, second, stripBraces_of_plain plain, bare]

/-- What is left of a spelling are the digits of the number. -/
theorem Spelling.unmarked (spelling : Spelling number s) :
    ∃ digits, unmarked s = Text.ofChars digits ∧ Spells digits number ∧
      digits.length = digitCount := by
  induction spelling with
  | hyphened bare spelled count => exact ⟨_, unmarked_hyphened bare spelled, spelled, count⟩
  | braced _ ih => rwa [unmarked_braced]
  | marked _ ih => rwa [unmarked_marked]

end Unmarked

theorem Spelling.valueOf (spelling : Spelling number id) : valueOf id = .ok number := by
  obtain ⟨digits, bare, spelled, count⟩ := spelling.unmarked
  have filled : digits ≠ [] := by
    rintro rfl
    cases count
  simp [Identifier.valueOf, bare, count, Literal.read_of_spells spelled filled]

theorem Spelling.parse (spelling : Spelling number id) :
    parse (.text id) = .ok (canonical number) :=
  parse_ok_iff.mpr ⟨id, number, rfl, spelling.valueOf, rfl⟩

theorem Spelling.lt (spelling : Spelling number s) : number < 2 ^ 128 := by
  obtain ⟨digits, _, spelled, count⟩ := spelling.unmarked
  have bound := spelled.lt
  rw [count] at bound
  exact bound

theorem lt_of_valueOf (read : valueOf id = .ok number) : number < 2 ^ 128 := by
  simp only [valueOf] at read
  split at read
  · rename_i count
    split at read
    · rename_i value accepted
      obtain rfl := Except.ok.inj read
      have bound := Literal.toNat_lt_of_read accepted
      rw [count] at bound
      exact bound
    · cases read
  · cases read

section Canonical

theorem flatten_groups {sizes : List Nat} (digits : List Char)
    (exact : digits.length = sizes.sum) :
    (groups sizes digits).flatten = digits ∧ (groups sizes digits).map List.length = sizes := by
  induction sizes generalizing digits with
  | nil => simpa [groups, eq_comm] using exact
  | cons size sizes ih =>
      rw [List.sum_cons] at exact
      obtain ⟨whole, lengths⟩ := ih (digits.drop size) (by simp [exact])
      simp only [groups, List.flatten_cons, whole, List.take_append_drop, List.map_cons, lengths,
        List.length_take, true_and]
      rw [Nat.min_eq_left (by omega)]

theorem filter_ofChars (s : List Char) :
    (Text.ofChars s).filter (· != .char '-') = Text.ofChars (s.filter (· != '-')) := by
  rw [Text.ofChars, List.filter_map, Text.ofChars]
  congr 2
  funext c
  simp [bne]

theorem filter_intercalate {parts : List (List Char)}
    (plain : ∀ part ∈ parts, ∀ c ∈ part, c ≠ '-') :
    (['-'].intercalate parts).filter (· != '-') = parts.flatten := by
  have kept {part : List Char} (member : part ∈ parts) : part.filter (· != '-') = part :=
    List.filter_eq_self.mpr fun c inside => by simpa using plain part member c inside
  induction parts with
  | nil => rfl
  | cons part rest ih =>
      rw [List.forall_mem_cons] at plain
      have remaining := ih plain.2 fun member => kept (List.mem_cons_of_mem _ member)
      cases rest with
      | nil => simpa using kept (List.mem_cons_self ..)
      | cons next rest =>
          rw [List.intercalate_cons_cons, List.filter_append, List.filter_append, remaining,
            kept (List.mem_cons_self ..), List.flatten_cons]
          simp

theorem isLowerDigit_digitChar {digit : Nat} (below : digit < 16) :
    IsLowerDigit (Nat.digitChar digit) := by
  interval_cases digit <;> decide

variable (fits : number < 2 ^ 128)

include fits

/-- Every digit of the groups is a digit of the number. -/
theorem groups_lower : ∀ part ∈ groups groupSizes (Text.hexDigits digitCount number),
    ∀ c ∈ part, IsLowerDigit c := by
  obtain ⟨values, written, count, small, _⟩ :=
    Literal.hexDigits_values (show 0 < digitCount by decide) fits
  have length : (Text.hexDigits digitCount number).length = groupSizes.sum := by
    rw [written, List.length_map, count]
    rfl
  have lower : ∀ c ∈ Text.hexDigits digitCount number, IsLowerDigit c := by
    rw [written, List.forall_mem_map]
    exact fun digit member => isLowerDigit_digitChar (small digit member)
  intro part member c inside
  refine lower c ?_
  rw [← (flatten_groups _ length).1]
  exact List.mem_flatten.mpr ⟨part, member, inside⟩

theorem canonical_isCanonical : IsCanonical (canonical number) := by
  obtain ⟨_, count⟩ := Literal.spells_hexDigits (show 0 < digitCount by decide) fits
  exact ⟨_, rfl, (flatten_groups _ count).2, groups_lower fits⟩

/-- The canonical form has the digits of the number, without its hyphens. -/
theorem filter_canonical :
    (canonical number).filter (· != .char '-') =
      Text.ofChars (Text.hexDigits digitCount number) := by
  obtain ⟨_, count⟩ := Literal.spells_hexDigits (show 0 < digitCount by decide) fits
  have plain : ∀ part ∈ groups groupSizes (Text.hexDigits digitCount number),
      ∀ c ∈ part, c ≠ '-' := by
    intro part member c inside hyphen
    exact absurd (hyphen ▸ groups_lower fits part member c inside) (by decide)
  rw [canonical, filter_ofChars, filter_intercalate plain, (flatten_groups _ count).1]

theorem canonical_spelling : Spelling number (canonical number) := by
  obtain ⟨spelled, count⟩ := Literal.spells_hexDigits (show 0 < digitCount by decide) fits
  exact .hyphened (filter_canonical fits) spelled count

end Canonical

/-- Reading an identifier refuses it or gives a canonical form, which reads as itself.  All
spellings of a number are read as its canonical form, and no two numbers share one. -/
theorem parse_canonicalizes :
    (∀ id : Text,
      (∃ reason, parse (.text id) = .error (.invalid (.identifier (.text id) reason))) ∨
        ∃ form, parse (.text id) = .ok form ∧ IsCanonical form ∧ parse (.text form) = .ok form) ∧
    (∀ number < 2 ^ 128,
      IsCanonical (canonical number) ∧ Spelling number (canonical number) ∧
        ∀ id, Spelling number id → parse (.text id) = .ok (canonical number)) ∧
    ∀ number other id otherId, Spelling number id → Spelling other otherId → number ≠ other →
      parse (.text id) ≠ parse (.text otherId) := by
  refine ⟨fun id => ?_, fun number fits => ?_, fun number other id otherId => ?_⟩
  · cases ended : parse (.text id) with
    | error failure =>
        obtain ⟨reason, _, rfl⟩ := parse_error_iff.mp ended
        exact .inl ⟨_, rfl⟩
    | ok form =>
        obtain ⟨_, number, same, read, rfl⟩ := parse_ok_iff.mp ended
        obtain rfl : id = _ := by simpa using same
        have fits := lt_of_valueOf read
        exact .inr ⟨_, rfl, canonical_isCanonical fits, (canonical_spelling fits).parse⟩
  · exact ⟨canonical_isCanonical fits, canonical_spelling fits, fun id => Spelling.parse⟩
  · intro spelling spellingOther apart same
    rw [spelling.parse, spellingOther.parse] at same
    have form := Except.ok.inj same
    obtain ⟨digits, bare, spelled, _⟩ := (canonical_spelling spelling.lt).unmarked
    obtain ⟨others, bareOther, spelledOther, _⟩ := (canonical_spelling spellingOther.lt).unmarked
    rw [form, bareOther, Text.ofChars_inj] at bare
    exact apart (spelled.unique (bare ▸ spelledOther))

/-- A number spelled with capitals, behind its marks, in braces, and with hyphens where the
canonical form has none. -/
theorem parse_canonicalizes_capitals :
    Spelling 0x6e4ff95ff66245eea82abdf44a2d0b75
      "urn:uuid:\x7b6E4FF95FF662-45EE--A82A-BDF44A2D0B75-\x7d" ∧
    parse (.text "urn:uuid:\x7b6E4FF95FF662-45EE--A82A-BDF44A2D0B75-\x7d") =
      .ok "6e4ff95f-f662-45ee-a82a-bdf44a2d0b75" ∧
    parse (.text "urn:uuid:\x7b6E4FF95FF662-45EE--A82A-BDF44A2D0B75-\x7d") ≠
      parse (.text (canonical 0)) := by
  have digits : Spells "6E4FF95FF66245EEA82ABDF44A2D0B75".toList
      0x6e4ff95ff66245eea82abdf44a2d0b75 :=
    ⟨[6, 14, 4, 15, 15, 9, 5, 15, 15, 6, 6, 2, 4, 5, 14, 14, 10, 8, 2, 10, 11, 13, 15, 4, 4, 10,
      2, 13, 0, 11, 7, 5], by decide, by decide⟩
  have bare : (Text.ofString "6E4FF95FF662-45EE--A82A-BDF44A2D0B75-").filter (· != .char '-') =
      Text.ofChars "6E4FF95FF66245EEA82ABDF44A2D0B75".toList := by decide +kernel
  have whole : Text.ofString "urn:uuid:\x7b6E4FF95FF662-45EE--A82A-BDF44A2D0B75-\x7d" =
      Text.ofString "urn:uuid:" ++ .char '\x7b' ::
        (Text.ofString "6E4FF95FF662-45EE--A82A-BDF44A2D0B75-" ++ [.char '\x7d']) := by
    decide +kernel
  have spelling : Spelling 0x6e4ff95ff66245eea82abdf44a2d0b75
      "urn:uuid:\x7b6E4FF95FF662-45EE--A82A-BDF44A2D0B75-\x7d" := by
    rw [whole]
    exact .marked (.braced (.hyphened bare digits (by decide)))
  have form : canonical 0x6e4ff95ff66245eea82abdf44a2d0b75 =
      "6e4ff95f-f662-45ee-a82a-bdf44a2d0b75" := by decide +kernel
  have read := (parse_canonicalizes.2.1 _ (by decide)).2.2 _ spelling
  rw [form] at read
  have apart := parse_canonicalizes.2.2 _ 0 _ _ spelling (canonical_spelling (by decide))
    (by decide)
  exact ⟨spelling, read, apart⟩

end ImageStages.Identifier
