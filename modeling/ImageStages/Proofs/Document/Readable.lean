import ImageStages.Proofs.Document.Spelling
import ImageStages.Proofs.Document.Throughout
import ImageStages.Proofs.Numeral.Magnitude

namespace ImageStages

def Scalar.Readable : Scalar → Prop
  | .int value => value.natAbs < 10 ^ Json.integerDigitLimit
  | .real value => value.Bounded
  | .text value => value.Unsplit
  | _ => True

/-- What a text of limited length can hold. -/
def Document.Readable (limit : Nat) : Document → Prop
  | .scalar value => value.Readable
  | .list items => items.length ≤ limit
  | .object fields => Fields.Named fields ∧ ∀ field ∈ fields, field.1.Readable

namespace Json

variable {fuel limit start : Nat} {cursor next : Cursor} {value : Document}
  {items : List Document} {fields : Fields} {s rest : List Char} {text : Text}

section Texts

theorem isLowSurrogate_char (c : Char) : isLowSurrogate c.toNat = false := by
  have valid : c.toNat < 0xd800 ∨ 0xdfff < c.toNat ∧ c.toNat < 0x110000 := c.valid
  simp only [isLowSurrogate, Bool.and_eq_false_iff, decide_eq_false_iff_not]
  omega

/-- A code point is a half of a pair if its unit is. -/
theorem isHighSurrogate_ofNat (unit : Nat) :
    isHighSurrogate (CodePoint.ofNat unit).toNat = isHighSurrogate unit := by
  unfold CodePoint.ofNat
  split
  · have same : 0xd800 + (unit - 0xd800) = unit := by omega
    rw [CodePoint.toNat, same]
  · rw [CodePoint.toNat_char, isHighSurrogate_char, eq_comm]
    simp only [isHighSurrogate, Bool.and_eq_false_iff, decide_eq_false_iff_not]
    omega

theorem isLowSurrogate_ofNat (unit : Nat) :
    isLowSurrogate (CodePoint.ofNat unit).toNat = isLowSurrogate unit := by
  unfold CodePoint.ofNat
  split
  · have same : 0xd800 + (unit - 0xd800) = unit := by omega
    rw [CodePoint.toNat, same]
  · rw [CodePoint.toNat_char, isLowSurrogate_char, eq_comm]
    simp only [isLowSurrogate, Bool.and_eq_false_iff, decide_eq_false_iff_not]
    omega

/-- Where a text is read, no pair stays split, and unless the second half of one stands
there, the text does not begin with a second half. -/
def JoinsPairs (rest : List Char) (text : Text) : Prop :=
  text.Unsplit ∧ (Alone rest → ∀ c ∈ text.head?, isLowSurrogate c.toNat = false)

/-- A code point that is no half of a pair leaves none split. -/
theorem JoinsPairs.whole {before : List Char} {c : CodePoint} (joins : JoinsPairs rest text)
    (high : isHighSurrogate c.toNat = false) (low : isLowSurrogate c.toNat = false) :
    JoinsPairs before (c :: text) := by
  refine ⟨List.isChain_cons.mpr ⟨fun _ _ first => ?_, joins.1⟩, fun _ other first => ?_⟩
  · rw [high] at first
    cases first
  · exact Option.some.inj first ▸ low

theorem JoinsPairs.char {before : List Char} (joins : JoinsPairs rest text) (c : Char) :
    JoinsPairs before (.char c :: text) :=
  joins.whole (isHighSurrogate_char c) (isLowSurrogate_char c)

theorem JoinsPairs.pair {before : List Char} (joins : JoinsPairs rest text) (high low : Nat) :
    JoinsPairs before (pairChar high low :: text) := by
  refine joins.whole ?_ ?_
  · rw [pairChar, isHighSurrogate_ofNat]
    simp only [isHighSurrogate, Bool.and_eq_false_iff, decide_eq_false_iff_not]
    omega
  · rw [pairChar, isLowSurrogate_ofNat]
    simp only [isLowSurrogate, Bool.and_eq_false_iff, decide_eq_false_iff_not]
    omega

/-- Only what stands next decides whether it is a second half. -/
theorem alone_of_lowHalf {index : Nat} (none : lowHalf index rest = .ok none) : Alone rest := by
  intro other
  unfold lowHalf at none ⊢
  split
  · cases read : hexUnit? _ _ _ _ with
    | none =>
        simp only [read] at none
        cases none
    | some unit => simpa only [read] using none
  · rfl

/-- A unit that is not joined with what follows. -/
theorem JoinsPairs.unit {unit : Nat} {a b c d next : Char} (joins : JoinsPairs (next :: rest) text)
    (read : hexUnit? a b c d = some unit)
    (alone : isHighSurrogate unit = true → Alone (next :: rest)) :
    JoinsPairs ('\\' :: 'u' :: a :: b :: c :: d :: next :: rest) (.ofNat unit :: text) := by
  refine ⟨List.isChain_cons.mpr ⟨fun second first high => ?_, joins.1⟩, fun here other first => ?_⟩
  · rw [isHighSurrogate_ofNat] at high
    exact joins.2 (alone high) second first
  · have none := here 0
    rw [lowHalf, read] at none
    obtain rfl := Option.some.inj first
    rw [isLowSurrogate_ofNat]
    simpa using none

/-- The text is what was read after its first code point, and that in front. -/
theorem exists_of_bind_cons {c : CodePoint} {read : Except ReadFault (Text × Cursor)}
    (completed : (read.bind fun found => pure (c :: found.1, found.2)) = .ok (text, next)) :
    ∃ others, read = .ok (others, next) ∧ text = c :: others := by
  obtain ⟨⟨others, _⟩, first, same⟩ := Except.bind_eq_ok_iff.mp completed
  obtain ⟨rfl, rfl⟩ := Prod.mk.inj (Except.ok.inj same)
  exact ⟨others, first, rfl⟩

theorem readChars_joins (read : readChars fuel start cursor = .ok (text, next)) :
    JoinsPairs cursor.rest text := by
  induction fuel generalizing cursor text with
  | zero =>
      rw [readChars] at read
      cases read
  | succ fuel ih =>
      obtain ⟨index, s⟩ := cursor
      cases s with
      | nil =>
          simp only [readChars] at read
          cases read
      | cons c rest =>
          simp only [readChars] at read
          split at read
          · obtain ⟨rfl, _⟩ := Prod.mk.inj (Except.ok.inj read)
            exact ⟨.nil, by simp⟩
          split at read
          · rename_i escaped
            split at read
            · cases read
            · split at read
              · cases read
              rename_i hex
              split at read
              · obtain ⟨low, half, read⟩ := Except.bind_eq_ok_iff.mp read
                cases low with
                | some low =>
                    obtain ⟨_, completed, rfl⟩ := exists_of_bind_cons read
                    exact (ih completed).pair _ _
                | none =>
                    obtain ⟨_, completed, rfl⟩ := exists_of_bind_cons read
                    exact escaped ▸ (ih completed).unit hex fun _ => alone_of_lowHalf half
              · rename_i whole
                obtain ⟨_, completed, rfl⟩ := exists_of_bind_cons read
                exact escaped ▸ (ih completed).unit hex (absurd · whole)
            · split at read
              · cases read
              split at read
              · cases read
              · obtain ⟨_, completed, rfl⟩ := exists_of_bind_cons read
                exact (ih completed).char _
          · split at read
            · cases read
            · obtain ⟨_, completed, rfl⟩ := exists_of_bind_cons read
              exact (ih completed).char _

theorem readText_unsplit (read : readText fuel cursor = .ok (text, next)) : text.Unsplit :=
  (readChars_joins read).1

end Texts

theorem isDigit_of_mem_wholePart {c : Char} (member : c ∈ wholePart s) : c.isDigit = true := by
  unfold wholePart at member
  split at member
  · obtain rfl := List.mem_singleton.mp member
    decide
  · exact List.all_eq_true.mp List.all_takeWhile c member

theorem readMagnitude_readable {negative : Bool}
    (read : readMagnitude negative start cursor = .ok (value, next)) :
    value.Throughout (Document.Readable limit) := by
  simp only [readMagnitude] at read
  split at read
  · cases read
  -- What the number is read as does not depend on where its fraction ends.
  generalize (if (fractionPart _).isEmpty = true then _ else _) = afterFraction at read
  split at read
  · split at read
    · cases read
    · rename_i short
      obtain ⟨rfl, _⟩ := Prod.mk.inj (Except.ok.inj read)
      refine .scalar ?_
      have magnitude : Nat.ofDigitChars 10 (wholePart cursor.rest) 0 < 10 ^ integerDigitLimit :=
        Nat.lt_of_lt_of_le (ofDigitChars_lt fun c => isDigit_of_mem_wholePart)
          (Nat.pow_le_pow_right (by omega) (Nat.not_lt.mp short))
      cases negative with
      | false => simpa [Document.Readable, Scalar.Readable] using magnitude
      | true => simpa [Document.Readable, Scalar.Readable] using magnitude
  · obtain ⟨rfl, _⟩ := Prod.mk.inj (Except.ok.inj read)
    exact .scalar (Binary64.ofDecimal_bounded _ _ _)

theorem readSimple_readable (read : readSimple cursor = .ok (value, next)) :
    value.Throughout (Document.Readable limit) := by
  unfold readSimple at read
  split at read
  · rename_i found named
    obtain rfl := Except.ok.inj read
    obtain ⟨word, listed, dropped⟩ := List.exists_of_findSome?_eq_some named
    obtain ⟨_, _, same⟩ := Option.map_eq_some_iff.mp dropped
    obtain ⟨rfl, _⟩ := Prod.mk.inj same
    simp only [namedValues, List.mem_cons, List.not_mem_nil, or_false] at listed
    rcases listed with rfl | rfl | rfl | rfl | rfl | rfl <;> exact .scalar trivial
  · split at read
    · exact readMagnitude_readable read
    · exact readMagnitude_readable read

/-- What is read with so much fuel, and how many items or fields there are. -/
structure ReadsWithin (limit fuel : Nat) : Prop where
  value : ∀ {cursor next value}, readValue fuel cursor = .ok (value, next) →
    value.Throughout (Document.Readable limit)
  items : ∀ {cursor next items}, readItems fuel cursor = .ok (items, next) →
    items.length ≤ fuel ∧ ∀ item ∈ items, item.Throughout (Document.Readable limit)
  fields : ∀ {cursor next fields}, readFields fuel cursor = .ok (fields, next) →
    ∀ field ∈ fields, (∃ name, field.1 = .text name ∧ name.Unsplit) ∧
      field.2.Throughout (Document.Readable limit)

section Step

variable (within : ReadsWithin limit fuel)

include within

theorem readValue_within (enough : fuel < limit)
    (read : readValue (fuel + 1) cursor = .ok (value, next)) :
    value.Throughout (Document.Readable limit) := by
  rw [readValue] at read
  split at read
  · simp only at read
    split at read
    · obtain ⟨rfl, _⟩ := Prod.mk.inj (Except.ok.inj read)
      exact .list (Nat.zero_le _) (by simp)
    · obtain ⟨⟨items, _⟩, completed, same⟩ := Except.bind_eq_ok_iff.mp read
      obtain ⟨rfl, _⟩ := Prod.mk.inj (Except.ok.inj same)
      obtain ⟨count, each⟩ := within.items completed
      exact .list (show items.length ≤ limit by omega) each
  · simp only at read
    split at read
    · obtain ⟨rfl, _⟩ := Prod.mk.inj (Except.ok.inj read)
      exact .object ⟨⟨.nil, by simp⟩, by simp⟩ (by simp)
    · obtain ⟨⟨fields, _⟩, completed, same⟩ := Except.bind_eq_ok_iff.mp read
      obtain ⟨rfl, _⟩ := Prod.mk.inj (Except.ok.inj same)
      have each := within.fields completed
      have keyed : ∀ field ∈ Fields.ofPairs fields, ∃ name, field.1 = .text name ∧ name.Unsplit :=
        Fields.forall_key_ofPairs (fun key => ∃ name, key = .text name ∧ name.Unsplit)
          fun pair present => (each pair present).1
      refine .ofPairs ⟨⟨Fields.ofPairs_distinct fields, ?_⟩, ?_⟩
        fun pair member => (each pair member).2
      · intro field member
        obtain ⟨name, spelled, _⟩ := keyed field member
        exact ⟨name, spelled⟩
      · intro field member
        obtain ⟨name, spelled, unsplit⟩ := keyed field member
        rw [spelled]
        exact unsplit
  · obtain ⟨⟨text, _⟩, completed, same⟩ := Except.bind_eq_ok_iff.mp read
    obtain ⟨rfl, _⟩ := Prod.mk.inj (Except.ok.inj same)
    exact .scalar (readText_unsplit completed)
  · exact readSimple_readable read

theorem readItems_within {items : List Document}
    (read : readItems (fuel + 1) cursor = .ok (items, next)) :
    items.length ≤ fuel + 1 ∧ ∀ item ∈ items, item.Throughout (Document.Readable limit) := by
  rw [readItems] at read
  obtain ⟨⟨item, _⟩, completed, read⟩ := Except.bind_eq_ok_iff.mp read
  have first := within.value completed
  simp only at read
  split at read
  · obtain ⟨rfl, _⟩ := Prod.mk.inj (Except.ok.inj read)
    exact ⟨by simp, by simpa using first⟩
  · obtain ⟨⟨others, _⟩, remaining, same⟩ := Except.bind_eq_ok_iff.mp read
    obtain ⟨rfl, _⟩ := Prod.mk.inj (Except.ok.inj same)
    obtain ⟨count, each⟩ := within.items remaining
    exact ⟨by simpa using count, List.forall_mem_cons.mpr ⟨first, each⟩⟩
  · cases read

theorem readFields_within {fields : List (Scalar × Document)}
    (read : readFields (fuel + 1) cursor = .ok (fields, next)) :
    ∀ field ∈ fields, (∃ name, field.1 = .text name ∧ name.Unsplit) ∧
      field.2.Throughout (Document.Readable limit) := by
  rw [readFields] at read
  split at read
  · obtain ⟨⟨name, _⟩, named, read⟩ := Except.bind_eq_ok_iff.mp read
    have key : ∃ text, Scalar.text name = .text text ∧ text.Unsplit :=
      ⟨name, rfl, readText_unsplit named⟩
    simp only at read
    split at read
    · obtain ⟨⟨value, _⟩, completed, read⟩ := Except.bind_eq_ok_iff.mp read
      have first := within.value completed
      simp only at read
      split at read
      · obtain ⟨rfl, _⟩ := Prod.mk.inj (Except.ok.inj read)
        exact List.forall_mem_singleton.mpr ⟨key, first⟩
      · obtain ⟨⟨others, _⟩, remaining, same⟩ := Except.bind_eq_ok_iff.mp read
        obtain ⟨rfl, _⟩ := Prod.mk.inj (Except.ok.inj same)
        exact List.forall_mem_cons.mpr ⟨⟨key, first⟩, within.fields remaining⟩
      · cases read
    · cases read
  · cases read

end Step

theorem readsWithin (enough : fuel ≤ limit) : ReadsWithin limit fuel := by
  induction fuel with
  | zero =>
      constructor
      · intro cursor next value read
        rw [readValue] at read
        cases read
      · intro cursor next items read
        rw [readItems] at read
        cases read
      · intro cursor next fields read
        rw [readFields] at read
        cases read
  | succ fuel ih =>
      have within := ih (Nat.le_of_lt enough)
      exact ⟨readValue_within within enough, readItems_within within, readFields_within within⟩

/-- A document that is read holds what a text of its length can hold. -/
theorem read_readable (succeeded : read s = .ok value) :
    value.Throughout (Document.Readable (2 * s.length + 2)) := by
  rw [read] at succeeded
  split at succeeded
  · cases succeeded
  · obtain ⟨⟨document, _⟩, completed, succeeded⟩ := Except.bind_eq_ok_iff.mp succeeded
    simp only at succeeded
    split at succeeded
    · obtain rfl := Except.ok.inj succeeded
      exact (readsWithin (Nat.le_refl _)).value completed
    · cases succeeded

end Json

namespace Document

variable {value : Document} {limit : Nat} {integer : Int}

theorem readable_null : Document.null.Throughout (Readable limit) := .scalar trivial

theorem readable_int_zero : (Document.int 0).Throughout (Readable limit) :=
  .scalar (Nat.pow_pos (by decide))

/-- What a readable document is converted to has no more digits than are read. -/
theorem Throughout.toInteger_lt (readable : value.Throughout (Readable limit))
    (converted : value.toInteger = .ok integer) :
    integer.natAbs < 10 ^ Json.integerDigitLimit := by
  cases readable with
  | list _ _ => cases converted
  | object _ _ => cases converted
  | @scalar scalar here =>
      cases scalar with
      | null => cases converted
      | int number =>
          obtain rfl := Except.ok.inj converted
          exact here
      | bool flag =>
          obtain rfl := Except.ok.inj converted
          have one : 1 < 10 ^ Json.integerDigitLimit := Nat.one_lt_pow (by decide) (by decide)
          cases flag with
          | true => exact one
          | false => exact Nat.lt_trans Nat.zero_lt_one one
      | real number =>
          cases number with
          | notANumber => cases converted
          | infinite _ => cases converted
          | finite negative significand exponent =>
              obtain rfl := Except.ok.inj converted
              calc (Binary64.truncate negative significand exponent).natAbs
                  ≤ 2 ^ Binary64.integerBits := Binary64.Bounded.truncate_le here
                _ ≤ 10 ^ Binary64.integerBits := Nat.pow_le_pow_left (by decide) _
                _ < 10 ^ Json.integerDigitLimit :=
                    Nat.pow_lt_pow_right (by decide) (by decide)
      | text literal =>
          simp only [toInteger] at converted
          split at converted
          · rename_i number read
            obtain rfl := Except.ok.inj converted
            have limited : Literal.Base.decimal.digitLimit? = some Json.integerDigitLimit := rfl
            have ten : Literal.Base.decimal.value = 10 := rfl
            have magnitude := Literal.read_lt limited (by decide) read
            rwa [ten] at magnitude
          · cases converted
          · cases converted

end Document

end ImageStages
