import Mathlib.Data.List.TakeWhile
import Mathlib.Data.Nat.Digits.Lemmas
import ImageStages.Proofs.Document.Spelling
import ImageStages.Proofs.Numeral.Magnitude

namespace ImageStages.Literal

variable {base : Base} {digits s : List Char} {values : List Nat} {digit number width : Nat}
  {c : Char} {afterDigit : Bool}

/-- The digits, in either case, make up the number. -/
def Spells (digits : List Char) (number : Nat) : Prop :=
  ∃ values : List Nat,
    digits.map hexValue? = values.map some ∧ Nat.ofDigits 16 values.reverse = number

theorem hexValue?_eq_some_iff :
    hexValue? c = some digit ↔
      (48 ≤ c.toNat ∧ c.toNat ≤ 57 ∧ c.toNat - 48 = digit) ∨
        (97 ≤ c.toNat ∧ c.toNat ≤ 102 ∧ c.toNat - 87 = digit) ∨
        (65 ≤ c.toNat ∧ c.toNat ≤ 70 ∧ c.toNat - 55 = digit) := by
  have within (low high : Char) : (low ≤ c ∧ c ≤ high) ↔
      (low.toNat ≤ c.toNat ∧ c.toNat ≤ high.toNat) := Iff.rfl
  simp only [hexValue?, within, Char.reduceToNat]
  split <;> [skip; split <;> [skip; split]] <;> simp <;> omega

theorem digitChar_of_hexValue? (read : hexValue? c = some digit) :
    Nat.digitChar digit = c.toLower := by
  have each : ∀ code < 103, (hexValue? (Char.ofNat code)).all
      (fun digit => Nat.digitChar digit == (Char.ofNat code).toLower) = true := by decide
  have known := each c.toNat (by rw [hexValue?_eq_some_iff] at read; omega)
  rw [Char.ofNat_toNat, read] at known
  simpa using known

theorem lt_of_hexValue? (read : hexValue? c = some digit) : digit < 16 := by
  rw [hexValue?_eq_some_iff] at read
  omega

theorem ofDigits_eq (values : List Nat) :
    ofDigits base values = Nat.ofDigits base.value values.reverse := by
  rw [Nat.ofDigits_eq_foldr, ofDigits, List.foldl_eq_foldr_reverse]
  simp only [Nat.cast_id, Nat.add_comm, Nat.mul_comm]

theorem ofDigits_append_singleton (values : List Nat) (digit : Nat) :
    ofDigits base (values ++ [digit]) = ofDigits base values * base.value + digit := by
  simp [ofDigits]

/-- The digits of a number in a width that it fits. -/
theorem hexDigits_values (filled : 0 < width) (fits : number < 16 ^ width) :
    ∃ values : List Nat, Text.hexDigits width number = values.map Nat.digitChar ∧
      values.length = width ∧ (∀ digit ∈ values, digit < 16) ∧
      ofDigits .hexadecimal values = number := by
  induction width, filled using Nat.le_induction generalizing number with
  | base =>
      have below : number < 16 := fits
      exact ⟨[number], by simp [Text.hexDigits, Nat.toDigits_of_lt_base below], rfl, by simpa,
        by simp [ofDigits]⟩
  | succ width filled ih =>
      have below : number / 16 < 16 ^ width := by
        rw [Nat.pow_succ] at fits
        omega
      obtain ⟨values, written, count, small, read⟩ := ih below
      refine ⟨values ++ [number % 16], ?_, by simp [count], ?_, ?_⟩
      · rw [Text.hexDigits_succ filled, written, List.map_append, List.map_singleton]
      · intro digit member
        rcases List.mem_append.mp member with member | member
        · exact small digit member
        · obtain rfl := List.mem_singleton.mp member
          exact Nat.mod_lt _ (by decide)
      · rw [ofDigits_append_singleton, read, Base.value]
        omega

theorem spells_hexDigits (filled : 0 < width) (fits : number < 16 ^ width) :
    Spells (Text.hexDigits width number) number ∧
      (Text.hexDigits width number).length = width := by
  obtain ⟨values, written, count, small, read⟩ := hexDigits_values filled fits
  rw [written, List.length_map]
  refine ⟨⟨values, ?_, ?_⟩, count⟩
  · rw [List.map_map]
    exact List.map_congr_left fun digit member => hexValue?_digitChar (small digit member)
  · rw [← read, ofDigits_eq, Base.value]

/-- The digits of a number are those that make it up, behind zeros. -/
theorem hexDigits_ofDigits (filled : 0 < width) (small : ∀ digit ∈ values, digit < 16)
    (short : values.length ≤ width) :
    Text.hexDigits width (ofDigits .hexadecimal values) =
      List.replicate (width - values.length) '0' ++ values.map Nat.digitChar := by
  have below : ofDigits .hexadecimal values < 16 ^ values.length := ofDigits_lt small
  have fits := below.trans_le (Nat.pow_le_pow_right (by decide) short)
  obtain ⟨others, written, count, bounded, made⟩ := hexDigits_values filled fits
  have same : others.reverse = (List.replicate (width - values.length) 0 ++ values).reverse := by
    refine Nat.ofDigits_inj_of_len_eq (b := 16) (by decide) ?_ ?_ ?_ ?_
    · simp [count]
      omega
    · simpa using bounded
    · simp only [List.mem_reverse, List.mem_append, List.mem_replicate]
      rintro digit (⟨_, rfl⟩ | member)
      · decide
      · exact small digit member
    · rw [ofDigits_eq, ofDigits_eq] at made
      rw [List.reverse_append, List.reverse_replicate, Nat.ofDigits_append,
        Nat.ofDigits_replicate_zero, Nat.mul_zero, Nat.add_zero]
      exact made
  rw [written, List.reverse_injective same, List.map_append, List.map_replicate]
  rfl

/-- The same digits make up one number only. -/
theorem Spells.unique {other : Nat} (spelled : Spells digits number)
    (again : Spells digits other) : number = other := by
  obtain ⟨values, read, rfl⟩ := spelled
  obtain ⟨others, same, rfl⟩ := again
  obtain rfl : values = others :=
    List.map_injective_iff.mpr (Option.some_injective Nat) (read.symm.trans same)
  rfl

theorem Spells.isDigit (spelled : Spells digits number) :
    ∀ c ∈ digits, (hexValue? c).isSome = true := by
  obtain ⟨values, read, _⟩ := spelled
  intro c member
  have found := List.mem_map_of_mem (f := hexValue?) member
  rw [read] at found
  obtain ⟨digit, _, same⟩ := List.mem_map.mp found
  rw [← same, Option.isSome_some]

theorem Spells.lt (spelled : Spells digits number) : number < 16 ^ digits.length := by
  obtain ⟨values, read, rfl⟩ := spelled
  have count : digits.length = values.reverse.length := by
    simpa using congrArg List.length read
  rw [count]
  refine Nat.ofDigits_lt_base_pow_length (by decide) fun digit member => ?_
  have found := List.mem_map_of_mem (f := some) (List.mem_reverse.mp member)
  rw [← read] at found
  obtain ⟨c, _, same⟩ := List.mem_map.mp found
  exact lt_of_hexValue? same

section Digit

variable (isDigit : (hexValue? c).isSome = true)

include isDigit

theorem plainChar_of_isDigit : plainChar (.char c) = c := by
  obtain ⟨digit, read⟩ := Option.isSome_iff_exists.mp isDigit
  rw [hexValue?_eq_some_iff] at read
  exact if_pos (by omega)

theorem isBlank_of_isDigit : Text.isBlank c = false := by
  obtain ⟨digit, read⟩ := Option.isSome_iff_exists.mp isDigit
  rw [hexValue?_eq_some_iff] at read
  simp [Text.isBlank, Text.inRanges, Text.blankRanges]
  omega

theorem isRunChar_of_isDigit : isRunChar .hexadecimal c = true := by
  obtain ⟨digit, read⟩ := Option.isSome_iff_exists.mp isDigit
  simp [isRunChar, digit?, read, Base.value, lt_of_hexValue? read]

end Digit

section Digits

variable (areDigits : ∀ c ∈ digits, (hexValue? c).isSome = true)

include areDigits

theorem map_plainChar_digits : (Text.ofChars digits).map plainChar = digits := by
  rw [Text.ofChars, List.map_map]
  exact (List.map_congr_left fun c member => plainChar_of_isDigit (areDigits c member)).trans
    (List.map_id digits)

theorem splitSign_digits : splitSign digits = (false, digits) := by
  unfold splitSign
  split
  · exact absurd (areDigits '+' (by simp)) (by decide)
  · exact absurd (areDigits '-' (by simp)) (by decide)
  · rfl

theorem dropRadixMark_digits : dropRadixMark .hexadecimal digits = digits := by
  unfold dropRadixMark
  split
  · exact absurd (areDigits 'x' (by simp)) (by decide)
  · exact absurd (areDigits 'X' (by simp)) (by decide)
  · exact absurd (areDigits 'x' (by simp)) (by decide)
  · exact absurd (areDigits 'X' (by simp)) (by decide)
  · rfl

end Digits

theorem digitsOf_of_map (read : digits.map hexValue? = values.map some)
    (filled : afterDigit = true ∨ digits ≠ []) :
    digitsOf .hexadecimal afterDigit digits = some values := by
  induction digits generalizing values afterDigit with
  | nil =>
      obtain rfl : values = [] := by simpa using read.symm
      simp [digitsOf, filled.resolve_right (by simp)]
  | cons c rest ih =>
      cases values with
      | nil => simp at read
      | cons digit values =>
          obtain ⟨first, others⟩ := List.cons.inj read
          have apart : c ≠ '_' := by
            rintro rfl
            cases first
          have small : digit < Base.hexadecimal.value := lt_of_hexValue? first
          simp [digitsOf, apart, digit?, first, Option.filter, small, ih others (.inl rfl)]

/-- Digits alone are read as the number that they make up. -/
theorem read_of_spells (spelled : Spells digits number) (filled : digits ≠ []) :
    read .hexadecimal (Text.ofChars digits) = .ok number := by
  have areDigits := spelled.isDigit
  have body : digits.dropWhile Text.isBlank = digits := by
    obtain ⟨c, rest, rfl⟩ := List.exists_cons_of_ne_nil filled
    exact List.dropWhile_cons_of_neg (by simp [isBlank_of_isDigit (areDigits c (by simp))])
  have run : ∀ c ∈ digits, isRunChar .hexadecimal c = true := fun c member =>
    isRunChar_of_isDigit (areDigits c member)
  obtain ⟨values, same, rfl⟩ := spelled
  simp only [read, map_plainChar_digits areDigits, body, splitSign_digits areDigits,
    dropRadixMark_digits areDigits,
    List.takeWhile_eq_self_iff.mpr run, List.dropWhile_eq_nil_iff.mpr run,
    digitsOf_of_map same (.inr filled)]
  simp [Base.digitLimit?, ofDigits_eq, Base.value]

/-- A run has no more digits than characters. -/
theorem length_digitsOf_le (read : digitsOf base afterDigit s = some values) :
    values.length ≤ s.length := by
  induction s generalizing values afterDigit with
  | nil =>
      rw [digitsOf] at read
      split at read
      · simp [← Option.some.inj read]
      · cases read
  | cons c rest ih =>
      rw [digitsOf] at read
      split at read
      · split at read
        · exact Nat.le_succ_of_le (ih read)
        · cases read
      · split at read
        · obtain ⟨others, remaining, rfl⟩ := Option.map_eq_some_iff.mp read
          exact Nat.succ_le_succ (ih remaining)
        · cases read

theorem length_splitSign_le (s : List Char) : (splitSign s).2.length ≤ s.length := by
  unfold splitSign
  split <;> simp

theorem length_dropRadixMark_le (base : Base) (s : List Char) :
    (dropRadixMark base s).length ≤ s.length := by
  unfold dropRadixMark
  split <;> simp <;> omega

/-- What a literal stands for fits into as many digits as the literal has characters. -/
theorem toNat_lt_of_read {s : Text} {value : Int} (accepted : read base s = .ok value) :
    value.toNat < base.value ^ s.length := by
  simp only [read] at accepted
  set unsigned := dropRadixMark base
    (splitSign ((s.map plainChar).dropWhile Text.isBlank)).2
  have short : unsigned.length ≤ s.length :=
    calc unsigned.length
        ≤ (splitSign ((s.map plainChar).dropWhile Text.isBlank)).2.length :=
          length_dropRadixMark_le base _
      _ ≤ ((s.map plainChar).dropWhile Text.isBlank).length := length_splitSign_le _
      _ ≤ (s.map plainChar).length := (List.dropWhile_sublist _).length_le
      _ = s.length := List.length_map _
  split at accepted
  · cases accepted
  · rename_i values run
    have within : values.length ≤ s.length :=
      (length_digitsOf_le run).trans ((List.takeWhile_sublist _).length_le.trans short)
    have positive : 0 < base.value := by cases base <;> decide
    have bound : ofDigits base values < base.value ^ s.length :=
      (ofDigits_lt (digitsOf_lt run)).trans_le (Nat.pow_le_pow_right positive within)
    split at accepted
    · cases accepted
    · split at accepted
      · obtain rfl := Except.ok.inj accepted
        split <;> omega
      · cases accepted

end ImageStages.Literal
