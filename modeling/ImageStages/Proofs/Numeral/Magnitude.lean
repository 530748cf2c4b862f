import Mathlib.Algebra.Order.Ring.Int
import Mathlib.Data.List.Induction
import ImageStages.Numeral.Binary64
import ImageStages.Numeral.Literal
import ImageStages.Proofs.Results

namespace ImageStages

namespace Binary64

variable {numerator denominator significand : Nat} {negative : Bool} {exponent scale : Int}

theorem nearestEven_le (numerator denominator : Nat) :
    nearestEven numerator denominator ≤ numerator / denominator + 1 := by
  have parity := Nat.mod_lt (numerator / denominator) (show 0 < 2 by omega)
  simp only [nearestEven]
  split
  · omega
  · split <;> omega

theorem le_gridExponent (numerator denominator : Nat) :
    (numerator.log2 : Int) - denominator.log2 - 53 ≤ gridExponent numerator denominator := by
  simp only [gridExponent, significandBits]
  split <;> omega

/-- On its grid a fraction has no more than one bit beyond those of a significand. -/
theorem scaleDown_lt (positive : 0 < denominator)
    (fine : (numerator.log2 : Int) - denominator.log2 - 53 ≤ exponent) :
    (scaleDown numerator denominator exponent).1 <
      2 ^ 54 * (scaleDown numerator denominator exponent).2 := by
  have above : numerator < 2 ^ (numerator.log2 + 1) := Nat.lt_log2_self
  have below : 2 ^ denominator.log2 ≤ denominator := Nat.log2_self_le (by omega)
  unfold scaleDown
  split
  · have bits : numerator.log2 + 1 ≤ 54 + (denominator.log2 + exponent.toNat) := by omega
    calc numerator
        < 2 ^ (numerator.log2 + 1) := above
      _ ≤ 2 ^ (54 + (denominator.log2 + exponent.toNat)) := Nat.pow_le_pow_right (by omega) bits
      _ = 2 ^ 54 * (2 ^ denominator.log2 * 2 ^ exponent.toNat) := by rw [Nat.pow_add, Nat.pow_add]
      _ ≤ 2 ^ 54 * (denominator <<< exponent.toNat) := by
          rw [Nat.shiftLeft_eq]
          exact Nat.mul_le_mul_left _ (Nat.mul_le_mul_right _ below)
  · have bits : numerator.log2 + 1 + (-exponent).toNat ≤ 54 + denominator.log2 := by omega
    calc numerator <<< (-exponent).toNat
        = numerator * 2 ^ (-exponent).toNat := Nat.shiftLeft_eq _ _
      _ < 2 ^ (numerator.log2 + 1) * 2 ^ (-exponent).toNat :=
          Nat.mul_lt_mul_of_pos_right above (Nat.two_pow_pos _)
      _ = 2 ^ (numerator.log2 + 1 + (-exponent).toNat) := (Nat.pow_add _ _ _).symm
      _ ≤ 2 ^ (54 + denominator.log2) := Nat.pow_le_pow_right (by omega) bits
      _ = 2 ^ 54 * 2 ^ denominator.log2 := Nat.pow_add _ _ _
      _ ≤ 2 ^ 54 * denominator := Nat.mul_le_mul_left _ below

/-- A finite number is no larger than the greatest that a grid of 54 bits has. -/
def Bounded : Binary64 → Prop
  | .finite _ significand exponent => significand ≤ 2 ^ 54 ∧ exponent ≤ greatestExponent
  | _ => True

theorem bounded_of_fits (short : significand ≤ 2 ^ 54) :
    (if greatestExponent < exponent then infinite negative
      else finite negative significand exponent).Bounded := by
  split
  · trivial
  · exact ⟨short, Int.not_lt.mp ‹_›⟩

theorem ofFraction_bounded (positive : 0 < denominator) :
    (ofFraction negative numerator denominator).Bounded := by
  have scaled := scaleDown_lt positive (le_gridExponent numerator denominator)
  have quotient := Nat.div_lt_of_lt_mul (Nat.mul_comm _ _ ▸ scaled)
  have rounded := Nat.le_trans (nearestEven_le _ _) quotient
  simp only [ofFraction]
  split
  · exact ⟨Nat.zero_le _, by decide⟩
  split
  · exact bounded_of_fits (by decide)
  · exact bounded_of_fits rounded

theorem ofDecimal_bounded (negative : Bool) (digits : Nat) (scale : Int) :
    (ofDecimal negative digits scale).Bounded := by
  simp only [ofDecimal]
  repeat' split
  · exact ⟨Nat.zero_le _, by decide⟩
  · trivial
  · exact ⟨Nat.zero_le _, by decide⟩
  · exact ofFraction_bounded (by omega)
  · exact ofFraction_bounded (Nat.pow_pos (by omega))

/-- The bits of the integer part of a bounded number. -/
def integerBits : Nat := 54 + greatestExponent.toNat

theorem Bounded.truncate_le (bounded : (Binary64.finite negative significand exponent).Bounded) :
    (truncate negative significand exponent).natAbs ≤ 2 ^ integerBits := by
  obtain ⟨short, low⟩ := bounded
  have magnitude : (if 0 ≤ exponent then significand <<< exponent.toNat
      else significand >>> (-exponent).toNat) ≤ 2 ^ integerBits := by
    have low : exponent.toNat ≤ greatestExponent.toNat := Int.toNat_le_toNat low
    rw [integerBits, Nat.pow_add]
    generalize greatestExponent.toNat = greatest at low ⊢
    split
    · rw [Nat.shiftLeft_eq]
      exact Nat.mul_le_mul short (Nat.pow_le_pow_right (by omega) low)
    · calc significand >>> (-exponent).toNat
          ≤ significand := Nat.shiftRight_le _ _
        _ ≤ 2 ^ 54 := short
        _ ≤ 2 ^ 54 * 2 ^ greatest := Nat.le_mul_of_pos_right _ (Nat.two_pow_pos _)
  rw [truncate]
  split
  · rw [Int.natAbs_neg, Int.natAbs_natCast]
    exact magnitude
  · rw [Int.natAbs_natCast]
    exact magnitude

end Binary64

section Digits

theorem isDigit_toNat {c : Char} (digit : c.isDigit = true) : c.toNat - '0'.toNat < 10 := by
  have bounds : 48 ≤ c.toNat ∧ c.toNat ≤ 57 := by
    simpa [Char.isDigit, UInt32.le_iff_toNat_le] using digit
  have zero : '0'.toNat = 48 := rfl
  omega

/-- Digits make a number of no more digits. -/
theorem ofDigitChars_lt {digits : List Char} (all : ∀ c ∈ digits, c.isDigit = true) :
    Nat.ofDigitChars 10 digits 0 < 10 ^ digits.length := by
  induction digits with
  | nil => simp
  | cons c rest ih =>
      have first := isDigit_toNat (all c (by simp))
      have others := ih fun c member => all c (by simp [member])
      rw [Nat.ofDigitChars_cons, Nat.ofDigitChars_eq_ofDigitChars_zero]
      calc 10 ^ rest.length * (10 * 0 + (c.toNat - '0'.toNat)) + Nat.ofDigitChars 10 rest 0
          < 10 ^ rest.length * (c.toNat - '0'.toNat) + 10 ^ rest.length := by
            rw [Nat.mul_zero, Nat.zero_add]
            exact Nat.add_lt_add_left others _
        _ = 10 ^ rest.length * (c.toNat - '0'.toNat + 1) := (Nat.mul_succ _ _).symm
        _ ≤ 10 ^ rest.length * 10 := Nat.mul_le_mul_left _ first
        _ = 10 ^ (c :: rest).length := (Nat.pow_succ _ _).symm

end Digits

namespace Literal

theorem ofDigits_lt {base : Base} {digits : List Nat}
    (all : ∀ digit ∈ digits, digit < base.value) :
    ofDigits base digits < base.value ^ digits.length := by
  induction digits using List.reverseRecOn with
  | nil => simp [ofDigits]
  | append_singleton before last ih =>
      have earlier := ih fun digit member => all digit (by simp [member])
      have final := all last (by simp)
      have split : ofDigits base (before ++ [last]) = ofDigits base before * base.value + last := by
        simp [ofDigits]
      rw [split, List.length_append, List.length_singleton, Nat.pow_succ]
      calc ofDigits base before * base.value + last
          < ofDigits base before * base.value + base.value := Nat.add_lt_add_left final _
        _ = (ofDigits base before + 1) * base.value := (Nat.succ_mul _ _).symm
        _ ≤ base.value ^ before.length * base.value := Nat.mul_le_mul_right _ earlier

theorem digitsOf_lt {base : Base} {afterDigit : Bool} {s : List Char} {digits : List Nat}
    (read : digitsOf base afterDigit s = some digits) :
    ∀ digit ∈ digits, digit < base.value := by
  induction s generalizing afterDigit digits with
  | nil =>
      cases afterDigit with
      | false => cases read
      | true =>
          obtain rfl := Option.some.inj read
          simp
  | cons c rest ih =>
      rw [digitsOf] at read
      split at read
      · cases afterDigit with
        | false => simp at read
        | true => exact ih (by simpa using read)
      · split at read
        · rename_i digit found
          obtain ⟨others, completed, rfl⟩ := Option.map_eq_some_iff.mp read
          have small := (Option.filter_eq_some_iff.mp found).2
          exact List.forall_mem_cons.mpr ⟨by simpa using small, ih completed⟩
        · cases read

/-- A literal that is read has no more digits than are allowed. -/
theorem read_lt {base : Base} {limit : Nat} {s : Text} {value : Int}
    (limited : base.digitLimit? = some limit) (positive : 0 < base.value)
    (succeeded : read base s = .ok value) : value.natAbs < base.value ^ limit := by
  simp only [read, limited, Option.any_some, decide_eq_true_eq] at succeeded
  split at succeeded
  · cases succeeded
  · rename_i digits found
    split at succeeded
    · cases succeeded
    · rename_i short
      split at succeeded
      · have magnitude : ofDigits base digits < base.value ^ limit :=
          Nat.lt_of_lt_of_le (ofDigits_lt (digitsOf_lt found))
            (Nat.pow_le_pow_right positive (Nat.not_lt.mp short))
        obtain rfl := Except.ok.inj succeeded
        split
        · simpa using magnitude
        · simpa using magnitude
      · cases succeeded

end Literal

end ImageStages
