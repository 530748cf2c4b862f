import Mathlib.Tactic.Convert
import ImageStages.Proofs.Results
import ImageStages.Text.Utf8

namespace ImageStages.Text

/-! Decoding reads exactly what encoding writes.

The syntax of an encoded code point stands between the two: encoding writes it, and decoding
steps through it octet by octet. -/

/-- An octet that continues a character. -/
def Continues (octet : UInt8) : Prop :=
  0x80 ≤ octet.toNat ∧ octet.toNat ≤ 0xbf

/-- The octets of a code point.  Longer forms of what has a shorter one are left out, and so
are the surrogates and what lies beyond the last code point. -/
inductive Encodes : Nat → List UInt8 → Prop where
  | one {first : UInt8} (ascii : first.toNat < 0x80) : Encodes first.toNat [first]
  | two {first second : UInt8} (least : 0xc2 ≤ first.toNat) (below : first.toNat < 0xe0)
      (next : Continues second) :
      Encodes ((first.toNat - 0xc0) * 64 + (second.toNat - 0x80)) [first, second]
  | three {first second third : UInt8} (least : 0xe0 ≤ first.toNat) (below : first.toNat < 0xf0)
      (next : Continues second) (last : Continues third)
      (shortest : first.toNat = 0xe0 → 0xa0 ≤ second.toNat)
      (scalar : first.toNat = 0xed → second.toNat ≤ 0x9f) :
      Encodes (((first.toNat - 0xe0) * 64 + (second.toNat - 0x80)) * 64 + (third.toNat - 0x80))
        [first, second, third]
  | four {first second third fourth : UInt8} (least : 0xf0 ≤ first.toNat)
      (below : first.toNat < 0xf5) (next : Continues second) (middle : Continues third)
      (last : Continues fourth) (shortest : first.toNat = 0xf0 → 0x90 ≤ second.toNat)
      (greatest : first.toNat = 0xf4 → second.toNat ≤ 0x8f) :
      Encodes ((((first.toNat - 0xf0) * 64 + (second.toNat - 0x80)) * 64 +
        (third.toNat - 0x80)) * 64 + (fourth.toNat - 0x80)) [first, second, third, fourth]

variable {position value : Nat} {under : Partial} {octet : UInt8} {octets rest : List UInt8}
  {s : List Char} {c : Char}

section Writing

theorem toNat_octet {bits : Nat} (fits : bits < 256) : (UInt8.ofNat bits).toNat = bits :=
  UInt8.toNat_ofNat_of_lt' fits

/-- A continuing octet holds six bits. -/
theorem continues_tail (bits : Nat) :
    Continues (UInt8.ofNat (0x80 + bits % 64)) ∧
      (UInt8.ofNat (0x80 + bits % 64)).toNat = 0x80 + bits % 64 := by
  have held : (UInt8.ofNat (0x80 + bits % 64)).toNat = 0x80 + bits % 64 := toNat_octet (by omega)
  rw [Continues, held]
  omega

/-- Encoding a character follows the syntax. -/
theorem encodes_encodeChar (c : Char) : Encodes c.toNat (encodeChar c) := by
  have valid : c.toNat < 0xd800 ∨ 0xdfff < c.toNat ∧ c.toNat < 0x110000 := c.valid
  simp only [encodeChar, Nat.shiftRight_eq_div_pow]
  generalize c.toNat = value at valid
  obtain ⟨lastContinues, last⟩ := continues_tail (value / 2 ^ 0)
  obtain ⟨middleContinues, middle⟩ := continues_tail (value / 2 ^ 6)
  obtain ⟨nextContinues, next⟩ := continues_tail (value / 2 ^ 12)
  split
  · have first : (UInt8.ofNat value).toNat = value := toNat_octet (by omega)
    have shape : Encodes _ [UInt8.ofNat value] := .one (by omega)
    rwa [first] at shape
  split
  · have first : (UInt8.ofNat (0xc0 + value / 2 ^ 6)).toNat = 0xc0 + value / 2 ^ 6 :=
      toNat_octet (by omega)
    have shape : Encodes _ [UInt8.ofNat (0xc0 + value / 2 ^ 6), _] :=
      .two (by omega) (by omega) lastContinues
    rw [first, last] at shape
    convert shape using 1
    omega
  split
  · have first : (UInt8.ofNat (0xe0 + value / 2 ^ 12)).toNat = 0xe0 + value / 2 ^ 12 :=
      toNat_octet (by omega)
    have shape : Encodes _ [UInt8.ofNat (0xe0 + value / 2 ^ 12), _, _] :=
      .three (by omega) (by omega) middleContinues lastContinues (by omega) (by omega)
    rw [first, middle, last] at shape
    convert shape using 1
    omega
  · have first : (UInt8.ofNat (0xf0 + value / 2 ^ 18)).toNat = 0xf0 + value / 2 ^ 18 :=
      toNat_octet (by omega)
    have shape : Encodes _ [UInt8.ofNat (0xf0 + value / 2 ^ 18), _, _, _] :=
      .four (by omega) (by omega) nextContinues middleContinues lastContinues (by omega) (by omega)
    rw [first, next, middle, last] at shape
    convert shape using 1
    omega

theorem Encodes.isValidChar (shape : Encodes value octets) : value.isValidChar := by
  cases shape with
  | one ascii => exact .inl (by omega)
  | two least below next =>
      unfold Continues at next
      exact .inl (by omega)
  | three least below next last shortest scalar =>
      unfold Continues at next last
      unfold Nat.isValidChar
      omega
  | four least below next middle last shortest greatest =>
      unfold Continues at next middle last
      exact .inr ⟨by omega, by omega⟩

theorem Encodes.toNat_ofNat (shape : Encodes value octets) : (Char.ofNat value).toNat = value := by
  rw [Char.ofNat, dif_pos shape.isValidChar]
  rfl

theorem ofNat_eq {bits : Nat} (same : bits = octet.toNat) : UInt8.ofNat bits = octet := by
  rw [same, UInt8.ofNat_toNat]

/-- What follows the syntax is the encoding of its character. -/
theorem Encodes.encodeChar_ofNat (shape : Encodes value octets) :
    encodeChar (Char.ofNat value) = octets := by
  simp only [encodeChar, shape.toNat_ofNat, Nat.shiftRight_eq_div_pow]
  cases shape with
  | one ascii => rw [if_pos ascii, UInt8.ofNat_toNat]
  | two least below next =>
      unfold Continues at next
      rw [if_neg (by omega), if_pos (by omega)]
      congr <;> exact ofNat_eq (by omega)
  | three least below next last shortest scalar =>
      unfold Continues at next last
      rw [if_neg (by omega), if_neg (by omega), if_pos (by omega)]
      congr <;> exact ofNat_eq (by omega)
  | four least below next middle last shortest greatest =>
      unfold Continues at next middle last
      rw [if_neg (by omega), if_neg (by omega), if_neg (by omega)]
      congr <;> exact ofNat_eq (by omega)

end Writing

section Reading

theorem lead?_one (ascii : octet.toNat < 0x80) :
    lead? octet = some ⟨octet.toNat, 0x80, 0xbf, 0⟩ := by
  simp [lead?, UInt8.lt_iff_toNat_lt, ascii]

theorem lead?_two (least : 0xc2 ≤ octet.toNat) (below : octet.toNat < 0xe0) :
    lead? octet = some ⟨octet.toNat - 0xc0, 0x80, 0xbf, 1⟩ := by
  simp only [lead?, UInt8.lt_iff_toNat_lt, UInt8.reduceToNat]
  rw [if_neg (by omega), if_neg (by omega), if_pos below]

theorem lead?_three (least : 0xe0 ≤ octet.toNat) (below : octet.toNat < 0xf0) :
    lead? octet = some ⟨octet.toNat - 0xe0, if octet.toNat = 0xe0 then 0xa0 else 0x80,
      if octet.toNat = 0xed then 0x9f else 0xbf, 2⟩ := by
  simp only [lead?, UInt8.lt_iff_toNat_lt, ← UInt8.toNat_inj, UInt8.reduceToNat]
  rw [if_neg (by omega), if_neg (by omega), if_neg (by omega)]
  rcases eq_or_ne octet.toNat 0xe0 with first | after
  · simp only [first, if_true, Nat.sub_self, Nat.reduceEqDiff, if_false]
  rcases eq_or_ne octet.toNat 0xed with surrogate | scalar
  · simp only [surrogate, Nat.reduceEqDiff, if_false, if_true, Nat.reduceSub]
  · simp only [after, scalar, below, if_false, if_true]

theorem lead?_four (least : 0xf0 ≤ octet.toNat) (below : octet.toNat < 0xf5) :
    lead? octet = some ⟨octet.toNat - 0xf0, if octet.toNat = 0xf0 then 0x90 else 0x80,
      if octet.toNat = 0xf4 then 0x8f else 0xbf, 3⟩ := by
  simp only [lead?, UInt8.lt_iff_toNat_lt, ← UInt8.toNat_inj, UInt8.reduceToNat]
  rw [if_neg (by omega), if_neg (by omega), if_neg (by omega), if_neg (by omega),
    if_neg (by omega), if_neg (by omega)]
  rcases eq_or_ne octet.toNat 0xf0 with first | after
  · simp only [first, if_true, Nat.sub_self, Nat.reduceEqDiff, if_false]
  rcases eq_or_ne octet.toNat 0xf4 with last | before
  · simp only [last, Nat.reduceEqDiff, Nat.reduceLT, if_false, if_true, Nat.reduceSub]
  · have inside : octet.toNat < 0xf4 := by omega
    simp only [after, before, inside, if_false, if_true]

theorem lead?_none (strange : 0x80 ≤ octet.toNat ∧ octet.toNat < 0xc2 ∨ 0xf5 ≤ octet.toNat) :
    lead? octet = none := by
  simp only [lead?, UInt8.lt_iff_toNat_lt, ← UInt8.toNat_inj, UInt8.reduceToNat]
  rcases strange with ⟨least, below⟩ | beyond
  · rw [if_neg (by omega), if_pos below]
  · repeat rw [if_neg (by omega)]

/-- The range of the octet after the first one, narrower than that of the others at the edges. -/
theorem within_iff {low high : Prop} [Decidable low] [Decidable high]
    {least greatest next : UInt8} (from' : 0x80 ≤ least.toNat) (upTo : greatest.toNat ≤ 0xbf) :
    ((if low then least else 0x80) ≤ next ∧ next ≤ (if high then greatest else 0xbf)) ↔
      Continues next ∧ (low → least.toNat ≤ next.toNat) ∧ (high → next.toNat ≤ greatest.toNat) := by
  simp only [UInt8.le_iff_toNat_le, Continues]
  split_ifs <;> simp_all <;> omega

theorem continues_iff {next : UInt8} : (0x80 ≤ next ∧ next ≤ 0xbf) ↔ Continues next := by
  simp [UInt8.le_iff_toNat_le, Continues]

/-- Within a character the next octet is in its range, and ends the character or is followed
by more of it. -/
theorem decodeFrom_pending_ok_iff :
    decodeFrom position (some under) octets = .ok s ↔
      ∃ next rest, octets = next :: rest ∧ (under.least ≤ next ∧ next ≤ under.greatest) ∧
        if under.following - 1 = 0 then
          ∃ others, decodeFrom (position + 1) none rest = .ok others ∧
            Char.ofNat (under.payload * 64 + (next.toNat - 0x80)) :: others = s
        else decodeFrom (position + 1) (some (under.accept next)) rest = .ok s := by
  cases octets with
  | nil => simp [decodeFrom]
  | cons next rest =>
      rw [decodeFrom]
      by_cases within : under.least ≤ next ∧ next ≤ under.greatest
      · by_cases last : under.following - 1 = 0 <;> simp [within, last, Partial.accept]
      · simp [within]

theorem decodeFrom_lead {lead : Lead} (found : lead? octet = some lead)
    (more : lead.following ≠ 0) :
    decodeFrom position none (octet :: rest) = decodeFrom (position + 1)
      (some ⟨position, octet, 1, lead.payload, lead.least, lead.greatest, lead.following⟩)
      rest := by
  rw [decodeFrom]
  simp only [found, more, if_false]

/-- Between characters the octets start with one that follows the syntax. -/
theorem decodeFrom_cons_ok (decoded : decodeFrom position none (octet :: rest) = .ok s) :
    ∃ value tail after others, rest = tail ++ after ∧ Encodes value (octet :: tail) ∧
      decodeFrom (position + (tail.length + 1)) none after = .ok others ∧
      Char.ofNat value :: others = s := by
  have ranges : octet.toNat < 0x80 ∨ (0xc2 ≤ octet.toNat ∧ octet.toNat < 0xe0) ∨
      (0xe0 ≤ octet.toNat ∧ octet.toNat < 0xf0) ∨ (0xf0 ≤ octet.toNat ∧ octet.toNat < 0xf5) ∨
      (0x80 ≤ octet.toNat ∧ octet.toNat < 0xc2 ∨ 0xf5 ≤ octet.toNat) := by omega
  rcases ranges with ascii | ⟨least, below⟩ | ⟨least, below⟩ | ⟨least, below⟩ | strange
  · rw [decodeFrom] at decoded
    simp only [lead?_one ascii, if_true, Except.map_eq_ok_iff] at decoded
    obtain ⟨others, remaining, rfl⟩ := decoded
    exact ⟨_, [], rest, others, rfl, .one ascii, remaining, rfl⟩
  · rw [decodeFrom_lead (lead?_two least below) (by simp), decodeFrom_pending_ok_iff] at decoded
    simp only [Nat.sub_self, if_true, continues_iff] at decoded
    obtain ⟨second, after, rfl, next, others, remaining, rfl⟩ := decoded
    exact ⟨_, [second], after, others, rfl, .two least below next, remaining, rfl⟩
  · rw [decodeFrom_lead (lead?_three least below) (by simp), decodeFrom_pending_ok_iff] at decoded
    obtain ⟨second, _, rfl, range, decoded⟩ := decoded
    obtain ⟨next, shortest, scalar⟩ := (within_iff (by decide) (by decide)).mp range
    rw [if_neg (by simp), decodeFrom_pending_ok_iff] at decoded
    obtain ⟨third, after, rfl, last, others, remaining, rfl⟩ := decoded
    exact ⟨_, [second, third], after, others, rfl,
      .three least below next (continues_iff.mp last) shortest scalar, remaining, rfl⟩
  · rw [decodeFrom_lead (lead?_four least below) (by simp), decodeFrom_pending_ok_iff] at decoded
    obtain ⟨second, _, rfl, range, decoded⟩ := decoded
    obtain ⟨next, shortest, greatest⟩ := (within_iff (by decide) (by decide)).mp range
    rw [if_neg (by simp), decodeFrom_pending_ok_iff] at decoded
    obtain ⟨third, _, rfl, middle, decoded⟩ := decoded
    rw [if_neg (by simp [Partial.accept]), decodeFrom_pending_ok_iff] at decoded
    obtain ⟨fourth, after, rfl, last, others, remaining, rfl⟩ := decoded
    exact ⟨_, [second, third, fourth], after, others, rfl,
      .four least below next (continues_iff.mp middle) (continues_iff.mp last) shortest greatest,
      remaining, rfl⟩
  · rw [decodeFrom] at decoded
    simp only [lead?_none strange, reduceCtorEq] at decoded

theorem Encodes.decodeFrom (shape : Encodes value octets) (rest : List UInt8)
    (remaining : Text.decodeFrom (position + octets.length) none rest = .ok s) :
    Text.decodeFrom position none (octets ++ rest) = .ok (Char.ofNat value :: s) := by
  cases shape with
  | one ascii =>
      rw [List.singleton_append, Text.decodeFrom]
      simp only [lead?_one ascii, if_true]
      rw [Except.map_eq_ok_iff]
      exact ⟨s, remaining, rfl⟩
  | two least below next =>
      rw [List.cons_append, decodeFrom_lead (lead?_two least below) (by simp),
        decodeFrom_pending_ok_iff]
      exact ⟨_, rest, rfl, continues_iff.mpr next, s, remaining, rfl⟩
  | three least below next last shortest scalar =>
      rw [List.cons_append, decodeFrom_lead (lead?_three least below) (by simp),
        decodeFrom_pending_ok_iff]
      refine ⟨_, _, rfl, (within_iff (by decide) (by decide)).mpr ⟨next, shortest, scalar⟩, ?_⟩
      rw [if_neg (by simp), decodeFrom_pending_ok_iff]
      exact ⟨_, rest, rfl, continues_iff.mpr last, s, remaining, rfl⟩
  | four least below next middle last shortest greatest =>
      rw [List.cons_append, decodeFrom_lead (lead?_four least below) (by simp),
        decodeFrom_pending_ok_iff]
      refine ⟨_, _, rfl, (within_iff (by decide) (by decide)).mpr ⟨next, shortest, greatest⟩, ?_⟩
      rw [if_neg (by simp), decodeFrom_pending_ok_iff]
      refine ⟨_, _, rfl, continues_iff.mpr middle, ?_⟩
      rw [if_neg (by simp [Partial.accept]), decodeFrom_pending_ok_iff]
      exact ⟨_, rest, rfl, continues_iff.mpr last, s, remaining, rfl⟩

end Reading

theorem encodeUtf8_cons (c : Char) (s : List Char) :
    encodeUtf8 (c :: s) = encodeChar c ++ encodeUtf8 s :=
  List.flatMap_cons

theorem decodeFrom_encodeUtf8 (position : Nat) (s : List Char) :
    decodeFrom position none (encodeUtf8 s) = .ok s := by
  induction s generalizing position with
  | nil => rfl
  | cons c s ih =>
      have decoded := (encodes_encodeChar c).decodeFrom (encodeUtf8 s)
        (ih (position + (encodeChar c).length))
      rwa [Char.ofNat_toNat, ← encodeUtf8_cons] at decoded

theorem encodeUtf8_of_decodeFrom (decoded : decodeFrom position none octets = .ok s) :
    encodeUtf8 s = octets := by
  induction count : octets.length using Nat.strongRecOn generalizing position octets s with
  | _ bound ih =>
      cases octets with
      | nil =>
          obtain rfl := Except.ok.inj decoded
          rfl
      | cons octet rest =>
          obtain ⟨value, tail, after, others, rfl, shape, remaining, rfl⟩ :=
            decodeFrom_cons_ok decoded
          have short : after.length < bound := by
            rw [← count, List.length_cons, List.length_append]
            omega
          rw [encodeUtf8_cons, shape.encodeChar_ofNat, ih _ short remaining rfl,
            List.cons_append]

/-- The octets of a text are those that are decoded as it. -/
theorem decodeUtf8_ok_iff : decodeUtf8 octets = .ok s ↔ encodeUtf8 s = octets := by
  constructor
  · exact encodeUtf8_of_decodeFrom
  · rintro rfl
    exact decodeFrom_encodeUtf8 0 s

theorem decodeUtf8_fails_iff :
    (∃ error, decodeUtf8 octets = .error error) ↔
      ∀ written, encodeUtf8 written ≠ octets := by
  cases decoded : decodeUtf8 octets with
  | ok written =>
      have written := decodeUtf8_ok_iff.mp decoded
      simp only [reduceCtorEq, exists_false, false_iff, not_forall, not_not]
      exact ⟨_, written⟩
  | error error =>
      simp only [Except.error.injEq, exists_eq', true_iff]
      intro written same
      rw [decodeUtf8_ok_iff.mpr same] at decoded
      cases decoded

end ImageStages.Text
