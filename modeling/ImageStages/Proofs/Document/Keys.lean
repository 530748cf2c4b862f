import Mathlib.Algebra.Order.Ring.Int
import Mathlib.Data.List.Forall2
import Mathlib.Data.List.Induction
import ImageStages.Document.Basic

namespace ImageStages

/-! Keys that stand for the same value, and the fields stored under them.

Two keys are the same exactly when they stand for the same value, so a field that is
stored replaces at most one other, and of pairs with one key the last counts at the
place of the first. -/

/-- What a key stands for, numbers on the grid of the least exponent. -/
inductive KeyValue where
  | null
  | number (grid : Int)
  | unbounded (negative : Bool)
  | text (value : Text)
deriving DecidableEq

namespace Scalar

/-- What a key stands for; a number that is not one stands for nothing. -/
def keyValue? : Scalar → Option KeyValue
  | .null => some .null
  | .bool value => some (.number ((if value then 1 else 0) * Binary64.gridUnit))
  | .int value => some (.number (value * Binary64.gridUnit))
  | .real (.finite negative significand exponent) =>
      some (.number (Binary64.onLeastGrid negative significand exponent))
  | .real (.infinite negative) => some (.unbounded negative)
  | .real .notANumber => none
  | .text value => some (.text value)

theorem onGrid_inj {left right : Int} :
    left * Binary64.gridUnit = right * Binary64.gridUnit ↔ left = right := by
  have positive := Nat.two_pow_pos (-Binary64.leastExponent).toNat
  have unit : Binary64.gridUnit ≠ 0 := by
    rw [Binary64.gridUnit, Nat.one_shiftLeft]
    exact positive.ne'
  exact mul_left_inj' (Int.natCast_ne_zero.mpr unit)

theorem same_iff {left right : Scalar} :
    left.same right = true ↔
      ∃ value, left.keyValue? = some value ∧ right.keyValue? = some value := by
  rcases left with _ | left | left | (_ | _ | _) | left <;>
    rcases right with _ | right | right | (_ | _ | _) | right <;>
      simp only [same, keyValue?, int?, Option.any_some, Option.any_none, Binary64.same,
        Binary64.sameInt, Option.some.injEq, exists_eq_left', reduceCtorEq,
        KeyValue.number.injEq, KeyValue.unbounded.injEq, KeyValue.text.injEq, onGrid_inj,
        beq_iff_eq, and_false, false_and, exists_false, Bool.false_eq_true] <;>
      first | exact Iff.rfl | exact eq_comm

theorem same_symm {left right : Scalar} (same : left.same right = true) :
    right.same left = true := by
  obtain ⟨value, first, second⟩ := same_iff.mp same
  exact same_iff.mpr ⟨value, second, first⟩

theorem same_trans {first second third : Scalar} (left : first.same second = true)
    (right : second.same third = true) : first.same third = true := by
  obtain ⟨value, valueOfFirst, valueOfSecond⟩ := same_iff.mp left
  obtain ⟨other, otherOfSecond, otherOfThird⟩ := same_iff.mp right
  obtain rfl : value = other := Option.some.inj (valueOfSecond.symm.trans otherOfSecond)
  exact same_iff.mpr ⟨value, valueOfFirst, otherOfThird⟩

theorem same_comm (left right : Scalar) : left.same right = right.same left :=
  Bool.eq_iff_iff.mpr ⟨same_symm, same_symm⟩

theorem same_congr {left right : Scalar} (same : left.same right = true) (other : Scalar) :
    left.same other = right.same other :=
  Bool.eq_iff_iff.mpr ⟨same_trans (same_symm same), same_trans same⟩

theorem eq_of_text_same {value : Text} {other : Scalar}
    (same : (Scalar.text value).same other = true) : other = .text value := by
  cases other <;> simp_all [Scalar.same, int?]

end Scalar

/-- The value is the last of those that are the same. -/
def Standing (same : α → α → Bool) (values : List α) (value : α) : Prop :=
  ∃ before after, values = before ++ value :: after ∧ ∀ later ∈ after, same value later = false

section Standing

variable {same : α → α → Bool} {values : List α} {value last : α}

theorem Standing.mem (standing : Standing same values value) : value ∈ values := by
  obtain ⟨before, after, rfl, _⟩ := standing
  simp

theorem standing_cons {head : α} :
    Standing same (head :: values) value ↔
      (value = head ∧ ∀ later ∈ values, same value later = false) ∨
      Standing same values value := by
  constructor
  · intro holds
    obtain ⟨before, after, split, alone⟩ := holds
    cases before with
    | nil =>
        obtain ⟨rfl, rfl⟩ := List.cons.inj split
        exact .inl ⟨rfl, alone⟩
    | cons first before =>
        obtain ⟨rfl, rfl⟩ := List.cons.inj split
        exact .inr ⟨before, after, rfl, alone⟩
  · intro known
    rcases known with ⟨rfl, alone⟩ | ⟨before, after, rfl, alone⟩
    · exact ⟨[], values, rfl, alone⟩
    · exact ⟨head :: before, after, rfl, alone⟩

theorem standing_concat :
    Standing same (values ++ [last]) value ↔
      value = last ∨ (Standing same values value ∧ same value last = false) := by
  constructor
  · intro holds
    obtain ⟨before, after, split, alone⟩ := holds
    rcases List.eq_nil_or_concat after with rfl | ⟨after, final, rfl⟩
    · exact .inl (by simpa using (List.append_inj_right' split rfl).symm)
    · have split : values ++ [last] = (before ++ value :: after) ++ [final] := by
        simpa using split
      obtain ⟨rfl, equal⟩ := List.append_inj' split rfl
      obtain rfl : last = final := by simpa using equal
      exact .inr ⟨⟨before, after, rfl, fun later member => alone later (by simp [member])⟩,
        alone last (by simp)⟩
  · intro known
    rcases known with rfl | ⟨⟨before, after, rfl, alone⟩, apart⟩
    · exact ⟨values, [], by simp, by simp⟩
    · refine ⟨before, after ++ [last], by simp, ?_⟩
      intro later member
      rcases List.mem_append.mp member with member | member
      · exact alone later member
      · obtain rfl : later = last := by simpa using member
        exact apart

section Related

variable {related : α → β → Prop} {alike : β → β → Bool} {results : List β}

theorem alone_related_iff {result : β} (each : List.Forall₂ related values results)
    (agree : ∀ {other final}, related other final → same value other = alike result final) :
    (∀ later ∈ values, same value later = false) ↔
      ∀ later ∈ results, alike result later = false := by
  induction each with
  | nil => simp
  | cons next _ ih => simp only [List.forall_mem_cons, agree next, ih]

/-- The last ones of two lists correspond where what is the same does. -/
theorem exists_standing_iff {holds : α → Prop} {shows : β → Prop}
    (each : List.Forall₂ related values results)
    (agree : ∀ {value other result final}, related value result → related other final →
      same value other = alike result final)
    (carries : ∀ {value result}, related value result → (holds value ↔ shows result)) :
    (∃ value, Standing same values value ∧ holds value) ↔
      ∃ result, Standing alike results result ∧ shows result := by
  induction each with
  | nil => simp [Standing]
  | @cons value result values results first others ih =>
      have alone := alone_related_iff others (agree first)
      simp only [standing_cons, or_and_right, exists_or, and_assoc, exists_eq_left, alone,
        carries first, ih]

theorem Standing.corresponds (standing : Standing same values value)
    (each : List.Forall₂ related values results)
    (agree : ∀ {value other result final}, related value result → related other final →
      same value other = alike result final) :
    ∃ result, related value result ∧ Standing alike results result := by
  induction each with
  | nil => simp [Standing] at standing
  | @cons head result values results first others ih =>
      rcases standing_cons.mp standing with ⟨rfl, alone⟩ | standing
      · exact ⟨result, first,
          standing_cons.mpr (.inl ⟨rfl, (alone_related_iff others (agree first)).mp alone⟩)⟩
      · obtain ⟨final, holds, stands⟩ := ih standing
        exact ⟨final, holds, standing_cons.mpr (.inr stands)⟩

end Related

end Standing

namespace Fields

variable {fields : Fields} {pairs : List (Scalar × Document)} {key wanted : Scalar}
  {value : Document}

theorem find?_put (fields : Fields) (key wanted : Scalar) (value : Document) :
    (fields.put key value).find? wanted =
      if key.same wanted then some value else fields.find? wanted := by
  induction fields with
  | nil => rfl
  | cons field rest ih =>
      obtain ⟨other, old⟩ := field
      by_cases same : other.same key
      · by_cases found : key.same wanted <;>
          simp [put, find?, same, Scalar.same_congr same, found]
      · by_cases found : other.same wanted
        · have apart : key.same wanted = false := by
            by_contra contrary
            rw [Bool.not_eq_false] at contrary
            exact same (Scalar.same_trans found (Scalar.same_symm contrary))
          simp [put, find?, same, found, apart]
        · simp only [put, same, find?, found, Bool.false_eq_true, if_false]
          exact ih

def sameKey (left right : Scalar × Document) : Bool :=
  left.1.same right.1

def Distinct (fields : Fields) : Prop :=
  fields.Pairwise fun left right => sameKey left right = false

theorem put_of_absent (absent : ∀ field ∈ fields, field.1.same key = false) :
    fields.put key value = fields ++ [(key, value)] := by
  induction fields with
  | nil => rfl
  | cons field rest ih =>
      obtain ⟨other, old⟩ := field
      have apart : other.same key = false := absent (other, old) (by simp)
      rw [put, apart, if_neg Bool.false_ne_true,
        ih (fun field member => absent field (by simp [member]))]
      rfl

theorem put_of_present {before after : Fields} {other : Scalar} {old : Document}
    (same : other.same key = true) (apart : ∀ field ∈ before, field.1.same key = false) :
    put (before ++ (other, old) :: after) key value = before ++ (other, value) :: after := by
  induction before with
  | nil => simp [put, same]
  | cons field rest ih =>
      have headApart := apart field (by simp)
      have tail := ih fun field member => apart field (by simp [member])
      simp [put, headApart, tail]

theorem absent_or_present (distinct : fields.Distinct) (key : Scalar) :
    (∀ field ∈ fields, field.1.same key = false) ∨
    ∃ before other old after, fields = before ++ (other, old) :: after ∧
      other.same key = true ∧ ∀ field ∈ before ++ after, field.1.same key = false := by
  by_cases absent : ∀ field ∈ fields, field.1.same key = false
  · exact .inl absent
  · push Not at absent
    obtain ⟨⟨other, old⟩, member, found⟩ := absent
    have same : other.same key = true := by simpa using found
    obtain ⟨before, after, rfl⟩ := List.append_of_mem member
    obtain ⟨_, others, earlier⟩ := List.pairwise_append.mp distinct
    refine .inr ⟨before, other, old, after, rfl, same, ?_⟩
    intro field member
    -- Whatever is the same as the key is the same as the field that is there already.
    rw [Scalar.same_comm, ← Scalar.same_congr same]
    rcases List.mem_append.mp member with member | member
    · rw [Scalar.same_comm]
      exact earlier field member (other, old) (by simp)
    · exact (List.pairwise_cons.mp others).1 field member

/-- A field that is stored takes the place and the spelling of the one with its key, if
there is one. -/
theorem mem_put_iff {field : Scalar × Document} (distinct : fields.Distinct) :
    field ∈ fields.put key value ↔
      (field ∈ fields ∧ field.1.same key = false) ∨
      (field.2 = value ∧
        ((∃ old, (field.1, old) ∈ fields ∧ field.1.same key = true) ∨
          (field.1 = key ∧ ∀ other ∈ fields, other.1.same key = false))) := by
  obtain ⟨name, content⟩ := field
  rcases absent_or_present distinct key with
    absent | ⟨before, other, old, after, rfl, same, apart⟩
  · rw [put_of_absent absent, List.mem_append, List.mem_singleton, Prod.mk.injEq]
    constructor
    · intro present
      rcases present with member | ⟨rfl, rfl⟩
      · exact .inl ⟨member, absent _ member⟩
      · exact .inr ⟨rfl, .inr ⟨rfl, absent⟩⟩
    · intro listed
      rcases listed with ⟨member, _⟩ | ⟨rfl, ⟨old, member, found⟩ | ⟨rfl, _⟩⟩
      · exact .inl member
      · exact absurd (absent _ member) (by simp [found])
      · exact .inr ⟨rfl, rfl⟩
  · have occurs : ∀ content, (name, content) ∈ before ++ (other, old) :: after ↔
        (name, content) ∈ before ++ after ∨ (name = other ∧ content = old) := by
      intro content
      simp only [List.mem_append, List.mem_cons, Prod.mk.injEq]
      tauto
    have stored : (name, content) ∈ before ++ (other, value) :: after ↔
        (name, content) ∈ before ++ after ∨ (name = other ∧ content = value) := by
      simp only [List.mem_append, List.mem_cons, Prod.mk.injEq]
      tauto
    rw [put_of_present same fun field member => apart field (by simp [member]), stored, occurs]
    constructor
    · intro holds
      rcases holds with member | ⟨rfl, rfl⟩
      · exact .inl ⟨.inl member, apart _ member⟩
      · exact .inr ⟨rfl, .inl ⟨old, (occurs old).mpr (.inr ⟨rfl, rfl⟩), same⟩⟩
    · intro known
      rcases known with ⟨member | ⟨rfl, _⟩, away⟩ | ⟨rfl, ⟨previous, member, found⟩ | ⟨_, absent⟩⟩
      · exact .inl member
      · simp [same] at away
      · rcases (occurs previous).mp member with member | ⟨rfl, _⟩
        · exact absurd (apart _ member) (by simp [found])
        · exact .inr ⟨rfl, rfl⟩
      · exact absurd (absent (other, old) (by simp)) (by simp [same])

theorem Distinct.put (distinct : fields.Distinct) (key : Scalar) (value : Document) :
    (fields.put key value).Distinct := by
  rcases absent_or_present distinct key with
    absent | ⟨before, other, old, after, rfl, same, apart⟩
  · rw [put_of_absent absent]
    refine List.pairwise_append.mpr ⟨distinct, List.pairwise_singleton _ _, ?_⟩
    intro field member stored isStored
    obtain rfl := List.mem_singleton.mp isStored
    exact absent field member
  · rw [put_of_present same fun field member => apart field (by simp [member])]
    simpa [Distinct, sameKey, List.pairwise_append] using distinct

@[simp] theorem ofPairs_nil : ofPairs [] = [] := rfl

theorem ofPairs_concat (pairs : List (Scalar × Document)) (key : Scalar) (value : Document) :
    ofPairs (pairs ++ [(key, value)]) = (ofPairs pairs).put key value := by
  simp [ofPairs, putAll, List.foldl_append]

theorem ofPairs_distinct (pairs : List (Scalar × Document)) : (ofPairs pairs).Distinct := by
  induction pairs using List.reverseRecOn with
  | nil => exact .nil
  | append_singleton before pair ih =>
      rw [ofPairs_concat]
      exact ih.put _ _

theorem ofPairs_of_distinct (distinct : Distinct pairs) : ofPairs pairs = pairs := by
  induction pairs using List.reverseRecOn with
  | nil => rfl
  | append_singleton before pair ih =>
      obtain ⟨beforeDistinct, _, apart⟩ := List.pairwise_append.mp distinct
      rw [ofPairs_concat, ih beforeDistinct]
      exact put_of_absent fun field member => apart field member pair (by simp)

theorem find?_of_mem (distinct : fields.Distinct) (member : (key, value) ∈ fields)
    (same : key.same wanted = true) : fields.find? wanted = some value := by
  induction fields with
  | nil => cases member
  | cons head rest ih =>
      obtain ⟨other, old⟩ := head
      obtain ⟨headApart, restDistinct⟩ := List.pairwise_cons.mp distinct
      rcases List.mem_cons.mp member with equal | member
      · obtain ⟨rfl, rfl⟩ := Prod.mk.inj equal
        rw [find?, if_pos same]
      · have apart : other.same wanted = false := by
          rw [Scalar.same_comm, ← Scalar.same_congr same, Scalar.same_comm]
          exact headApart _ member
        rw [find?, apart, if_neg Bool.false_ne_true]
        exact ih restDistinct member

theorem find?_eq_none_iff :
    fields.find? wanted = none ↔ ∀ field ∈ fields, field.1.same wanted = false := by
  induction fields with
  | nil => simp [find?]
  | cons head rest ih =>
      obtain ⟨other, old⟩ := head
      by_cases same : other.same wanted <;> simp [find?, same, ih]

theorem find?_setFields (distinct : fields.Distinct) (wanted : Scalar) :
    (setFields fields).find? wanted = (fields.find? wanted).filter (!·.isUnset) := by
  induction fields with
  | nil => rfl
  | cons head rest ih =>
      obtain ⟨other, old⟩ := head
      obtain ⟨headApart, restDistinct⟩ := List.pairwise_cons.mp distinct
      have ih := ih restDistinct
      unfold setFields at ih ⊢
      cases unset : old.isUnset with
      | false =>
          by_cases same : other.same wanted <;> simp [find?, same, unset, ih, Option.filter]
      | true =>
          by_cases same : other.same wanted
          · have absent : Fields.find? rest wanted = none := by
              refine find?_eq_none_iff.mpr fun field member => ?_
              rw [Scalar.same_comm, ← Scalar.same_congr same]
              exact headApart field member
            simp [find?, same, unset, ih, absent, Option.filter]
          · simp [find?, same, unset, ih]

/-- Where all of some fields are stored over others, each of them counts before those. -/
theorem find?_putAll {added : Fields} (distinct : added.Distinct) :
    (fields.putAll added).find? wanted = (added.find? wanted).or (fields.find? wanted) := by
  induction added generalizing fields with
  | nil => rfl
  | cons head rest ih =>
      obtain ⟨key, value⟩ := head
      obtain ⟨headApart, restDistinct⟩ := List.pairwise_cons.mp distinct
      have stored : (fields.putAll ((key, value) :: rest)).find? wanted =
          (find? rest wanted).or ((fields.put key value).find? wanted) := ih restDistinct
      rw [stored, find?_put, find?]
      by_cases same : key.same wanted
      · have absent : find? rest wanted = none := by
          refine find?_eq_none_iff.mpr fun field member => ?_
          rw [Scalar.same_comm, ← Scalar.same_congr same]
          exact headApart field member
        rw [if_pos same, if_pos same, absent, Option.none_or, Option.some_or]
      · rw [if_neg same, if_neg same]

/-- The fields made of pairs are those pairs that are the last of their keys, for
every property that does not depend on how a key is spelled. -/
theorem exists_mem_ofPairs_iff (pairs : Fields) (holds : Scalar → Document → Prop)
    (respects : ∀ {left right : Scalar} {value : Document},
      left.same right = true → (holds left value ↔ holds right value)) :
    (∃ field ∈ ofPairs pairs, holds field.1 field.2) ↔
      ∃ pair, Standing sameKey pairs pair ∧ holds pair.1 pair.2 := by
  induction pairs using List.reverseRecOn generalizing holds with
  | nil => simp [Standing]
  | append_singleton before last ih =>
      obtain ⟨key, value⟩ := last
      -- The fields that the last pair leaves alone are those with another key.
      have others := ih (fun other stored => holds other stored ∧ other.same key = false)
        (fun same => by rw [respects same, Scalar.same_congr same])
      simp only [ofPairs_concat, mem_put_iff (ofPairs_distinct before), standing_concat]
      constructor
      · intro listed
        obtain ⟨field, ⟨member, apart⟩ | ⟨stored, spelled⟩, held⟩ := listed
        · obtain ⟨pair, standing, held, apart⟩ := others.mp ⟨field, member, held, apart⟩
          exact ⟨pair, .inr ⟨standing, apart⟩, held⟩
        · refine ⟨(key, value), .inl rfl, ?_⟩
          rw [stored] at held
          rcases spelled with ⟨_, _, same⟩ | ⟨named, _⟩
          · exact (respects same).mp held
          · rwa [named] at held
      · intro known
        obtain ⟨pair, rfl | ⟨standing, apart⟩, held⟩ := known
        · by_cases present : ∃ field ∈ ofPairs before, field.1.same key = true
          · obtain ⟨⟨other, old⟩, member, same⟩ := present
            exact ⟨(other, value), .inr ⟨rfl, .inl ⟨old, member, same⟩⟩, (respects same).mpr held⟩
          · refine ⟨(key, value), .inr ⟨rfl, .inr ⟨rfl, ?_⟩⟩, held⟩
            simpa using present
        · obtain ⟨field, member, held, apart⟩ := others.mpr ⟨pair, standing, held, apart⟩
          exact ⟨field, .inl ⟨member, apart⟩, held⟩

/-- What is found under a key is the value of the last pair with that key. -/
theorem find?_ofPairs_of_standing (standing : Standing sameKey pairs (key, value))
    (same : key.same wanted = true) : (ofPairs pairs).find? wanted = some value := by
  have counted := exists_mem_ofPairs_iff pairs
    (fun other stored => other.same wanted = true ∧ stored = value)
    (fun alike => by rw [Scalar.same_congr alike])
  obtain ⟨⟨other, stored⟩, member, found, rfl⟩ := counted.mpr ⟨_, standing, same, rfl⟩
  exact find?_of_mem (ofPairs_distinct pairs) member found

end Fields

end ImageStages
