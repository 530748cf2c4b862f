import ImageStages.Document.Reader
import ImageStages.Proofs.Document.MadeOf

namespace ImageStages

def Scalar.Exact : Scalar → Prop
  | .real _ => False
  | .int value => value.natAbs < 10 ^ Json.integerDigitLimit
  | _ => True

namespace Document

def Exact : Document → Prop
  | .scalar value => value.Exact
  | .list _ => True
  | .object fields => Fields.Named fields

def Writable (value : Document) : Prop :=
  value.Throughout Exact

variable {value other : Document} {items : List Document} {fields : Fields}

instance : Scalar.Common Scalar.Exact where
  text _ := trivial
  bool _ := trivial
  small _ small := lt_of_lt_of_le small (Nat.pow_le_pow_right (by decide) (by decide))

theorem writable_iff_madeOf : value.Writable ↔ value.MadeOf Scalar.Exact := by
  have same : Exact = Holds Scalar.Exact := by
    funext part
    cases part <;> rfl
  rw [Writable, MadeOf, same]

section Parts

theorem writable_scalar_iff {scalar : Scalar} : (Document.scalar scalar).Writable ↔ scalar.Exact :=
  Throughout.scalar_iff

@[simp] theorem writable_null : Document.null.Writable := .scalar trivial

@[simp] theorem writable_text (text : Text) : (Document.text text).Writable := .scalar trivial

@[simp] theorem writable_bool (flag : Bool) : (Document.bool flag).Writable := .scalar trivial

theorem writable_int_iff {value : Int} :
    (Document.int value).Writable ↔ value.natAbs < 10 ^ Json.integerDigitLimit :=
  writable_scalar_iff

@[simp] theorem writable_list_iff :
    (Document.list items).Writable ↔ ∀ item ∈ items, item.Writable :=
  Throughout.list_iff.trans (and_iff_right trivial)

theorem writable_object_iff :
    (Document.object fields).Writable ↔
      Fields.Named fields ∧ ∀ field ∈ fields, field.2.Writable :=
  Throughout.object_iff

@[simp] theorem writable_empty : (Document.object []).Writable :=
  writable_object_iff.mpr ⟨⟨.nil, by simp⟩, by simp⟩

theorem writable_nil : (Document.list []).Writable := .list trivial (by simp)

@[simp] theorem writable_record_iff {fields : List (Text × Document)} :
    (Document.record fields).Writable ↔
      (fields.map Prod.fst).Nodup ∧ ∀ field ∈ fields, field.2.Writable := by
  simp only [writable_iff_madeOf, madeOf_record_iff]

theorem writable_options_iff {fields : List (Text × Document)} :
    (Document.object (options fields)).Writable ↔
      (fields.map Prod.fst).Nodup ∧ ∀ field ∈ fields, field.2.Writable :=
  writable_record_iff

theorem Writable.orElse (writable : value.Writable) (fallback : other.Writable) :
    (value.orElse other).Writable := by
  unfold Document.orElse
  split
  · exact writable
  · exact fallback

theorem Writable.fieldOr (writable : value.Writable) (name : String)
    (fallback : other.Writable) : (value.fieldOr name other).Writable :=
  Throughout.fieldOr writable fallback

theorem writable_writeSection_iff (write : α → Document) (given : Option α) :
    (writeSection write given).Writable ↔ ∀ value, given = some value → (write value).Writable := by
  cases given <;> simp [writeSection]

end Parts

end Document

end ImageStages
