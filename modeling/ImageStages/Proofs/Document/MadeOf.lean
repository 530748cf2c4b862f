import ImageStages.Proofs.Document.Throughout
import ImageStages.Proofs.Document.Uses

namespace ImageStages

class Scalar.Common (kept : Scalar → Prop) : Prop where
  text : ∀ text, kept (.text text)
  bool : ∀ flag, kept (.bool flag)
  small : ∀ value : Int, value.natAbs < 10 ^ 4 → kept (.int value)

namespace Document

/-- What is asked of a part of a document by itself. -/
def Holds (kept : Scalar → Prop) : Document → Prop
  | .scalar value => kept value
  | .list _ => True
  | .object fields => Fields.Named fields

def MadeOf (kept : Scalar → Prop) (value : Document) : Prop :=
  value.Throughout (Holds kept)

/-- The value would be left out of a record, or is made of what is kept. -/
def MadeOfIfSet (kept : Scalar → Prop) (value : Document) : Prop :=
  value.isUnset = false → value.MadeOf kept

variable {kept : Scalar → Prop} {value other : Document} {items : List Document}
  {fields : Fields}

theorem madeOf_scalar_iff {scalar : Scalar} :
    (Document.scalar scalar).MadeOf kept ↔ kept scalar :=
  Throughout.scalar_iff

@[simp] theorem madeOf_list_iff :
    (Document.list items).MadeOf kept ↔ ∀ item ∈ items, item.MadeOf kept :=
  Throughout.list_iff.trans (and_iff_right trivial)

theorem madeOf_object_iff :
    (Document.object fields).MadeOf kept ↔
      Fields.Named fields ∧ ∀ field ∈ fields, field.2.MadeOf kept :=
  Throughout.object_iff

@[simp] theorem madeOf_empty : (Document.object []).MadeOf kept :=
  madeOf_object_iff.mpr ⟨⟨.nil, by simp⟩, by simp⟩

@[simp] theorem madeOf_record_iff {fields : List (Text × Document)} :
    (Document.record fields).MadeOf kept ↔
      (fields.map Prod.fst).Nodup ∧ ∀ field ∈ fields, field.2.MadeOf kept := by
  rw [Document.record, madeOf_object_iff]
  refine and_congr Fields.named_options_iff ?_
  rw [List.forall_mem_map]

theorem madeOf_options_iff {fields : List (Text × Document)} :
    (Document.object (options fields)).MadeOf kept ↔
      (fields.map Prod.fst).Nodup ∧ ∀ field ∈ fields, field.2.MadeOf kept :=
  madeOf_record_iff

/-- Of the fields of a record only those that are set need to be made of what is kept. -/
theorem madeOf_setFields {fields : List (Text × Document)}
    (distinct : (fields.map Prod.fst).Nodup)
    (each : ∀ field ∈ fields, field.2.MadeOfIfSet kept) :
    (Document.object (options fields).setFields).MadeOf kept := by
  refine madeOf_object_iff.mpr ⟨(Fields.named_options_iff.mpr distinct).setFields, ?_⟩
  intro field member
  obtain ⟨present, set⟩ := List.mem_filter.mp member
  obtain ⟨given, stands, rfl⟩ := List.mem_map.mp present
  exact each given stands (by simpa using set)

theorem madeOf_ofPairs (each : ∀ pair ∈ fields, (∃ name, pair.1 = .text name) ∧
      pair.2.MadeOf kept) : (Document.object (Fields.ofPairs fields)).MadeOf kept :=
  .ofPairs (Fields.named_ofPairs fun pair member => (each pair member).1)
    fun pair member => (each pair member).2

theorem MadeOf.ifSet (made : value.MadeOf kept) : value.MadeOfIfSet kept :=
  fun _ => made

theorem MadeOfIfSet.orElse (made : value.MadeOfIfSet kept) (fallback : other.MadeOf kept) :
    (value.orElse other).MadeOf kept := by
  unfold Document.orElse
  split
  · rename_i given
    refine made ?_
    by_contra unset
    rw [given_of_isUnset (by simpa using unset)] at given
    cases given
  · exact fallback

theorem MadeOfIfSet.orElse_null (made : value.MadeOfIfSet kept) :
    (value.orElse .null).MadeOfIfSet kept := by
  unfold Document.orElse
  split
  · exact made
  · intro set
    cases set

theorem madeOfIfSet_list (each : ∀ item ∈ items, item.MadeOf kept) :
    (Document.list items).MadeOfIfSet kept :=
  (madeOf_list_iff.mpr each).ifSet

@[simp] theorem madeOfIfSet_null : Document.null.MadeOfIfSet kept := by
  intro set
  cases set

section Common

variable [Scalar.Common kept]

@[simp] theorem madeOf_text (text : Text) : (Document.text text).MadeOf kept :=
  .scalar (Scalar.Common.text text)

@[simp] theorem madeOf_bool (flag : Bool) : (Document.bool flag).MadeOf kept :=
  .scalar (Scalar.Common.bool flag)

theorem madeOf_small {value : Int} (small : value.natAbs < 10 ^ 4) :
    (Document.int value).MadeOf kept :=
  .scalar (Scalar.Common.small value small)

theorem IsText.madeOf (text : value.IsText) : value.MadeOf kept := by
  obtain ⟨text, rfl⟩ := text
  exact madeOf_text text

@[simp] theorem madeOf_texts (texts : List Text) : (Document.texts texts).MadeOf kept := by
  rw [Document.texts, madeOf_list_iff]
  intro item member
  obtain ⟨text, _, rfl⟩ := List.mem_map.mp member
  exact madeOf_text text

end Common

end Document

end ImageStages
