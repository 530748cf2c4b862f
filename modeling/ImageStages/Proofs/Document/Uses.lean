import ImageStages.Document.Access
import ImageStages.Proofs.Results

namespace ImageStages

/-- The use does not fit the value. -/
abbrev Trips (use : Except Mishap α) : Prop :=
  FailsWith (fun _ => True) use

theorem trips_mapM_iff {step : α → Except Mishap β} {values : List α} :
    Trips (values.mapM step) ↔ ∃ value ∈ values, Trips (step value) :=
  failsWith_mapM_of_sorted fun _ => trivial

namespace Document

variable {value : Document} {name : String}

def IsText (value : Document) : Prop :=
  ∃ text, value = .text text

/-- The value is neither a list nor an object. -/
def IsScalar (value : Document) : Prop :=
  ∃ scalar, value = .scalar scalar

def IsObject (value : Document) : Prop :=
  ∃ fields, value = .object fields

@[simp] theorem isText_text (s : Text) : (Document.text s).IsText := ⟨s, rfl⟩

@[simp] theorem isScalar_scalar (scalar : Scalar) : (Document.scalar scalar).IsScalar :=
  ⟨scalar, rfl⟩

@[simp] theorem not_isScalar_list (items : List Document) : ¬ (list items).IsScalar := by
  simp [IsScalar]

@[simp] theorem not_isScalar_object (fields : Fields) : ¬ (object fields).IsScalar := by
  simp [IsScalar]

@[simp] theorem isObject_object (fields : Fields) : (object fields).IsObject := ⟨fields, rfl⟩

theorem IsText.isScalar (given : value.IsText) : value.IsScalar := by
  obtain ⟨text, rfl⟩ := given
  exact ⟨.text text, rfl⟩

theorem text?_eq_some_iff {text : Text} : value.text? = some text ↔ value = .text text := by
  cases value with
  | scalar scalar => cases scalar <;> simp [text?]
  | list items => simp [text?]
  | object fields => simp [text?]

theorem isNull_iff : value.isNull = true ↔ value = .null := by
  cases value with
  | scalar scalar => cases scalar <;> simp [isNull]
  | list items => simp [isNull]
  | object fields => simp [isNull]

theorem same_text_iff {text : Text} :
    value.same (.text text) = true ↔ value = .text text := by
  cases value with
  | scalar scalar => cases scalar <;> simp [same, Scalar.same, Scalar.int?]
  | list items => simp [same]
  | object fields => simp [same]

theorem given_of_isUnset (unset : value.isUnset = true) : value.given = false := by
  unfold isUnset at unset
  split at unset
  · rfl
  · rfl
  · rfl
  · contradiction

theorem asKey_ok_iff {key : Scalar} : value.asKey = .ok key ↔ value = .scalar key := by
  cases value <;> simp [asKey]

@[simp] theorem trips_asKey : Trips value.asKey ↔ ¬ value.IsScalar := by
  cases value <;> simp [asKey]

@[simp] theorem trips_members : Trips value.members ↔ ¬ value.IsObject := by
  cases value <;> simp [members, IsObject]

@[simp] theorem trips_lookup : Trips (value.lookup name) ↔ ¬ value.IsObject := by
  simp [lookup]

@[simp] theorem trips_lookupOr {default : Document} :
    Trips (value.lookupOr name default) ↔ ¬ value.IsObject := by
  simp [lookupOr]

end Document

end ImageStages
