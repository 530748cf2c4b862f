import Mathlib.Data.List.Forall2
import ImageStages.Blueprint.Customizations
import ImageStages.Proofs.Document.Uses

namespace ImageStages

namespace Document

variable {value found default : Document} {name : String}

/-- The field of an object, or another value where there is none. -/
def fieldOr (value : Document) (name : String) (default : Document) : Document :=
  match value with
  | .object fields => (Fields.find? fields (.text name)).getD default
  | _ => default

theorem lookupOr_ok_iff :
    value.lookupOr name default = .ok found ↔
      value.IsObject ∧ value.fieldOr name default = found := by
  cases value <;> simp [lookupOr, lookup, members, fieldOr, IsObject, Except.map]

theorem lookupOr_of_isObject (given : value.IsObject) :
    value.lookupOr name default = .ok (value.fieldOr name default) :=
  lookupOr_ok_iff.mpr ⟨given, rfl⟩

/-- The value is an object with a field of this name. -/
def Has (value : Document) (name : String) : Prop :=
  ∃ fields field, value = .object fields ∧ Fields.find? fields (.text name) = some field

theorem Has.isObject (present : value.Has name) : value.IsObject := by
  obtain ⟨fields, _, rfl, _⟩ := present
  exact ⟨fields, rfl⟩

theorem has_of_isText (text : (value.fieldOr name .null).IsText) : value.Has name := by
  obtain ⟨text, named⟩ := text
  cases value with
  | object fields =>
      cases present : Fields.find? fields (.text name) with
      | none => simp [fieldOr, present] at named
      | some field => exact ⟨fields, field, rfl, present⟩
  | list items => simp [fieldOr] at named
  | scalar scalar => simp [fieldOr] at named

theorem index_ok_iff :
    value.index name = .ok found ↔ value.Has name ∧ value.fieldOr name .null = found := by
  cases value with
  | object fields =>
      cases present : Fields.find? fields (.text name) <;> simp [index, Has, fieldOr, present]
  | list items => simp [index, Has]
  | scalar scalar => cases scalar <;> simp [index, Has]

@[simp] theorem items_list (items : List Document) : (list items).items = .ok items := rfl

def IsTextList (value : Document) : Prop :=
  ∃ items, value = .list items ∧ ∀ item ∈ items, item.IsText

theorem IsTextList.yields (listed : value.IsTextList) : ∃ items, value.items = .ok items := by
  obtain ⟨items, rfl, _⟩ := listed
  exact ⟨items, rfl⟩

/-- What a value yields is the texts of a list just if the value is one. -/
theorem isTextList_iff {items : List Document} (yields : value.items = .ok items) :
    ((∀ item ∈ items, item.IsText) ∧ value = .list items) ↔ value.IsTextList := by
  constructor
  · rintro ⟨texts, listed⟩
    exact ⟨items, listed, texts⟩
  · rintro ⟨others, rfl, texts⟩
    obtain rfl : others = items := Except.ok.inj yields
    exact ⟨texts, rfl⟩

/-- Only a list yields an object. -/
theorem items_ok_of_isObject {items : List Document} {item : Document}
    (yields : value.items = .ok items) (member : item ∈ items) (object : item.IsObject) :
    value = .list items := by
  obtain ⟨fields, rfl⟩ := object
  cases value with
  | list items =>
      simp only [items_list, Except.ok.injEq] at yields
      rw [yields]
  | object fields =>
      simp only [Document.items, Except.ok.injEq] at yields
      subst yields
      simp at member
  | scalar scalar =>
      cases scalar with
      | text text =>
          simp only [Document.items, Except.ok.injEq] at yields
          subst yields
          simp at member
      | _ => simp [Document.items] at yields

end Document

section Items

variable {read : Document → Except Mishap α} {items : List Document} {results : List α}
  {shaped : Document → Prop} {keeps : Document → α → Prop} {typed : α → Prop}

theorem forall_mem_iff_of_read
    (each : List.Forall₂ (fun item result => read item = .ok result) items results)
    (agree : ∀ {item result}, read item = .ok result → (typed result ↔ shaped item)) :
    (∀ result ∈ results, typed result) ↔ ∀ item ∈ items, shaped item := by
  induction each with
  | nil => simp
  | cons first _ ih => rw [List.forall_mem_cons, List.forall_mem_cons, ih, agree first]

theorem forall_mem_and_forall₂_iff_of_read
    (each : List.Forall₂ (fun item result => read item = .ok result) items results)
    (agree : ∀ {item result}, read item = .ok result →
      (typed result ∧ keeps item result ↔ shaped item)) :
    (∀ result ∈ results, typed result) ∧ List.Forall₂ keeps items results ↔
      ∀ item ∈ items, shaped item := by
  induction each with
  | nil => simp
  | cons first _ ih =>
      rw [List.forall_mem_cons, List.forall_mem_cons, List.forall₂_cons, and_and_and_comm, ih,
        agree first]

/-- What is read from the same items is the same. -/
theorem read_unique {others : List Document} {changed : List α} (same : items = others)
    (each : List.Forall₂ (fun item result => read item = .ok result) items results)
    (eachOther : List.Forall₂ (fun item result => read item = .ok result) others changed) :
    results = changed := by
  subst same
  have first := Except.mapM_eq_ok_iff.mpr each
  have second := Except.mapM_eq_ok_iff.mpr eachOther
  exact Except.ok.inj (first.symm.trans second)

end Items

section Section

variable {read : Document → Except Mishap α} {data : Document} {result : Option α}

theorem readSection_null : readSection read .null = .ok none := rfl

theorem readSection_of_ne_null (given : data ≠ .null) :
    readSection read data = (read data).map some := by
  have isNull : data.isNull = false := by
    rwa [Bool.eq_false_iff, Ne, Document.isNull_iff]
  rw [readSection, isNull, if_neg Bool.false_ne_true]

theorem readSection_succeeds (readable : data ≠ .null → ∃ value, read data = .ok value) :
    ∃ result, readSection read data = .ok result := by
  by_cases null : data = .null
  · exact ⟨none, null ▸ readSection_null⟩
  · obtain ⟨value, success⟩ := readable null
    exact ⟨some value, by rw [readSection_of_ne_null null, success]; rfl⟩

theorem readSection_forall_iff {keeps : α → Prop} {shaped : Document → Prop}
    (success : readSection read data = .ok result)
    (agree : ∀ {value}, read data = .ok value → (keeps value ↔ shaped data)) :
    (∀ value, result = some value → keeps value) ↔ (data ≠ .null → shaped data) := by
  by_cases null : data = .null
  · subst null
    obtain rfl : none = result := Except.ok.inj success
    simp
  · rw [readSection_of_ne_null null, Except.map_eq_ok_iff] at success
    obtain ⟨value, completed, rfl⟩ := success
    simp [null, agree completed]

end Section

/-- The mishap makes a request malformed instead of ending the program. -/
def Mishap.IsExcused (mishap : Mishap) : Prop :=
  mishap.family ∈ [.member, .kind, .key, .value]

/-- The use ends in a mishap that is not excused. -/
abbrev Escapes (use : Except Mishap α) : Prop :=
  FailsWith (fun mishap => ¬ mishap.IsExcused) use

theorem escapes_infinite : Escapes (.error .infinite : Except Mishap α) := by
  simp [Mishap.IsExcused, Mishap.family]

namespace Document

variable {value default : Document} {name : String}

def IsEndless (value : Document) : Prop :=
  ∃ negative, value = .real (.infinite negative)

@[simp] theorem not_escapes_lookupOr : ¬ Escapes (value.lookupOr name default) := by
  cases value <;>
    simp [lookupOr, lookup, members, Except.map, Mishap.IsExcused, Mishap.family]

@[simp] theorem not_escapes_index : ¬ Escapes (value.index name) := by
  cases value with
  | object fields =>
      cases present : Fields.find? fields (.text name) <;>
        simp [index, present, Mishap.IsExcused, Mishap.family]
  | list items => simp [index, Mishap.IsExcused, Mishap.family]
  | scalar scalar => cases scalar <;> simp [index, Mishap.IsExcused, Mishap.family]

@[simp] theorem not_escapes_items : ¬ Escapes value.items := by
  cases value with
  | scalar scalar => cases scalar <;> simp [items, Mishap.IsExcused, Mishap.family]
  | _ => simp [items]

theorem toInteger_eq_infinite_iff : value.toInteger = .error .infinite ↔ value.IsEndless := by
  cases value with
  | scalar scalar =>
      cases scalar with
      | real number => cases number <;> simp [toInteger, IsEndless]
      | text literal =>
          cases read : Literal.read .decimal literal with
          | ok number => simp [toInteger, read, IsEndless]
          | error fault => cases fault <;> simp [toInteger, read, IsEndless]
      | _ => simp [toInteger, IsEndless]
  | _ => simp [toInteger, IsEndless]

@[simp] theorem escapes_toInteger : Escapes value.toInteger ↔ value.IsEndless := by
  rw [← toInteger_eq_infinite_iff]
  cases value with
  | scalar scalar =>
      cases scalar with
      | real number => cases number <;> simp [toInteger, Mishap.IsExcused, Mishap.family]
      | text literal =>
          cases read : Literal.read .decimal literal with
          | ok number => simp [toInteger, read]
          | error fault =>
              cases fault <;> simp [toInteger, read, Mishap.IsExcused, Mishap.family]
      | _ => simp [toInteger, Mishap.IsExcused, Mishap.family]
  | _ => simp [toInteger, Mishap.IsExcused, Mishap.family]

end Document

theorem not_escapes_mapM {step : Document → Except Mishap α} {values : List Document}
    (safe : ∀ value, ¬ Escapes (step value)) : ¬ Escapes (values.mapM step) := by
  intro escaped
  obtain ⟨_, value, _, _, _, escapes⟩ := failsWith_mapM_iff.mp escaped
  exact safe value escapes

theorem not_escapes_readSection {read : Document → Except Mishap α} {value : Document}
    (safe : ∀ value, ¬ Escapes (read value)) : ¬ Escapes (readSection read value) := by
  cases isNull : value.isNull <;> simp [readSection, isNull, safe value]

end ImageStages
