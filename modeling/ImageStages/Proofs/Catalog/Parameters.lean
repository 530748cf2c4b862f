import ImageStages.Catalog.Render
import ImageStages.Proofs.Document.Uses

namespace ImageStages

/-- The documented types of parameters. -/
inductive Shape where
  | text | flag | texts | device
deriving DecidableEq

/-- The value has the type.  The options of a device, if it has any, are an object. -/
def Shape.Admits : Shape → Document → Prop
  | .text, value => value.IsText
  | .flag, value => ∃ flag, value = .bool flag
  | .texts, value => ∃ items, value = .texts items
  | .device, value => ∃ fields, value = .object fields ∧
      ∀ options, Fields.find? fields (.text "options") = some options → options.IsObject

namespace Parameters

variable {parameters : Parameters} {key default : String} {value : Document}

theorem asText_ok_iff {text : Text} :
    parameters.asText key value = .ok text ↔ value = .text text := by
  cases value with
  | scalar scalar => cases scalar <;> simp [asText, Document.text?]
  | list items => simp [asText, Document.text?]
  | object fields => simp [asText, Document.text?]

theorem asFlag_ok_iff {flag : Bool} :
    parameters.asFlag key value = .ok flag ↔ value = .bool flag := by
  cases value with
  | scalar scalar => cases scalar <;> simp [asFlag, Document.bool?]
  | list items => simp [asFlag, Document.bool?]
  | object fields => simp [asFlag, Document.bool?]

theorem asRecord_ok_iff {fields : Fields} :
    parameters.asRecord key value = .ok fields ↔ value = .object fields := by
  cases value with
  | scalar scalar => simp [asRecord, Document.fields?]
  | list items => simp [asRecord, Document.fields?]
  | object fields => simp [asRecord, Document.fields?]

@[simp] theorem not_strays_asText : ¬ Strays (parameters.asText key value) := by
  unfold asText
  split <;> simp [wrongKind]

@[simp] theorem not_strays_asFlag : ¬ Strays (parameters.asFlag key value) := by
  unfold asFlag
  split <;> simp [wrongKind]

@[simp] theorem not_strays_asRecord : ¬ Strays (parameters.asRecord key value) := by
  unfold asRecord
  split <;> simp [wrongKind]

theorem text_ok_iff {text : Text} :
    parameters.text key = .ok text ↔ parameters.find? key = some (.text text) := by
  cases found : parameters.find? key with
  | none => simp [Parameters.text, found]
  | some value => simp [Parameters.text, found, asText_ok_iff]

theorem text_of_find? {text : Text} (found : parameters.find? key = some (.text text)) :
    parameters.text key = .ok text :=
  text_ok_iff.mpr found

@[simp] theorem not_strays_text : ¬ Strays (parameters.text key) := by
  unfold Parameters.text
  split <;> simp [absent]

def HasText (parameters : Parameters) (key : String) : Prop :=
  ∃ text, parameters.find? key = some (.text text)

/-- A stage takes the parameter for one of the type.  What should be a list of texts is only
looked at if it counts as given. -/
def Takes (parameters : Parameters) (key : String) : Shape → Prop
  | .texts => ∀ value, parameters.find? key = some value → value.given = true →
      Shape.texts.Admits value
  | shape => ∀ value, parameters.given? key = some value → shape.Admits value

theorem text_succeeds_iff :
    (∃ text, parameters.text key = .ok text) ↔ parameters.HasText key := by
  simp only [text_ok_iff, HasText]

section Optional

variable {read : Document → Except Failure α} {given : Option Document}

theorem optional_ok_iff {result : Option α} :
    optional read given = .ok result ↔
      (given = none ∧ result = none) ∨
      ∃ value found, given = some value ∧ read value = .ok found ∧ result = some found := by
  cases given with
  | none => simp [optional, eq_comm]
  | some value => simp [optional, eq_comm (a := result)]

theorem optional_succeeds_iff :
    (∃ result, optional read given = .ok result) ↔
      ∀ value, given = some value → ∃ found, read value = .ok found := by
  cases given with
  | none => simp [optional]
  | some value => simp [optional]

theorem not_strays_optional (safe : ∀ value, ¬ Strays (read value)) :
    ¬ Strays (optional read given) := by
  cases given with
  | none => exact not_failsWith_ok _
  | some value => simpa [optional] using safe value

end Optional

theorem record?_ok_iff {record : Option Fields} :
    parameters.record? key = .ok record ↔
      (parameters.given? key = none ∧ record = none) ∨
      ∃ fields, parameters.given? key = some (.object fields) ∧ record = some fields := by
  simp [record?, optional_ok_iff, asRecord_ok_iff]

theorem text?_eq_none_iff :
    parameters.text? key = .ok none ↔ parameters.given? key = none := by
  simp [text?, optional_ok_iff]

theorem text?_eq_some_iff {text : Text} :
    parameters.text? key = .ok (some text) ↔
      parameters.given? key = some (.text text) := by
  simp [text?, optional_ok_iff, asText_ok_iff]

theorem text?_succeeds_iff :
    (∃ text, parameters.text? key = .ok text) ↔ parameters.Takes key .text := by
  simp only [text?, optional_succeeds_iff, asText_ok_iff, Takes, Shape.Admits, Document.IsText]

theorem textOr_succeeds_iff :
    (∃ text, parameters.textOr key default = .ok text) ↔ parameters.Takes key .text := by
  rw [textOr, Except.map_succeeds_iff, text?_succeeds_iff]

theorem flagOr_succeeds_iff (default : Bool) :
    (∃ flag, parameters.flagOr key default = .ok flag) ↔ parameters.Takes key .flag := by
  rw [flagOr, Except.map_succeeds_iff, optional_succeeds_iff]
  simp only [asFlag_ok_iff, Takes, Shape.Admits]

theorem all_text_iff {items : List Document} :
    items.all (·.text?.isSome) = true ↔ ∃ texts, Document.list items = .texts texts := by
  induction items with
  | nil => exact ⟨fun _ => ⟨[], rfl⟩, fun _ => rfl⟩
  | cons first rest ih =>
      rw [List.all_cons, Bool.and_eq_true, ih, Option.isSome_iff_exists]
      constructor
      · intro holds
        obtain ⟨⟨text, isText⟩, texts, spelled⟩ := holds
        obtain rfl := Document.text?_eq_some_iff.mp isText
        obtain rfl := Document.list.inj spelled
        exact ⟨text :: texts, rfl⟩
      · intro known
        obtain ⟨texts, spelled⟩ := known
        cases texts with
        | nil => simp [Document.texts] at spelled
        | cons text texts =>
            obtain ⟨rfl, rfl⟩ := List.cons.inj (Document.list.inj spelled)
            exact ⟨⟨text, rfl⟩, texts, rfl⟩

theorem texts_succeeds_iff :
    (∃ items, parameters.texts key = .ok items) ↔ parameters.Takes key .texts := by
  cases found : parameters.find? key with
  | none => simp [Parameters.texts, Takes, found]
  | some value =>
      cases given : value.given with
      | false => simp [Parameters.texts, Takes, found, given]
      | true =>
          cases value with
          | list items =>
              simp only [Takes, Shape.Admits, found, Option.some.injEq, forall_eq', given,
                forall_const]
              rw [← all_text_iff]
              cases plain : items.all (·.text?.isSome) <;>
                simp [Parameters.texts, found, given, plain]
          | scalar scalar =>
              simp [Parameters.texts, Takes, Shape.Admits, found, given, Document.texts]
          | object fields =>
              simp [Parameters.texts, Takes, Shape.Admits, found, given, Document.texts]

@[simp] theorem not_strays_text? : ¬ Strays (parameters.text? key) :=
  not_strays_optional fun _ => not_strays_asText

@[simp] theorem not_strays_textOr : ¬ Strays (parameters.textOr key default) := by
  simp [textOr]

@[simp] theorem not_strays_flagOr {default : Bool} :
    ¬ Strays (parameters.flagOr key default) := by
  simpa [flagOr] using not_strays_optional fun _ => not_strays_asFlag

@[simp] theorem not_strays_record? : ¬ Strays (parameters.record? key) :=
  not_strays_optional fun _ => not_strays_asRecord

@[simp] theorem not_strays_texts : ¬ Strays (parameters.texts key) := by
  unfold texts
  repeat' split
  all_goals simp [notTexts]

/-- The device of a copy is the one that it is given, else one for the image file. -/
theorem imageDevice_ok_iff {device : Document} :
    StageType.imageDevice parameters = .ok device ↔
      (∃ fields, parameters.given? "device" = some (.object fields) ∧ device = .object fields) ∨
      (parameters.given? "device" = none ∧
        ∃ filename, parameters.find? "filename" = some (.text filename) ∧
          device = Layout.loopback (.text filename) (.int 0) (.int 0)) := by
  simp only [StageType.imageDevice, Except.bind_eq_ok_iff, record?_ok_iff]
  constructor
  · intro completed
    obtain ⟨_, ⟨absent, rfl⟩ | ⟨fields, given, rfl⟩, made⟩ := completed
    · simp only [Except.bind_eq_ok_iff, text_ok_iff, Except.pure_eq_ok, Except.ok.injEq] at made
      obtain ⟨filename, found, rfl⟩ := made
      exact .inr ⟨absent, filename, found, rfl⟩
    · exact .inl ⟨fields, given, (Except.ok.inj made).symm⟩
  · intro succeeded
    rcases succeeded with ⟨fields, given, rfl⟩ | ⟨absent, filename, found, rfl⟩
    · exact ⟨some fields, .inr ⟨fields, given, rfl⟩, rfl⟩
    · exact ⟨none, .inl ⟨absent, rfl⟩, by simp [text_of_find? found]⟩

theorem imageDevice_isObject {device : Document}
    (made : StageType.imageDevice parameters = .ok device) : device.IsObject := by
  rcases imageDevice_ok_iff.mp made with ⟨fields, _, rfl⟩ | ⟨_, filename, _, rfl⟩
  · exact ⟨fields, rfl⟩
  · exact ⟨_, rfl⟩

@[simp] theorem not_strays_imageDevice : ¬ Strays (StageType.imageDevice parameters) := by
  simp only [StageType.imageDevice, failsWith_bind, not_strays_record?, false_or, not_exists,
    not_and]
  intro record _
  cases record <;> simp

end Parameters

end ImageStages
