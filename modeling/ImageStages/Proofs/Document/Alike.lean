import Mathlib.Data.List.Forall2
import ImageStages.Document.Display
import ImageStages.Proofs.Document.Reading

namespace ImageStages

/-! Documents that differ in few places.

Fields are alike when they have the same keys in the same order and related values.  What
is looked up, stored, left out or displayed is then alike too, and it is the same where the
values that differ are not read or are made empty. -/

namespace Fields

def Alike (related : Scalar → Document → Document → Prop) (left right : Fields) : Prop :=
  List.Forall₂ (fun field other => field.1 = other.1 ∧ related field.1 field.2 other.2)
    left right

/-- Replaces the value of every field of this name. -/
def change (name : String) (renew : Document → Document) (fields : Fields) : Fields :=
  fields.map fun field => if field.1 = .text name then (field.1, renew field.2) else field

end Fields

namespace Document

/-- The values are the same, unless they are those of the name and related. -/
def But (name : String) (related : Document → Document → Prop) (key : Scalar)
    (left right : Document) : Prop :=
  left = right ∨ key = .text name ∧ related left right

/-- The documents are the same, or objects that differ in the field of one name only. -/
inductive SameBut (name : String) (related : Document → Document → Prop) :
    Document → Document → Prop
  | same (value : Document) : SameBut name related value value
  | object {left right : Fields} (alike : Fields.Alike (But name related) left right) :
      SameBut name related (.object left) (.object right)

/-- The documents are the same, or lists of related items. -/
inductive SameItems (related : Document → Document → Prop) : Document → Document → Prop
  | same (value : Document) : SameItems related value value
  | list {left right : List Document} (each : List.Forall₂ related left right) :
      SameItems related (.list left) (.list right)

end Document

namespace Fields

section Related

variable {related : Scalar → Document → Document → Prop} {left right : Fields}

theorem find?_alike (alike : Alike related left right) (wanted : Scalar) :
    (left.find? wanted = none ∧ right.find? wanted = none) ∨
      ∃ key value other, key.same wanted = true ∧ left.find? wanted = some value ∧
        right.find? wanted = some other ∧ related key value other := by
  induction alike with
  | nil => exact .inl ⟨rfl, rfl⟩
  | @cons field other rest others first _ ih =>
      obtain ⟨key, value⟩ := field
      obtain ⟨_, changed⟩ := other
      obtain ⟨rfl, holds⟩ := first
      by_cases same : key.same wanted = true
      · exact .inr ⟨key, value, changed, same, if_pos same, if_pos same, holds⟩
      · simpa only [find?, same, Bool.false_eq_true, if_false] using ih

theorem Alike.setFields (alike : Alike related left right)
    (unset : ∀ {key value other}, related key value other → value.isUnset = other.isUnset) :
    Alike related left.setFields right.setFields := by
  induction alike with
  | nil => exact .nil
  | @cons field other rest others first _ ih =>
      rw [Fields.setFields, Fields.setFields, List.filter_cons, List.filter_cons,
        unset first.2]
      split
      · exact .cons first ih
      · exact ih

end Related

section Stored

variable {related : Document → Document → Prop} {left right : Fields}

theorem Alike.put (alike : Alike (fun _ => related) left right) (key : Scalar)
    {value other : Document} (holds : related value other) :
    Alike (fun _ => related) (left.put key value) (right.put key other) := by
  induction alike with
  | nil => exact .cons ⟨rfl, holds⟩ .nil
  | @cons field changed rest others first tail ih =>
      obtain ⟨name, old⟩ := field
      obtain ⟨_, older⟩ := changed
      obtain ⟨rfl, kept⟩ := first
      by_cases same : name.same key = true
      · rw [Fields.put, Fields.put, if_pos same, if_pos same]
        exact .cons ⟨rfl, holds⟩ tail
      · rw [Fields.put, Fields.put, if_neg same, if_neg same]
        exact .cons ⟨rfl, kept⟩ ih

theorem Alike.putAll {fields others : Fields} (alike : Alike (fun _ => related) fields others)
    (added : Alike (fun _ => related) left right) :
    Alike (fun _ => related) (fields.putAll left) (others.putAll right) := by
  induction added generalizing fields others with
  | nil => exact alike
  | @cons field other rest remaining first _ ih =>
      obtain ⟨key, value⟩ := field
      obtain ⟨_, changed⟩ := other
      obtain ⟨rfl, holds⟩ := first
      exact ih (alike.put key holds)

theorem Alike.ofPairs (alike : Alike (fun _ => related) left right) :
    Alike (fun _ => related) (ofPairs left) (ofPairs right) :=
  Alike.putAll .nil alike

end Stored

/-- Changing the fields of a name makes fields equal that differ there only, where it makes
the values equal. -/
theorem change_eq_of_alike {name : String} {related : Document → Document → Prop}
    {renew : Document → Document} {left right : Fields}
    (alike : Alike (Document.But name related) left right)
    (renewed : ∀ {value other}, related value other → renew value = renew other) :
    left.change name renew = right.change name renew := by
  induction alike with
  | nil => rfl
  | @cons field other rest others first _ ih =>
      obtain ⟨key, value⟩ := field
      obtain ⟨_, changed⟩ := other
      obtain ⟨rfl, rfl | ⟨named, holds⟩⟩ := first
      · simp only [change, List.map_cons] at ih ⊢
        rw [ih]
      · simp only [change, List.map_cons, if_pos named] at ih ⊢
        rw [renewed holds, ih]

end Fields

namespace Document

variable {name wanted : String} {related : Document → Document → Prop}
  {left right default : Document}

theorem SameBut.fieldOr_of_ne (alike : SameBut name related left right) (default : Document)
    (apart : name ≠ wanted) : left.fieldOr wanted default = right.fieldOr wanted default := by
  cases alike with
  | same value => rfl
  | object alike =>
      rcases Fields.find?_alike alike (.text wanted) with
        ⟨absent, missing⟩ | ⟨key, value, other, matched, found, given, rfl | ⟨rfl, _⟩⟩
      · rw [fieldOr, fieldOr, absent, missing]
      · rw [fieldOr, fieldOr, found, given]
      · exact absurd (Text.ofString_inj.mp (eq_of_beq matched)) apart

theorem SameBut.lookupOr_of_ne (alike : SameBut name related left right)
    (apart : name ≠ wanted) : left.lookupOr wanted default = right.lookupOr wanted default := by
  have found := alike.fieldOr_of_ne default apart
  cases alike with
  | same value => rfl
  | object _ =>
      rw [lookupOr_of_isObject (isObject_object _), lookupOr_of_isObject (isObject_object _),
        found]

theorem SameBut.fieldOr (alike : SameBut name related left right) :
    left.fieldOr name default = right.fieldOr name default ∨
      related (left.fieldOr name default) (right.fieldOr name default) := by
  cases alike with
  | same value => exact .inl rfl
  | object alike =>
      simp only [Document.fieldOr]
      rcases Fields.find?_alike alike (.text name) with
        ⟨absent, missing⟩ | ⟨key, value, other, _, found, given, rfl | ⟨_, holds⟩⟩
      · rw [absent, missing]
        exact .inl rfl
      · rw [found, given]
        exact .inl rfl
      · rw [found, given]
        exact .inr holds

theorem SameBut.orElse (alike : SameBut name related left right) (fallback : Document) :
    SameBut name related (left.orElse fallback) (right.orElse fallback) := by
  cases alike with
  | same value => exact .same _
  | object alike =>
      cases alike with
      | nil => exact .same _
      | cons first rest => exact .object (.cons first rest)

theorem items_alike {items others : List Document} (reflexive : ∀ value, related value value)
    (alike : left = right ∨ SameItems related left right)
    (yields : left.items = .ok items) (yieldsOther : right.items = .ok others) :
    List.Forall₂ related items others := by
  have equal : ∀ value : Document, value.items = .ok items → value.items = .ok others →
      List.Forall₂ related items others := by
    intro value first second
    obtain rfl : items = others := Except.ok.inj (first.symm.trans second)
    exact List.forall₂_same.mpr fun item _ => reflexive item
  rcases alike with rfl | alike
  · exact equal _ yields yieldsOther
  · cases alike with
    | same value => exact equal _ yields yieldsOther
    | list each =>
        obtain rfl := Except.ok.inj yields
        obtain rfl := Except.ok.inj yieldsOther
        exact each

/-- The document with the value of every field of this name made null. -/
def blank (name : String) : Document → Document
  | .object fields => .object (Fields.change name (fun _ => .null) fields)
  | other => other

theorem SameBut.blank_eq (alike : SameBut name related left right) :
    left.blank name = right.blank name := by
  cases alike with
  | same value => rfl
  | @object fields others alike =>
      have same : fields.change name (fun _ => .null) = others.change name fun _ => .null :=
        Fields.change_eq_of_alike alike fun _ => rfl
      rw [blank, blank, same]

/-- The document with the values of all its fields renewed. -/
def eachField (renew : Document → Document) : Document → Document
  | .object fields => .object (fields.map fun field => (field.1, renew field.2))
  | other => other

theorem eachField_eq_of_alike {renew : Document → Document} {fields others : Fields}
    (alike : Fields.Alike (fun _ => related) fields others)
    (renewed : ∀ {value other}, related value other → renew value = renew other) :
    (object fields).eachField renew = (object others).eachField renew := by
  have same : fields.map (fun field => (field.1, renew field.2)) =
      others.map fun field => (field.1, renew field.2) := by
    induction alike with
    | nil => rfl
    | cons first _ ih => rw [List.map_cons, List.map_cons, ih, first.1, renewed first.2]
  rw [eachField, eachField, same]

end Document

/-- The texts are the same but for displayed values that are related. -/
inductive Veiled (secret : Document → Document → Prop) : Text → Text → Prop
  | nil : Veiled secret [] []
  | char (c : CodePoint) {left right : Text} (rest : Veiled secret left right) :
      Veiled secret (c :: left) (c :: right)
  | value {value other : Document} {left right : Text} (holds : secret value other)
      (rest : Veiled secret left right) :
      Veiled secret (value.display .unicode ++ left) (other.display .unicode ++ right)

namespace Veiled

variable {secret : Document → Document → Prop} {left right : Text}

theorem append_same (text : Text) (rest : Veiled secret left right) :
    Veiled secret (text ++ left) (text ++ right) := by
  induction text with
  | nil => exact rest
  | cons c text ih => exact .char c ih

theorem refl (text : Text) : Veiled secret text text := by
  simpa using append_same text (.nil : Veiled secret [] [])

theorem append {before after : Text} (first : Veiled secret left right)
    (second : Veiled secret before after) : Veiled secret (left ++ before) (right ++ after) := by
  induction first with
  | nil => exact second
  | char c _ ih => exact .char c ih
  | value holds _ ih =>
      rw [List.append_assoc, List.append_assoc]
      exact .value holds ih

theorem of_secret {value other : Document} (holds : secret value other) :
    Veiled secret (value.display .unicode) (other.display .unicode) := by
  simpa using Veiled.value holds .nil

theorem displayFields {fields others : Fields}
    (alike : Fields.Alike
      (fun _ value other => Veiled secret (value.display .unicode) (other.display .unicode))
      fields others) :
    Veiled secret (Document.displayFields .unicode fields)
      (Document.displayFields .unicode others) := by
  induction alike with
  | nil => exact .nil
  | @cons field other rest others first tail ih =>
      obtain ⟨key, value⟩ := field
      obtain ⟨_, changed⟩ := other
      obtain ⟨rfl, holds⟩ := first
      have head := append_same (key.display .unicode ++ [.char ':', .char ' ']) holds
      cases tail with
      | nil => simpa [Document.displayFields] using head
      | cons next tail =>
          have whole := head.append (append_same [',', ' '] ih)
          simpa [Document.displayFields] using whole

theorem display_object {fields others : Fields}
    (alike : Fields.Alike
      (fun _ value other => Veiled secret (value.display .unicode) (other.display .unicode))
      fields others) :
    Veiled secret ((Document.object fields).display .unicode)
      ((Document.object others).display .unicode) := by
  have inside := (displayFields alike).append (refl ['\x7d'])
  simpa [Document.display] using append_same ['\x7b'] inside

theorem of_sameBut {name : String} {value other : Document}
    (alike : Document.SameBut name secret value other) :
    Veiled secret (value.display .unicode) (other.display .unicode) := by
  cases alike with
  | same value => exact refl _
  | object alike =>
      refine display_object (alike.imp fun field changed first => ⟨first.1, ?_⟩)
      rcases first.2 with same | ⟨_, holds⟩
      · rw [same]
        exact refl _
      · exact of_secret holds

end Veiled

end ImageStages
