import ImageStages.Proofs.Document.Alike
import ImageStages.Proofs.Document.Readable
import ImageStages.Proofs.Document.Writable

namespace ImageStages

namespace Fields

variable {fields : Fields} {name wanted : String} {renew : Document → Document}

theorem find?_change_self :
    (fields.change name renew).find? (.text name) = (fields.find? (.text name)).map renew := by
  induction fields with
  | nil => rfl
  | cons head rest ih =>
      obtain ⟨key, value⟩ := head
      rw [change, List.map_cons, ← change]
      by_cases named : key = .text name
      · simp [find?, named]
      · have apart : key.same (.text name) = false := by
          rw [Bool.eq_false_iff]
          intro same
          exact named (Scalar.eq_of_text_same (Scalar.same_symm same))
        simp [find?, named, apart, ih]

theorem find?_change_of_ne (apart : name ≠ wanted) :
    (fields.change name renew).find? (.text wanted) = fields.find? (.text wanted) := by
  induction fields with
  | nil => rfl
  | cons head rest ih =>
      obtain ⟨key, value⟩ := head
      rw [change, List.map_cons, ← change]
      by_cases named : key = .text name
      · simp [find?, named, apart, ih]
      · simp [find?, named, ih]

theorem keys_change (fields : Fields) : (fields.change name renew).keys = fields.keys := by
  rw [keys, keys, change, List.map_map]
  refine List.map_congr_left fun field _ => ?_
  simp only [Function.comp_apply]
  split <;> rfl

theorem forall_key_change {keyed : Scalar → Prop} (each : ∀ field ∈ fields, keyed field.1) :
    ∀ field ∈ fields.change name renew, keyed field.1 := by
  have kept : ∀ key ∈ (fields.change name renew).keys, keyed key :=
    keys_change fields ▸ List.forall_mem_map.mpr each
  exact List.forall_mem_map.mp kept

theorem named_iff_keys :
    fields.Named ↔ fields.keys.Pairwise (fun left right => left.same right = false) ∧
      ∀ key ∈ fields.keys, ∃ text, key = .text text := by
  rw [keys, List.pairwise_map, List.forall_mem_map]
  exact ⟨fun named => ⟨named.distinct, named.texts⟩, fun parts => ⟨parts.1, parts.2⟩⟩

theorem Named.change (named : fields.Named) : (fields.change name renew).Named := by
  rw [named_iff_keys, keys_change]
  exact named_iff_keys.mp named

end Fields

namespace Document

/-- The document with the value of every field of this name renewed. -/
def changeField (name : String) (renew : Document → Document) : Document → Document
  | .object fields => .object (Fields.change name renew fields)
  | other => other

/-- The document with every item renewed. -/
def eachItem (renew : Document → Document) : Document → Document
  | .list items => .list (items.map renew)
  | other => other

/-- No part of the document is a real number. -/
def RealFree (value : Document) : Prop :=
  value.Throughout fun part => ∀ number, part ≠ .real number

variable {value default : Document} {name wanted : String} {renew : Document → Document}
  {limit : Nat} {items : List Document}

theorem blank_eq_changeField : value.blank name = value.changeField name fun _ => .null := by
  cases value <;> rfl

theorem fieldOr_changeField_of_ne (apart : name ≠ wanted) :
    (value.changeField name renew).fieldOr wanted default = value.fieldOr wanted default := by
  cases value with
  | object fields => rw [changeField, fieldOr, fieldOr, Fields.find?_change_of_ne apart]
  | _ => rfl

theorem fieldOr_changeField (kept : renew default = default) :
    (value.changeField name renew).fieldOr name default = renew (value.fieldOr name default) := by
  cases value with
  | object fields =>
      rw [changeField, fieldOr, fieldOr, Fields.find?_change_self]
      cases Fields.find? fields (.text name) with
      | none => exact kept.symm
      | some field => rfl
  | _ => exact kept.symm

theorem fieldOr_blank_of_ne (apart : name ≠ wanted) :
    (value.blank name).fieldOr wanted default = value.fieldOr wanted default := by
  rw [blank_eq_changeField, fieldOr_changeField_of_ne apart]

section Readable

theorem Throughout.changeField (readable : value.Throughout (Readable limit))
    (renewed : ∀ {part}, part.Throughout (Readable limit) →
      (renew part).Throughout (Readable limit)) :
    (value.changeField name renew).Throughout (Readable limit) := by
  cases readable with
  | scalar here => exact .scalar here
  | list here each => exact .list here each
  | object here each =>
      refine .object ⟨here.1.change, Fields.forall_key_change here.2⟩ fun field member => ?_
      obtain ⟨given, present, rfl⟩ := List.mem_map.mp member
      split
      · exact renewed (each given present)
      · exact each given present

theorem Throughout.blank (readable : value.Throughout (Readable limit)) :
    (value.blank name).Throughout (Readable limit) := by
  rw [blank_eq_changeField]
  exact readable.changeField fun _ => .scalar trivial

theorem Throughout.eachItem (readable : value.Throughout (Readable limit))
    (renewed : ∀ {part}, part.Throughout (Readable limit) →
      (renew part).Throughout (Readable limit)) :
    (value.eachItem renew).Throughout (Readable limit) := by
  cases readable with
  | scalar here => exact .scalar here
  | object here each => exact .object here each
  | @list items here each =>
      have short : (items.map renew).length ≤ limit := by rwa [List.length_map]
      exact .list short (List.forall_mem_map.mpr fun item member => renewed (each item member))

/-- What was read can be written, if no part of it is a real number. -/
theorem Throughout.writable (readable : value.Throughout (Readable limit))
    (realFree : value.RealFree) : value.Writable := by
  refine (readable.and realFree).mono ?_
  rintro part ⟨here, integral⟩
  cases part with
  | scalar scalar =>
      cases scalar with
      | real number => exact absurd rfl (integral number)
      | int number => exact here
      | _ => trivial
  | list items => trivial
  | object fields => exact here.1

end Readable

/-- What a document yields can be written if the document can. -/
theorem Writable.of_items (writable : value.Writable) (yields : value.items = .ok items) :
    ∀ item ∈ items, item.Writable := by
  cases value with
  | list given =>
      obtain rfl : given = items := Except.ok.inj yields
      exact writable_list_iff.mp writable
  | object fields =>
      obtain rfl := Except.ok.inj yields
      intro item member
      obtain ⟨field, present, rfl⟩ := List.mem_map.mp member
      obtain ⟨text, named⟩ := (writable_object_iff.mp writable).1.texts field present
      rw [named]
      exact writable_text text
  | scalar scalar =>
      cases scalar with
      | text s =>
          obtain rfl := Except.ok.inj yields
          intro item member
          obtain ⟨c, _, rfl⟩ := List.mem_map.mp member
          exact writable_text _
      | _ => cases yields

end Document

end ImageStages
