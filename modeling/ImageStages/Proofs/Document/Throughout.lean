import ImageStages.Proofs.Document.Keys
import ImageStages.Proofs.Document.Reading
import ImageStages.Stage.Record

namespace ImageStages

namespace Fields

variable {fields pairs : Fields} {key : Scalar} {value : Document}

/-- The keys are texts, and no two of them are the same. -/
structure Named (fields : Fields) : Prop where
  distinct : fields.Distinct
  texts : ∀ field ∈ fields, ∃ name, field.1 = .text name

theorem Named.setFields (named : fields.Named) : fields.setFields.Named where
  distinct := named.distinct.filter _
  texts := fun field member => named.texts field (List.mem_of_mem_filter member)

theorem forall_mem_put {keyed : Scalar → Prop} {holds : Document → Prop}
    (each : ∀ field ∈ fields, keyed field.1 ∧ holds field.2) (named : keyed key)
    (held : holds value) : ∀ field ∈ fields.put key value, keyed field.1 ∧ holds field.2 := by
  induction fields with
  | nil =>
      intro field member
      obtain rfl := List.mem_singleton.mp member
      exact ⟨named, held⟩
  | cons head rest ih =>
      obtain ⟨other, old⟩ := head
      obtain ⟨first, others⟩ := List.forall_mem_cons.mp each
      rw [put]
      split
      · exact List.forall_mem_cons.mpr ⟨⟨first.1, held⟩, others⟩
      · exact List.forall_mem_cons.mpr ⟨first, ih others⟩

/-- What holds of all pairs holds of the fields that they make. -/
theorem forall_mem_ofPairs (keyed : Scalar → Prop) (holds : Document → Prop)
    (each : ∀ pair ∈ pairs, keyed pair.1 ∧ holds pair.2) :
    ∀ field ∈ ofPairs pairs, keyed field.1 ∧ holds field.2 := by
  induction pairs using List.reverseRecOn with
  | nil => simp
  | append_singleton before last ih =>
      obtain ⟨earlier, final⟩ := List.forall_mem_append.mp each
      rw [ofPairs_concat]
      exact forall_mem_put (ih earlier) (final last (by simp)).1 (final last (by simp)).2

theorem forall_key_ofPairs (keyed : Scalar → Prop) (each : ∀ pair ∈ pairs, keyed pair.1) :
    ∀ field ∈ ofPairs pairs, keyed field.1 := by
  intro field member
  have whole (pair : Scalar × Document) (present : pair ∈ pairs) : keyed pair.1 ∧ True :=
    ⟨each pair present, trivial⟩
  exact (forall_mem_ofPairs keyed (fun _ => True) whole field member).1

theorem forall_value_ofPairs (holds : Document → Prop) (each : ∀ pair ∈ pairs, holds pair.2) :
    ∀ field ∈ ofPairs pairs, holds field.2 := by
  intro field member
  have whole (pair : Scalar × Document) (present : pair ∈ pairs) : True ∧ holds pair.2 :=
    ⟨trivial, each pair present⟩
  exact (forall_mem_ofPairs (fun _ => True) holds whole field member).2

theorem named_ofPairs (texts : ∀ pair ∈ pairs, ∃ name, pair.1 = .text name) :
    (ofPairs pairs).Named where
  distinct := ofPairs_distinct pairs
  texts := forall_key_ofPairs (fun key => ∃ name, key = .text name) texts

theorem named_options_iff {fields : List (Text × Document)} :
    (options fields).Named ↔ (fields.map Prod.fst).Nodup := by
  have keys : (options fields).Distinct ↔ (fields.map Prod.fst).Nodup := by
    rw [Distinct, options, List.Nodup, List.pairwise_map, List.pairwise_map]
    simp [sameKey]
  constructor
  · intro named
    exact keys.mp named.distinct
  · intro distinct
    refine ⟨keys.mpr distinct, fun field member => ?_⟩
    obtain ⟨given, _, rfl⟩ := List.mem_map.mp member
    exact ⟨given.1, rfl⟩

end Fields

namespace Document

/-- The property holds of the value and of every part of it. -/
inductive Throughout (holds : Document → Prop) : Document → Prop
  | scalar {value : Scalar} (here : holds (.scalar value)) : Throughout holds (.scalar value)
  | list {items : List Document} (here : holds (.list items))
      (each : ∀ item ∈ items, Throughout holds item) : Throughout holds (.list items)
  | object {fields : Fields} (here : holds (.object fields))
      (each : ∀ field ∈ fields, Throughout holds field.2) : Throughout holds (.object fields)

namespace Throughout

variable {holds others : Document → Prop} {value default : Document} {items : List Document}
  {fields : Fields} {name : String}

theorem here (all : Throughout holds value) : holds value := by
  cases all with
  | scalar here => exact here
  | list here _ => exact here
  | object here _ => exact here

theorem mono (all : Throughout holds value) (weaker : ∀ {part}, holds part → others part) :
    Throughout others value := by
  induction all with
  | scalar here => exact .scalar (weaker here)
  | list here _ ih => exact .list (weaker here) ih
  | object here _ ih => exact .object (weaker here) ih

theorem and (all : Throughout holds value) (also : Throughout others value) :
    Throughout (fun part => holds part ∧ others part) value := by
  induction all with
  | scalar here =>
      cases also with
      | scalar there => exact .scalar ⟨here, there⟩
  | list here _ ih =>
      cases also with
      | list there each =>
          exact .list ⟨here, there⟩ fun item member => ih item member (each item member)
  | object here _ ih =>
      cases also with
      | object there each =>
          exact .object ⟨here, there⟩ fun field member => ih field member (each field member)

theorem scalar_iff {scalar : Scalar} :
    Throughout holds (.scalar scalar) ↔ holds (.scalar scalar) :=
  ⟨here, .scalar⟩

theorem list_iff :
    Throughout holds (.list items) ↔
      holds (.list items) ∧ ∀ item ∈ items, Throughout holds item := by
  constructor
  · rintro (_ | ⟨here, each⟩)
    exact ⟨here, each⟩
  · rintro ⟨here, each⟩
    exact .list here each

theorem object_iff :
    Throughout holds (.object fields) ↔
      holds (.object fields) ∧ ∀ field ∈ fields, Throughout holds field.2 := by
  constructor
  · rintro (_ | _ | ⟨here, each⟩)
    exact ⟨here, each⟩
  · rintro ⟨here, each⟩
    exact .object here each

theorem of_mem (all : Throughout holds (.list items)) : ∀ item ∈ items, Throughout holds item :=
  (list_iff.mp all).2

theorem of_field (all : Throughout holds (.object fields)) :
    ∀ field ∈ fields, Throughout holds field.2 :=
  (object_iff.mp all).2

theorem of_find? {key : Scalar} (all : Throughout holds (.object fields))
    (found : fields.find? key = some value) : Throughout holds value := by
  obtain ⟨field, member, rfl⟩ : ∃ field ∈ fields, field.2 = value := by
    clear all
    induction fields with
    | nil => cases found
    | cons head rest ih =>
        obtain ⟨other, old⟩ := head
        rw [Fields.find?] at found
        split at found
        · exact ⟨(other, old), by simp, Option.some.inj found⟩
        · obtain ⟨field, member, same⟩ := ih found
          exact ⟨field, by simp [member], same⟩
  exact all.of_field field member

theorem ofPairs (here : holds (.object (Fields.ofPairs fields)))
    (each : ∀ field ∈ fields, Throughout holds field.2) :
    Throughout holds (.object (Fields.ofPairs fields)) :=
  .object here (Fields.forall_value_ofPairs (Throughout holds) each)

theorem fieldOr (all : Throughout holds value) (fallback : Throughout holds default) :
    Throughout holds (value.fieldOr name default) := by
  cases value with
  | object fields =>
      rw [Document.fieldOr]
      cases found : Fields.find? fields (.text name) with
      | none => exact fallback
      | some field => exact all.of_find? found
  | _ => exact fallback

end Throughout

end Document

end ImageStages
