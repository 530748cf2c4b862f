import ImageStages.Proofs.Document.Keys
import ImageStages.Proofs.Document.Reading
import ImageStages.Stage.Record

namespace ImageStages

namespace Scalar

theorem same_text_iff {key : Scalar} {name : Text} :
    key.same (.text name) = true ↔ key = .text name := by
  constructor
  · intro same
    exact eq_of_text_same (same_symm same)
  · intro named
    simp [named]

end Scalar

namespace Fields

variable {fields : Fields} {pairs : List (Scalar × Document)}

/-- A text that is no key yet becomes the last one. -/
theorem keys_put_text (distinct : fields.Distinct) (name : Text) (value : Document) :
    (fields.put (.text name) value).keys =
      if .text name ∈ fields.keys then fields.keys else fields.keys ++ [.text name] := by
  rcases absent_or_present distinct (.text name) with
    absent | ⟨before, other, old, after, rfl, same, apart⟩
  · have missing : .text name ∉ fields.keys := by
      intro member
      obtain ⟨field, present, named⟩ := List.mem_map.mp member
      have same := Scalar.same_text_iff.mpr named
      rw [absent field present] at same
      contradiction
    rw [if_neg missing, put_of_absent absent, keys, List.map_append]
    rfl
  · obtain rfl := Scalar.same_text_iff.mp same
    have present : .text name ∈ keys (before ++ (.text name, old) :: after) := by simp [keys]
    rw [if_pos present, put_of_present same fun field member => apart field (by simp [member])]
    simp [keys]

/-- Each name is a key once, in the order in which the names come first. -/
theorem keys_ofPairs_text {names : List Text}
    (spelled : pairs.map (·.1) = names.map .text) :
    (ofPairs pairs).keys = names.eraseDups.map .text := by
  induction pairs using List.reverseRecOn generalizing names with
  | nil =>
      obtain rfl : names = [] := by simpa [eq_comm] using spelled
      rfl
  | append_singleton before last ih =>
      obtain ⟨key, value⟩ := last
      rcases List.eq_nil_or_concat names with rfl | ⟨names, name, rfl⟩
      · simp at spelled
      · rw [List.concat_eq_append] at spelled ⊢
        simp only [List.map_append, List.map_cons, List.map_nil] at spelled
        obtain ⟨earlier, final⟩ := List.append_inj' spelled rfl
        obtain rfl : key = .text name := by simpa using final
        have known : Scalar.text name ∈ names.eraseDups.map Scalar.text ↔ name ∈ names := by
          simp [List.mem_eraseDups]
        rw [ofPairs_concat, keys_put_text (ofPairs_distinct before), ih earlier]
        simp only [known, List.eraseDups_append]
        by_cases seen : name ∈ names
        · simp [seen, List.removeAll]
        · simp [seen, List.removeAll, List.eraseDups_cons]

end Fields

namespace Document

variable {value : Document}

/-- The value, or null in the place of one that counts as unset. -/
def ifSet (value : Document) : Document :=
  if value.isUnset then .null else value

theorem isUnset_ifSet (value : Document) : value.ifSet.isUnset = value.isUnset := by
  cases unset : value.isUnset with
  | true =>
      rw [ifSet, if_pos unset]
      rfl
  | false => rw [ifSet, unset, if_neg Bool.false_ne_true, unset]

theorem ifSet_of_set (set : value.isUnset = false) : value.ifSet = value := by
  rw [ifSet, set, if_neg Bool.false_ne_true]

end Document

/-- What was unset and reads as null is left out just the same. -/
theorem setFields_ifSet (fields : List (Text × Document)) :
    (options (fields.map fun field => (field.1, field.2.ifSet))).setFields =
      (options fields).setFields := by
  induction fields with
  | nil => rfl
  | cons field rest ih =>
      obtain ⟨name, value⟩ := field
      simp only [options, Fields.setFields, List.map_cons, List.map_map] at ih ⊢
      cases unset : value.isUnset with
      | true => simp [Document.isUnset_ifSet, unset, ih]
      | false => simp [unset, ih, Document.ifSet_of_set unset]

/-- A list is read back as it was written, and an empty one as none. -/
theorem readSection_ifSet (groups : Option (List Document)) :
    ∃ again, readSection Document.items (writeSection .list groups).ifSet = .ok again ∧
      writeSection .list again = (writeSection .list groups).ifSet := by
  rcases groups with _ | _ | ⟨group, others⟩
  · exact ⟨none, rfl, rfl⟩
  · exact ⟨none, rfl, rfl⟩
  · exact ⟨some (group :: others), rfl, rfl⟩

end ImageStages
