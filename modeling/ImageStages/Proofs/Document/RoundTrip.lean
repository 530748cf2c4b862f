import ImageStages.Proofs.Document.Readable
import ImageStages.Proofs.Document.Writable

namespace ImageStages

def Scalar.Unsplit : Scalar → Prop
  | .text value => value.Unsplit
  | _ => True

theorem Scalar.Readable.unsplit {value : Scalar} (readable : value.Readable) : value.Unsplit := by
  cases value with
  | text text => exact readable
  | _ => trivial

namespace Document

/-- What is asked of a part, so that its own texts are read back. -/
def Unsplit : Document → Prop
  | .scalar value => value.Unsplit
  | .list _ => True
  | .object fields => ∀ field ∈ fields, field.1.Unsplit

/-- No text in the document, be it a value or the name of a field, splits a pair. -/
def Unbroken (value : Document) : Prop :=
  value.Throughout Unsplit

@[simp] theorem unbroken_text_iff {text : Text} :
    (Document.text text).Unbroken ↔ text.Unsplit :=
  Throughout.scalar_iff

@[simp] theorem unbroken_list_iff {items : List Document} :
    (Document.list items).Unbroken ↔ ∀ item ∈ items, item.Unbroken :=
  Throughout.list_iff.trans (and_iff_right trivial)

@[simp] theorem unbroken_record_iff {fields : List (Text × Document)} :
    (Document.record fields).Unbroken ↔
      (∀ field ∈ fields, field.1.Unsplit) ∧ ∀ field ∈ fields, field.2.Unbroken := by
  rw [Document.record, Unbroken, Throughout.object_iff, Unsplit, List.forall_mem_map,
    List.forall_mem_map]
  exact Iff.rfl

theorem unbroken_options_iff {fields : List (Text × Document)} :
    (Document.object (options fields)).Unbroken ↔
      (∀ field ∈ fields, field.1.Unsplit) ∧ ∀ field ∈ fields, field.2.Unbroken :=
  unbroken_record_iff

end Document

namespace Json

open Text (doubleQuote)

variable {fuel index depth : Nat} {c : Char} {rest : List Char} {value : Document}
  {items : List Document} {fields : Fields}

/-- The text is read as the value, wherever it stands. -/
def Spells (text : List Char) (value : Document) : Prop :=
  ∀ fuel index rest, text.length ≤ fuel → EndsNumber rest →
    ∃ stop, readValue fuel ⟨index, text ++ rest⟩ = .ok (value, ⟨stop, rest⟩)

/-- The text does not start with white space, the end of a list or a byte order mark. -/
def StartsValue (text : List Char) : Prop :=
  ∃ c others, text = c :: others ∧ isSpace c = false ∧ c ≠ ']' ∧ c ≠ byteOrderMark

section Scalars

theorem startsValue_json {scalar : Scalar} (exact : scalar.Exact) : StartsValue scalar.json := by
  cases scalar with
  | null => exact ⟨_, _, rfl, by decide, by decide, by decide⟩
  | bool flag => cases flag <;> exact ⟨_, _, rfl, by decide, by decide, by decide⟩
  | text text => exact ⟨_, _, rfl, by decide, by decide, by decide⟩
  | real value => exact exact.elim
  | int value =>
      obtain ⟨first, others, spelled, digit, _⟩ := toDigits_first value.natAbs
      by_cases below : value < 0
      · exact ⟨'-', Nat.toDigits 10 value.natAbs, by simp [Scalar.json, decimalChars, below],
          by decide, by decide, by decide⟩
      · refine ⟨first, others, by simp [Scalar.json, decimalChars, below, spelled], ?_,
          ne_of_isDigit digit (by decide), ne_of_isDigit digit (by decide)⟩
        have apart (other : Char) (sign : other.isDigit = false) : (first == other) = false := by
          simpa using ne_of_isDigit digit sign
        simp [isSpace, apart ' ' rfl, apart '\t' rfl, apart '\n' rfl, apart '\r' rfl]

/-- What starts as no list, object or text is a simple value. -/
theorem readValue_simple (list : c ≠ '[') (object : c ≠ '\x7b') (text : c ≠ '\x22') :
    readValue (fuel + 1) ⟨index, c :: rest⟩ = readSimple ⟨index, c :: rest⟩ := by
  rw [readValue]
  split
  · exact absurd (List.cons.inj ‹_›).1 list
  · exact absurd (List.cons.inj ‹_›).1 object
  · exact absurd (List.cons.inj ‹_›).1 text
  · rfl

theorem flatMap_unitEscape_ne_nil (unit : Nat) (units : List Nat) :
    (unit :: units).flatMap unitEscape ≠ [] := by
  simp [unitEscape]

theorem jsonChar_ne_nil (point : CodePoint) : jsonChar point ≠ [] := by
  rcases jsonChar_cases point with ⟨c, rfl, short⟩ | units
  · generalize jsonChar c = spelled at short
    cases short <;> exact List.cons_ne_nil _ _
  · rw [units, utf16Units]
    split
    · exact flatMap_unitEscape_ne_nil _ _
    · exact flatMap_unitEscape_ne_nil _ _

theorem length_flatMap_jsonChar (text : Text) :
    text.length ≤ (text.flatMap jsonChar).length := by
  induction text with
  | nil => exact Nat.le_refl 0
  | cons point others ih =>
      have filled := List.length_pos_iff.mpr (jsonChar_ne_nil point)
      rw [List.flatMap_cons, List.length_append, List.length_cons]
      omega

theorem spells_json {scalar : Scalar} (exact : scalar.Exact) (unsplit : scalar.Unsplit) :
    Spells scalar.json (.scalar scalar) := by
  intro fuel index rest enough ends
  obtain ⟨fuel, rfl⟩ : ∃ less, fuel = less + 1 := by
    obtain ⟨_, _, spelled, _⟩ := startsValue_json exact
    rw [spelled] at enough
    exact ⟨fuel - 1, by simp at enough; omega⟩
  cases scalar with
  | real value => exact exact.elim
  | null => exact ⟨index + 4, rfl⟩
  | bool flag => cases flag <;> exact ⟨_, rfl⟩
  | text text =>
      have fits : text.length < fuel := by
        have spread := length_flatMap_jsonChar text
        simp only [Scalar.json, jsonText, List.length_append, List.length_cons] at enough
        omega
      obtain ⟨stop, read⟩ := readText_spelled fuel (index + 1) rest unsplit fits
      refine ⟨stop, ?_⟩
      have spelled : Scalar.json (.text text) ++ rest =
          '\x22' :: (text.flatMap jsonChar ++ doubleQuote :: rest) := by
        simp [Scalar.json, jsonText, doubleQuote]
      rw [spelled, readValue]
      simp [read]
  | int value =>
      obtain ⟨stop, read⟩ := readSimple_decimalChars index ends exact
      refine ⟨stop, ?_⟩
      obtain ⟨c, others, spelled, list, object, text⟩ :
          ∃ c others, decimalChars value = c :: others ∧ c ≠ '[' ∧ c ≠ '\x7b' ∧ c ≠ '\x22' := by
        obtain ⟨first, others, spelled, digit, _⟩ := toDigits_first value.natAbs
        by_cases below : value < 0
        · exact ⟨'-', Nat.toDigits 10 value.natAbs, by rw [decimalChars, if_pos below],
            by decide, by decide, by decide⟩
        · exact ⟨first, others, by rw [decimalChars, if_neg below, spelled],
            ne_of_isDigit digit (by decide), ne_of_isDigit digit (by decide),
            ne_of_isDigit digit (by decide)⟩
      rw [Scalar.json, spelled, List.cons_append, readValue_simple list object text]
      rw [spelled, List.cons_append] at read
      exact read

end Scalars

section Blanks

theorem skipSpace_blanks (blanks : List Char) (all : ∀ blank ∈ blanks, isSpace blank = true)
    (solid : isSpace c = false) :
    Cursor.skipSpace ⟨index, blanks ++ c :: rest⟩ = ⟨index + blanks.length, c :: rest⟩ := by
  rw [Cursor.skipSpace, List.takeWhile_append_of_pos all, List.dropWhile_append_of_pos all]
  simp [solid]

theorem skipSpace_solid (solid : isSpace c = false) :
    Cursor.skipSpace ⟨index, c :: rest⟩ = ⟨index, c :: rest⟩ :=
  skipSpace_blanks [] (by simp) solid

theorem skipSpace_newLine (solid : isSpace c = false) :
    Cursor.skipSpace ⟨index, newLine depth ++ c :: rest⟩ =
      ⟨index + (newLine depth).length, c :: rest⟩ := by
  refine skipSpace_blanks (newLine depth) (fun blank member => ?_) solid
  rcases List.mem_cons.mp member with rfl | member
  · rfl
  · rw [(List.mem_replicate.mp member).2]
    rfl

theorem endsNumber_newLine (depth : Nat) (rest : List Char) :
    EndsNumber (newLine depth ++ rest) := by
  rintro c ⟨⟩
  decide

theorem endsNumber_comma : EndsNumber (',' :: rest) := by
  rintro c ⟨⟩
  decide

end Blanks

section Items

theorem laidOutItems_cons (item next : Document) (others : List Document) :
    Document.laidOutItems depth (item :: next :: others) =
      newLine depth ++ (item.laidOut depth ++
        ',' :: Document.laidOutItems depth (next :: others)) := by
  rw [Document.laidOutItems]
  · simp
  · simp

/-- The items of a list are read up to its end. -/
theorem readItems_spelled (fuel index outer : Nat) (rest : List Char) (filled : items ≠ [])
    (each : ∀ item ∈ items, StartsValue (item.laidOut depth) ∧ Spells (item.laidOut depth) item)
    (enough : (Document.laidOutItems depth items).length ≤ fuel) :
    ∃ stop, readItems fuel (Cursor.skipSpace
        ⟨index, Document.laidOutItems depth items ++ (newLine outer ++ ']' :: rest)⟩) =
      .ok (items, ⟨stop, rest⟩) := by
  induction items generalizing fuel index with
  | nil => contradiction
  | cons item others ih =>
      obtain ⟨⟨starts, spells⟩, remaining⟩ := List.forall_mem_cons.mp each
      obtain ⟨c, chars, spelled, solid, _⟩ := starts
      cases others with
      | nil =>
          rw [Document.laidOutItems, List.length_append] at enough
          obtain ⟨fuel, rfl⟩ : ∃ less, fuel = less + 1 :=
            ⟨fuel - 1, by simp only [newLine, List.length_cons] at enough; omega⟩
          obtain ⟨middle, read⟩ := spells fuel (index + (newLine depth).length)
            (newLine outer ++ ']' :: rest)
            (by simp only [newLine, List.length_cons] at enough; omega)
            (endsNumber_newLine outer _)
          refine ⟨middle + (newLine outer).length + 1, ?_⟩
          rw [Document.laidOutItems, List.append_assoc, spelled, List.cons_append,
            skipSpace_newLine solid, readItems, ← List.cons_append, ← spelled, read]
          simp only [Except.ok_bind, skipSpace_newLine (show isSpace ']' = false by decide)]
          rfl
      | cons next others =>
          rw [laidOutItems_cons, List.length_append, List.length_append, List.length_cons]
            at enough
          obtain ⟨fuel, rfl⟩ : ∃ less, fuel = less + 1 := ⟨fuel - 1, by omega⟩
          obtain ⟨middle, read⟩ := spells fuel (index + (newLine depth).length)
            (',' :: (Document.laidOutItems depth (next :: others) ++
              (newLine outer ++ ']' :: rest)))
            (by omega) endsNumber_comma
          obtain ⟨stop, readOthers⟩ := ih fuel (middle + 1) (by simp) remaining (by omega)
          refine ⟨stop, ?_⟩
          rw [laidOutItems_cons, List.append_assoc, List.append_assoc, spelled,
            List.cons_append, skipSpace_newLine solid, readItems, ← List.cons_append, ← spelled,
            List.cons_append, read]
          simp only [Except.ok_bind, skipSpace_solid (show isSpace ',' = false by decide),
            readOthers]
          rfl

end Items

section Fields

theorem laidOutFields_cons (key : Scalar) (value : Document) (next : Scalar × Document)
    (others : Fields) :
    Document.laidOutFields depth ((key, value) :: next :: others) =
      newLine depth ++ (key.jsonKey ++ ':' :: ' ' :: (value.laidOut depth ++
        ',' :: Document.laidOutFields depth (next :: others))) := by
  rw [Document.laidOutFields]
  · simp
  · simp

/-- The name of a field is read up to its colon. -/
theorem readText_jsonKey (fuel index : Nat) (rest : List Char) {name : Text}
    (unsplit : name.Unsplit) (enough : (Scalar.text name).jsonKey.length ≤ fuel + 1) :
    ∃ others stop, (Scalar.text name).jsonKey ++ rest = '\x22' :: others ∧
      readText fuel ⟨index, others⟩ = .ok (name, ⟨stop, rest⟩) := by
  have fits : name.length < fuel := by
    have spread := length_flatMap_jsonChar name
    simp only [Scalar.jsonKey, jsonText, List.length_append, List.length_cons] at enough
    omega
  obtain ⟨stop, read⟩ := readText_spelled fuel index rest unsplit fits
  exact ⟨_, stop, by simp [Scalar.jsonKey, jsonText, doubleQuote], read⟩

/-- The steps in which the first of the fields in a text is read. -/
theorem readField_spelled (fuel index : Nat) (value : Document) (fieldText tail : List Char)
    {name : Text} (unsplit : name.Unsplit)
    (laidOut : fieldText = newLine depth ++ ((Scalar.text name).jsonKey ++
      ':' :: ' ' :: (value.laidOut depth ++ tail)))
    (starts : StartsValue (value.laidOut depth)) (spells : Spells (value.laidOut depth) value)
    (enough : (newLine depth).length + ((Scalar.text name).jsonKey.length +
      ((value.laidOut depth).length + 2)) ≤ fuel + 1) (ends : EndsNumber tail) :
    ∃ start inside colon stop,
      Cursor.skipSpace ⟨index, fieldText⟩ = ⟨start, '\x22' :: inside⟩ ∧
      readText fuel ⟨start + 1, inside⟩ =
        .ok (name, ⟨colon, ':' :: ' ' :: (value.laidOut depth ++ tail)⟩) ∧
      readValue fuel (Cursor.skipSpace ⟨colon + 1, ' ' :: (value.laidOut depth ++ tail)⟩) =
        .ok (value, ⟨stop, tail⟩) := by
  obtain ⟨c, chars, spelled, solid, _⟩ := starts
  obtain ⟨inside, colon, quoted, key⟩ :=
    readText_jsonKey fuel (index + (newLine depth).length + 1)
      (':' :: ' ' :: (value.laidOut depth ++ tail)) unsplit (by omega)
  obtain ⟨stop, read⟩ := spells fuel (colon + 1 + 1) tail (by omega) ends
  refine ⟨index + (newLine depth).length, inside, colon, stop, ?_, key, ?_⟩
  · rw [laidOut, quoted]
    exact skipSpace_newLine (by decide)
  · rw [spelled, List.cons_append] at read ⊢
    rw [← List.singleton_append, skipSpace_blanks [' '] (by simp; rfl) solid]
    exact read

/-- The fields of an object are read up to its end. -/
theorem readFields_spelled (fuel index outer : Nat) (rest : List Char) (filled : fields ≠ [])
    (texts : ∀ field ∈ fields, ∃ name, field.1 = .text name ∧ name.Unsplit)
    (each : ∀ field ∈ fields,
      StartsValue (field.2.laidOut depth) ∧ Spells (field.2.laidOut depth) field.2)
    (enough : (Document.laidOutFields depth fields).length ≤ fuel) :
    ∃ stop, readFields fuel (Cursor.skipSpace
        ⟨index, Document.laidOutFields depth fields ++ (newLine outer ++ '\x7d' :: rest)⟩) =
      .ok (fields, ⟨stop, rest⟩) := by
  induction fields generalizing fuel index with
  | nil => contradiction
  | cons field others ih =>
      obtain ⟨key, value⟩ := field
      obtain ⟨⟨starts, spells⟩, remaining⟩ := List.forall_mem_cons.mp each
      obtain ⟨⟨name, rfl, unsplit⟩, names⟩ := List.forall_mem_cons.mp texts
      cases others with
      | nil =>
          simp only [Document.laidOutFields, List.length_append, List.length_cons] at enough
          obtain ⟨fuel, rfl⟩ : ∃ less, fuel = less + 1 := ⟨fuel - 1, by omega⟩
          obtain ⟨start, inside, colon, stop, skipped, named, read⟩ :=
            readField_spelled fuel index value
              (Document.laidOutFields depth [(.text name, value)] ++
                (newLine outer ++ '\x7d' :: rest))
              (newLine outer ++ '\x7d' :: rest) unsplit (by simp [Document.laidOutFields])
              starts spells (by omega) (endsNumber_newLine outer _)
          refine ⟨stop + (newLine outer).length + 1, ?_⟩
          rw [skipped, readFields]
          simp only [named, Except.ok_bind, skipSpace_solid (show isSpace ':' = false by decide),
            read, skipSpace_newLine (show isSpace '\x7d' = false by decide)]
          rfl
      | cons next others =>
          rw [laidOutFields_cons] at enough
          simp only [List.length_append, List.length_cons] at enough
          obtain ⟨fuel, rfl⟩ : ∃ less, fuel = less + 1 := ⟨fuel - 1, by omega⟩
          obtain ⟨start, inside, colon, stop, skipped, named, read⟩ :=
            readField_spelled fuel index value
              (Document.laidOutFields depth ((.text name, value) :: next :: others) ++
                (newLine outer ++ '\x7d' :: rest))
              (',' :: (Document.laidOutFields depth (next :: others) ++
                (newLine outer ++ '\x7d' :: rest)))
              unsplit (by rw [laidOutFields_cons]; simp) starts spells (by omega)
              endsNumber_comma
          obtain ⟨final, readOthers⟩ := ih fuel (stop + 1) (by simp) names remaining (by omega)
          refine ⟨final, ?_⟩
          rw [skipped, readFields]
          simp only [named, Except.ok_bind, skipSpace_solid (show isSpace ':' = false by decide),
            read, skipSpace_solid (show isSpace ',' = false by decide), readOthers]
          rfl

end Fields

theorem startsValue_laidOut (depth : Nat) (writable : value.Writable) :
    StartsValue (value.laidOut depth) := by
  cases value with
  | scalar scalar =>
      rw [Document.laidOut]
      exact startsValue_json writable.here
  | list items => cases items <;> exact ⟨_, _, rfl, by decide, by decide, by decide⟩
  | object fields => cases fields <;> exact ⟨_, _, rfl, by decide, by decide, by decide⟩

/-- Items in brackets are read as a list. -/
theorem spells_list (filled : items ≠ [])
    (each : ∀ item ∈ items, StartsValue (item.laidOut (depth + 1)) ∧
      Spells (item.laidOut (depth + 1)) item) :
    Spells ((Document.list items).laidOut depth) (.list items) := by
  intro fuel index rest enough ends
  obtain ⟨first, others, rfl⟩ := List.exists_cons_of_ne_nil filled
  have laidOut : (Document.list (first :: others)).laidOut depth =
      '[' :: Document.laidOutItems (depth + 1) (first :: others) ++ newLine depth ++ [']'] := by
    simp [Document.laidOut]
  rw [laidOut] at enough ⊢
  simp only [List.cons_append, List.append_assoc, List.nil_append, List.length_append,
    List.length_cons] at enough ⊢
  obtain ⟨fuel, rfl⟩ : ∃ less, fuel = less + 1 := ⟨fuel - 1, by omega⟩
  obtain ⟨stop, read⟩ := readItems_spelled fuel (index + 1) depth rest filled each (by omega)
  have inside : ∃ start c tail, Cursor.skipSpace ⟨index + 1,
      Document.laidOutItems (depth + 1) (first :: others) ++ (newLine depth ++ ']' :: rest)⟩ =
        ⟨start, c :: tail⟩ ∧ c ≠ ']' := by
    obtain ⟨c, chars, spelled, solid, notEnd, _⟩ := (each first (by simp)).1
    cases others with
    | nil =>
        rw [Document.laidOutItems, spelled, List.append_assoc, List.cons_append]
        exact ⟨_, c, _, skipSpace_newLine solid, notEnd⟩
    | cons next others =>
        rw [laidOutItems_cons, spelled, List.append_assoc, List.cons_append, List.cons_append]
        exact ⟨_, c, _, skipSpace_newLine solid, notEnd⟩
  obtain ⟨start, c, tail, skipped, notEnd⟩ := inside
  refine ⟨stop, ?_⟩
  rw [skipped] at read
  rw [readValue]
  simp only [skipped]
  split
  · exact absurd (List.cons.inj ‹_›).1 notEnd
  · rw [read]
    rfl

/-- Fields in braces are read as an object. -/
theorem spells_object (filled : fields ≠ []) (named : Fields.Named fields)
    (unsplit : (Document.object fields).Unsplit)
    (each : ∀ field ∈ fields, StartsValue (field.2.laidOut (depth + 1)) ∧
      Spells (field.2.laidOut (depth + 1)) field.2) :
    Spells ((Document.object fields).laidOut depth) (.object fields) := by
  intro fuel index rest enough ends
  obtain ⟨⟨key, value⟩, others, rfl⟩ := List.exists_cons_of_ne_nil filled
  have laidOut : (Document.object ((key, value) :: others)).laidOut depth =
      '\x7b' :: Document.laidOutFields (depth + 1) ((key, value) :: others) ++ newLine depth ++
        ['\x7d'] := by
    simp [Document.laidOut]
  rw [laidOut] at enough ⊢
  simp only [List.cons_append, List.append_assoc, List.nil_append, List.length_append,
    List.length_cons] at enough ⊢
  obtain ⟨fuel, rfl⟩ : ∃ less, fuel = less + 1 := ⟨fuel - 1, by omega⟩
  have texts (field : Scalar × Document) (member : field ∈ (key, value) :: others) :
      ∃ name, field.1 = .text name ∧ name.Unsplit := by
    obtain ⟨name, same⟩ := named.texts field member
    have unsplit := unsplit field member
    rw [same] at unsplit
    exact ⟨name, same, unsplit⟩
  obtain ⟨stop, read⟩ := readFields_spelled fuel (index + 1) depth rest filled texts each (by omega)
  have inside : ∃ start tail, Cursor.skipSpace ⟨index + 1,
      Document.laidOutFields (depth + 1) ((key, value) :: others) ++
        (newLine depth ++ '\x7d' :: rest)⟩ = ⟨start, '\x22' :: tail⟩ := by
    obtain ⟨name, rfl⟩ := named.texts (key, value) (by simp)
    cases others with
    | nil =>
        rw [Document.laidOutFields, List.append_assoc, List.append_assoc, Scalar.jsonKey]
        exact ⟨_, _, skipSpace_newLine (by decide)⟩
    | cons next others =>
        rw [laidOutFields_cons, List.append_assoc, Scalar.jsonKey]
        exact ⟨_, _, skipSpace_newLine (by decide)⟩
  obtain ⟨start, tail, skipped⟩ := inside
  refine ⟨stop, ?_⟩
  rw [skipped] at read
  rw [readValue]
  simp only [skipped, read, Except.ok_bind, Fields.ofPairs_of_distinct named.distinct]
  rfl

theorem spells_laidOut (depth : Nat) (writable : value.Writable) (unbroken : value.Unbroken) :
    Spells (value.laidOut depth) value := by
  induction writable generalizing depth with
  | scalar exact =>
      rw [Document.laidOut]
      exact spells_json exact unbroken.here
  | @list items _ each ih =>
      cases items with
      | nil =>
          intro fuel index rest enough _
          obtain ⟨fuel, rfl⟩ : ∃ less, fuel = less + 1 :=
            ⟨fuel - 1, by simp [Document.laidOut] at enough; omega⟩
          exact ⟨_, rfl⟩
      | cons first others =>
          exact spells_list (by simp) fun item member =>
            ⟨startsValue_laidOut _ (each item member),
              ih item member _ (unbroken.of_mem item member)⟩
  | @object fields named each ih =>
      cases fields with
      | nil =>
          intro fuel index rest enough _
          obtain ⟨fuel, rfl⟩ : ∃ less, fuel = less + 1 :=
            ⟨fuel - 1, by simp [Document.laidOut] at enough; omega⟩
          exact ⟨_, rfl⟩
      | cons first others =>
          exact spells_object (by simp) named unbroken.here fun field member =>
            ⟨startsValue_laidOut _ (each field member),
              ih field member _ (unbroken.of_field field member)⟩

/-- No text of a document that was read splits a pair. -/
theorem read_unbroken {s : List Char} (succeeded : read s = .ok value) : value.Unbroken := by
  refine (read_readable succeeded).mono fun {part} here => ?_
  cases part with
  | list items => trivial
  | object fields => exact fun field member => (here.2 field member).unsplit
  | scalar scalar => exact Scalar.Readable.unsplit here

/-- A document that is written is read back as it was. -/
theorem read_laidOut (writable : value.Writable) (unbroken : value.Unbroken) :
    read (value.laidOut 0 ++ ['\n']) = .ok value := by
  obtain ⟨c, others, spelled, solid, _, unmarked⟩ := startsValue_laidOut 0 writable
  have marked : ¬ (value.laidOut 0 ++ ['\n']).head? = some byteOrderMark := by
    rw [spelled]
    simpa using unmarked
  obtain ⟨stop, parsed⟩ := spells_laidOut 0 writable unbroken
    (2 * (value.laidOut 0 ++ ['\n']).length + 2) 0 ['\n']
    (by rw [List.length_append]; omega) (endsNumber_newLine 0 [])
  have skipped : Cursor.skipSpace ⟨0, value.laidOut 0 ++ ['\n']⟩ =
      ⟨0, value.laidOut 0 ++ ['\n']⟩ := by
    rw [spelled, List.cons_append]
    exact skipSpace_solid solid
  rw [read, if_neg marked, skipped, parsed]
  rfl

theorem read_laidOut_iff (writable : value.Writable) :
    read (value.laidOut 0 ++ ['\n']) = .ok value ↔ value.Unbroken :=
  ⟨read_unbroken, read_laidOut writable⟩

end Json

end ImageStages
