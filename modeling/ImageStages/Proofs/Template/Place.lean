import ImageStages.Proofs.Template.Directive

namespace ImageStages.Template

variable {reading : Reading} {fuel : Nat} {text : Text}
  {s shown before after shownBefore shownAfter spec rest template form body : Text}

/-- Characters with every percent sign doubled, and what they stand for. -/
inductive Escaped : Text → Text → Prop where
  | nil : Escaped [] []
  | plain {c : CodePoint} {s shown : Text} (other : c ≠ '%') (rest : Escaped s shown) :
      Escaped (c :: s) (c :: shown)
  | percent {s shown : Text} (rest : Escaped s shown) :
      Escaped (.char '%' :: .char '%' :: s) (.char '%' :: shown)

/-- A template with the directive in its only place, and the template with this body there. -/
inductive Places (spec body : Text) : Text → Text → Prop where
  | parts {before after shownBefore shownAfter : Text}
      (escapedBefore : Escaped before shownBefore) (escapedAfter : Escaped after shownAfter) :
      Places spec body (before ++ .char '%' :: (spec ++ after))
        (shownBefore ++ (body ++ shownAfter))

theorem Places.plain {c : CodePoint} (other : c ≠ '%') (places : Places spec body s shown) :
    Places spec body (c :: s) (c :: shown) := by
  obtain ⟨escapedBefore, escapedAfter⟩ := places
  exact .parts (.plain other escapedBefore) escapedAfter

theorem Places.percent (places : Places spec body s shown) :
    Places spec body (.char '%' :: .char '%' :: s) (.char '%' :: shown) := by
  obtain ⟨escapedBefore, escapedAfter⟩ := places
  exact .parts (.percent escapedBefore) escapedAfter

/-- The place can be filled with anything. -/
theorem Places.withBody (places : Places spec body s shown) (other : Text) :
    ∃ form, Places spec other s form := by
  obtain ⟨escapedBefore, escapedAfter⟩ := places
  exact ⟨_, .parts escapedBefore escapedAfter⟩

section Conversion

variable {directive : Directive}

theorem singleCharacter_text_succeeds_iff (text : Text) :
    (∃ c, singleCharacter (.text text) = .ok c) ↔ text.length = 1 := by
  unfold singleCharacter
  simp only
  split
  · simp
  · rename_i several
    simp only [reduceCtorEq, exists_false, false_iff, List.length_eq_one_iff, not_exists]
    exact several

/-- The letters that take a text are those whose conversion shows it. -/
theorem convert_text_succeeds_iff :
    (∃ converted, convert directive (.text text) = .ok converted) ↔
      TakesText text directive.letter := by
  by_cases letter : directive.letter ∈ [.char 's', .char 'r', .char 'a', .char 'c']
  · simp only [List.mem_cons, List.not_mem_nil, or_false] at letter
    rcases letter with letter | letter | letter | letter
    · simp [convert, letter, TakesText]
    · simp [convert, letter, TakesText]
    · simp [convert, letter, TakesText]
    · have character := singleCharacter_text_succeeds_iff text
      simp [convert, letter, TakesText, character]
  · simp only [List.mem_cons, List.not_mem_nil, or_false, not_or] at letter
    have fails : FailsWith (fun _ => True) (convert directive (.text text)) := by
      simp [convert, letter, apply_ite (FailsWith fun _ => True), wholeNumber, exactInteger,
        realNumber, Scalar.int?]
    obtain ⟨fault, failed, _⟩ := fails
    simp [failed, TakesText, letter]

theorem shows_of_readDirective {left : Reading} {converted : Converted}
    (holds : reading.argument.HoldsText) (read : readDirective reading = .ok (directive, left))
    (conversion : convert directive (.text text) = .ok converted) :
    ∃ spec, ShowsText text spec ∧ reading.rest = spec ++ left.rest := by
  obtain ⟨flags, width, precision, size, parts, areFlags, isWidth, isPrecision, isSize⟩ :=
    parts_of_readDirective holds read
  have takes := convert_text_succeeds_iff.mp ⟨converted, conversion⟩
  exact ⟨_, .spelled areFlags isWidth isPrecision isSize takes, by simp [parts]⟩

theorem readDirective_of_shows (reading : Reading) (holds : reading.argument.HoldsText)
    (shows : ShowsText text spec) (starts : reading.rest = spec ++ after) :
    ∃ directive converted, readDirective reading = .ok (directive, reading.advance after) ∧
      convert directive (.text text) = .ok converted := by
  cases shows with
  | @spelled flags width precision size letter areFlags isWidth isPrecision isSize takes =>
      have parts : reading.rest = flags ++ (width ++ (precision ++ (size ++ letter :: after))) := by
        simp [starts]
      obtain ⟨directive, read, same⟩ := readDirective_spelled holds areFlags isWidth isPrecision
        isSize takes parts
      obtain ⟨converted, conversion⟩ := convert_text_succeeds_iff.mpr (same ▸ takes)
      exact ⟨directive, converted, read, conversion⟩

/-- No directive begins with a percent sign, and the letter of the plain conversion can only
begin this conversion. -/
theorem ShowsText.starts (shows : ShowsText s spec) :
    ∃ c others, spec = c :: others ∧ c ≠ '%' ∧ (c = 's' → others = []) := by
  cases shows with
  | @spelled flags width precision size letter areFlags isWidth isPrecision isSize takes =>
      have apart {c : CodePoint} (known : isFlag c = true ∨ c.isDigit = true) :
          c ≠ '%' ∧ c ≠ 's' := by
        constructor
        · intro percent
          subst percent
          exact absurd known (by decide)
        · intro plain
          subst plain
          exact absurd known (by decide)
      cases flags with
      | cons c others =>
          have others := apart (.inl (areFlags c (by simp)))
          exact ⟨c, _, rfl, others.1, fun same => absurd same others.2⟩
      | nil =>
          cases width with
          | cons c others =>
              have others := apart (.inr (isWidth.1.areDigits c (by simp)))
              exact ⟨c, _, rfl, others.1, fun same => absurd same others.2⟩
          | nil =>
              rcases isPrecision with rfl | ⟨digits, rfl, _⟩
              · rcases isSize with rfl | ⟨c, rfl, rfl | rfl | rfl⟩
                · rcases takes with rfl | rfl | rfl | ⟨rfl, _⟩
                  all_goals exact ⟨_, _, rfl, by decide, fun _ => rfl⟩
                all_goals exact ⟨_, _, rfl, by decide, fun same => absurd same (by decide)⟩
              · exact ⟨.char '.', _, rfl, by decide, fun same => absurd same (by decide)⟩

end Conversion

theorem readDirective_plain (reading : Reading) (after : Text) :
    ∃ index, readDirective (reading.advance ([.char 's'] ++ after)) =
      .ok (⟨{}, none, none, 's', index⟩, reading.advance after) := ⟨_, rfl⟩

theorem layOut_plain {index : Nat} :
    layOut ⟨{}, none, none, 's', index⟩ (.text body) = body := by
  simp [layOut, cutText]

section Filled

theorem escaped_of_fillFrom (reading : Reading) (holds : reading.argument.HoldsText)
    (used : reading.argument.used = true) (enough : reading.rest.length ≤ fuel)
    (filled : fillFrom fuel reading = .ok form) : Escaped reading.rest form := by
  fun_induction fillFrom fuel reading generalizing form with
  | case1 fuel reading empty =>
      cases filled
      rw [empty]
      exact .nil
  | case2 => cases filled
  | case3 reading filledRest =>
      exact absurd (List.length_eq_zero_iff.mp (Nat.le_zero.mp enough)) filledRest
  | case4 reading fuel rest escape ih =>
      obtain ⟨tail, others, rfl⟩ := Except.map_eq_ok_iff.mp filled
      rw [escape] at enough ⊢
      exact .percent (ih holds used (Nat.le_of_succ_le (Nat.le_of_succ_le_succ enough)) others)
  | case5 reading fuel rest single start ih =>
      simp only [Except.bind_eq_ok_iff] at filled
      obtain ⟨⟨directive, left⟩, read, ⟨value, argument⟩, taken, _⟩ := filled
      have kept := readDirective_keeps (reading.advance rest) holds
      rw [read, keeps_ok] at kept
      have spent : left.argument.used = true := kept ▸ used
      simp [Argument.take, spent] at taken
  | case6 reading fuel c rest _ other start ih =>
      obtain ⟨tail, others, rfl⟩ := Except.map_eq_ok_iff.mp filled
      rw [start] at enough ⊢
      exact .plain other (ih holds used (Nat.le_of_succ_le_succ enough) others)

/-- Once the text is used up, only escaped characters are left; before, a directive shows it. -/
theorem places_of_fillFrom (reading : Reading) (holds : reading.argument.HoldsText)
    (current : reading.argument.current = .text text) (unused : reading.argument.used = false)
    (enough : reading.rest.length ≤ fuel) (filled : fillFrom fuel reading = .ok form) :
    ∃ spec body, ShowsText text spec ∧ Places spec body reading.rest form := by
  fun_induction fillFrom fuel reading generalizing form with
  | case1 fuel reading empty known => simp [unused, holds.isMapping_eq_false] at known
  | case2 => cases filled
  | case3 reading filledRest =>
      exact absurd (List.length_eq_zero_iff.mp (Nat.le_zero.mp enough)) filledRest
  | case4 reading fuel rest escape ih =>
      obtain ⟨tail, others, rfl⟩ := Except.map_eq_ok_iff.mp filled
      rw [escape] at enough ⊢
      obtain ⟨spec, body, shows, places⟩ :=
        ih holds current unused (Nat.le_of_succ_le (Nat.le_of_succ_le_succ enough)) others
      exact ⟨spec, body, shows, places.percent⟩
  | case5 reading fuel rest single start ih =>
      simp only [Except.bind_eq_ok_iff] at filled
      obtain ⟨⟨directive, left⟩, read, ⟨value, argument⟩, taken, converted, conversion, tail,
        others, finished⟩ := filled
      have advanced : (reading.advance rest).argument.HoldsText := holds
      have kept : left.argument = reading.argument := by
        have keeps := readDirective_keeps _ advanced
        rwa [read] at keeps
      obtain ⟨rfl, rfl⟩ :
          .text text = value ∧ { reading.argument with used := true } = argument := by
        simpa [Argument.take, kept, Reading.advance, unused, current] using taken
      obtain ⟨spec, shows, split⟩ := shows_of_readDirective advanced read conversion
      simp only [Reading.advance] at split
      have short : left.rest.length ≤ fuel := by
        rw [start, split, List.length_cons, List.length_append] at enough
        omega
      have spent : Argument.HoldsText { reading.argument with used := true } := ⟨holds.1, holds.2⟩
      have escaped := escaped_of_fillFrom
        { left with argument := { reading.argument with used := true } } spent rfl short others
      cases finished
      rw [start, split]
      exact ⟨spec, _, shows, .parts .nil escaped⟩
  | case6 reading fuel c rest _ other start ih =>
      obtain ⟨tail, others, rfl⟩ := Except.map_eq_ok_iff.mp filled
      rw [start] at enough ⊢
      obtain ⟨spec, body, shows, places⟩ :=
        ih holds current unused (Nat.le_of_succ_le_succ enough) others
      exact ⟨spec, body, shows, places.plain other⟩

end Filled

section Filling

variable {directive : Directive} {converted : Converted}

theorem fillFrom_plain {c : CodePoint} (other : c ≠ '%') :
    fillFrom (fuel + 1) (reading.advance (c :: rest)) =
      (fillFrom fuel (reading.advance rest)).map (c :: ·) := by
  rw [fillFrom.eq_def]
  simp [Reading.advance, other]

theorem fillFrom_percent :
    fillFrom (fuel + 1) (reading.advance (.char '%' :: .char '%' :: rest)) =
      (fillFrom fuel (reading.advance rest)).map (.char '%' :: ·) := rfl

/-- Escaped characters stand for themselves, whatever follows. -/
theorem fillFrom_escaped (reading : Reading) (escaped : Escaped before shown)
    (enough : (before ++ rest).length ≤ fuel) :
    ∃ less, rest.length ≤ less ∧ fillFrom fuel (reading.advance (before ++ rest)) =
      (fillFrom less (reading.advance rest)).map (shown ++ ·) := by
  induction escaped generalizing fuel with
  | nil =>
      refine ⟨fuel, enough, ?_⟩
      rw [List.nil_append]
      cases fillFrom fuel (reading.advance rest) <;> rfl
  | plain other _ ih =>
      obtain ⟨fuel, rfl⟩ := Nat.exists_eq_add_of_le' (Nat.le_trans (by simp) enough : 1 ≤ fuel)
      obtain ⟨less, enough, same⟩ := ih (Nat.le_of_succ_le_succ enough)
      refine ⟨less, enough, ?_⟩
      rw [List.cons_append, fillFrom_plain other, same]
      cases fillFrom less (reading.advance rest) <;> rfl
  | percent _ ih =>
      obtain ⟨fuel, rfl⟩ := Nat.exists_eq_add_of_le' (Nat.le_trans (by simp) enough : 1 ≤ fuel)
      obtain ⟨less, enough, same⟩ := ih (Nat.le_of_succ_le (Nat.le_of_succ_le_succ enough))
      refine ⟨less, enough, ?_⟩
      rw [List.cons_append, List.cons_append, fillFrom_percent, same]
      cases fillFrom less (reading.advance rest) <;> rfl

theorem fillFrom_used (reading : Reading) (used : reading.argument.used = true)
    (escaped : Escaped after shown) (enough : after.length ≤ fuel) :
    fillFrom fuel (reading.advance after) = .ok shown := by
  rw [← List.append_nil after] at enough ⊢
  obtain ⟨less, _, same⟩ := fillFrom_escaped reading escaped enough
  have finished : fillFrom less (reading.advance []) = .ok [] := by
    cases less <;> simp [fillFrom, Reading.advance, used]
  rw [same, finished]
  simp [Except.map]

theorem fillFrom_directive (current : reading.argument.current = .text text)
    (unused : reading.argument.used = false) (enough : (spec ++ after).length < fuel)
    (single : (spec ++ after).head? ≠ some (.char '%'))
    (read : readDirective (reading.advance (spec ++ after)) =
      .ok (directive, reading.advance after))
    (conversion : convert directive (.text text) = .ok converted)
    (escaped : Escaped after shown) :
    fillFrom fuel (reading.advance (.char '%' :: (spec ++ after))) =
      .ok (layOut directive converted ++ shown) := by
  obtain ⟨fuel, rfl⟩ := Nat.exists_eq_add_of_le' (Nat.one_le_of_lt enough)
  have apart (others : Text) (doubled : spec ++ after = .char '%' :: others) : False :=
    single (congrArg List.head? doubled)
  have short : after.length ≤ fuel := by
    rw [List.length_append] at enough
    omega
  have finished := fillFrom_used
    { reading with argument := { reading.argument with used := true } } rfl escaped short
  have taken : (reading.advance after).argument.take =
      .ok (.text text, { reading.argument with used := true }) := by
    simp [Argument.take, Reading.advance, unused, current]
  rw [fillFrom.eq_4 _ _ _ apart rfl]
  simp only [Reading.advance] at read taken finished ⊢
  simp only [read, taken, conversion, finished, Except.ok_bind, Except.pure_eq_ok]

theorem fillFrom_parts (current : reading.argument.current = .text text)
    (unused : reading.argument.used = false)
    (enough : (before ++ .char '%' :: (spec ++ after)).length ≤ fuel)
    (single : (spec ++ after).head? ≠ some (.char '%'))
    (read : readDirective (reading.advance (spec ++ after)) =
      .ok (directive, reading.advance after))
    (conversion : convert directive (.text text) = .ok converted)
    (escapedBefore : Escaped before shownBefore) (escapedAfter : Escaped after shownAfter) :
    fillFrom fuel (reading.advance (before ++ .char '%' :: (spec ++ after))) =
      .ok (shownBefore ++ (layOut directive converted ++ shownAfter)) := by
  obtain ⟨less, left, same⟩ := fillFrom_escaped reading escapedBefore enough
  have placed := fillFrom_directive current unused (Nat.lt_of_succ_le left) single read conversion
    escapedAfter
  rw [same, placed]
  rfl

end Filling

/-- Where escaped characters end in a percent sign that is not doubled, they end there. -/
theorem Escaped.rest_unique
    {beforeFirst beforeSecond shownFirst shownSecond first second : Text}
    (escapedFirst : Escaped beforeFirst shownFirst)
    (escapedSecond : Escaped beforeSecond shownSecond)
    (singleFirst : first.head? ≠ some (.char '%')) (singleSecond : second.head? ≠ some (.char '%'))
    (same : beforeFirst ++ .char '%' :: first = beforeSecond ++ .char '%' :: second) :
    first = second := by
  induction escapedFirst generalizing beforeSecond shownSecond with
  | nil =>
      cases escapedSecond with
      | nil => simpa using same
      | plain other _ => exact absurd (List.cons.inj same).1.symm other
      | percent _ => exact absurd (congrArg List.head? (List.cons.inj same).2) singleFirst
  | plain other _ ih =>
      cases escapedSecond with
      | nil => exact absurd (List.cons.inj same).1 other
      | plain _ rest => exact ih rest (List.cons.inj same).2
      | percent rest => exact absurd (List.cons.inj same).1 other
  | percent _ ih =>
      cases escapedSecond with
      | nil => exact absurd (congrArg List.head? (List.cons.inj same).2).symm singleSecond
      | plain other rest => exact absurd (List.cons.inj same).1.symm other
      | percent rest => exact ih rest (List.cons.inj (List.cons.inj same).2).2

/-- How a template is read at first. -/
def opening (template : Text) (text : Text) : Reading :=
  ⟨template, template.length, .ofDocument (.text text)⟩

theorem Argument.HoldsText.ofDocument (text : Text) :
    (Argument.ofDocument (.text text)).HoldsText :=
  ⟨⟨text, rfl⟩, ⟨text, rfl⟩⟩

/-- A template can be filled with the text exactly if it has one place, which can show it. -/
theorem fill_succeeds_iff :
    (∃ filled, fill template (.text text) = .ok filled) ↔
      ∃ spec body form, ShowsText text spec ∧ Places spec body template form := by
  constructor
  · intro succeeds
    obtain ⟨filled, completed⟩ := succeeds
    obtain ⟨spec, body, shows, places⟩ :=
      places_of_fillFrom (opening template text) (.ofDocument text) rfl rfl le_rfl
        completed
    exact ⟨spec, body, filled, shows, places⟩
  · intro known
    obtain ⟨spec, body, _, shows, places⟩ := known
    cases places with
    | @parts before after _ _ escapedBefore escapedAfter =>
        obtain ⟨directive, converted, read, conversion⟩ := readDirective_of_shows
          ((opening (before ++ .char '%' :: (spec ++ after)) text).advance (spec ++ after))
          (.ofDocument text) shows rfl
        obtain ⟨c, others, rfl, single, _⟩ := shows.starts
        exact ⟨_, fillFrom_parts rfl rfl le_rfl (by simpa using single) read conversion
          escapedBefore escapedAfter⟩

/-- The plain conversion shows the text as it is. -/
theorem fill_plain (places : Places [.char 's'] text template form) :
    fill template (.text text) = .ok form := by
  cases places with
  | @parts before after _ _ escapedBefore escapedAfter =>
      obtain ⟨index, read⟩ :=
        readDirective_plain (opening (before ++ .char '%' :: ([.char 's'] ++ after)) text) after
      have conversion : convert ⟨{}, none, none, 's', index⟩ (.text text) =
          .ok (.text text) := rfl
      have placed := fillFrom_parts rfl rfl le_rfl (by simp) read conversion escapedBefore
        escapedAfter
      rwa [layOut_plain] at placed

/-- No other directive stands where the plain one stands. -/
theorem eq_plain_of_places {other : Text} (plain : Places [.char 's'] body template form)
    (shows : ShowsText s spec) (places : Places spec other template shown) :
    spec = [.char 's'] := by
  obtain ⟨c, others, rfl, single, alone⟩ := shows.starts
  generalize same : template = whole at places
  obtain ⟨escapedFirst, _⟩ := plain
  obtain ⟨escapedSecond, _⟩ := places
  have rest := escapedFirst.rest_unique escapedSecond (by simp) (by simpa using single) same
  obtain ⟨rfl, _⟩ := List.cons.inj rest
  rw [alone rfl]

end ImageStages.Template
