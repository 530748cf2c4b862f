import ImageStages.Command.Invocation
import ImageStages.Proofs.Results

namespace ImageStages.Command

variable {grammar : Grammar} {form : OptionForm} {long : Bool} {word : String}
  {words : List String} {events : List Event} {name : OptionName}

/-- The word spells an option of the grammar, which takes no value. -/
structure Grammar.Flags (grammar : Grammar) (word : String) (form : OptionForm) (long : Bool) :
    Prop where
  spelled : grammar.readWord word = .ok (.option form long none)
  bare : form.takesValue = false
  apart : word ≠ "--"

/-- A flag before words that can be read is noted before all that they say. -/
theorem Grammar.read_cons (flags : grammar.Flags word form long) (words : List String) :
    (grammar.read (word :: words) = grammar.read words ∧
        ∃ fault, grammar.read words = ⟨[], .error fault⟩) ∨
      grammar.read (word :: words) = (grammar.read words).after [.option form.name none] := by
  have wanted : grammar.readWords (word :: words) =
      (grammar.readWords words).map (.option form long none :: ·) := by
    rw [readWords, if_neg flags.apart, flags.spelled]
    cases grammar.readWords words <;> rfl
  cases spelled : grammar.readWords words with
  | error fault =>
      rw [spelled] at wanted
      refine .inl ⟨?_, fault, ?_⟩
      · simp [read, wanted, spelled, Except.map]
      · simp [read, spelled]
  | ok others =>
      rw [spelled] at wanted
      refine .inr ?_
      simp [read, wanted, spelled, Except.map, follow, expand, OptionForm.bare, flags.bare]

@[simp] theorem hasOption_cons (event : Event) (events : List Event) (name : OptionName) :
    hasOption (event :: events) name = (event.isOption name || hasOption events name) := rfl

@[simp] theorem operandOf_cons_option (other : OptionName) (value : Option String)
    (events : List Event) : operandOf (.option other value :: events) = operandOf events := rfl

/-- An option without a value gives no option a value. -/
@[simp] theorem valueOf?_cons_bare (other name : OptionName) (events : List Event) :
    valueOf? (.option other none :: events) name = valueOf? events name := by
  have valueless : (if other = name then none else none : Option String) = none := by
    split <;> rfl
  simp only [valueOf?, valuesOf, List.filterMap_cons, valueless]

theorem readPage_cons {page : Page} (flags : page.grammar.Flags word form long)
    (plain : form.name ≠ .help) (words : List String) :
    readPage page (word :: words) =
      (readPage page words).map fun read => (.option form.name none :: read.1, read.2) := by
  rcases Grammar.read_cons flags words with ⟨same, fault, failed⟩ | noted
  · simp [readPage, same, failed, hasOption, Except.map]
  · have other : (Event.option form.name none).isOption .help = false := by
      simpa [Event.isOption] using plain
    cases ended : (page.grammar.read words).result <;>
      by_cases asked : hasOption (page.grammar.read words).events .help <;>
      simp [readPage, noted, Reading.after, asked, ended, other, Except.map]

/-- What is understood, with the flag of an option. -/
def Invocation.flagged (invocation : Invocation) (name : OptionName) : Invocation :=
  { invocation with
    debug := name == .debug || invocation.debug
    trace := name == .trace || invocation.trace }

/-- A flag before a command line is raised in what is understood of it. -/
theorem Invocation.ofWords_cons (flags : Page.main.grammar.Flags word form long)
    (plain : form.name ≠ .help) (words : List String) :
    Invocation.ofWords (word :: words) =
      (Invocation.ofWords words).map (·.flagged form.name) := by
  rw [ofWords, readPage_cons flags plain, ofWords]
  cases readPage .main words with
  | error reason => rfl
  | ok read =>
      obtain ⟨events, remaining⟩ := read
      simp only [Except.map, Except.ok_bind, operandOf_cons_option]
      cases choosePage ((operandOf events).head?.getD "") with
      | error reason => rfl
      | ok page =>
          simp only [Except.ok_bind]
          cases readPage page (operandOf events).tail with
          | error reason => rfl
          | ok task =>
              obtain ⟨taskEvents, taskRemaining⟩ := task
              simp only [Except.ok_bind]
              cases remaining ++ taskRemaining <;>
                simp [flagged, Event.isOption]

end ImageStages.Command
