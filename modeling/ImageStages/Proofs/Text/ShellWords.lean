import ImageStages.Text.Quoted
import Mathlib.Data.List.Basic

namespace ImageStages.Text.Shell

/-! How a text is read as words of the shell.

Quotes and backslashes mean the same wherever words are read; which other characters mean
more than themselves depends on whether a text is only split or carried out as a command. -/

structure Rules where
  /-- Characters that separate words. -/
  blanks : Text
  /-- Characters that no reader takes for themselves unless they are quoted. -/
  active : Text
  /-- Characters that are active at the start of a word. -/
  leading : Text
  /-- Characters that stay active in double quotes. -/
  quotedActive : Text
  /-- Characters that a backslash in double quotes makes literal. -/
  escapable : Text
  /-- Whether a backslash before a line break makes both of them vanish. -/
  joinsLines : Bool

/-- Splitting takes everything for itself that is neither a blank nor a quote. -/
def splitting : Rules where
  blanks := [' ', '\t', '\r', '\n']
  active := []
  leading := []
  quotedActive := []
  escapable := [doubleQuote, '\\']
  joinsLines := false

/-- The rules for one command that is run as it stands.  Operators, line breaks, comments and
whatever asks for an expansion are active. -/
def commanding : Rules where
  blanks := [' ', '\t']
  active := "\n|&;<>()$\x60*?["
  leading := ['#', '~']
  quotedActive := ['$', '\x60']
  escapable := ['$', '\x60', doubleQuote, '\\']
  joinsLines := true

inductive Quoting where
  | bare | single | double | escaped | escapedDouble
deriving DecidableEq

/-- Where a reader is: how the next character is quoted, and the word so far if one has
begun. -/
structure Place where
  quoting : Quoting
  word : Option Text

namespace Place

def between : Place := ⟨.bare, none⟩

def inWord (word : Text) : Place := ⟨.bare, some word⟩

def enter (place : Place) (quoting : Quoting) : Place :=
  ⟨quoting, some (place.word.getD [])⟩

def push (place : Place) (quoting : Quoting) (s : Text) : Place :=
  ⟨quoting, some (place.word.getD [] ++ s)⟩

end Place

/-- Reads one character, which may finish a word. -/
def step (rules : Rules) (place : Place) (c : CodePoint) : Option (List Text × Place) :=
  match place.quoting with
  | .bare =>
      if c = singleQuote then some ([], place.enter .single)
      else if c = doubleQuote then some ([], place.enter .double)
      else if c = '\\' then some ([], ⟨.escaped, place.word⟩)
      else if c ∈ rules.blanks then some (place.word.toList, .between)
      else if c ∈ rules.active ∨ (place.word = none ∧ c ∈ rules.leading) then none
      else some ([], place.push .bare [c])
  | .single =>
      if c = singleQuote then some ([], place.enter .bare)
      else some ([], place.push .single [c])
  | .double =>
      if c = doubleQuote then some ([], place.enter .bare)
      else if c = '\\' then some ([], place.enter .escapedDouble)
      else if c ∈ rules.quotedActive then none
      else some ([], place.push .double [c])
  | .escaped =>
      if rules.joinsLines ∧ c = '\n' then some ([], ⟨.bare, place.word⟩)
      else some ([], place.push .bare [c])
  | .escapedDouble =>
      if rules.joinsLines ∧ c = '\n' then some ([], place.enter .double)
      else if c ∈ rules.escapable then some ([], place.push .double [c])
      else some ([], place.push .double ['\\', c])

/-- The words of a text, unless a quote is left open or something active occurs. -/
def read (rules : Rules) (place : Place) : Text → Option (List Text)
  | [] => if place.quoting = .bare then some place.word.toList else none
  | c :: rest =>
      match step rules place c with
      | none => none
      | some (finished, next) => (read rules next rest).map (finished ++ ·)

def words? (rules : Rules) (text : Text) : Option (List Text) :=
  read rules .between text

/-- The words of a command that is run as it stands.  A command holds no NUL. -/
def commandWords? (command : Text) : Option (List Text) :=
  if .char '\x00' ∈ command then none else words? commanding command

/-- The characters that mean more than themselves wherever they stand unquoted. -/
def Rules.marks (rules : Rules) : Text :=
  singleQuote :: doubleQuote :: '\\' :: (rules.blanks ++ rules.active)

/-- No character that means more than itself is left bare where words are quoted. -/
structure Rules.Sparing (rules : Rules) : Prop where
  safe : ∀ c ∈ rules.marks ++ rules.leading, isSafe c = false
  quoted : .char singleQuote ∉ rules.quotedActive

/-- What holds of the characters one by one, for the few that there are. -/
theorem forall_mem_of_all {holds : CodePoint → Prop} [DecidablePred holds] {s : Text}
    (all : s.all (fun c => decide (holds c)) = true) : ∀ c ∈ s, holds c := by
  simpa using all

theorem splitting_sparing : splitting.Sparing := ⟨forall_mem_of_all (by decide), by decide⟩

theorem commanding_sparing : commanding.Sparing := ⟨forall_mem_of_all (by decide), by decide⟩

variable {rules : Rules} {c blank : CodePoint} {s begun rest : Text}

section Bare

theorem read_blank (separates : blank ∈ rules.blanks)
    (unquoted : blank ∉ [.char singleQuote, .char doubleQuote, .char '\\'])
    (begun : Option Text) :
    read rules ⟨.bare, begun⟩ (blank :: rest) =
      (read rules .between rest).map (begun.toList ++ ·) := by
  simp only [List.mem_cons, List.not_mem_nil, or_false, not_or] at unquoted
  simp [read, step, unquoted, separates]

theorem read_end (rules : Rules) (begun : Text) :
    read rules (.inWord begun) [] = some [begun] := rfl

theorem read_literal (literal : c ∉ rules.marks) :
    read rules (.inWord begun) (c :: rest) = read rules (.inWord (begun ++ [c])) rest := by
  simp only [Rules.marks, List.mem_cons, List.mem_append, not_or] at literal
  simp [read, step, Place.inWord, Place.push, literal]

theorem read_first (literal : c ∉ rules.marks) (opens : c ∉ rules.leading) :
    read rules .between (c :: rest) = read rules (.inWord [c]) rest := by
  simp only [Rules.marks, List.mem_cons, List.mem_append, not_or] at literal
  simp [read, step, Place.between, Place.inWord, Place.push, literal, opens]

theorem read_leading (literal : c ∉ rules.marks) (opens : c ∈ rules.leading) :
    read rules .between (c :: rest) = none := by
  simp only [Rules.marks, List.mem_cons, List.mem_append, not_or] at literal
  simp [read, step, Place.between, literal, opens]

theorem read_literals (literal : ∀ c ∈ s, c ∉ rules.marks) :
    read rules (.inWord begun) (s ++ rest) = read rules (.inWord (begun ++ s)) rest := by
  induction s generalizing begun with
  | nil => simp
  | cons c s ih =>
      rw [List.cons_append, read_literal (literal c (by simp)),
        ih fun other member => literal other (by simp [member]), List.append_assoc]
      rfl

/-- Characters that mean nothing but themselves make a word. -/
theorem read_plain (rest : Text) (literal : ∀ c ∈ s, c ∉ rules.marks)
    (opens : ∀ c ∈ s.head?, c ∉ rules.leading) (nonempty : s ≠ []) :
    read rules .between (s ++ rest) = read rules (.inWord s) rest := by
  cases s with
  | nil => contradiction
  | cons c s =>
      rw [List.cons_append, read_first (literal c (by simp)) (opens c (by simp))]
      exact read_literals fun other member => literal other (by simp [member])

theorem read_plain_blank (space : .char ' ' ∈ rules.blanks) (literal : ∀ c ∈ s, c ∉ rules.marks)
    (opens : ∀ c ∈ s.head?, c ∉ rules.leading) (nonempty : s ≠ []) :
    read rules .between (s ++ .char ' ' :: rest) = (read rules .between rest).map (s :: ·) := by
  rw [read_plain _ literal opens nonempty, Place.inWord, read_blank space (by decide)]
  rfl

theorem read_plain_end (literal : ∀ c ∈ s, c ∉ rules.marks)
    (opens : ∀ c ∈ s.head?, c ∉ rules.leading) (nonempty : s ≠ []) :
    read rules .between s = some [s] := by
  have ended := read_plain [] literal opens nonempty
  rwa [List.append_nil, read_end] at ended

end Bare

section Quoted

theorem read_literalChar (literal : .char singleQuote ∉ rules.quotedActive) (c : CodePoint) :
    read rules ⟨.single, some begun⟩ (literalChar c ++ rest) =
      read rules ⟨.single, some (begun ++ [c])⟩ rest := by
  by_cases quoting : c = singleQuote
  · subst quoting
    have different : singleQuote ≠ doubleQuote := by decide
    have unescaped : singleQuote ≠ '\\' := by decide
    have opens : doubleQuote ≠ singleQuote := by decide
    simp [literalChar, quotedQuote, read, step, Place.enter, Place.push, different, unescaped,
      opens, literal]
  · simp [literalChar, read, step, Place.push, quoting]

theorem read_literalChars (literal : .char singleQuote ∉ rules.quotedActive) (s : Text) :
    read rules ⟨.single, some begun⟩ (s.flatMap literalChar ++ .char singleQuote :: rest) =
      read rules (.inWord (begun ++ s)) rest := by
  induction s generalizing begun with
  | nil => simp [read, step, Place.enter, Place.inWord]
  | cons c s ih =>
      rw [List.flatMap_cons, List.append_assoc, read_literalChar literal, ih, List.append_assoc]
      rfl

/-- A text that is put as a word is read as that text, whatever it holds. -/
theorem read_word (sparing : rules.Sparing) (s rest : Text) :
    read rules .between (quote s ++ rest) = read rules (.inWord s) rest := by
  unfold quote
  -- The empty text is a pair of quotes, a safe one stands bare, any other is quoted.
  split
  · have empty : s = [] := List.isEmpty_iff.mp ‹_›
    subst empty
    simp [read, step, Place.between, Place.enter, Place.inWord]
  · have nonempty : s ≠ [] := by simpa using ‹¬ s.isEmpty = true›
    split
    · have safe : ∀ c ∈ s, c ∉ rules.marks ++ rules.leading := by
        intro c member mark
        have known := List.all_eq_true.mp ‹_› c member
        rw [sparing.safe c mark] at known
        contradiction
      refine read_plain rest ?_ ?_ nonempty
      · intro c member mark
        exact safe c member (List.mem_append_left _ mark)
      · intro c first mark
        exact safe c (List.mem_of_mem_head? first) (List.mem_append_right _ mark)
    · rw [List.append_assoc, List.cons_append]
      have opened : read rules ⟨.single, some []⟩
          (s.flatMap literalChar ++ .char singleQuote :: rest) =
            read rules (.inWord ([] ++ s)) rest :=
        read_literalChars sparing.quoted s
      simpa [read, step, Place.between, Place.enter] using opened

theorem read_word_blank (sparing : rules.Sparing) (space : .char ' ' ∈ rules.blanks) (s : Text) :
    read rules .between (quote s ++ .char ' ' :: rest) =
      (read rules .between rest).map (s :: ·) := by
  rw [read_word sparing, Place.inWord, read_blank space (by decide)]
  rfl

theorem read_word_end (sparing : rules.Sparing) (s : Text) :
    read rules .between (quote s) = some [s] := by
  have ended := read_word sparing s []
  rwa [List.append_nil, read_end] at ended

end Quoted

theorem commandWords?_eq_some_iff {command : Text} {found : List Text} :
    commandWords? command = some found ↔
      .char '\x00' ∉ command ∧ words? commanding command = some found := by
  rw [commandWords?]
  split
  · simp_all
  · simp_all

/-! A reader finds no more characters than a text has, and fewer wherever one of them means
more than itself. -/

section Length

variable {place next : Place} {found finished : List Text} {result : Text}

/-- How many characters a reader holds back: a backslash in double quotes may yet turn out to
be one. -/
def Quoting.held : Quoting → Nat
  | .escapedDouble => 1
  | _ => 0

def Place.size (place : Place) : Nat :=
  (place.word.getD []).length + place.quoting.held

@[simp] theorem size_mk (quoting : Quoting) (begun : Option Text) :
    (Place.mk quoting begun).size = (begun.getD []).length + quoting.held := rfl

@[simp] theorem size_between : Place.between.size = 0 := rfl

@[simp] theorem size_enter (place : Place) (quoting : Quoting) :
    (place.enter quoting).size = (place.word.getD []).length + quoting.held := rfl

@[simp] theorem size_push (place : Place) (quoting : Quoting) (s : Text) :
    (place.push quoting s).size = (place.word.getD []).length + s.length + quoting.held := by
  simp [Place.size, Place.push]

def totalLength (found : List Text) : Nat :=
  found.flatten.length

@[simp] theorem totalLength_nil : totalLength [] = 0 := rfl

@[simp] theorem totalLength_singleton (word : Text) :
    totalLength [word] = word.length := by
  simp [totalLength]

@[simp] theorem totalLength_append (found others : List Text) :
    totalLength (found ++ others) = totalLength found + totalLength others := by
  simp [totalLength]

@[simp] theorem totalLength_toList (begun : Option Text) :
    totalLength begun.toList = (begun.getD []).length := by
  cases begun <;> simp [totalLength]

/-- A character that means more than itself adds nothing. -/
theorem step_mark {begun : Option Text} (mark : c ∈ rules.marks)
    (stepped : step rules ⟨.bare, begun⟩ c = some (finished, next)) :
    totalLength finished + next.size = (begun.getD []).length := by
  simp only [Rules.marks, List.mem_cons, List.mem_append] at mark
  simp only [step] at stepped
  repeat' split at stepped
  all_goals first | contradiction | cases stepped
  -- Two quotes, a backslash and a blank remain: what is active ends the reading, and any other
  -- character is no mark.
  · simp [Quoting.held]
  · simp [Quoting.held]
  · simp [Quoting.held]
  · simp
  · simp_all

theorem step_size (stepped : step rules place c = some (finished, next)) :
    totalLength finished + next.size ≤ place.size + 1 := by
  obtain ⟨quoting, begun⟩ := place
  cases quoting
  all_goals
    simp only [step] at stepped
    repeat' split at stepped
    all_goals first | contradiction | cases stepped
    all_goals
      simp only [totalLength_nil, totalLength_toList, size_mk, size_between, size_enter,
        size_push, Quoting.held, List.length_cons, List.length_nil]
      omega

theorem read_size (completed : read rules place s = some found) :
    totalLength found ≤ place.size + s.length := by
  induction s generalizing place found with
  | nil =>
      simp only [read] at completed
      split at completed
      · cases completed
        rw [totalLength_toList, Place.size]
        omega
      · contradiction
  | cons c s ih =>
      cases stepped : step rules place c with
      | none => simp [read, stepped] at completed
      | some progress =>
          obtain ⟨finished, next⟩ := progress
          simp only [read, stepped, Option.map_eq_some_iff] at completed
          obtain ⟨others, remaining, rfl⟩ := completed
          have bound := ih remaining
          have stepBound := step_size stepped
          rw [totalLength_append, List.length_cons]
          omega

/-- Reading that begins with a character that means more than itself loses it. -/
theorem read_mark {begun : Option Text} (mark : c ∈ rules.marks)
    (completed : read rules ⟨.bare, begun⟩ (c :: s) = some found) :
    totalLength found ≤ (begun.getD []).length + s.length := by
  cases stepped : step rules ⟨.bare, begun⟩ c with
  | none => simp [read, stepped] at completed
  | some progress =>
      obtain ⟨finished, next⟩ := progress
      simp only [read, stepped, Option.map_eq_some_iff] at completed
      obtain ⟨others, remaining, rfl⟩ := completed
      have bound := read_size remaining
      have lost := step_mark mark stepped
      rw [totalLength_append]
      omega

theorem literal_of_inWord (completed : read rules (.inWord begun) s = some found)
    (whole : begun.length + s.length ≤ totalLength found) : ∀ c ∈ s, c ∉ rules.marks := by
  induction s generalizing begun with
  | nil => simp
  | cons c s ih =>
      by_cases mark : c ∈ rules.marks
      -- What is lost here is not made up for by the rest.
      · have lost := read_mark mark completed
        rw [List.length_cons] at whole
        simp only [Option.getD_some] at lost
        omega
      · rw [read_literal mark] at completed
        have others := ih completed (by
          rw [List.length_append, List.length_singleton]
          rw [List.length_cons] at whole
          omega)
        exact List.forall_mem_cons.mpr ⟨mark, others⟩

/-- A text from which reading loses nothing is made of characters that mean themselves. -/
theorem literal_of_read (completed : read rules .between s = some found)
    (whole : s.length ≤ totalLength found) :
    (∀ c ∈ s, c ∉ rules.marks) ∧ ∀ c ∈ s.head?, c ∉ rules.leading := by
  cases s with
  | nil => simp
  | cons c s =>
      rw [List.length_cons] at whole
      by_cases mark : c ∈ rules.marks
      · have lost := read_mark mark completed
        simp only [Option.getD_none, List.length_nil] at lost
        omega
      · by_cases opens : c ∈ rules.leading
        · rw [read_leading mark opens] at completed
          contradiction
        · rw [read_first mark opens] at completed
          have others := literal_of_inWord completed (by rw [List.length_singleton]; omega)
          exact ⟨List.forall_mem_cons.mpr ⟨mark, others⟩, by simpa using opens⟩

end Length

end ImageStages.Text.Shell
