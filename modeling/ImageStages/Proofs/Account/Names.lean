import ImageStages.Proofs.Account.FirstBoot
import ImageStages.Proofs.Text.Segments

namespace ImageStages.Account

open Text.Shell
open Text (segments)

variable {records : Fields} {name : Text}

/-- The place of a name at a place, each given by the names on the way to it from the root. -/
def enter (place : List Text) (name : Text) : List Text :=
  if name = [] ∨ name = "." then place
  else if name = ".." then place.dropLast
  else place ++ [name]

/-- Where a path from the root leads when nothing on the way is a link. -/
def leadsTo (path : Text) : List Text :=
  (segments (.char '/') path).foldl enter []

def LiesWithin (path root : Text) : Prop :=
  leadsTo root <+: leadsTo path

/-- The directory for the keys of the user with the name. -/
def directoryOf (name : Text) : Text :=
  "/var/home/" ++ name ++ "/.ssh"

/-- The first and the third command for a user hold its name as data. -/
structure TakesAsData (name first third : Text) : Prop where
  makes : commandWords? first = some (["mkdir", "-p", directoryOf name] : List Text)
  hands : commandWords? third =
    some (["chown", name ++ ":" ++ name, "-Rc", directoryOf name] : List Text)
  within : LiesWithin (directoryOf name) "/var/home"

/-- The name extends a path by more than nothing and ends in no slash. -/
structure Extends (name : Text) : Prop where
  nonempty : name ≠ []
  relative : name.head? ≠ some (.char '/')
  closed : name.getLast? ≠ some (.char '/')

/-- The shell takes every character of the name for itself, and the name leads from the root
of the homes to a place below it. -/
structure Tame (name : Text) : Prop where
  extending : Extends name
  literal : ∀ c ∈ name, c ∉ commanding.marks
  free : .char '\x00' ∉ name
  opens : ∀ c ∈ name.head?, c ∉ commanding.leading
  stays : (["var", "home"] : List Text) <+:
    (segments (.char '/') name).foldl enter ["var", "home"]

section Directory

theorem extendPath_relative {path part : Text} (nonempty : path ≠ [])
    (closed : path.getLast? ≠ some (.char '/')) (relative : part.head? ≠ some (.char '/')) :
    Text.extendPath path part = path ++ .char '/' :: part := by
  simp [Text.extendPath, nonempty, closed, relative]

theorem length_extendPath_le (path part : Text) :
    (Text.extendPath path part).length ≤ path.length + part.length + 1 := by
  unfold Text.extendPath
  split
  · omega
  · split
    · rw [List.length_append]
      omega
    · rw [List.length_append, List.length_cons]
      omega

theorem directoryOf_eq (name : Text) :
    directoryOf name = Text.ofString homeRoot ++ .char '/' ::
      (name ++ .char '/' :: Text.ofString ".ssh") := by
  rw [directoryOf, List.append_assoc]
  rfl

theorem extendPath_home (relative : name.head? ≠ some (.char '/')) :
    Text.extendPath homeRoot name = Text.ofString homeRoot ++ .char '/' :: name :=
  extendPath_relative (by decide) (by decide) relative

theorem getLast?_home (nonempty : name ≠ []) :
    (Text.ofString homeRoot ++ .char '/' :: name).getLast? = name.getLast? := by
  obtain ⟨c, rest, spelled⟩ := List.exists_cons_of_ne_nil nonempty
  rw [spelled, List.getLast?_append_cons, List.getLast?_cons_cons]

theorem keyDirectory_of_extends (extending : Extends name) :
    keyDirectory name = directoryOf name := by
  have closed := extending.closed
  rw [← getLast?_home extending.nonempty] at closed
  rw [keyDirectory, directoryOf_eq, extendPath_home extending.relative,
    extendPath_relative (by simp) closed (by decide), List.append_assoc]
  rfl

/-- A name that does not extend the path makes it shorter than it should be. -/
theorem length_keyDirectory_lt (contrary : ¬ Extends name) :
    (keyDirectory name).length < (directoryOf name).length := by
  have home : (Text.ofString homeRoot).length = 9 := by decide
  have short : (Text.ofString ".ssh").length = 4 := by decide
  have expected : (directoryOf name).length = name.length + 15 := by
    simp only [directoryOf_eq, List.length_append, List.length_cons, home, short]
    omega
  rw [keyDirectory, expected]
  -- An absolute name replaces the root, an empty one adds nothing to it, and a slash at the
  -- end is not doubled.
  by_cases absolute : name.head? = some (.char '/')
  · have replaced : Text.extendPath homeRoot name = name := by
      rw [Text.extendPath, if_pos absolute]
    have bound := length_extendPath_le name ".ssh"
    rw [replaced]
    omega
  · rw [extendPath_home absolute]
    by_cases empty : name = []
    · rw [empty]
      decide
    · have ended : name.getLast? = some (.char '/') := by
        by_contra closed
        exact contrary ⟨empty, absolute, closed⟩
      rw [← getLast?_home empty] at ended
      have opens : (Text.ofString ".ssh").head? ≠ some (.char '/') := by decide
      rw [Text.extendPath, if_neg opens, if_pos (.inr ended)]
      simp only [List.length_append, List.length_cons, home, short]
      omega

end Directory

section Place

theorem leadsTo_directoryOf (name : Text) :
    leadsTo (directoryOf name) =
      (segments (.char '/') name).foldl enter ["var", "home"] ++ [Text.ofString ".ssh"] := by
  have home : (segments (.char '/') homeRoot).foldl enter [] =
      (["var", "home"] : List Text) := by decide
  have directory : segments (.char '/') (".ssh" : Text) = [Text.ofString ".ssh"] := by decide
  have proper : ¬ (Text.ofString ".ssh" = [] ∨ Text.ofString ".ssh" = ".") := by decide
  have inward : Text.ofString ".ssh" ≠ ".." := by decide
  rw [leadsTo, directoryOf_eq, Text.segments_append_slash, Text.segments_append_slash,
    List.foldl_append, home, List.foldl_append, directory, List.foldl_cons, enter, if_neg proper,
    if_neg inward]
  rfl

theorem liesWithin_directoryOf_iff :
    LiesWithin (directoryOf name) "/var/home" ↔
      (["var", "home"] : List Text) <+:
        (segments (.char '/') name).foldl enter ["var", "home"] := by
  have root : leadsTo "/var/home" = (["var", "home"] : List Text) := by decide
  rw [LiesWithin, root, leadsTo_directoryOf]
  have last : (["var", "home"] : List Text) ≠
      (segments (.char '/') name).foldl enter ["var", "home"] ++ [Text.ofString ".ssh"] := by
    intro same
    have ends := congrArg List.getLast? same
    rw [List.getLast?_concat] at ends
    revert ends
    decide
  rw [List.prefix_concat_iff, or_iff_right last]

end Place

section Commands

variable {directory : Text}

theorem read_making (directory : Text) :
    read commanding .between ("mkdir -p " ++ directory) =
      (read commanding .between directory).map fun words =>
        ("mkdir" : Text) :: ("-p" : Text) :: words := by
  have space : .char ' ' ∈ commanding.blanks := by decide
  have spelled : ("mkdir -p " : Text) ++ directory =
      quote "mkdir" ++ .char ' ' :: (quote "-p" ++ .char ' ' :: directory) := rfl
  rw [spelled, read_word_blank commanding_sparing space,
    read_word_blank commanding_sparing space, Option.map_map]
  rfl

theorem read_handing (name directory : Text) :
    read commanding .between ("chown " ++ name ++ ":" ++ name ++ " -Rc " ++ directory) =
      (read commanding .between (name ++ .char ':' :: (name ++ .char ' ' ::
        (quote "-Rc" ++ .char ' ' :: directory)))).map (("chown" : Text) :: ·) := by
  have space : .char ' ' ∈ commanding.blanks := by decide
  have spelled : ("chown " : Text) ++ name ++ ":" ++ name ++ " -Rc " ++ directory =
      quote "chown" ++ .char ' ' :: (name ++ .char ':' :: (name ++ .char ' ' ::
        (quote "-Rc" ++ .char ' ' :: directory))) := by
    simp only [List.append_assoc]
    rfl
  rw [spelled, read_word_blank commanding_sparing space]

theorem forall_mem_directoryOf {holds : CodePoint → Prop} :
    (∀ c ∈ directoryOf name, holds c) ↔
      (∀ c ∈ ("/var/home/" : Text), holds c) ∧ (∀ c ∈ name, holds c) ∧
        ∀ c ∈ ("/.ssh" : Text), holds c := by
  rw [directoryOf, List.forall_mem_append, List.forall_mem_append, and_assoc]

theorem nul_notMem_directoryOf_iff :
    .char '\x00' ∉ directoryOf name ↔ .char '\x00' ∉ name := by
  have first : CodePoint.char '\x00' ∉ ("/var/home/" : Text) := by decide
  have last : CodePoint.char '\x00' ∉ ("/.ssh" : Text) := by decide
  simp [directoryOf, first, last]

theorem nul_notMem_making_iff :
    .char '\x00' ∉ "mkdir -p " ++ directory ↔ .char '\x00' ∉ directory := by
  have begins : CodePoint.char '\x00' ∉ ("mkdir -p " : Text) := by decide
  simp [begins]

theorem nul_notMem_handing_iff :
    .char '\x00' ∉ "chown " ++ name ++ ":" ++ name ++ " -Rc " ++ directory ↔
      .char '\x00' ∉ name ∧ .char '\x00' ∉ directory := by
  have begins : CodePoint.char '\x00' ∉ ("chown " : Text) := by decide
  have parts : CodePoint.char '\x00' ∉ (":" : Text) := by decide
  have options : CodePoint.char '\x00' ∉ (" -Rc " : Text) := by decide
  simp [begins, parts, options]

theorem Tame.read_directory (tame : Tame name) :
    read commanding .between (directoryOf name) = some [directoryOf name] := by
  have first : (directoryOf name).head? = some (.char '/') := by
    rw [directoryOf_eq]
    rfl
  refine read_plain_end ?_ ?_ ?_
  · exact forall_mem_directoryOf.mpr ⟨forall_mem_of_all (by decide), tame.literal,
      forall_mem_of_all (by decide)⟩
  · rw [first]
    simp [commanding]
  · intro empty
    rw [empty] at first
    contradiction

theorem Tame.makes (tame : Tame name) :
    commandWords? ("mkdir -p " ++ directoryOf name) =
      some (["mkdir", "-p", directoryOf name] : List Text) := by
  refine commandWords?_eq_some_iff.mpr ⟨?_, ?_⟩
  · exact nul_notMem_making_iff.mpr (nul_notMem_directoryOf_iff.mpr tame.free)
  · rw [words?, read_making, tame.read_directory]
    rfl

theorem Tame.hands (tame : Tame name) :
    commandWords? ("chown " ++ name ++ ":" ++ name ++ " -Rc " ++ directoryOf name) =
      some (["chown", name ++ ":" ++ name, "-Rc", directoryOf name] : List Text) := by
  have space : .char ' ' ∈ commanding.blanks := by decide
  have owner : name ++ Text.ofString ":" ++ name = name ++ .char ':' :: name := by
    rw [List.append_assoc]
    rfl
  have literal : ∀ c ∈ name ++ Text.ofString ":" ++ name, c ∉ commanding.marks := by
    rw [owner, List.forall_mem_append, List.forall_mem_cons]
    exact ⟨tame.literal, by decide, tame.literal⟩
  have opens : ∀ c ∈ (name ++ Text.ofString ":" ++ name).head?, c ∉ commanding.leading := by
    rw [owner, List.head?_append_of_ne_nil _ tame.extending.nonempty]
    exact tame.opens
  have nonempty : name ++ Text.ofString ":" ++ name ≠ [] := by simp [owner]
  have regrouped : ∀ rest : Text, name ++ .char ':' :: (name ++ .char ' ' :: rest) =
      (name ++ Text.ofString ":" ++ name) ++ .char ' ' :: rest := by
    simp [owner]
  refine commandWords?_eq_some_iff.mpr ⟨?_, ?_⟩
  · exact nul_notMem_handing_iff.mpr ⟨tame.free, nul_notMem_directoryOf_iff.mpr tame.free⟩
  · rw [words?, read_handing, regrouped, read_plain_blank space literal opens nonempty,
      read_word_blank commanding_sparing space, tame.read_directory]
    rfl

theorem takesAsData_of_tame (tame : Tame name) :
    TakesAsData name ("mkdir -p " ++ keyDirectory name)
      ("chown " ++ name ++ ":" ++ name ++ " -Rc " ++ keyDirectory name) := by
  rw [keyDirectory_of_extends tame.extending]
  exact ⟨tame.makes, tame.hands, liesWithin_directoryOf_iff.mpr tame.stays⟩

/-- What the shell reads as the one directory is all of the text behind the options. -/
theorem read_of_making (makes : commandWords? ("mkdir -p " ++ directory) =
      some (["mkdir", "-p", directoryOf name] : List Text)) :
    read commanding .between directory = some [directoryOf name] := by
  have completed := (commandWords?_eq_some_iff.mp makes).2
  rw [words?, read_making, Option.map_eq_some_iff] at completed
  obtain ⟨found, completed, same⟩ := completed
  have last : found = [directoryOf name] := by simpa using same
  rw [completed, last]

theorem extends_of_making (makes : commandWords? ("mkdir -p " ++ keyDirectory name) =
      some (["mkdir", "-p", directoryOf name] : List Text)) : Extends name := by
  by_contra contrary
  have shorter := length_keyDirectory_lt contrary
  have bound := read_size (read_of_making makes)
  simp only [totalLength_singleton, size_between, Nat.zero_add] at bound
  omega

/-- A name with an active first character makes a command that is not run as it stands. -/
theorem opens_of_handing {found : List Text} (literal : ∀ c ∈ name, c ∉ commanding.marks)
    (hands : commandWords? ("chown " ++ name ++ ":" ++ name ++ " -Rc " ++ directory) =
      some found) : ∀ c ∈ name.head?, c ∉ commanding.leading := by
  have completed := (commandWords?_eq_some_iff.mp hands).2
  rw [words?, read_handing, Option.map_eq_some_iff] at completed
  obtain ⟨_, completed, _⟩ := completed
  intro c first active
  cases name with
  | nil => simp at first
  | cons head rest =>
      obtain rfl : head = c := by simpa using first
      rw [List.cons_append, read_leading (literal head (by simp)) active] at completed
      contradiction

theorem tame_of_takesAsData
    (takes : TakesAsData name ("mkdir -p " ++ keyDirectory name)
      ("chown " ++ name ++ ":" ++ name ++ " -Rc " ++ keyDirectory name)) : Tame name := by
  obtain ⟨makes, hands, within⟩ := takes
  -- The length of the directory that was read tells the shape of the name, and only then are
  -- its characters known to be those of the directory.
  have extending := extends_of_making makes
  rw [keyDirectory_of_extends extending] at makes hands
  have whole := literal_of_read (read_of_making makes) (by simp)
  have literal := (forall_mem_directoryOf.mp whole.1).2.1
  have free := nul_notMem_making_iff.mp (commandWords?_eq_some_iff.mp makes).1
  exact {
    extending
    literal
    free := nul_notMem_directoryOf_iff.mp free
    opens := opens_of_handing literal hands
    stays := liesWithin_directoryOf_iff.mp within }

end Commands

/-- The first and the third command for a user hold the name as data exactly when the name is
tame. -/
theorem firstBootOptions_takeNames_iff (keyed : ∀ entry ∈ records, Keyed entry) :
    ∃ triples : List (List Text),
      firstBootOptions records =
        .ok (commandOptions (triples.flatten ++ (["restorecon -rvF /var/home"] : List Text))) ∧
      List.Forall₂
        (fun user commands => ∃ first second third, commands = [first, second, third] ∧
          (TakesAsData user.1 first third ↔ Tame user.1))
        (keyedUsers records) triples := by
  refine ⟨_, firstBootOptions_ok keyed, ?_⟩
  rw [List.forall₂_map_right_iff, List.forall₂_same]
  intro user _
  exact ⟨_, _, _, rfl, tame_of_takesAsData, takesAsData_of_tame⟩

example : commandWords? "mkdir -p /var/home/a;reboot/.ssh" = none := by decide

theorem alice_tame : Tame "alice" where
  extending := ⟨by decide, by decide, by decide⟩
  literal := forall_mem_of_all (by decide)
  free := by decide
  opens := by simp [commanding, Text.ofString]
  stays := by decide

theorem firstBootOptions_takeNames_alice :
    ∃ first second third,
      firstBootOptions [(.text "alice", keyRecord "ssh-ed25519 AAAA")] =
        .ok (commandOptions [first, second, third, "restorecon -rvF /var/home"]) ∧
      TakesAsData "alice" first third := by
  obtain ⟨triples, completed, each⟩ := firstBootOptions_takeNames_iff
    (List.forall_mem_singleton.mpr (keyed_keyRecord "alice" "ssh-ed25519 AAAA"))
  rw [keyedUsers_keyRecord (by decide), List.forall₂_cons_left_iff] at each
  obtain ⟨commands, rest, ⟨first, second, third, rfl, takes⟩, ended, rfl⟩ := each
  rw [List.forall₂_nil_left_iff.mp ended] at completed
  exact ⟨first, second, third, completed, takes.mpr alice_tame⟩

/-- A blank in a name makes one more word of it. -/
theorem firstBootOptions_splitName :
    ∃ second,
      firstBootOptions [(.text "a b", keyRecord "k")] =
        .ok (commandOptions ["mkdir -p /var/home/a b/.ssh", second,
          "chown a b:a b -Rc /var/home/a b/.ssh", "restorecon -rvF /var/home"]) ∧
      commandWords? "mkdir -p /var/home/a b/.ssh" =
        some (["mkdir", "-p", "/var/home/a", "b/.ssh"] : List Text) ∧
      ¬ TakesAsData "a b" "mkdir -p /var/home/a b/.ssh"
        "chown a b:a b -Rc /var/home/a b/.ssh" := by
  have words : commandWords? "mkdir -p /var/home/a b/.ssh" =
      some (["mkdir", "-p", "/var/home/a", "b/.ssh"] : List Text) := by decide
  refine ⟨_, rfl, words, ?_⟩
  intro takes
  have makes := takes.makes
  rw [words] at makes
  simp at makes

end ImageStages.Account
