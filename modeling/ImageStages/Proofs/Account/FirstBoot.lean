import ImageStages.Proofs.Account.Provision
import ImageStages.Proofs.Text.ShellWords

namespace ImageStages.Account

open Text.Shell

variable {records : Fields} {entry : Scalar × Document}

/-- The name of the record and its key, where it has one that is not empty. -/
def keyedUser? (entry : Scalar × Document) : Option (Text × Text) :=
  match entry with
  | (.text name, .object record) =>
      match Fields.find? record (.text "key") with
      | some (.text key) => if key = [] then none else some (name, key)
      | _ => none
  | _ => none

/-- The record stands under a text, and its key is a text if there is one. -/
def Keyed (entry : Scalar × Document) : Prop :=
  ∃ name record, entry = (.text name, .object record) ∧
    ∀ key, Fields.find? record (.text "key") = some key → key.IsText

def keyedUsers (records : Fields) : List (Text × Text) :=
  records.filterMap keyedUser?

/-- What the first boot is asked to do. -/
def commandOptions (commands : List Text) : Fields :=
  options [("commands", .texts commands), ("wait_for_network", .bool false)]

theorem recordCommands_ok (keyed : Keyed entry) :
    recordCommands entry =
      .ok (((keyedUser? entry).map fun user => keyCommands user.1 user.2).getD []) := by
  obtain ⟨name, record, rfl, spelled⟩ := keyed
  have read : (Document.object record).lookupOr "key" .null =
      .ok ((Fields.find? record (.text "key")).getD .null) := rfl
  cases found : Fields.find? record (.text "key") with
  | none => simp [recordCommands, keyedUser?, read, found, Document.given, Scalar.given]
  | some value =>
      obtain ⟨key, rfl⟩ := spelled value found
      by_cases empty : key = [] <;>
        simp [recordCommands, keyedUser?, read, found, Document.given, Scalar.given, empty]

theorem recordCommands_mapM (keyed : ∀ entry ∈ records, Keyed entry) :
    ∃ commands, records.mapM recordCommands = .ok commands ∧
      commands.flatten =
        ((keyedUsers records).map fun user => keyCommands user.1 user.2).flatten := by
  induction records with
  | nil => exact ⟨[], rfl, rfl⟩
  | cons entry rest ih =>
      obtain ⟨others, completed, same⟩ := ih fun other member => keyed other (by simp [member])
      refine ⟨((keyedUser? entry).map fun user => keyCommands user.1 user.2).getD [] :: others,
        ?_, ?_⟩
      · rw [List.mapM_cons, recordCommands_ok (keyed entry (by simp)), completed]
        rfl
      · cases user : keyedUser? entry <;> simp [keyedUsers, user, same]

theorem firstBootOptions_ok (keyed : ∀ entry ∈ records, Keyed entry) :
    firstBootOptions records = .ok (commandOptions
      (((keyedUsers records).map fun user => keyCommands user.1 user.2).flatten ++
        [Text.ofString relabelCommand])) := by
  obtain ⟨commands, completed, same⟩ := recordCommands_mapM keyed
  rw [firstBootOptions, firstBootCommands, completed]
  simp only [Except.ok_bind, Except.pure_eq_ok, same]
  rfl

/-- The file below the root of the homes that holds the keys of a user. -/
def keyFile (name : Text) : Text :=
  [name, ".ssh", "authorized_keys"].foldl Text.extendPath "/var/home"

theorem authorizedKeys_eq (name : Text) : authorizedKeys name = keyFile name := by
  simp [authorizedKeys, keyDirectory, keyFile, homeRoot]

/-- The command hands a script to a shell, and what that shell reads in the script are the
words of a command that adds the key to the user's file. -/
def AddsKey (name key command : Text) : Prop :=
  ∃ script,
    words? splitting command = some (["sh", "-c", script] : List Text) ∧
    words? commanding command = some (["sh", "-c", script] : List Text) ∧
    words? splitting script = some (["echo", key, ">>", keyFile name] : List Text)

/-- A script that is quoted reaches the shell it is handed to. -/
theorem words?_shell {rules : Rules} (sparing : rules.Sparing) (space : .char ' ' ∈ rules.blanks)
    (script : Text) :
    words? rules ("sh -c " ++ quote script) = some (["sh", "-c", script] : List Text) := by
  have spelled : ("sh -c " : Text) ++ quote script =
      quote "sh" ++ .char ' ' :: (quote "-c" ++ .char ' ' :: quote script) := rfl
  rw [words?, spelled, read_word_blank sparing space, read_word_blank sparing space,
    read_word_end sparing]
  rfl

theorem words?_addition (key path : Text) :
    words? splitting ("echo " ++ quote key ++ " >> " ++ quote path) =
      some (["echo", key, ">>", path] : List Text) := by
  have space : .char ' ' ∈ splitting.blanks := by decide
  have spelled : ("echo " : Text) ++ quote key ++ " >> " ++ quote path =
      quote "echo" ++ .char ' ' :: (quote key ++ .char ' ' ::
        ((">>" : Text) ++ .char ' ' :: quote path)) := by
    simp only [List.append_assoc]
    rfl
  rw [words?, spelled, read_word_blank splitting_sparing space,
    read_word_blank splitting_sparing space,
    read_plain_blank space (forall_mem_of_all (by decide)) (by simp [splitting]) (by decide),
    read_word_end splitting_sparing]
  rfl

theorem addsKey_quoted (name key : Text) :
    AddsKey name key ("sh -c " ++ quote ("echo " ++ quote key ++ " >> " ++
      quote (authorizedKeys name))) := by
  refine ⟨_, words?_shell splitting_sparing (by decide) _,
    words?_shell commanding_sparing (by decide) _, ?_⟩
  rw [words?_addition, authorizedKeys_eq]

/-- Users with a key get three commands each, in the order of the records, and their keys
come through both shells as they are. -/
theorem firstBootOptions_addKeys (keyed : ∀ entry ∈ records, Keyed entry) :
    ∃ triples : List (List Text),
      firstBootOptions records =
        .ok (commandOptions (triples.flatten ++ (["restorecon -rvF /var/home"] : List Text))) ∧
      List.Forall₂
        (fun user commands => ∃ first second third, commands = [first, second, third] ∧
          AddsKey user.1 user.2 second)
        (keyedUsers records) triples := by
  refine ⟨_, firstBootOptions_ok keyed, ?_⟩
  rw [List.forall₂_map_right_iff, List.forall₂_same]
  intro user _
  exact ⟨_, _, _, rfl, addsKey_quoted user.1 user.2⟩

/-- The record of a user that has a key and nothing else. -/
def keyRecord (key : Text) : Document :=
  .record [("key", .text key)]

theorem keyed_keyRecord (name key : Text) : Keyed (.text name, keyRecord key) := by
  refine ⟨name, _, rfl, ?_⟩
  intro value found
  have given : some (Document.text key) = some value := found
  rw [← Option.some.inj given]
  exact ⟨key, rfl⟩

theorem keyedUsers_keyRecord {name key : Text} (given : key ≠ []) :
    keyedUsers [(.text name, keyRecord key)] = [(name, key)] := by
  simp [keyedUsers, keyedUser?, keyRecord, Document.record, Fields.find?, given]

/-- Neither quotes nor expansions in a name or a key come to anything. -/
theorem firstBootOptions_addKeys_hostile :
    ∃ first second third,
      firstBootOptions [(.text "o'neil $x", keyRecord "it's \"\\\" \x60id\x60\n$HOME")] =
        .ok (commandOptions [first, second, third, "restorecon -rvF /var/home"]) ∧
      AddsKey "o'neil $x" "it's \"\\\" \x60id\x60\n$HOME" second := by
  obtain ⟨triples, completed, each⟩ := firstBootOptions_addKeys
    (List.forall_mem_singleton.mpr
      (keyed_keyRecord "o'neil $x" "it's \"\\\" \x60id\x60\n$HOME"))
  rw [keyedUsers_keyRecord (by decide), List.forall₂_cons_left_iff] at each
  obtain ⟨commands, rest, ⟨first, second, third, rfl, adds⟩, ended, rfl⟩ := each
  rw [List.forall₂_nil_left_iff.mp ended] at completed
  exact ⟨first, second, third, completed, adds⟩

end ImageStages.Account
