import ImageStages.Proofs.Document.RoundTrip
import ImageStages.Proofs.Settings.Emission
import ImageStages.Proofs.Settings.Loading

namespace ImageStages.Settings

open Text (Location)

variable {settings : Settings} {changes : List Change} {change : Change} {index : Nat}

/-- The settings at every point of a run, the first ones included. -/
def points (settings : Settings) (changes : List Change) : List Settings :=
  settings :: (settings.applyAll changes).map (·.settings)

theorem applyAll_length (settings : Settings) (changes : List Change) :
    (settings.applyAll changes).length = changes.length := by
  induction changes generalizing settings with
  | nil => rfl
  | cons change rest ih => simp [applyAll, ih]

/-- A change applies to the settings at its point, and makes those of the next point. -/
theorem applyAll_step (settings : Settings) (asked : changes[index]? = some change) :
    ∃ before, (settings.points changes)[index]? = some before ∧
      (settings.applyAll changes)[index]? = some (before.apply change) ∧
      (settings.points changes)[index + 1]? = some (before.apply change).settings := by
  induction changes generalizing settings index with
  | nil => cases asked
  | cons first rest ih =>
      cases index with
      | zero =>
          obtain rfl := Option.some.inj asked
          exact ⟨settings, rfl, rfl, rfl⟩
      | succ index => exact ih (settings.apply first).settings asked

theorem drop_applyAll (settings : Settings) (before : List Change) (files : Files)
    (location : Location) (after : List Change) :
    (settings.applyAll (before ++ .load files location :: after)).drop before.length =
      load files location :: (load files location).settings.applyAll after := by
  induction before generalizing settings with
  | nil => rfl
  | cons first rest ih => exact ih (settings.apply first).settings

theorem find?_store (settings : Settings) (key other : Text) (value : Document) :
    (settings.store key value).find? other =
      if other = key then some value else settings.find? other := by
  rw [find?, store, Fields.find?_put, Scalar.text_same_text]
  by_cases same : other = key
  · simp [same]
  · simp [same, Ne.symm same, find?]

/-- What a load leaves. -/
structure LoadsAnew (files : Files) (location : Location) (changed : Changed) : Prop where
  applied : changed.loaded = some (.ok true) ↔ ∃ fields, HoldsObject files location fields
  overlays : ∀ fields, HoldsObject files location fields →
    changed.settings = overlaid fields ∧
    ∀ key, changed.settings.find? key =
      (Fields.find? fields (.text key)).or (builtin.find? key)
  restores : changed.loaded ≠ some (.ok true) → changed.settings = builtin
  stops : ∀ mishap, changed.loaded = some (.error mishap) ↔ Unexcused files location mishap

theorem load_anew (files : Files) (location : Location) :
    LoadsAnew files location (load files location) where
  applied := loaded_true_iff
  overlays fields holds := by
    rw [load_of_holdsObject holds]
    exact ⟨rfl, find?_overlaid holds.distinct⟩
  restores unapplied := by
    rcases load_ends files location with ⟨fields, _, ended⟩ | ended | ⟨mishap, _, ended⟩
    · rw [ended] at unapplied
      exact absurd rfl unapplied
    · rw [ended]
    · rw [ended]
  stops _ := loaded_error_iff

/-- What the settings give a stage, and what they answer when asked by a key. -/
structure Answers (settings : Settings) (setting : Setting) : Prop where
  asked : settings.textOf setting.key = .ok (settings.text setting)
  filled : settings.text setting ≠ []
  stored : ∀ value, settings.find? setting.key = some (.text value) → value ≠ [] →
    settings.text setting = value
  fallsBack : (∀ value, settings.find? setting.key = some (.text value) → value = []) →
    settings.text setting = setting.builtin
  told : ∀ salt token context requests stages,
    (Catalog.renderBatch ⟨settings, salt, token⟩ context requests).result = .ok stages →
      List.Forall₂ (Catalog.Tells settings setting) requests stages
  toldFilled : ∀ salt token context requests stages,
    (Catalog.renderBatch ⟨settings, salt, token⟩ context requests).result = .ok stages →
      ∀ stage ∈ stages, stage.type = setting.stageType.name →
        ∀ value, stage.option? setting.path = some value → ∃ text, value = .text text ∧ text ≠ []

theorem answers (settings : Settings) (setting : Setting) : Answers settings setting where
  asked := settings.textOf_key setting
  filled := settings.text_ne_empty setting
  stored _ := text_of_filled
  fallsBack := text_of_unfilled
  told _ _ _ _ _ rendered := Catalog.renderBatch_tells rendered setting
  toldFilled _ _ _ _ _ rendered stage member tagged value found := by
    obtain ⟨request, _, tells⟩ :=
      exists_related (Catalog.renderBatch_tells rendered setting).flip member
    obtain ⟨fields, _, told⟩ := tells tagged
    rw [told, Option.map_eq_some_iff] at found
    obtain ⟨text, tells, rfl⟩ := found
    exact ⟨text, rfl, Setting.told_ne_empty tells⟩

/-- What a run of loads and stores comes to, from any settings on. -/
structure Settled (settings : Settings) (changes : List Change) : Prop where
  length : (settings.applyAll changes).length = changes.length
  loads : ∀ (index : Nat) files location, changes[index]? = some (.load files location) →
    (settings.applyAll changes)[index]? = some (load files location) ∧
    LoadsAnew files location (load files location)
  forgets : ∀ before files location after, changes = before ++ Change.load files location :: after →
    ∀ others : Settings, (settings.applyAll changes).drop before.length =
      others.applyAll (.load files location :: after)
  stores : ∀ (index : Nat) key value, changes[index]? = some (.store key value) →
    ∃ before after : Settings, (settings.points changes)[index]? = some before ∧
      (settings.applyAll changes)[index]? = some ⟨after, none⟩ ∧
      ∀ other, after.find? other = if other = key then some value else before.find? other
  answers : ∀ point ∈ settings.points changes, ∀ setting, Answers point setting

/-- A load leaves the built-in settings or the file's object over them, whatever came
before, and at every point of a run each setting is a text that is not empty. -/
theorem applyAll_settled (settings : Settings) (changes : List Change) :
    Settled settings changes where
  length := applyAll_length settings changes
  loads index files location asked := by
    obtain ⟨before, _, reached, _⟩ := settings.applyAll_step asked
    exact ⟨reached, load_anew files location⟩
  forgets before files location after split _ := by
    rw [split, drop_applyAll]
    rfl
  stores index key value asked := by
    obtain ⟨before, stood, reached, _⟩ := settings.applyAll_step asked
    exact ⟨before, before.store key value, stood, reached,
      fun other => before.find?_store key other value⟩
  answers point _ setting := point.answers setting

def overridingFields : Fields :=
  options [("discinfo_release", .text "9.9"), ("kernel_image_dir", .text "")]

def overridingFiles : Files :=
  ⟨[(["settings.json"],
    .file (Text.encodeUtf8 ((Document.object overridingFields).laidOut 0 ++ ['\n'])))]⟩

/-- A number is stored, then a file is loaded, and then one that is not there. -/
def overriding : List Change := [
  .store "ostree_osname" (.int 7),
  .load overridingFiles (Location.ofText "settings.json"),
  .load overridingFiles (Location.ofText "missing.json")]

theorem overridingFiles_hold :
    HoldsObject overridingFiles (Location.ofText "settings.json") overridingFields := by
  have held : overridingFiles.readText (Location.ofText "settings.json") =
      .ok ((Document.object overridingFields).laidOut 0 ++ ['\n']) :=
    Except.eq_ok_of_toOption (by decide +kernel)
  have writable : (Document.object overridingFields).Writable :=
    Document.writable_options_iff.mpr ⟨by decide, by simp⟩
  have unbroken : (Document.object overridingFields).Unbroken := by
    simp [overridingFields, Document.unbroken_options_iff]
  exact ⟨_, held, Json.read_laidOut writable unbroken⟩

theorem missingFile_unapplied :
    (load overridingFiles (Location.ofText "missing.json")).loaded = some (.ok false) := by
  have missing : overridingFiles.exists? (Location.ofText "missing.json") = .ok false :=
    Except.eq_ok_of_toOption (by decide +kernel)
  simp [load, load?, missing]

/-- The text in the file counts, the empty text and the number do not.  A file that is not
there leaves the built-in settings. -/
theorem applyAll_settled_overriding :
    (∃ stored ∈ builtin.points overriding,
      stored.find? "ostree_osname" = some (.int 7) ∧
      stored.textOf "ostree_osname" = .ok "rhel") ∧
    (builtin.applyAll overriding)[1]?.map (·.settings) = some (overlaid overridingFields) ∧
    (builtin.applyAll overriding)[1]?.bind (·.loaded) = some (.ok true) ∧
    (overlaid overridingFields).textOf "discinfo_release" = .ok "9.9" ∧
    (overlaid overridingFields).textOf "kernel_image_dir" = .ok "/images/pxeboot" ∧
    (builtin.applyAll overriding)[2]?.map (·.settings) = some builtin := by
  have settled := applyAll_settled builtin overriding
  obtain ⟨reached, anew⟩ := settled.loads 1 _ _ rfl
  obtain ⟨reachedLast, anewLast⟩ := settled.loads 2 _ _ rfl
  obtain ⟨overlays, _⟩ := anew.overlays _ overridingFiles_hold
  have restored := anewLast.restores (by simp [missingFile_unapplied])
  have numbered : (builtin.store "ostree_osname" (.int 7)).find? "ostree_osname" =
      some (.int 7) := by
    rw [find?_store, if_pos rfl]
  have point : builtin.store "ostree_osname" (.int 7) ∈ builtin.points overriding :=
    List.mem_of_getElem? (i := 1) rfl
  have answers := settled.answers _ point .ostreeOsname
  refine ⟨⟨_, point, numbered, ?_⟩, ?_, ?_, ?_, ?_, ?_⟩
  · have unfilled := answers.fallsBack fun value stored => by
      cases numbered.symm.trans stored
    exact answers.asked.trans (congrArg Except.ok unfilled)
  · rw [reached, Option.map_some, overlays]
  · rw [reached, Option.bind_some, anew.applied.mpr ⟨_, overridingFiles_hold⟩]
  · exact Except.eq_ok_of_toOption (by decide +kernel)
  · exact Except.eq_ok_of_toOption (by decide +kernel)
  · rw [reachedLast, Option.map_some, restored]

end ImageStages.Settings
