import Mathlib.Data.List.Forall2
import ImageStages.Command.Run
import ImageStages.Proofs.Catalog.Batch

namespace ImageStages

namespace BuildRequest

/-- The request asks for a stage of one of the types. -/
def asksFor (types : List Text) (stage : Fields) : Bool :=
  ((field? stage "type").bind Document.text?).any types.contains

variable {types first second : List Text} {request : BuildRequest}

theorem stages_only (request : BuildRequest) (types : List Text) :
    (request.only types).stages = request.stages.filter (asksFor types) := rfl

theorem asksFor_append (asked : Fields) :
    asksFor (first ++ second) asked = (asksFor first asked || asksFor second asked) := by
  unfold asksFor
  cases (field? asked "type").bind Document.text? with
  | none => rfl
  | some name => simp [List.contains_eq_mem]

/-- Of the requests for either list of types, those for one list are those chosen by it. -/
theorem filter_asksFor_only {chosen : List Text}
    (covered : ∀ asked, asksFor chosen asked = true → asksFor types asked = true) :
    (request.only types).stages.filter (asksFor chosen) = (request.only chosen).stages := by
  rw [stages_only, stages_only, List.filter_filter]
  refine List.filter_congr fun asked _ => ?_
  cases holds : asksFor chosen asked with
  | false => rfl
  | true => simp [covered asked holds]

end BuildRequest

namespace Command

open Text (Location)

variable {surroundings : Surroundings} {context : Context} {files : Files}
  {location : Location} {types first second : List Text} {request : BuildRequest}
  {asked : Fields} {stage : Stage} {requests : List Fields} {stages : List Stage}

/-- A stage that a request renders to has one of the types just if the request asks for one
of them. -/
theorem asksFor_eq_of_rendersAlone
    (rendered : Catalog.RendersAlone surroundings context asked stage) :
    BuildRequest.asksFor types asked = types.contains stage.type := by
  have named := Catalog.renderRequest_tag (Catalog.rendersAlone_iff.mp rendered)
  simp [BuildRequest.asksFor, BuildRequest.field?, named, Document.text?]

/-- The stages of some types are those of the requests for these types. -/
theorem rendersAlone_filter
    (each : List.Forall₂ (Catalog.RendersAlone surroundings context) requests stages)
    (types : List Text) :
    List.Forall₂ (Catalog.RendersAlone surroundings context)
      (requests.filter (BuildRequest.asksFor types))
      (stages.filter fun stage => types.contains stage.type) := by
  refine List.rel_filter ?_ each
  intro asked stage rendered
  exact Bool.eq_iff_iff.mp (asksFor_eq_of_rendersAlone rendered)

theorem stages_unique {others : List Stage}
    (each : List.Forall₂ (Catalog.RendersAlone surroundings context) requests stages)
    (eachOther : List.Forall₂ (Catalog.RendersAlone surroundings context) requests others) :
    stages = others := by
  have first := Catalog.renderBatch_ok_iff.mpr each
  have second := Catalog.renderBatch_ok_iff.mpr eachOther
  exact Except.ok.inj (first.symm.trans second)

/-- The file holds this build request. -/
def Holds (files : Files) (location : Location) (request : BuildRequest) : Prop :=
  ∃ document, readRequest files location = .ok document ∧
    BuildRequest.ofDocument document = .ok request

theorem Holds.unique {other : BuildRequest} (holds : Holds files location request)
    (holdsOther : Holds files location other) : request = other := by
  obtain ⟨document, read, accepted⟩ := holds
  obtain ⟨same, readSame, acceptedOther⟩ := holdsOther
  obtain rfl : document = same := Except.ok.inj (read.symm.trans readSame)
  exact Except.ok.inj (accepted.symm.trans acceptedOther)

theorem renderFile_ok_iff :
    (renderFile surroundings files location types).result = .ok stages ↔
      ∃ request, Holds files location request ∧
        List.Forall₂ (Catalog.RendersAlone surroundings request.context)
          (if types.isEmpty then request else request.only types).stages stages := by
  have context (request : BuildRequest) :
      (if types.isEmpty then request else request.only types).context = request.context := by
    split <;> rfl
  simp only [renderFile, Outcome.result_bind, Outcome.result_lift, Except.bind_eq_ok_iff,
    context, Catalog.renderBatch_ok_iff]
  constructor
  · intro rendered
    obtain ⟨document, read, request, accepted, each⟩ := rendered
    exact ⟨request, ⟨document, read, accepted⟩, each⟩
  · intro known
    obtain ⟨request, ⟨document, read, accepted⟩, each⟩ := known
    exact ⟨document, read, request, accepted, each⟩

theorem renderFile_all_iff :
    (renderFile surroundings files location []).result = .ok stages ↔
      ∃ request, Holds files location request ∧
        List.Forall₂ (Catalog.RendersAlone surroundings request.context) request.stages
          stages :=
  renderFile_ok_iff

theorem renderFile_chosen_iff (chosen : types ≠ []) :
    (renderFile surroundings files location types).result = .ok stages ↔
      ∃ request, Holds files location request ∧
        List.Forall₂ (Catalog.RendersAlone surroundings request.context)
          (request.only types).stages stages := by
  have given : types.isEmpty = false := by simpa using chosen
  simp only [renderFile_ok_iff, given, Bool.false_eq_true, if_false]

/-- A build whose requests for either list of types all render also renders to the stages of
both lists together. -/
theorem rendersAlone_only_append {firstStages secondStages : List Stage}
    (each : List.Forall₂ (Catalog.RendersAlone surroundings request.context)
      (request.only first).stages firstStages)
    (eachOther : List.Forall₂ (Catalog.RendersAlone surroundings request.context)
      (request.only second).stages secondStages) :
    ∃ stages, List.Forall₂ (Catalog.RendersAlone surroundings request.context)
      (request.only (first ++ second)).stages stages := by
  have renders : ∀ asked ∈ (request.only (first ++ second)).stages,
      ∃ stage, Catalog.RendersAlone surroundings request.context asked stage := by
    intro asked member
    rw [BuildRequest.stages_only, List.mem_filter, BuildRequest.asksFor_append,
      Bool.or_eq_true] at member
    obtain ⟨listed, chosen | chosen⟩ := member
    · obtain ⟨stage, _, rendered⟩ :=
        exists_related each (List.mem_filter.mpr ⟨listed, chosen⟩)
      exact ⟨stage, rendered⟩
    · obtain ⟨stage, _, rendered⟩ :=
        exists_related eachOther (List.mem_filter.mpr ⟨listed, chosen⟩)
      exact ⟨stage, rendered⟩
  obtain ⟨stages, rendered⟩ := Catalog.renderBatch_succeeds_iff.mpr renders
  exact ⟨stages, Catalog.renderBatch_ok_iff.mp rendered⟩

/-- The stages of one of two lists of types are those of both lists together that have a type
of the one. -/
theorem stages_of_covered {chosen : List Text} {chosenStages : List Stage}
    (covered : ∀ asked, BuildRequest.asksFor chosen asked = true →
      BuildRequest.asksFor types asked = true)
    (each : List.Forall₂ (Catalog.RendersAlone surroundings request.context)
      (request.only types).stages stages)
    (eachChosen : List.Forall₂ (Catalog.RendersAlone surroundings request.context)
      (request.only chosen).stages chosenStages) :
    chosenStages = stages.filter fun stage => chosen.contains stage.type := by
  have filtered := rendersAlone_filter each chosen
  rw [BuildRequest.filter_asksFor_only covered] at filtered
  exact stages_unique eachChosen filtered

/-- Choosing types and rendering commute.  A build that renders as a whole renders for any
types to those of its stages that have one of them; and where it renders for two lists of
types, it renders for both together to the stages of the requests for either, one for each
request and in their order, from which each list takes its own. -/
theorem renderFile_selects (first second : List Text) (chosen : first ≠ [])
    (chosenOther : second ≠ []) (surroundings : Surroundings) (files : Files)
    (location : Location) :
    (∀ stages, (renderFile surroundings files location []).result = .ok stages →
      (renderFile surroundings files location first).result =
        .ok (stages.filter fun stage => first.contains stage.type)) ∧
    ∀ firstStages secondStages,
      (renderFile surroundings files location first).result = .ok firstStages →
      (renderFile surroundings files location second).result = .ok secondStages →
      ∃ request stages, Holds files location request ∧
        (renderFile surroundings files location (first ++ second)).result = .ok stages ∧
        List.Forall₂ (Catalog.RendersAlone surroundings request.context)
          (request.stages.filter (BuildRequest.asksFor (first ++ second))) stages ∧
        firstStages = stages.filter (fun stage => first.contains stage.type) ∧
        secondStages = stages.filter fun stage => second.contains stage.type := by
  constructor
  · intro stages rendered
    obtain ⟨request, holds, each⟩ := renderFile_all_iff.mp rendered
    exact (renderFile_chosen_iff chosen).mpr ⟨request, holds, rendersAlone_filter each first⟩
  · intro firstStages secondStages rendered renderedOther
    obtain ⟨request, holds, each⟩ := (renderFile_chosen_iff chosen).mp rendered
    obtain ⟨other, holdsOther, eachOther⟩ := (renderFile_chosen_iff chosenOther).mp renderedOther
    obtain rfl := holds.unique holdsOther
    obtain ⟨stages, both⟩ := rendersAlone_only_append each eachOther
    have together : first ++ second ≠ [] := by simp [chosen]
    refine ⟨request, stages, holds, (renderFile_chosen_iff together).mpr ⟨request, holds, both⟩,
      both, ?_, ?_⟩
    · refine stages_of_covered (fun asked asks => ?_) both each
      rw [BuildRequest.asksFor_append, asks, Bool.true_or]
    · refine stages_of_covered (fun asked asks => ?_) both eachOther
      rw [BuildRequest.asksFor_append, asks, Bool.or_true]

/-- A file that holds a build with these stage requests. -/
def buildFile (stages : String) : Files :=
  ⟨[(["build.json"], .file (Text.encodeUtf8
    ("\x7b\"arch\":\"x\",\"stages\":[" ++ stages ++ "]\x7d").toList))]⟩

/-- Requests for a directory, for the installer's modules and for a directory again. -/
def repeatedStages : String :=
  "\x7b\"type\":\"org.osbuild.mkdir\"\x7d,\x7b\"type\":\"org.osbuild.anaconda\"\x7d," ++
    "\x7b\"type\":\"org.osbuild.mkdir\"\x7d"

/-- The same requests among one of an unknown type and one of none. -/
def strangeStages : String :=
  "\x7b\"type\":\"unheard-of\"\x7d," ++ repeatedStages ++ ",\x7b\x7d"

def directoryTypes : List Text := ["org.osbuild.mkdir"]

def moduleTypes : List Text := ["org.osbuild.anaconda"]

def renderedTypes (stages : String) (types : List Text) : Option (List String) :=
  ((renderFile ⟨.builtin, "salt", "token"⟩ (buildFile stages) ⟨"", ["build.json"]⟩
    types).result.toOption).map (·.map Stage.type)

theorem rendered_of_renderedTypes (given : String) (types : List Text) {names : List String}
    (rendered : renderedTypes given types = some names) :
    ∃ stages, (renderFile ⟨.builtin, "salt", "token"⟩ (buildFile given) ⟨"", ["build.json"]⟩
      types).result = .ok stages ∧ stages.map Stage.type = names := by
  unfold renderedTypes at rendered
  cases ended : (renderFile ⟨.builtin, "salt", "token"⟩ (buildFile given) ⟨"", ["build.json"]⟩
    types).result with
  | error failure => simp [ended, Except.toOption] at rendered
  | ok stages => exact ⟨stages, rfl, by simpa [ended, Except.toOption] using rendered⟩

/-- The directories are chosen from a build that renders, and together with the modules from
one that does not. -/
theorem renderFile_selects_directories :
    (directoryTypes ≠ [] ∧ moduleTypes ≠ []) ∧
    (∃ stages,
      (renderFile ⟨.builtin, "salt", "token"⟩ (buildFile repeatedStages) ⟨"", ["build.json"]⟩
        []).result = .ok stages ∧
      (renderFile ⟨.builtin, "salt", "token"⟩ (buildFile repeatedStages) ⟨"", ["build.json"]⟩
        directoryTypes).result =
          .ok (stages.filter fun stage => directoryTypes.contains stage.type)) ∧
    ∃ directories modules stages,
      (renderFile ⟨.builtin, "salt", "token"⟩ (buildFile strangeStages) ⟨"", ["build.json"]⟩
        directoryTypes).result = .ok directories ∧
      (renderFile ⟨.builtin, "salt", "token"⟩ (buildFile strangeStages) ⟨"", ["build.json"]⟩
        moduleTypes).result = .ok modules ∧
      (renderFile ⟨.builtin, "salt", "token"⟩ (buildFile strangeStages) ⟨"", ["build.json"]⟩
        (directoryTypes ++ moduleTypes)).result = .ok stages ∧
      directories = stages.filter (fun stage => directoryTypes.contains stage.type) ∧
      modules = stages.filter fun stage => moduleTypes.contains stage.type := by
  have whole : renderedTypes repeatedStages [] =
      some ["org.osbuild.mkdir", "org.osbuild.anaconda", "org.osbuild.mkdir"] := by
    decide +kernel
  have twice : renderedTypes strangeStages directoryTypes =
      some ["org.osbuild.mkdir", "org.osbuild.mkdir"] := by
    decide +kernel
  have once : renderedTypes strangeStages moduleTypes =
      some ["org.osbuild.anaconda"] := by
    decide +kernel
  obtain ⟨stages, rendered, _⟩ := rendered_of_renderedTypes _ _ whole
  obtain ⟨directories, renderedDirectories, _⟩ := rendered_of_renderedTypes _ _ twice
  obtain ⟨modules, renderedModules, _⟩ := rendered_of_renderedTypes _ _ once
  obtain ⟨chosen, _⟩ := renderFile_selects directoryTypes moduleTypes (by decide)
    (by decide) ⟨.builtin, "salt", "token"⟩ (buildFile repeatedStages)
    ⟨"", ["build.json"]⟩
  obtain ⟨_, merged⟩ := renderFile_selects directoryTypes moduleTypes (by decide)
    (by decide) ⟨.builtin, "salt", "token"⟩ (buildFile strangeStages)
    ⟨"", ["build.json"]⟩
  obtain ⟨_, together, _, both, _, ofDirectories, ofModules⟩ :=
    merged directories modules renderedDirectories renderedModules
  exact ⟨⟨by decide, by decide⟩, ⟨stages, rendered, chosen stages rendered⟩,
    directories, modules, together, renderedDirectories, renderedModules, both, ofDirectories,
    ofModules⟩

end Command

end ImageStages
