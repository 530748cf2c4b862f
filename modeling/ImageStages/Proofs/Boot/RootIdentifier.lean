import ImageStages.Proofs.Boot.Partition

namespace ImageStages.Catalog

variable {surroundings : Surroundings} {context : Context} {table : PartitionTable}
  {root : Filesystem} {id : Text} {fields others : Fields} {failure : Failure}
  {configured commanded : Except Failure Stage}

/-- The configuration and the command line name the root filesystem alike, and both are
refused where its identifier spells no number. -/
structure NamedAlike (id : Text) (configured commanded : Except Failure Stage) : Prop where
  same : ∀ configuration commandLine, configured = .ok configuration →
    commanded = .ok commandLine →
      configuration.option? ["root_fs_uuid"] = commandLine.option? ["root_fs_uuid"]
  refused : (∀ form, Identifier.parse (.text id) ≠ .ok form) →
    (∃ reason, configured = .error (.invalid (.identifier (.text id) reason))) ∧
      ∃ reason, commanded = .error (.invalid (.identifier (.text id) reason))

/-- The boot files have a filesystem of their own, whose identifier spells no number. -/
def BootUnnamed (table : PartitionTable) : Prop :=
  ∃ boot, table.FirstMounted "/boot" boot ∧ ∀ form, Identifier.parse boot.uuid ≠ .ok form

theorem exists_firstMounted {place : String} (mounted : table.Mounted place) :
    ∃ filesystem, table.FirstMounted place filesystem := by
  cases found : Boot.filesystemOf (table.at? (.text place)) with
  | none => exact absurd mounted (PartitionTable.filesystemOf_at?_eq_none_iff.mp found)
  | some filesystem => exact ⟨filesystem, PartitionTable.filesystemOf_at?_eq_some_iff.mp found⟩

/-- The kernel command line names the root filesystem as the table does. -/
theorem renderCommandLine_of_firstMounted (surroundings : Surroundings)
    (planned : context.table = some table)
    (first : table.FirstMounted "/" root)
    (documented : Documented context ⟨.kernelCommandLine, fields⟩)
    (absent : Parameters.given? ⟨.kernelCommandLine, fields⟩ "root_fs_uuid" = none) :
    ∃ stage, (renderStage surroundings context StageType.kernelCommandLine.name fields).result =
        .ok stage ∧ stage.option? ["root_fs_uuid"] = some root.uuid := by
  have unset := Parameters.text?_eq_none_iff.mpr absent
  have held : Boot.filesystemOf table.root? = some root :=
    PartitionTable.filesystemOf_at?_eq_some_iff.mpr first
  obtain ⟨kernelOptions, read⟩ :=
    documented.textOr "kernel_options" "" (by simp [StageType.optional])
  have identified : StageType.rootIdentifier context ⟨.kernelCommandLine, fields⟩ =
      .ok root.uuid := by
    simp [StageType.rootIdentifier, unset, StageType.tableFor, planned, held]
  have completed : StageType.renderCommandLine context ⟨.kernelCommandLine, fields⟩ =
      .ok (Boot.commandLineOptions root.uuid (.text kernelOptions)) := by
    simp [StageType.renderCommandLine, identified, read]
  refine ⟨StageType.kernelCommandLine.stage
    (Boot.commandLineOptions root.uuid (.text kernelOptions)), ?_, rfl⟩
  rw [result_renderStage, render_of_ne_copy (by simp)]
  simp [StageType.renderOptions, completed]

/-- The configuration of grub2 names the root filesystem by the canonical form. -/
theorem renderGrub_names (planned : context.table = some table)
    (first : table.FirstMounted "/" root) {stage : Stage}
    (rendered : (renderStage surroundings context StageType.grub.name fields).result = .ok stage) :
    ∃ form, Identifier.parse root.uuid = .ok form ∧
      stage.option? ["root_fs_uuid"] = some (.text form) := by
  rw [result_renderStage, render_of_ne_copy (by simp)] at rendered
  simp only [StageType.renderOptions, Outcome.result_bind, Outcome.result_lift,
    Outcome.result_pure, Except.bind_eq_ok_iff, Except.ok.injEq] at rendered
  obtain ⟨options, rendered, rfl⟩ := rendered
  obtain ⟨request, configured⟩ := renderGrub_configures planned rendered
  obtain ⟨other, form, held, parsed, named, _⟩ := Boot.grubOptions_identifiers configured
  obtain rfl : root = other := PartitionTable.firstMounted_unique first
    (PartitionTable.filesystemOf_at?_eq_some_iff.mp held)
  refine ⟨form, parsed, ?_⟩
  simpa only [Stage.option?, StageType.stage, Document.reach?_field] using named

/-- The configuration of grub2 is refused for the root filesystem first, and else for that of
the boot files. -/
theorem renderGrub_refused_iff (typed : context.WellTyped) (planned : context.table = some table)
    (first : table.FirstMounted "/" root) (spelled : root.uuid = .text id)
    (documented : Documented context ⟨.grub, fields⟩) :
    (renderStage surroundings context StageType.grub.name fields).result = .error failure ↔
      Identifier.parse (.text id) = .error failure ∨
        (∃ form, Identifier.parse (.text id) = .ok form) ∧
          ∃ boot, table.FirstMounted "/boot" boot ∧
            Identifier.parse boot.uuid = .error failure := by
  have wellTyped := typed.table table planned
  have mounted : table.Mounted "/" := by
    obtain ⟨before, partition, after, split, held, place, _⟩ := first
    exact ⟨partition, by simp [split], root, held, place⟩
  rw [result_renderStage, render_error_iff typed documented, refused_grub_iff planned rfl]
  constructor
  · intro refused
    rcases refused with ⟨unmounted, _⟩ | ⟨other, firstOther, malformed⟩ |
      ⟨identified, boot, firstBoot, malformed⟩
    · exact absurd mounted unmounted
    · obtain rfl := PartitionTable.firstMounted_unique first firstOther
      rw [← spelled]
      exact .inl ((parse_malformed_iff ⟨id, spelled⟩).mpr malformed)
    · rw [← spelled]
      exact .inr ⟨(identifiesRoot_iff wellTyped first).mpr identified, boot, firstBoot,
        (parse_malformed_iff (uuid_of_firstMounted wellTyped firstBoot)).mpr malformed⟩
  · intro refused
    rw [← spelled] at refused
    rcases refused with failed | ⟨parsed, boot, firstBoot, failed⟩
    · exact .inr (.inl ⟨root, first, (parse_malformed_iff ⟨id, spelled⟩).mp failed⟩)
    · exact .inr (.inr ⟨(identifiesRoot_iff wellTyped first).mp parsed, boot, firstBoot,
        (parse_malformed_iff (uuid_of_firstMounted wellTyped firstBoot)).mp failed⟩)

/-- The identifiers are told apart by the canonical form, unless grub2 is refused for another. -/
theorem namedAlike_iff {commandLine : Stage}
    (commands : commanded = .ok commandLine)
    (verbatim : commandLine.option? ["root_fs_uuid"] = some (.text id))
    (names : ∀ stage, configured = .ok stage → ∃ form, Identifier.parse (.text id) = .ok form ∧
      stage.option? ["root_fs_uuid"] = some (.text form)) :
    NamedAlike id configured commanded ↔
      Identifier.parse (.text id) = .ok id ∨
        (∃ form, Identifier.parse (.text id) = .ok form) ∧
          ∃ failure, configured = .error failure := by
  subst commands
  cases parsed : Identifier.parse (.text id) with
  | error failure =>
      simp only [reduceCtorEq, exists_false, false_and, or_self, iff_false]
      intro alike
      obtain ⟨_, reason, absurd⟩ := alike.refused (by simp [parsed])
      cases absurd
  | ok form =>
      cases configured with
      | error failure =>
          simp only [Except.ok.injEq, exists_eq', and_self, or_true, iff_true, Except.error.injEq]
          exact ⟨by simp, by simp [parsed]⟩
      | ok configuration =>
          obtain ⟨other, again, named⟩ := names configuration rfl
          obtain rfl : form = other := Except.ok.inj (parsed.symm.trans again)
          simp only [Except.ok.injEq, reduceCtorEq, exists_false, and_false, or_false]
          constructor
          · intro alike
            have same := alike.same configuration commandLine rfl rfl
            simpa [named, verbatim] using same
          · rintro rfl
            refine ⟨?_, by simp [parsed]⟩
            rintro _ _ ⟨⟩ ⟨⟩
            rw [named, verbatim]

/-- The kernel command line is never refused for the root filesystem, and names it as the table
does.  The configuration of grub2 goes along with that exactly if the table has a canonical form,
or if grub2 is refused for the filesystem of the boot files. -/
theorem rootNames_alike_iff (surroundings : Surroundings) (typed : context.WellTyped)
    (planned : context.table = some table) (mounted : table.Mounted "/")
    (configures : Documented context ⟨.grub, fields⟩)
    (commands : Documented context ⟨.kernelCommandLine, others⟩)
    (absent : Parameters.given? ⟨.kernelCommandLine, others⟩ "root_fs_uuid" = none) :
    ∃ root id, table.FirstMounted "/" root ∧ root.uuid = .text id ∧
      (∃ stage, (renderStage surroundings context StageType.kernelCommandLine.name others).result =
        .ok stage ∧ stage.option? ["root_fs_uuid"] = some (.text id)) ∧
      (NamedAlike id (renderStage surroundings context StageType.grub.name fields).result
          (renderStage surroundings context StageType.kernelCommandLine.name others).result ↔
        Identifier.parse (.text id) = .ok id ∨
          (∃ form, Identifier.parse (.text id) = .ok form) ∧ BootUnnamed table) := by
  obtain ⟨root, first⟩ := exists_firstMounted mounted
  obtain ⟨id, spelled⟩ := uuid_of_firstMounted (typed.table table planned) first
  obtain ⟨commandLine, commanded, verbatim⟩ :=
    renderCommandLine_of_firstMounted surroundings planned first commands absent
  rw [spelled] at verbatim
  refine ⟨root, id, first, spelled, ⟨commandLine, commanded, verbatim⟩, ?_⟩
  rw [namedAlike_iff commanded verbatim fun stage rendered => spelled ▸
    renderGrub_names planned first rendered]
  refine or_congr_right (and_congr_right fun parsed => ?_)
  simp only [renderGrub_refused_iff typed planned first spelled configures]
  obtain ⟨form, parsed⟩ := parsed
  constructor
  · rintro ⟨failure, failed | ⟨_, boot, firstBoot, failed⟩⟩
    · rw [parsed] at failed
      cases failed
    · exact ⟨boot, firstBoot, by simp [failed]⟩
  · rintro ⟨boot, firstBoot, unnamed⟩
    cases failed : Identifier.parse boot.uuid with
    | error failure => exact ⟨failure, .inr ⟨⟨form, parsed⟩, boot, firstBoot, failed⟩⟩
    | ok other => exact absurd failed (unnamed other)

theorem commandLine_documented (table : PartitionTable) :
    Documented (plainContext table) ⟨.kernelCommandLine, []⟩ where
  required := by simp [Parameters.HasRequired, Parameters.required]
  optional := by simp [Parameters.given?, Parameters.find?, Fields.find?]
  table := fun _ => ⟨table, rfl⟩
  firewall := by simp

theorem onlyMounted_first (place id : String) :
    (onlyMounted place id).FirstMounted place ⟨.text "xfs", .text id, .text place, .null⟩ :=
  ⟨[], _, [], rfl, rfl, rfl, by simp⟩

/-- Both stages name a root filesystem alike whose identifier is a canonical form. -/
theorem rootNames_alike_canonical :
    NamedAlike "6e4ff95f-f662-45ee-a82a-bdf44a2d0b75"
      (renderStage ⟨.builtin, "salt", "token"⟩
        (plainContext (onlyMounted "/" "6e4ff95f-f662-45ee-a82a-bdf44a2d0b75"))
        "org.osbuild.grub2" []).result
      (renderStage ⟨.builtin, "salt", "token"⟩
        (plainContext (onlyMounted "/" "6e4ff95f-f662-45ee-a82a-bdf44a2d0b75"))
        "org.osbuild.kernel-cmdline" []).result := by
  have mounted : (onlyMounted "/" "6e4ff95f-f662-45ee-a82a-bdf44a2d0b75").Mounted "/" := by
    simp [PartitionTable.Mounted, onlyMounted]
  have canonical : Identifier.parse (.text "6e4ff95f-f662-45ee-a82a-bdf44a2d0b75") =
      .ok "6e4ff95f-f662-45ee-a82a-bdf44a2d0b75" := Except.eq_ok_of_toOption (by decide +kernel)
  obtain ⟨root, id, first, spelled, _, alike⟩ :=
    rootNames_alike_iff ⟨.builtin, "salt", "token"⟩
      (plainContext_wellTyped "/" "6e4ff95f-f662-45ee-a82a-bdf44a2d0b75") rfl mounted
      (grub_documented _) (commandLine_documented _) rfl
  obtain rfl := PartitionTable.firstMounted_unique first (onlyMounted_first _ _)
  obtain rfl : "6e4ff95f-f662-45ee-a82a-bdf44a2d0b75" = id := by simpa using spelled
  exact alike.mpr (.inl canonical)

/-- The kernel command line names a root filesystem by what spells no number, for which grub2 is
refused. -/
theorem rootNames_unparsed :
    (∃ stage, (renderStage ⟨.builtin, "salt", "token"⟩
        (plainContext (onlyMounted "/" "not-a-uuid")) "org.osbuild.kernel-cmdline" []).result =
        .ok stage ∧ stage.option? ["root_fs_uuid"] = some (.text "not-a-uuid")) ∧
    ¬ NamedAlike "not-a-uuid"
      (renderStage ⟨.builtin, "salt", "token"⟩
        (plainContext (onlyMounted "/" "not-a-uuid")) "org.osbuild.grub2" []).result
      (renderStage ⟨.builtin, "salt", "token"⟩
        (plainContext (onlyMounted "/" "not-a-uuid")) "org.osbuild.kernel-cmdline" []).result := by
  obtain ⟨stage, commanded, verbatim⟩ :=
    renderCommandLine_of_firstMounted ⟨.builtin, "salt", "token"⟩ rfl
      (onlyMounted_first "/" "not-a-uuid") (commandLine_documented _) rfl
  refine ⟨⟨stage, commanded, verbatim⟩, fun alike => ?_⟩
  have unparsed : ∀ form, Identifier.parse (.text "not-a-uuid") ≠ .ok form := by
    intro form parsed
    obtain ⟨id, number, same, read, _⟩ := Identifier.parse_ok_iff.mp parsed
    obtain rfl : "not-a-uuid" = id := by simpa using same
    cases read
  obtain ⟨_, reason, refused⟩ := alike.refused unparsed
  rw [show "org.osbuild.kernel-cmdline" = StageType.kernelCommandLine.name from rfl, commanded]
    at refused
  cases refused

end ImageStages.Catalog
