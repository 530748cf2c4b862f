import ImageStages.Proofs.Build.Selection
import ImageStages.Proofs.Build.Writable

namespace ImageStages

namespace Text

variable {position : Nat} {under : Option Partial} {octets : List UInt8} {s : List Char}

theorem decodeFrom_length (decoded : decodeFrom position under octets = .ok s) :
    s.length ≤ octets.length := by
  induction octets generalizing position under s with
  | nil =>
      cases under with
      | none =>
          obtain rfl := Except.ok.inj decoded
          exact Nat.le_refl 0
      | some under => cases decoded
  | cons octet rest ih =>
      have finished {next : Nat} {c : Char}
          (decoded : (decodeFrom next none rest).map (c :: ·) = .ok s) :
          s.length ≤ (octet :: rest).length := by
        obtain ⟨others, completed, rfl⟩ := Except.map_eq_ok_iff.mp decoded
        exact Nat.succ_le_succ (ih completed)
      cases under with
      | none =>
          rw [decodeFrom] at decoded
          split at decoded
          · cases decoded
          · split at decoded
            · exact finished decoded
            · exact Nat.le_succ_of_le (ih decoded)
      | some under =>
          simp only [decodeFrom] at decoded
          split at decoded
          · split at decoded
            · exact finished decoded
            · exact Nat.le_succ_of_le (ih decoded)
          · cases decoded

theorem unifyLineBreaks_length (s : List Char) : (unifyLineBreaks s).length ≤ s.length := by
  fun_induction unifyLineBreaks s with
  | case1 => exact Nat.le_refl 0
  | case2 rest ih => exact Nat.succ_le_succ (Nat.le_succ_of_le ih)
  | case3 c rest _ ih => exact Nat.succ_le_succ ih

end Text

open Text (Location)

variable {files : Files} {location : Location} {document : Document} {s : List Char}

theorem Files.readText_length (read : files.readText location = .ok s) :
    s.length ≤ octetLimit := by
  unfold readText at read
  repeat' split at read
  all_goals try cases read
  rename_i octets _ fits _ text decoded
  calc (Text.unifyLineBreaks text).length
      ≤ text.length := Text.unifyLineBreaks_length text
    _ ≤ octets.length := Text.decodeFrom_length decoded
    _ ≤ octetLimit := Nat.not_lt.mp fits

namespace Command

variable {surroundings : Surroundings} {types : List Text} {stages : List Stage}

/-- How many items a list in a file can have. -/
def itemLimit : Nat := 2 * Files.octetLimit + 2

theorem itemLimit_le : itemLimit ≤ 10 ^ Json.integerDigitLimit :=
  calc itemLimit
      = 2 ^ 64 := rfl
    _ ≤ 10 ^ 64 := Nat.pow_le_pow_left (by decide) 64
    _ ≤ 10 ^ Json.integerDigitLimit := Nat.pow_le_pow_right (by decide) (by decide)

theorem readRequest_ok_iff :
    readRequest files location = .ok document ↔
      ∃ s, files.readText location = .ok s ∧ Json.read s = .ok document := by
  cases held : files.readText location with
  | error mishap => cases mishap <;> simp [readRequest, held]
  | ok s =>
      cases read : Json.read s with
      | error fault => cases fault <;> simp [readRequest, held, read]
      | ok value => simp [readRequest, held, read]

theorem readRequest_readable (read : readRequest files location = .ok document) :
    document.Throughout (Document.Readable itemLimit) := by
  obtain ⟨s, held, read⟩ := readRequest_ok_iff.mp read
  have short := Files.readText_length held
  refine (Json.read_readable read).mono fun {part} here => ?_
  cases part with
  | list items =>
      calc items.length
          ≤ 2 * s.length + 2 := here
        _ ≤ itemLimit := by
            unfold itemLimit
            omega
  | _ => exact here

theorem stages_subset {request : BuildRequest} :
    ∀ stage ∈ (if types.isEmpty then request else request.only types).stages,
      stage ∈ request.stages := by
  intro stage member
  split at member
  · exact member
  · exact List.mem_of_mem_filter member

/-- Whatever a plain request renders to, it can be written. -/
theorem renderFile_writable
    (plain : ∀ document, readRequest files location = .ok document → BuildRequest.Plain document)
    (rendered : (renderFile surroundings files location types).result = .ok stages) :
    (Document.list (stages.map Stage.toDocument)).Writable := by
  obtain ⟨request, ⟨document, read, accepted⟩, each⟩ := renderFile_ok_iff.mp rendered
  obtain ⟨context, given⟩ := BuildRequest.writable_of_read (readRequest_readable read)
    itemLimit_le (plain document read) accepted
  exact Catalog.renderBatch_writable context
    (fun stage member => given stage (stages_subset stage member))
    (Catalog.renderBatch_ok_iff.mpr each)

end Command

end ImageStages
