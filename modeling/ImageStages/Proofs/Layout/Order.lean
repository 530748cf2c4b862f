import Mathlib.Data.List.Lex
import Mathlib.Data.List.Perm.Basic
import Mathlib.Data.String.Basic
import ImageStages.Proofs.Layout.Devices

namespace ImageStages.Layout

section Sorting

variable {values others : List α} {le : α → α → Bool} {chosen : α → Bool}

/-- Values that may stand in either order keep the order they had. -/
theorem filter_mergeSort
    (trans : ∀ first second third, le first second → le second third → le first third)
    (total : ∀ first second, le first second || le second first)
    (tied : ∀ first second, chosen first → chosen second → le first second) :
    (values.mergeSort le).filter chosen = values.filter chosen := by
  have among : (values.filter chosen).Pairwise fun first second => le first second := by
    apply List.pairwise_of_forall_mem_list
    intro first member second present
    exact tied first second (List.mem_filter.mp member).2 (List.mem_filter.mp present).2
  -- A stable sort keeps the chosen values as a sublist, and no more of them are there.
  have kept := (List.sublist_mergeSort trans total among List.filter_sublist).filter chosen
  have counted := ((List.mergeSort_perm values le).filter chosen).length_eq
  rw [List.filter_filter] at kept
  simp only [Bool.and_self] at kept
  exact (kept.eq_of_length counted.symm).symm

/-- Where no two values may stand in either order, sorting forgets the order before. -/
theorem mergeSort_eq_of_perm
    (trans : ∀ first second third, le first second → le second third → le first third)
    (total : ∀ first second, le first second || le second first)
    (untied : ∀ first ∈ values, ∀ second ∈ values, le first second → le second first →
      first = second)
    (rearranged : others.Perm values) : others.mergeSort le = values.mergeSort le := by
  have sortsOthers := List.mergeSort_perm others le
  have sortsValues := List.mergeSort_perm values le
  apply List.Perm.eq_of_pairwise _ (List.pairwise_mergeSort trans total others)
    (List.pairwise_mergeSort trans total values)
    ((sortsOthers.trans rearranged).trans sortsValues.symm)
  intro first second member present
  have known := rearranged.mem_iff.mp (sortsOthers.mem_iff.mp member)
  exact untied first known second (sortsValues.mem_iff.mp present)

end Sorting

def codePoints (path : Text) : List Nat :=
  path.map CodePoint.toNat

theorem codePoints_injective : Function.Injective codePoints :=
  List.map_injective_iff.mpr (Function.LeftInverse.injective CodePoint.ofNat_toNat)

theorem codePoints_lt_iff {first second : Text} :
    codePoints first < codePoints second ↔ first < second := by
  induction first generalizing second with
  | nil => cases second <;> simp [codePoints]
  | cons c rest ih =>
      cases second with
      | nil => simp [codePoints]
      | cons other others =>
          have same : c.toNat = other.toNat ↔ c = other :=
            (Function.LeftInverse.injective CodePoint.ofNat_toNat).eq_iff
          have remaining : codePoints rest < codePoints others ↔ rest < others := ih
          simp only [codePoints, List.map_cons, List.cons_lt_cons_iff, same] at remaining ⊢
          rw [remaining]
          rfl

/-- The path names something below the directory. -/
def LiesBelow (path directory : Text) : Prop :=
  (directory = "/" ∧ path ≠ "/" ∧ Text.ofString "/" <+: path) ∨
    directory ++ Text.ofString "/" <+: path

theorem lt_append_cons (before after : List Nat) (next : Nat) :
    before < before ++ next :: after := by
  induction before with
  | nil => simp
  | cons head rest ih => simp [ih]

theorem codePoints_lt_of_liesBelow {path directory : Text}
    (below : LiesBelow path directory) : codePoints directory < codePoints path := by
  have extended : ∃ next rest, path = directory ++ next :: rest := by
    rcases below with ⟨rfl, different, rest, split⟩ | ⟨rest, split⟩
    · cases rest with
      | nil => exact absurd (by simpa using split.symm) different
      | cons next rest => exact ⟨next, rest, split.symm⟩
    · exact ⟨.char '/', rest, by rw [← split, List.append_assoc]; rfl⟩
  obtain ⟨next, rest, split⟩ := extended
  rw [codePoints, codePoints, split, List.map_append, List.map_cons]
  exact lt_append_cons _ _ _

section Mounts

variable {left right : Mount} {mounts listed : List Mount}

/-- The order of two mounts in a plan. -/
def precedes (left right : Mount) : Bool :=
  !decide (targetText right < targetText left)

theorem precedes_iff :
    precedes left right = true ↔ codePoints (targetText left) ≤ codePoints (targetText right) := by
  simp [precedes, ← not_lt, codePoints_lt_iff]

theorem precedes_trans (first second third : Mount) (before : precedes first second)
    (after : precedes second third) : precedes first third := by
  rw [precedes_iff] at before after ⊢
  exact before.trans after

theorem precedes_total (first second : Mount) :
    precedes first second || precedes second first := by
  simp only [Bool.or_eq_true, precedes_iff]
  exact le_total _ _

theorem sortMounts_ascending (mounts : List Mount) :
    (sortMounts mounts).Pairwise fun left right =>
      codePoints (targetText left) ≤ codePoints (targetText right) :=
  (List.pairwise_mergeSort precedes_trans precedes_total mounts).imp precedes_iff.mp

/-- Whether the mount is made at the path. -/
def isAt (path : Text) (mount : Mount) : Bool :=
  mount.target.text? == some path

theorem isAt_iff {path : Text} {mount : Mount} :
    isAt path mount = true ↔ mount.target = .text path := by
  rw [isAt, beq_iff_eq, Document.text?_eq_some_iff]

theorem filter_isAt_sortMounts (path : Text) (mounts : List Mount) :
    (sortMounts mounts).filter (isAt path) = mounts.filter (isAt path) := by
  refine filter_mergeSort precedes_trans precedes_total ?_
  intro first second atFirst atSecond
  rw [isAt_iff] at atFirst atSecond
  apply precedes_iff.mpr
  rw [targetText, targetText, atFirst, atSecond]

theorem eq_of_precedes {path other : Text} (atPath : left.target = .text path)
    (atOther : right.target = .text other) (before : precedes left right)
    (after : precedes right left) : left.target = right.target := by
  rw [precedes_iff] at before after
  have tied := codePoints_injective (before.antisymm after)
  rw [targetText, targetText, atPath, atOther] at tied
  rw [atPath, atOther]
  exact congrArg Document.text tied

theorem sortMounts_eq_of_perm (rearranged : listed.Perm mounts)
    (spelled : ∀ mount ∈ mounts, mount.target.IsText)
    (apart : mounts.Pairwise fun left right => left.target ≠ right.target) :
    sortMounts listed = sortMounts mounts := by
  refine mergeSort_eq_of_perm precedes_trans precedes_total ?_ rearranged
  intro first member second present before after
  obtain ⟨path, atPath⟩ := spelled first member
  obtain ⟨other, atOther⟩ := spelled second present
  have unique : (mounts.map (·.target)).Nodup := List.pairwise_map.mpr apart
  exact List.inj_on_of_nodup_map unique member present
    (eq_of_precedes atPath atOther before after)

end Mounts

section Plan

variable {inputName device filename : Document} {table : PartitionTable} {plan : CopyPlan}
  {partition : Partition} {partitions others : List Partition}
  {entry : Partition × Filesystem} {resolved : Resolved} {all : List Resolved} {mount : Mount}

/-- The partition's own mount, named for its mountpoint. -/
def IsMountOf (partition : Partition) (mount : Mount) : Prop :=
  ∃ path, partition.mountpoint = .text path ∧
    partitionMount partition (.text (deviceName path)) = .ok mount

theorem IsMountOf.target (mounts : IsMountOf partition mount) :
    ∃ path, partition.mountpoint = .text path ∧ mount.target = .text path := by
  obtain ⟨path, place, made⟩ := mounts
  refine ⟨path, place, ?_⟩
  cases held : partition.filesystem with
  | none => simp [partitionMount, held] at made
  | some filesystem =>
      simp only [partitionMount, held] at made
      obtain ⟨type, _, rfl⟩ := filesystemMount_ok_iff.mp made
      rw [Partition.mountpoint, held] at place
      exact place

theorem deviceNameOf_ok_iff {mountpoint : Document} {name : Text} :
    deviceNameOf mountpoint = .ok name ↔
      ∃ path, mountpoint = .text path ∧ name = deviceName path := by
  cases mountpoint with
  | scalar scalar => cases scalar <;> simp [deviceNameOf, eq_comm]
  | list items => simp [deviceNameOf]
  | object fields => simp [deviceNameOf]

theorem isMountOf_of_resolve (held : entry.1.filesystem = some entry.2)
    (completed : resolve filename entry = .ok resolved) : IsMountOf entry.1 resolved.mount := by
  simp only [resolve, Outcome.lift_mishap, Except.bind_eq_ok_iff, Except.mapError_eq_ok_iff,
    deviceNameOf_ok_iff, Except.pure_eq_ok, Except.ok.injEq] at completed
  obtain ⟨_, ⟨path, place, rfl⟩, mount, made, rfl⟩ := completed
  refine ⟨path, ?_, ?_⟩
  · simpa [Partition.mountpoint, held] using place
  · simpa [partitionMount, held] using made

theorem map_fst_mountable (partitions : List Partition) :
    (mountable partitions).map (·.1) = partitions.filter (·.filesystem.isSome) := by
  induction partitions with
  | nil => rfl
  | cons partition rest ih =>
      cases held : partition.filesystem <;> simpa [mountable, held] using ih

theorem resolveAll_mounts (completed : resolveAll filename partitions = .ok all) :
    List.Forall₂ IsMountOf (partitions.filter (·.filesystem.isSome)) (all.map (·.mount)) := by
  rw [← map_fst_mountable, List.forall₂_map_left_iff, List.forall₂_map_right_iff]
  have held : ∀ entry ∈ mountable partitions, entry.1.filesystem = some entry.2 := by
    intro entry member
    obtain ⟨partition, _, filesystem, held, rfl⟩ := mem_mountable_iff.mp member
    exact held
  have each := (List.forall₂_and_left _ _).mpr ⟨held, Except.mapM_eq_ok_iff.mp completed⟩
  exact each.imp fun entry resolved known => isMountOf_of_resolve known.1 known.2

theorem resolveAll_targets (completed : resolveAll filename partitions = .ok all) :
    ∀ mount ∈ all.map (·.mount), mount.target.IsText := by
  intro mount member
  obtain ⟨partition, _, made⟩ := exists_related (resolveAll_mounts completed).flip member
  obtain ⟨path, _, atPath⟩ := IsMountOf.target made
  exact ⟨path, atPath⟩

theorem resolveAll_of_perm (rearranged : others.Perm partitions)
    (completed : resolveAll filename partitions = .ok all) :
    ∃ again, resolveAll filename others = .ok again ∧ again.Perm all := by
  have entries : (mountable others).Perm (mountable partitions) := rearranged.filterMap _
  obtain ⟨again, each, same⟩ :=
    List.perm_comp_forall₂ entries (Except.mapM_eq_ok_iff.mp completed)
  exact ⟨again, Except.mapM_eq_ok_iff.mpr each, same⟩

/-- Every partition with a filesystem is mounted once and no other, in the order of the
code points of the targets; what is mounted at one place keeps the order of the table. -/
structure InOrder (table : PartitionTable) (mounts : List Mount) : Prop where
  complete : ∃ listed,
    List.Forall₂ IsMountOf (table.partitions.filter (·.filesystem.isSome)) listed ∧
    mounts.Perm listed ∧ ∀ path, mounts.filter (isAt path) = listed.filter (isAt path)
  ascending : ∃ paths : List Text, mounts.map (·.target) = paths.map .text ∧
    paths.Pairwise fun left right => codePoints left ≤ codePoints right
  parentFirst : ∀ (first second : Nat) (directory path : Text),
    (mounts.map (·.target))[first]? = some (.text directory) →
    (mounts.map (·.target))[second]? = some (.text path) →
    LiesBelow path directory → first < second

theorem first_lt_of_liesBelow {paths : List Text} {first second : Nat}
    {directory path : Text}
    (ascending : paths.Pairwise fun left right => codePoints left ≤ codePoints right)
    (atFirst : paths[first]? = some directory) (atSecond : paths[second]? = some path)
    (below : LiesBelow path directory) : first < second := by
  have less := codePoints_lt_of_liesBelow below
  obtain ⟨firstInside, rfl⟩ := List.getElem?_eq_some_iff.mp atFirst
  obtain ⟨secondInside, rfl⟩ := List.getElem?_eq_some_iff.mp atSecond
  by_contra late
  -- A later place would hold a path that is not smaller, and one place holds one path.
  rcases Nat.lt_or_eq_of_le (Nat.not_lt.mp late) with earlier | same
  · have sorted := List.pairwise_iff_getElem.mp ascending second first secondInside firstInside
      earlier
    exact absurd less (not_lt.mpr sorted)
  · subst same
    exact absurd less (lt_irrefl _)

theorem inOrder_sortMounts (completed : resolveAll filename table.partitions = .ok all) :
    InOrder table (sortMounts (all.map (·.mount))) := by
  have spelled : ∀ mount ∈ sortMounts (all.map (·.mount)),
      mount.target = .text (targetText mount) := by
    intro mount member
    obtain ⟨path, atPath⟩ :=
      resolveAll_targets completed mount ((sortMounts_perm _).mem_iff.mp member)
    rw [targetText, atPath]
    rfl
  have targets : (sortMounts (all.map (·.mount))).map (·.target) =
      ((sortMounts (all.map (·.mount))).map targetText).map .text := by
    rw [List.map_map]
    exact List.map_congr_left spelled
  have sorted : ((sortMounts (all.map (·.mount))).map targetText).Pairwise fun left right =>
      codePoints left ≤ codePoints right :=
    List.pairwise_map.mpr (sortMounts_ascending _)
  refine ⟨⟨_, resolveAll_mounts completed, sortMounts_perm _,
      fun path => filter_isAt_sortMounts path _⟩,
    ⟨_, targets, sorted⟩, ?_⟩
  intro first second directory path atFirst atSecond below
  rw [targets, List.getElem?_map, Option.map_eq_some_iff] at atFirst atSecond
  obtain ⟨_, atFirst, same⟩ := atFirst
  cases same
  obtain ⟨_, atSecond, same⟩ := atSecond
  cases same
  exact first_lt_of_liesBelow sorted atFirst atSecond below

/-- The mounts of a plan are in order, and in no order that depends on the table's where
the mountpoints differ. -/
theorem copyPlan_inOrder (planned : (copyPlan inputName table device).result = .ok plan) :
    InOrder table plan.mounts ∧
    (DistinctMountpoints table → ∀ other : PartitionTable,
      other.partitions.Perm table.partitions →
      ∃ again, (copyPlan inputName other device).result = .ok again ∧
        again.mounts = plan.mounts) := by
  obtain ⟨filename, all, backed, completed, rfl⟩ := copyPlan_ok_iff.mp planned
  refine ⟨inOrder_sortMounts completed, ?_⟩
  intro distinct other rearranged
  obtain ⟨again, completedAgain, same⟩ := resolveAll_of_perm rearranged completed
  refine ⟨_, copyPlan_ok_iff.mpr ⟨filename, again, backed, completedAgain, rfl⟩, ?_⟩
  have targets := targets_of_resolves (resolveAll_resolves completed)
  apply sortMounts_eq_of_perm (same.map _) (resolveAll_targets completed)
  exact List.pairwise_map.mpr ((pairwise_ne_iff_of_map_eq targets).mpr distinct)

end Plan

def partitionAt (place : Text) : Partition :=
  ⟨2048, 1024, .text "", false, .text "", some ⟨.text "xfs", .text "", .text place, .null⟩⟩

/-- A table of partitions that are mounted at the given places. -/
def mountedAt (places : List Text) : PartitionTable :=
  ⟨.text "gpt", .text "", places.map partitionAt⟩

/-- The hyphen comes before the slash, and yet no directory is mounted late. -/
theorem copyPlan_inOrder_hyphened :
    ∃ plan again,
      (copyPlan (.text "tree") (mountedAt ["/boot/efi", "/boot-old", "/", "/boot"])
        (imageFile "disk.img")).result = .ok plan ∧
      InOrder (mountedAt ["/boot/efi", "/boot-old", "/", "/boot"]) plan.mounts ∧
      (copyPlan (.text "tree") (mountedAt ["/boot", "/", "/boot-old", "/boot/efi"])
        (imageFile "disk.img")).result = .ok again ∧ again.mounts = plan.mounts := by
  obtain ⟨plan, planned⟩ : ∃ plan,
      (copyPlan (.text "tree") (mountedAt ["/boot/efi", "/boot-old", "/", "/boot"])
        (imageFile "disk.img")).result = .ok plan :=
    ⟨_, copyPlan_ok_iff.mpr ⟨.text "disk.img", _, rfl, rfl, rfl⟩⟩
  have distinct : DistinctMountpoints (mountedAt ["/boot/efi", "/boot-old", "/", "/boot"]) := by
    simp [DistinctMountpoints, mountable, mountedAt, partitionAt]
  obtain ⟨ordered, independent⟩ := copyPlan_inOrder planned
  have reversed := List.reverse_perm (["/boot/efi", "/boot-old", "/", "/boot"] : List Text)
  obtain ⟨again, plannedAgain, same⟩ := independent distinct
    (mountedAt ["/boot", "/", "/boot-old", "/boot/efi"]) (reversed.map partitionAt)
  exact ⟨plan, again, planned, ordered, plannedAgain, same⟩

end ImageStages.Layout
