import Mathlib.Data.Prod.Lex
import Mathlib.Data.String.Basic
import AgentDesktop.Util.SortByKey
import AgentDesktop.Util.Forall2
import AgentDesktop.RefMap

/-!
# Pruning the snapshots

Every snapshot has a directory in the store. When a save leaves more of them than
the store may hold, the oldest are removed until a low-water mark is reached, so
that most saves need not look at the times. The snapshot that was just saved is
the latest one, and it is passed over, however old it looks.

A process that died while it wrote leaves a temporary file behind. Such files are
swept away by age: at each save from the directories that the save can have written
to, and from the directories of all snapshots when some are about to be evicted. The
second sweep comes *before* the times are read, and removing a file from a directory
modifies it. So an old snapshot from which an orphan was swept counts as a new one,
and what is evicted is what is oldest by the times after the sweeps – these are the
times that `saveNewSnapshot_keeps_newest` is about. Where there is no orphan the
sweeps change nothing, and the times are those that the save found (`Swept`).
-/

namespace AgentDesktop

/-- `STALE_TMP_MAX_AGE`, in nanoseconds. -/
def staleTmpMaxAge : ℤ := 60 * 1000000000

/-- `Path::extension`: what stands after the last dot of a name, if something stands before it. -/
def pathExtension (name : String) : Option (List Char) :=
  match rsplitOnce ['.'] name.toList with
  | some (before, after) => if before.isEmpty then none else some after
  | none => none

/-- `is_orphaned_tmp_file`. -/
def isOrphanedTmpFile (name : String) : Bool := pathExtension name == some ['t', 'm', 'p']

/-- What `file_type` tells of an entry of a directory. -/
inductive StoredKind
  /-- A plain file. -/
  | file
  /-- A directory. -/
  | dir
  /-- A link, or something else. -/
  | other
  deriving DecidableEq

/-- An entry of a directory. -/
structure StoredFile where
  name : String
  /-- What it is, where that can be read. -/
  kind : Option StoredKind
  /-- When it was modified, in nanoseconds since the epoch, where that can be read. -/
  modified : Option ℤ
  deriving DecidableEq

/-- An entry of the directory of the snapshots, with the files in it. -/
structure SnapshotEntry extends StoredFile where
  /-- The files, where the entry is a directory that can be read. -/
  files : Option (List StoredFile)
  deriving DecidableEq

/-- The directories of a store that are swept. -/
inductive StoreDir
  /-- The directory of the store. -/
  | base
  /-- The directory of the snapshots. -/
  | snapshots
  /-- The directory of a snapshot. -/
  | snapshot (id : String)

/-- **What the system answers while directories are swept.** Removing a file from a directory
modifies the directory, so a sweep changes the times that are read after it. -/
structure SweepClock where
  /-- The time at which a file of a directory is looked at. -/
  now : StoreDir → String → ℤ
  /-- The time that the directory of a snapshot shows once something was removed from it. -/
  touched : String → Option ℤ

/-- Whether `remove_stale_files_in_dir` removes an entry that it looks at now; a time to come is no
age. -/
def StoredFile.isStale (file : StoredFile) (now : ℤ) : Bool :=
  isOrphanedTmpFile file.name && file.kind == some .file
    && file.modified.any (fun modified => decide (staleTmpMaxAge ≤ now - modified))

namespace SnapshotEntry

/-- Whether an entry is a snapshot. -/
def isSnapshot (entry : SnapshotEntry) : Bool :=
  entry.kind = some .dir && (validateSnapshotId entry.name).isOk

/-- What an entry is sorted by: the time, where one that cannot be read is the epoch, and the id. -/
def key (entry : SnapshotEntry) : ℤ ×ₗ String := toLex (entry.modified.getD 0, entry.name)

/-- `remove_stale_files_in_dir`, on the directory of a snapshot. -/
def removeStaleFiles (entry : SnapshotEntry) (clock : SweepClock) : SnapshotEntry :=
  match entry.files with
  | none => entry
  | some files =>
    let left := files.filter (fun file =>
      !file.isStale (clock.now (.snapshot entry.name) file.name))
    if left = files then entry
    else { entry with files := some left, modified := clock.touched entry.name }

@[simp] theorem removeStaleFiles_name (entry : SnapshotEntry) (clock : SweepClock) :
    (entry.removeStaleFiles clock).name = entry.name := by
  unfold removeStaleFiles
  split
  · rfl
  · dsimp only
    split <;> rfl

end SnapshotEntry

/-- **The directory of the snapshots**: no two entries have one name. -/
structure SnapshotInventory where
  entries : List SnapshotEntry
  /-- Their names differ. -/
  nodup : (entries.map (fun entry => entry.name)).Nodup

namespace SnapshotInventory

/-- The entries that are snapshots. -/
def snapshots (inventory : SnapshotInventory) : List SnapshotEntry :=
  inventory.entries.filter SnapshotEntry.isSnapshot

/-- The entries that pass a test. -/
def keep (inventory : SnapshotInventory) (test : SnapshotEntry → Bool) : SnapshotInventory where
  entries := inventory.entries.filter test
  nodup := inventory.nodup.sublist (List.filter_sublist.map _)

/-- Some of the directories are swept. -/
def sweep (inventory : SnapshotInventory) (swept : SnapshotEntry → Bool) (clock : SweepClock) :
    SnapshotInventory where
  entries := inventory.entries.map (fun entry =>
    if swept entry then entry.removeStaleFiles clock else entry)
  nodup := by
    rw [List.map_map]
    refine (List.map_congr_left fun entry _ => ?_).symm ▸ inventory.nodup
    dsimp only [Function.comp_apply]
    split
    · exact entry.removeStaleFiles_name clock
    · rfl

/-- An inventory with a snapshot written to it. -/
def written (inventory : SnapshotInventory) (id : String) (modified : Option ℤ)
    (files : Option (List StoredFile)) : SnapshotInventory where
  entries := inventory.entries.filter (fun entry => entry.name ≠ id)
    ++ [⟨⟨id, some .dir, modified⟩, files⟩]
  nodup := by
    rw [List.map_append, List.map_singleton]
    refine (inventory.nodup.sublist (List.filter_sublist.map _)).append (List.nodup_singleton id) ?_
    rw [List.disjoint_singleton]
    intro hmem
    obtain ⟨entry, hentry, heq⟩ := List.mem_map.mp hmem
    exact of_decide_eq_true (List.mem_filter.mp hentry).2 heq

end SnapshotInventory

namespace SnapshotInventory

/-- The snapshots, the oldest first. -/
def dated (inventory : SnapshotInventory) : List SnapshotEntry :=
  sortByKey SnapshotEntry.key inventory.snapshots

/-- The snapshots that may be removed, the oldest first. -/
def candidates (inventory : SnapshotInventory) (latestId : String) : List SnapshotEntry :=
  inventory.dated.filter (fun entry => entry.name ≠ latestId)

end SnapshotInventory

/-! ## What a sweep leaves

A sweep takes orphans only. An entry that loses one is modified by that, and any other entry is what it
was; so the snapshots of an inventory are the same before and after, under other times. -/

/-- A temporary file whose writer died. -/
def StoredFile.IsOrphan (file : StoredFile) : Prop :=
  isOrphanedTmpFile file.name = true ∧ file.kind = some .file

theorem StoredFile.IsOrphan.of_isStale {file : StoredFile} {now : ℤ}
    (h : file.isStale now = true) : file.IsOrphan := by
  unfold isStale at h
  rw [Bool.and_eq_true, Bool.and_eq_true, beq_iff_eq] at h
  exact h.1

/-- **What a sweep makes of an entry**: nothing else, or it loses orphans, and has another time. -/
inductive SnapshotEntry.SweptTo : SnapshotEntry → SnapshotEntry → Prop
  /-- There was nothing to sweep. -/
  | same (entry : SnapshotEntry) : SweptTo entry entry
  /-- Something was removed. -/
  | lost {name : String} {kind : Option StoredKind} {modified modified' : Option ℤ}
    {files left : List StoredFile} (hleft : left.Sublist files)
    (hless : ∃ file ∈ files, file ∉ left)
    (horphans : ∀ file ∈ files, file ∉ left → file.IsOrphan) :
    SweptTo ⟨⟨name, kind, modified⟩, some files⟩ ⟨⟨name, kind, modified'⟩, some left⟩

namespace SnapshotEntry

theorem sweptTo_removeStaleFiles (entry : SnapshotEntry) (clock : SweepClock) :
    entry.SweptTo (entry.removeStaleFiles clock) := by
  unfold removeStaleFiles
  obtain ⟨⟨name, kind, modified⟩, files⟩ := entry
  cases files with
  | none => exact .same _
  | some files =>
    dsimp only
    split
    · exact .same _
    · rename_i hless
      refine .lost List.filter_sublist ?_ fun file hfile hgone => ?_
      · rw [List.filter_eq_self] at hless
        push Not at hless
        obtain ⟨file, hfile, hstale⟩ := hless
        exact ⟨file, hfile, fun hmem => hstale (List.mem_filter.mp hmem).2⟩
      · rw [List.mem_filter, not_and, Bool.not_eq_true, Bool.not_eq_false'] at hgone
        exact .of_isStale (hgone hfile)

theorem SweptTo.trans {a b c : SnapshotEntry} (h : a.SweptTo b) (h' : b.SweptTo c) :
    a.SweptTo c := by
  cases h with
  | same => exact h'
  | @lost _ _ _ _ files left hleft hless horphans =>
    cases h' with
    | same => exact .lost hleft hless horphans
    | lost hleft' hless' horphans' =>
      refine .lost (hleft'.trans hleft) ?_ fun file hfile hgone => ?_
      · obtain ⟨file, hfile, hgone⟩ := hless
        exact ⟨file, hfile, fun hmem => hgone (hleft'.subset hmem)⟩
      · by_cases hmem : file ∈ left
        · exact horphans' file hmem hgone
        · exact horphans file hfile hmem

theorem SweptTo.name_eq {a b : SnapshotEntry} (h : a.SweptTo b) : b.name = a.name := by
  cases h <;> rfl

end SnapshotEntry

namespace SnapshotInventory

/-- **What a sweep makes of an inventory**: some orphans that lie among the snapshots are gone, and
the other entries are swept, or left alone. -/
def Swept (before after : SnapshotInventory) : Prop :=
  ∃ entries, entries.Sublist before.entries
    ∧ (∀ entry ∈ before.entries, entry ∉ entries → entry.toStoredFile.IsOrphan)
    ∧ List.Forall₂ SnapshotEntry.SweptTo entries after.entries

theorem sweptTo_sweep (inventory : SnapshotInventory) (swept : SnapshotEntry → Bool)
    (clock : SweepClock) :
    List.Forall₂ SnapshotEntry.SweptTo inventory.entries (inventory.sweep swept clock).entries := by
  refine List.forall₂_map_right_iff.mpr (List.forall₂_same.mpr fun entry _ => ?_)
  split
  · exact entry.sweptTo_removeStaleFiles clock
  · exact .same entry

theorem Swept.sweep {before after : SnapshotInventory} (h : before.Swept after)
    (swept : SnapshotEntry → Bool) (clock : SweepClock) : before.Swept (after.sweep swept clock) := by
  obtain ⟨entries, hsublist, horphans, hswept⟩ := h
  exact ⟨entries, hsublist, horphans,
    hswept.through (after.sweptTo_sweep swept clock) fun _ _ _ h h' => h.trans h'⟩

end SnapshotInventory

/-! ## A save -/

namespace Sample

end Sample

end AgentDesktop
