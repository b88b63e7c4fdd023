import AgentDesktop.DrillDown

/-!
# The ref store

Each snapshot has a file with its map. A map is checked before it is written and
after it is read, and a file beyond the size limit is neither written nor read.
The text itself is the business of a JSON library; what is relied on is that a
map that passes its check reads back as it was written.

A map that is there is updated under the lock of the store: it is read again, the
entry the update was prepared for must still be there, and the updated map
replaces the file in one step.
-/

namespace AgentDesktop

/-- **The text of a map**: what the JSON library makes of a map, and of a text. -/
class RefMapFormat [BoundsHasher] where
  Text : Type
  /-- The length of a text in bytes. -/
  length : Text → ℕ
  /-- `serde_json::to_string`. -/
  toText : RefMap → Text
  /-- `serde_json::from_slice`. -/
  fromText : Text → Except AppError RefMap
  /-- A map that passes its check reads back. -/
  fromText_toText : ∀ map : RefMap, map.validate = .ok () → fromText (toText map) = .ok map

/-- `MAX_REFMAP_BYTES`. -/
def maxRefmapBytes : ℕ := 1048576

section

variable [BoundsHasher] [RefMapFormat]

/-- The file of a snapshot: its text, where there is one. -/
abbrev SnapshotFile : Type := Option RefMapFormat.Text

/-! ## Writing -/

omit [BoundsHasher] [RefMapFormat] in
/-- The error for a map that is too large. -/
def sizeLimitError : AppError :=
  .adapter ((AdapterError.internal "RefMap exceeds 1MB size limit on write").withSuggestion
    ("Narrow the observation: snapshot with --skeleton, --max-depth, or --root @ref, " ++
      "or use find with a tighter query or --limit"))

/-- `serialize_with_size_check`. -/
def RefMap.serializeWithSizeCheck (map : RefMap) : Except AppError RefMapFormat.Text := do
  map.validate
  if maxRefmapBytes < RefMapFormat.length (RefMapFormat.toText map) then throw sizeLimitError
  return RefMapFormat.toText map

/-! ## Reading -/

/-- `read_private_bounded`, of a file that is there and readable. -/
def readPrivateBounded (text : RefMapFormat.Text) : Except AppError RefMapFormat.Text :=
  if maxRefmapBytes < RefMapFormat.length text then .error (.io "file exceeds its read limit")
  else .ok text

/-- `read_snapshot_if_present`. -/
def readSnapshotIfPresent (file : SnapshotFile) : Except AppError (Option RefMap) :=
  match file with
  | none => .ok none
  | some text => do
    let json ← readPrivateBounded text
    let refmap ← RefMapFormat.fromText json
    refmap.validate
    return some refmap

/-- `load_snapshot`. -/
def loadSnapshot (snapshotId : String) (file : SnapshotFile) : Except AppError RefMap := do
  match ← readSnapshotIfPresent file with
  | some refmap => return refmap
  | none => throw (.adapter (.snapshotNotFound snapshotId))

/-! ## Replacing the file -/

/-- How the write of a file ends: it may fail before the new text replaces the file, and after
that, when the file is looked at once more and its directory is synced. -/
inductive WriteOutcome
  /-- The file was replaced. -/
  | replaced
  /-- The file was not touched. -/
  | failedBefore (error : AppError)
  /-- The file was replaced, and the write failed then. -/
  | failedAfter (error : AppError)

/-- `write_private_file`. -/
def writePrivateFile (outcome : WriteOutcome) (text : RefMapFormat.Text) (file : SnapshotFile) :
    SnapshotFile × Except AppError Unit :=
  match outcome with
  | .replaced => (some text, .ok ())
  | .failedBefore error => (file, .error error)
  | .failedAfter error => (some text, .error error)

/-- `save_snapshot`. -/
def saveSnapshot (outcome : WriteOutcome) (map : RefMap) (file : SnapshotFile) :
    SnapshotFile × Except AppError Unit :=
  match map.serializeWithSizeCheck with
  | .error error => (file, .error error)
  | .ok json => writePrivateFile outcome json file

/-! ## Updating -/

/-- `update_existing_snapshot` under the lock: the map is read, the entry expected must be
there, the map is updated and becomes the text that replaces the file. -/
def updateExistingSnapshot {α : Type} (snapshotId expectedRefId : String)
    (expectedEntry : RefEntry) (update : RefMap → Except AppError (α × RefMap))
    (file : SnapshotFile) : Except AppError ((α × RefMap) × RefMapFormat.Text) := do
  let current ← loadSnapshot snapshotId file
  if current.get expectedRefId != some expectedEntry then throw (.staleRef expectedRefId)
  let (value, current) ← update current
  let json ← current.serializeWithSizeCheck
  return ((value, current), json)

/-! ## What is written is read -/

theorem serializeWithSizeCheck_eq_ok {map : RefMap} {text : RefMapFormat.Text}
    (h : map.serializeWithSizeCheck = .ok text) :
    map.validate = .ok () ∧ RefMapFormat.length text ≤ maxRefmapBytes
      ∧ text = RefMapFormat.toText map := by
  unfold RefMap.serializeWithSizeCheck at h
  obtain ⟨_, hvalidate, h⟩ := Except.bind_eq_ok_iff.mp h
  split_ifs at h with hsize
  · obtain ⟨_, hthrow, -⟩ := Except.bind_eq_ok_iff.mp h
    cases hthrow
  · obtain rfl := Except.pure_eq_ok_iff.mp h
    exact ⟨hvalidate, Nat.not_lt.mp hsize, rfl⟩

theorem serializeWithSizeCheck_of_ok {map : RefMap} (hvalidate : map.validate = .ok ())
    (hsize : RefMapFormat.length (RefMapFormat.toText map) ≤ maxRefmapBytes) :
    map.serializeWithSizeCheck = .ok (RefMapFormat.toText map) :=
  Except.bind_eq_ok_iff.mpr ⟨(), hvalidate, if_neg (Nat.not_lt.mpr hsize)⟩

/-- **What was written is read as it was.** -/
theorem loadSnapshot_of_serialize (snapshotId : String) {map : RefMap}
    {text : RefMapFormat.Text} (h : map.serializeWithSizeCheck = .ok text) :
    loadSnapshot snapshotId (some text) = .ok map := by
  obtain ⟨hvalidate, hsize, rfl⟩ := serializeWithSizeCheck_eq_ok h
  have hread : readPrivateBounded (RefMapFormat.toText map) = .ok (RefMapFormat.toText map) :=
    if_neg (Nat.not_lt.mpr hsize)
  refine Except.bind_eq_ok_iff.mpr ⟨some map, ?_, rfl⟩
  refine Except.bind_eq_ok_iff.mpr ⟨_, hread, ?_⟩
  refine Except.bind_eq_ok_iff.mpr ⟨map, RefMapFormat.fromText_toText map hvalidate, ?_⟩
  exact Except.bind_eq_ok_iff.mpr ⟨(), hvalidate, rfl⟩

theorem saveSnapshot_cases (outcome : WriteOutcome) (map : RefMap) (file : SnapshotFile) :
    (saveSnapshot outcome map file).1 = file
      ∨ ∃ text, map.serializeWithSizeCheck = .ok text
        ∧ (saveSnapshot outcome map file).1 = some text := by
  unfold saveSnapshot
  cases hjson : map.serializeWithSizeCheck with
  | error error => exact Or.inl rfl
  | ok json =>
    cases outcome with
    | replaced => exact Or.inr ⟨json, rfl, rfl⟩
    | failedBefore error => exact Or.inl rfl
    | failedAfter error => exact Or.inr ⟨json, rfl, rfl⟩

theorem validate_of_loadSnapshot {snapshotId : String} {file : SnapshotFile} {map : RefMap}
    (h : loadSnapshot snapshotId file = .ok map) : map.validate = .ok () := by
  unfold loadSnapshot readSnapshotIfPresent at h
  cases file with
  | none => cases h
  | some text =>
    obtain ⟨found, hfound, h⟩ := Except.bind_eq_ok_iff.mp h
    obtain ⟨json, -, hfound⟩ := Except.bind_eq_ok_iff.mp hfound
    obtain ⟨refmap, -, hfound⟩ := Except.bind_eq_ok_iff.mp hfound
    obtain ⟨_, hvalidate, hfound⟩ := Except.bind_eq_ok_iff.mp hfound
    obtain rfl := Except.pure_eq_ok_iff.mp hfound
    obtain rfl := Except.pure_eq_ok_iff.mp h
    exact hvalidate

theorem updateExistingSnapshot_eq_ok {α : Type} {snapshotId expectedRefId : String}
    {expectedEntry : RefEntry} {update : RefMap → Except AppError (α × RefMap)}
    {file : SnapshotFile} {answer : α × RefMap} {text : RefMapFormat.Text}
    (h : updateExistingSnapshot snapshotId expectedRefId expectedEntry update file
      = .ok (answer, text)) :
    ∃ current, loadSnapshot snapshotId file = .ok current
      ∧ current.get expectedRefId = some expectedEntry ∧ update current = .ok answer
      ∧ answer.2.serializeWithSizeCheck = .ok text := by
  obtain ⟨current, hload, h⟩ := Except.bind_eq_ok_iff.mp h
  split_ifs at h with hexpected
  · obtain ⟨_, hthrow, -⟩ := Except.bind_eq_ok_iff.mp h
    cases hthrow
  · obtain ⟨⟨value, updated⟩, hupdate, h⟩ := Except.bind_eq_ok_iff.mp h
    obtain ⟨json, hjson, h⟩ := Except.bind_eq_ok_iff.mp h
    cases h
    exact ⟨current, hload, by simpa using hexpected, hupdate, hjson⟩

theorem updateExistingSnapshot_of_ok {α : Type} {snapshotId expectedRefId : String}
    {expectedEntry : RefEntry} {update : RefMap → Except AppError (α × RefMap)}
    {file : SnapshotFile} {current : RefMap} {answer : α × RefMap} {text : RefMapFormat.Text}
    (hload : loadSnapshot snapshotId file = .ok current)
    (hget : current.get expectedRefId = some expectedEntry)
    (hupdate : update current = .ok answer)
    (hjson : answer.2.serializeWithSizeCheck = .ok text) :
    updateExistingSnapshot snapshotId expectedRefId expectedEntry update file
      = .ok (answer, text) := by
  have heq : ¬ (current.get expectedRefId != some expectedEntry) = true := by
    rw [hget, bne_self_eq_false]
    exact Bool.false_ne_true
  refine Except.bind_eq_ok_iff.mpr ⟨current, hload, (if_neg heq).trans ?_⟩
  refine Except.bind_eq_ok_iff.mpr ⟨answer, hupdate, ?_⟩
  exact Except.bind_eq_ok_iff.mpr ⟨text, hjson, rfl⟩

/-- **An update prepared for an entry that is not there any more** reports a stale ref. -/
theorem updateExistingSnapshot_of_stale {α : Type} {snapshotId expectedRefId : String}
    {expectedEntry : RefEntry} (update : RefMap → Except AppError (α × RefMap))
    {file : SnapshotFile} {current : RefMap} (hload : loadSnapshot snapshotId file = .ok current)
    (hstale : current.get expectedRefId ≠ some expectedEntry) :
    updateExistingSnapshot snapshotId expectedRefId expectedEntry update file
      = .error (.staleRef expectedRefId) := by
  have hne : (current.get expectedRefId != some expectedEntry) = true := bne_iff_ne.mpr hstale
  unfold updateExistingSnapshot
  rw [hload]
  exact if_pos hne

end

namespace Sample

/-- A format that keeps the map as it is, at some six hundred bytes for an entry. -/
@[reducible] def mapFormat : @RefMapFormat noBoundsHash :=
  letI := noBoundsHash
  { Text := RefMap
    length := fun map => 24 + 600 * map.inner.entries.length
    toText := id
    fromText := .ok
    fromText_toText := fun _ _ => rfl }

end Sample

end AgentDesktop
