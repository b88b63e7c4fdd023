import AgentDesktop.RefStore

/-!
# What an id has denoted

A map is worked on in memory and kept in a file: refs are allocated, the refs of a
drill-down removed, the map is saved, and it is read again. Throughout, the counter
is at least every id. Once a map has been saved, an id in it can later denote that
entry only, in the file and in memory: a removal does not move the counter back, and
neither does reading the map again, since the counter was saved with the ids.

For an id that was allocated in memory and not yet saved this holds up to the next
time the map is read. Reading takes the counter back to the one that was saved, and
the id is given out again.
-/

namespace AgentDesktop

/-- The map of a snapshot, in memory and in its file. -/
structure StoredMap [BoundsHasher] [RefMapFormat] where
  memory : RefMap
  file : SnapshotFile

/-- What is done to the map. -/
inductive RefMapOp
  /-- `try_allocate`. -/
  | allocate (entry : RefEntry)
  /-- `try_allocate_observed`. -/
  | allocateObserved (entry : RefEntry)
  | removeByRootRef (root : String)
  /-- `save_snapshot`. -/
  | save (outcome : WriteOutcome)
  /-- `load_snapshot`. -/
  | reload

/-- A map is read again. -/
def RefMapOp.isReload : RefMapOp → Bool
  | .reload => true
  | _ => false

/-- A save that fails when the file has been replaced. -/
def RefMapOp.failsAfterReplacing : RefMapOp → Bool
  | .save (.failedAfter _) => true
  | _ => false

section

variable [BoundsHasher] [RefMapFormat]

namespace StoredMap

/-- A new snapshot: an empty map, and no file. -/
def fresh : StoredMap := ⟨.new, none⟩

/-- The outcome of an operation on the map in memory. -/
def update (stored : StoredMap) (result : Except AppError (Option String × RefMap)) :
    StoredMap × Except AppError (Option String) :=
  match result with
  | .error error => (stored, .error error)
  | .ok (refId, memory) => ({ stored with memory := memory }, .ok refId)

/-- One operation: the map and the file after it, and what it returns. -/
def apply (snapshotId : String) (stored : StoredMap) :
    RefMapOp → StoredMap × Except AppError (Option String)
  | .allocate entry =>
    stored.update ((stored.memory.tryAllocate entry).map (fun result => (some result.1, result.2)))
  | .allocateObserved entry => stored.update (allocateObservedRef stored.memory entry)
  | .removeByRootRef root => stored.update (.ok (none, stored.memory.removeByRootRef root))
  | .save outcome =>
    let (file, result) := saveSnapshot outcome stored.memory stored.file
    ({ stored with file := file }, result.map (fun _ => none))
  | .reload =>
    stored.update ((loadSnapshot snapshotId stored.file).map (fun memory => (none, memory)))

/-- A sequence of operations. -/
def run (snapshotId : String) (stored : StoredMap) (ops : List RefMapOp) : StoredMap :=
  ops.foldl (fun stored op => (stored.apply snapshotId op).1) stored

/-- An id is bound in the file. -/
def Persists (snapshotId : String) (stored : StoredMap) (refId : String) (entry : RefEntry) :
    Prop :=
  ∃ map, loadSnapshot snapshotId stored.file = .ok map ∧ map.get refId = some entry

/-- **An id denotes one entry only**, in memory and in the file, where it denotes any. -/
structure DenotesOnly (snapshotId : String) (stored : StoredMap) (refId : String)
    (entry : RefEntry) : Prop where
  memory : ∀ other, stored.memory.get refId = some other → other = entry
  file : ∀ other, stored.Persists snapshotId refId other → other = entry

end StoredMap

/-! ## An id that is settled

Until a map is read again, its counter only grows, and an id that it has passed is not given out any
more. The map may lose entries, and an id that has lost its entry denotes nothing from there on. -/

/-- **A settled id**: the counter has passed it, and it denotes the entry or nothing. -/
structure RefMap.Settled (map : RefMap) (refId : String) (entry : RefEntry) : Prop where
  /-- The counter has passed it. -/
  passed : ∃ number, refId = refIdOf number ∧ number ≤ map.counter
  /-- It denotes nothing else. -/
  only : ∀ other, map.get refId = some other → other = entry

omit [BoundsHasher] [RefMapFormat] in
theorem RefMap.Numbered.settled {map : RefMap} (h : map.Numbered) {refId : String}
    {entry : RefEntry} (hget : map.get refId = some entry) : map.Settled refId entry := by
  obtain ⟨number, rfl, -, hle⟩ := h refId entry hget
  refine ⟨⟨number, rfl, hle⟩, fun other hother => ?_⟩
  rw [hget, Option.some.injEq] at hother
  exact hother.symm

omit [BoundsHasher] [RefMapFormat] in
/-- **Growing keeps an id settled**: what is new has a number past the counter. -/
theorem RefMap.Settled.extends {Kind : RefEntry → Prop} {map map' : RefMap} {refId : String}
    {entry : RefEntry} (h : map.Settled refId entry) (hextends : map.Extends Kind map') :
    map'.Settled refId entry := by
  obtain ⟨number, rfl, hle⟩ := h.passed
  refine ⟨⟨number, rfl, hle.trans hextends.counter_le⟩, fun other hother => ?_⟩
  rcases hextends.fresh _ _ hother with hold | ⟨-, fresh, hfresh, hlt, -⟩
  · exact h.only other hold
  · rw [refIdOf_injective hfresh] at hle
    exact absurd hlt (Nat.not_lt.mpr hle)

omit [BoundsHasher] [RefMapFormat] in
/-- **A removal keeps an id settled**: the counter stays. -/
theorem RefMap.Settled.removeByRootRef {map : RefMap} {refId : String} {entry : RefEntry}
    (h : map.Settled refId entry) (root : String) :
    (map.removeByRootRef root).Settled refId entry :=
  ⟨h.passed, fun other hother => h.only other (RefMap.get_of_get_removeByRootRef hother)⟩

omit [BoundsHasher] [RefMapFormat] in
theorem RefMap.allocateValidated_of_exhausted {map : RefMap} (h : map.counter = u32Max)
    (entry : RefEntry) : map.allocateValidated entry
      = .error (.invalidInput "RefMap exhausted its identifier space") := by
  have hnot : ¬ map.counter < u32Max := by rw [h]; exact lt_irrefl _
  exact if_neg hnot

/-! ## What one operation does

The map in memory and the one in the file may differ, and every operation changes one of them, or
makes them equal. What follows uses these five cases, and not the operations. -/

namespace StoredMap

variable {snapshotId : String} {stored : StoredMap}

/-- **What an operation can do**: nothing; grow the map in memory; remove from it; put it in the
file; or read it from there. -/
theorem apply_cases (hmemory : stored.memory.Numbered) (op : RefMapOp) :
    (stored.apply snapshotId op).1 = stored
    ∨ (∃ map, stored.memory.Extends (fun _ => True) map
      ∧ (stored.apply snapshotId op).1 = ⟨map, stored.file⟩)
    ∨ (∃ root, (stored.apply snapshotId op).1
      = ⟨stored.memory.removeByRootRef root, stored.file⟩)
    ∨ (∃ text, stored.memory.serializeWithSizeCheck = .ok text
      ∧ (stored.apply snapshotId op).1 = ⟨stored.memory, some text⟩)
    ∨ (op.isReload = true ∧ ∃ map, loadSnapshot snapshotId stored.file = .ok map
      ∧ (stored.apply snapshotId op).1 = ⟨map, stored.file⟩) := by
  cases op with
  | allocate entry =>
    cases hallocate : stored.memory.tryAllocate entry with
    | error error => exact Or.inl (by rw [apply, hallocate]; rfl)
    | ok result =>
      refine Or.inr (Or.inl ⟨result.2, ?_, by rw [apply, hallocate]; rfl⟩)
      exact RefMap.tryAllocate_extends hmemory trivial hallocate
  | allocateObserved entry =>
    cases hallocate : allocateObservedRef stored.memory entry with
    | error error => exact Or.inl (by rw [apply, hallocate]; rfl)
    | ok result =>
      refine Or.inr (Or.inl ⟨result.2, ?_, by rw [apply, hallocate]; rfl⟩)
      exact allocateObservedRef_extends hmemory trivial hallocate
  | removeByRootRef root => exact Or.inr (Or.inr (Or.inl ⟨root, rfl⟩))
  | save outcome =>
    rcases saveSnapshot_cases outcome stored.memory stored.file with hfile | ⟨text, hjson, hfile⟩
    · exact Or.inl (congrArg (StoredMap.mk stored.memory) hfile)
    · refine Or.inr (Or.inr (Or.inr (Or.inl ⟨text, hjson, ?_⟩)))
      exact congrArg (StoredMap.mk stored.memory) hfile
  | reload =>
    cases hload : loadSnapshot snapshotId stored.file with
    | error error => exact Or.inl (by rw [apply, hload]; rfl)
    | ok map =>
      exact Or.inr (Or.inr (Or.inr (Or.inr ⟨rfl, map, rfl, by rw [apply, hload]; rfl⟩)))

/-! ## The invariant -/

/-- **The map in memory is ahead of its file**: its counter has passed that of the file, and
what it binds is bound in the file or was given out since. -/
structure Ahead (snapshotId : String) (stored : StoredMap) : Prop where
  /-- The counter in memory has passed every id. -/
  numbered : stored.memory.Numbered
  /-- It has passed the counter in the file. -/
  counter_le : ∀ map, loadSnapshot snapshotId stored.file = .ok map →
    map.counter ≤ stored.memory.counter
  /-- What is bound in memory. -/
  bound : ∀ map, loadSnapshot snapshotId stored.file = .ok map →
    ∀ refId entry, stored.memory.get refId = some entry → map.get refId = some entry
      ∨ ∃ number, refId = refIdOf number ∧ map.counter < number

theorem ahead_fresh (snapshotId : String) : fresh.Ahead snapshotId :=
  ⟨RefMap.numbered_new, fun _ h => (by cases h), fun _ h => (by cases h)⟩

theorem numbered_of_load {map : RefMap} {file : SnapshotFile}
    (h : loadSnapshot snapshotId file = .ok map) : map.Numbered :=
  (RefMap.numbered_of_validate (validate_of_loadSnapshot h)).1

theorem ahead_of_load {map : RefMap} {file : SnapshotFile}
    (h : loadSnapshot snapshotId file = .ok map) : Ahead snapshotId ⟨map, file⟩ := by
  have hsame : ∀ map', loadSnapshot snapshotId file = .ok map' → map' = map := by
    intro map' hmap'
    rw [h] at hmap'
    cases hmap'
    rfl
  refine ⟨numbered_of_load h, fun map' hmap' => ?_,
    fun map' hmap' refId entry hget => ?_⟩
  · rw [hsame map' hmap']
  · exact Or.inl (hsame map' hmap' ▸ hget)

theorem Ahead.apply (h : stored.Ahead snapshotId) (op : RefMapOp) :
    (stored.apply snapshotId op).1.Ahead snapshotId := by
  rcases stored.apply_cases h.numbered op with hsame | ⟨map, hextends, happly⟩ | ⟨root, happly⟩
    | ⟨text, hjson, happly⟩ | ⟨-, map, hload, happly⟩
  · rwa [hsame]
  · rw [happly]
    refine ⟨hextends.numbered h.numbered,
      fun saved hsaved => (h.counter_le saved hsaved).trans hextends.counter_le,
      fun saved hsaved refId entry hget => ?_⟩
    rcases hextends.fresh refId entry hget with hold | ⟨-, number, hnumber, hlt, -⟩
    · exact h.bound saved hsaved refId entry hold
    · exact Or.inr ⟨number, hnumber, (h.counter_le saved hsaved).trans_lt hlt⟩
  · rw [happly]
    exact ⟨h.numbered.removeByRootRef root, h.counter_le, fun saved hsaved refId entry hget =>
      h.bound saved hsaved refId entry (RefMap.get_of_get_removeByRootRef hget)⟩
  · rw [happly]
    exact ahead_of_load (loadSnapshot_of_serialize snapshotId hjson)
  · rw [happly]
    exact ahead_of_load hload

theorem Ahead.run (h : stored.Ahead snapshotId) (ops : List RefMapOp) :
    (stored.run snapshotId ops).Ahead snapshotId := by
  induction ops generalizing stored with
  | nil => exact h
  | cons op rest ih => exact ih (h.apply op)

/-! ## What an id denotes later -/

theorem Ahead.settled_of_load (h : stored.Ahead snapshotId) {map : RefMap} {refId : String}
    {entry : RefEntry} (hload : loadSnapshot snapshotId stored.file = .ok map)
    (hget : map.get refId = some entry) : stored.memory.Settled refId entry := by
  have hmap := numbered_of_load hload
  obtain ⟨number, rfl, -, hle⟩ := hmap refId entry hget
  refine ⟨⟨number, rfl, hle.trans (h.counter_le map hload)⟩, fun other hother => ?_⟩
  rcases h.bound map hload _ other hother with hbound | ⟨fresh, hfresh, hlt⟩
  · exact (hmap.settled hget).only other hbound
  · rw [refIdOf_injective hfresh] at hle
    exact absurd hlt (Nat.not_lt.mpr hle)

theorem Ahead.file_only (h : stored.Ahead snapshotId) {refId : String} {entry : RefEntry}
    (hget : stored.memory.get refId = some entry) {other : RefEntry}
    (hother : stored.Persists snapshotId refId other) : other = entry := by
  obtain ⟨map, hload, hbound⟩ := hother
  exact ((h.settled_of_load hload hbound).only entry hget).symm

/-- **An id that is settled in memory stays so**, and comes to denote nothing else in the file,
as long as the map is not read again. -/
theorem Ahead.denotesOnly_run (h : stored.Ahead snapshotId) {ops : List RefMapOp}
    (hops : ∀ op ∈ ops, op.isReload = false) {refId : String} {entry : RefEntry}
    (hmemory : stored.memory.Settled refId entry)
    (hfile : ∀ other, stored.Persists snapshotId refId other → other = entry) :
    (stored.run snapshotId ops).DenotesOnly snapshotId refId entry := by
  induction ops generalizing stored with
  | nil => exact ⟨hmemory.only, hfile⟩
  | cons op rest ih =>
    obtain ⟨hop, hrest⟩ := List.forall_mem_cons.mp hops
    have happlied := h.apply op
    show (((stored.apply snapshotId op).1).run snapshotId rest).DenotesOnly _ _ _
    rcases stored.apply_cases h.numbered op with hsame | ⟨map, hextends, happly⟩
      | ⟨root, happly⟩ | ⟨text, hjson, happly⟩ | ⟨hreload, -⟩
    · rw [hsame]
      exact ih h hrest hmemory hfile
    · rw [happly] at happlied ⊢
      exact ih happlied hrest (hmemory.extends hextends) hfile
    · rw [happly] at happlied ⊢
      exact ih happlied hrest (hmemory.removeByRootRef root) hfile
    · rw [happly] at happlied ⊢
      refine ih happlied hrest hmemory (fun other hother => ?_)
      obtain ⟨map, hload, hbound⟩ := hother
      rw [loadSnapshot_of_serialize snapshotId hjson] at hload
      cases hload
      exact hmemory.only other hbound
    · rw [hop] at hreload
      cases hreload

/-- **An id that is settled in memory and in the file stays so**, whatever is done. -/
theorem Ahead.denotesOnly_run_of_settled (h : stored.Ahead snapshotId) (ops : List RefMapOp)
    {refId : String} {entry : RefEntry} (hmemory : stored.memory.Settled refId entry)
    (hfile : ∀ map, loadSnapshot snapshotId stored.file = .ok map → map.Settled refId entry) :
    (stored.run snapshotId ops).DenotesOnly snapshotId refId entry := by
  induction ops generalizing stored with
  | nil =>
    exact ⟨hmemory.only, fun other ⟨map, hload, hbound⟩ => (hfile map hload).only other hbound⟩
  | cons op rest ih =>
    have happlied := h.apply op
    show (((stored.apply snapshotId op).1).run snapshotId rest).DenotesOnly _ _ _
    rcases stored.apply_cases h.numbered op with hsame | ⟨map, hextends, happly⟩
      | ⟨root, happly⟩ | ⟨text, hjson, happly⟩ | ⟨-, map, hload, happly⟩
    · rw [hsame]
      exact ih h hmemory hfile
    · rw [happly] at happlied ⊢
      exact ih happlied (hmemory.extends hextends) hfile
    · rw [happly] at happlied ⊢
      exact ih happlied (hmemory.removeByRootRef root) hfile
    · rw [happly] at happlied ⊢
      refine ih happlied hmemory (fun map hload => ?_)
      rw [loadSnapshot_of_serialize snapshotId hjson] at hload
      cases hload
      exact hmemory
    · rw [happly] at happlied ⊢
      exact ih happlied (hfile map hload) hfile

/-! ## What a failure leaves -/

/-- **An operation that fails leaves the map and its file**, unless it is a save that fails when
the file has been replaced. -/
theorem apply_of_error {op : RefMapOp} {error : AppError}
    (h : (stored.apply snapshotId op).2 = .error error) (hop : op.failsAfterReplacing = false) :
    (stored.apply snapshotId op).1 = stored := by
  have hupdate : ∀ result, (stored.update result).2 = .error error →
      (stored.update result).1 = stored := by
    intro result hresult
    cases result with
    | error _ => rfl
    | ok _ => cases hresult
  cases op with
  | allocate entry =>
    rw [apply] at h ⊢
    exact hupdate _ h
  | allocateObserved entry =>
    rw [apply] at h ⊢
    exact hupdate _ h
  | removeByRootRef root => cases h
  | reload =>
    rw [apply] at h ⊢
    exact hupdate _ h
  | save outcome =>
    unfold apply saveSnapshot at h ⊢
    cases hjson : stored.memory.serializeWithSizeCheck with
    | error error => rfl
    | ok json =>
      rw [hjson] at h
      cases outcome with
      | replaced => cases h
      | failedBefore error => rfl
      | failedAfter error => cases hop

/-- **An allocation fails when the counter is used up.** -/
theorem apply_allocate_of_exhausted (h : stored.memory.counter = u32Max) (entry : RefEntry) :
    ∃ error, stored.apply snapshotId (.allocate entry) = (stored, .error error) := by
  have hallocate : ∃ error, stored.memory.tryAllocate entry = .error error := by
    unfold RefMap.tryAllocate
    cases entry.validate with
    | error error => exact ⟨error, rfl⟩
    | ok _ => exact ⟨_, RefMap.allocateValidated_of_exhausted h entry⟩
  obtain ⟨error, herror⟩ := hallocate
  exact ⟨error, by rw [apply, herror]; rfl⟩

/-- **A save fails when the map does not pass**: a counter that is used up, or a text beyond the
limit. -/
theorem apply_save_of_unfit (h : stored.memory.counter = u32Max
      ∨ maxRefmapBytes < RefMapFormat.length (RefMapFormat.toText stored.memory))
    (outcome : WriteOutcome) :
    ∃ error, stored.apply snapshotId (.save outcome) = (stored, .error error) := by
  have hjson : ∃ error, stored.memory.serializeWithSizeCheck = .error error := by
    cases hserialize : stored.memory.serializeWithSizeCheck with
    | error error => exact ⟨error, rfl⟩
    | ok text =>
      obtain ⟨hvalidate, hsize, rfl⟩ := serializeWithSizeCheck_eq_ok hserialize
      rcases h with hcounter | hlarge
      · exact absurd hcounter (RefMap.numbered_of_validate hvalidate).2
      · exact absurd hsize (Nat.not_le.mpr hlarge)
  obtain ⟨error, herror⟩ := hjson
  exact ⟨error, by unfold apply saveSnapshot; rw [herror]; rfl⟩

/-! ## Ids are not given out twice -/

/-- **Ids that are not given out twice**, and what a map that is full does. -/
structure NeverReused (snapshotId : String) (stored : StoredMap) : Prop where
  /-- The counter in memory has passed every id. -/
  memory_numbered : stored.memory.Numbered
  /-- So has the counter in the file, as it is read. -/
  file_numbered : ∀ map, loadSnapshot snapshotId stored.file = .ok map → map.Numbered
  /-- An id in the file never comes to denote another entry. -/
  persisted : ∀ ops refId entry, stored.Persists snapshotId refId entry →
    (stored.run snapshotId ops).DenotesOnly snapshotId refId entry
  /-- Nor does an id in memory, as long as the map is not read again. -/
  allocated : ∀ ops refId entry, (∀ op ∈ ops, op.isReload = false) →
    stored.memory.get refId = some entry →
      (stored.run snapshotId ops).DenotesOnly snapshotId refId entry
  /-- A failure leaves the map and the file. -/
  failed : ∀ op error, (stored.apply snapshotId op).2 = .error error →
    op.failsAfterReplacing = false → (stored.apply snapshotId op).1 = stored
  /-- A counter that is used up: allocations fail. -/
  exhausted : stored.memory.counter = u32Max → ∀ entry, ∃ error,
    stored.apply snapshotId (.allocate entry) = (stored, .error error)
  /-- A counter that is used up, or a text beyond the limit: saves fail. -/
  limited : stored.memory.counter = u32Max
      ∨ maxRefmapBytes < RefMapFormat.length (RefMapFormat.toText stored.memory) →
    ∀ outcome, ∃ error, stored.apply snapshotId (.save outcome) = (stored, .error error)

/-- **No id is given out twice**, in any sequence of allocations, removals, saves and reads. -/
theorem neverReused_run (snapshotId : String) (ops : List RefMapOp) :
    (fresh.run snapshotId ops).NeverReused snapshotId := by
  have hahead := (ahead_fresh snapshotId).run ops
  refine ⟨hahead.numbered, fun map => numbered_of_load, fun later refId entry hpersists => ?_,
    fun later refId entry hlater hget => ?_, fun op error => apply_of_error,
    apply_allocate_of_exhausted, apply_save_of_unfit⟩
  · obtain ⟨map, hload, hbound⟩ := hpersists
    refine hahead.denotesOnly_run_of_settled later (hahead.settled_of_load hload hbound) ?_
    intro map' hload'
    rw [hload] at hload'
    cases hload'
    exact (numbered_of_load hload).settled hbound
  · exact hahead.denotesOnly_run hlater (hahead.numbered.settled hget)
      (fun other hother => hahead.file_only hget hother)

end StoredMap

end

namespace Sample

/-- The entry of a button with a name. -/
def buttonEntry (name : String) : RefEntry :=
  @refAbleEntry noBoundsHash snapshotConfig [0] (rawNode "button" (some name) none [])

end Sample

/-- An id that was not saved is given out again: an empty map is saved, a button gets a ref in
memory, the map is read again, and another button gets the ref. -/
theorem neverReused_run_unsaved :
    letI := Sample.noBoundsHash
    letI := Sample.mapFormat
    ¬ ∀ ops later refId entry other,
      (StoredMap.fresh.run "s1" ops).memory.get refId = some entry →
      (StoredMap.fresh.run "s1" (ops ++ later)).memory.get refId = some other →
        other = entry := by
  intro h
  have hsame := h [.save .replaced, .allocate (Sample.buttonEntry "Save")]
    [.reload, .allocate (Sample.buttonEntry "Delete")] "@e1" (Sample.buttonEntry "Save")
    (Sample.buttonEntry "Delete") (by decide) (by decide)
  exact absurd hsame (by decide)

end AgentDesktop
