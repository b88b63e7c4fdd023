import AgentDesktop.RefEntry
import AgentDesktop.Util.AssocMap

/-!
# The ref map

A snapshot hands out refs `@e1`, `@e2`, … and remembers for each the entry it
was given to. The map is a finite map from the ref ids to the entries together
with the counter the next id is taken from. A drill-down removes the refs an
earlier drill-down of the same element left behind.
-/

namespace AgentDesktop

/-- `RefMap`. -/
structure RefMap where
  /-- The entries, by ref id. -/
  inner : AssocMap String RefEntry
  /-- The number of the last id handed out. -/
  counter : ℕ
  deriving DecidableEq

/-- What became of an observed node that was offered a ref. -/
inductive RefAllocation
  /-- It was given this ref. -/
  | allocated (refId : String)
  /-- Its role cannot carry a ref. -/
  | skippedInvalidRole
  /-- Its evidence does not pass the checks of an entry. -/
  | skippedInvalidEntry
  deriving DecidableEq

/-- The ref id with a number. -/
def refIdOf (number : ℕ) : String := "@e" ++ toString number

/-- `str::parse::<u32>`: digits, a plus sign allowed before them, and no
overflow. -/
def parseU32 (value : List Char) : Option ℕ :=
  let digits := match value with
    | '+' :: rest => rest
    | all => all
  if digits.isEmpty || !digits.all isAsciiDigit then none
  else
    let number := digits.foldl (fun number digit => number * 10 + (digit.toNat - 48)) 0
    if number ≤ u32Max then some number else none

/-- The number of a ref key: what follows `@e`, read as a positive `u32`. -/
def refKeyNumber (refId : String) : Option ℕ :=
  match refId.toList with
  | '@' :: 'e' :: digits => (parseU32 digits).filter (fun number => 0 < number)
  | _ => none

/-- `validate_snapshot_id`. -/
def validateSnapshotId (snapshotId : String) : Except AppError Unit :=
  if snapshotId.utf8ByteSize ≤ 64 && 3 ≤ snapshotId.utf8ByteSize
      && snapshotId.toList.all (fun c => c.isAlphanum || c == '-' || c == '_') then .ok ()
  else .error (.invalidInput ("Invalid snapshot_id '" ++ snapshotId
    ++ "': use the value returned by snapshot"))

namespace RefMap

variable [BoundsHasher]

/-- `RefMap::new`. -/
def new : RefMap := ⟨AssocMap.empty, 0⟩

/-- `RefMap::get`. -/
def get (map : RefMap) (refId : String) : Option RefEntry := map.inner.get refId

/-- `RefMap::len`. -/
def len (map : RefMap) : ℕ := map.inner.entries.length

/-- `allocate_validated`: the next id, if the counter can still move. -/
def allocateValidated (map : RefMap) (entry : RefEntry) :
    Except AppError (String × RefMap) :=
  if map.counter < u32Max then
    let refId := refIdOf (map.counter + 1)
    .ok (refId, ⟨map.inner.insert refId entry, map.counter + 1⟩)
  else .error (.invalidInput "RefMap exhausted its identifier space")

/-- `try_allocate`. -/
def tryAllocate (map : RefMap) (entry : RefEntry) : Except AppError (String × RefMap) := do
  entry.validate
  map.allocateValidated entry

/-- `try_allocate_observed`: an entry that cannot carry a ref is passed over. -/
def tryAllocateObserved (map : RefMap) (entry : RefEntry) :
    Except AppError (RefAllocation × RefMap) :=
  if !entry.hasValidRole then .ok (.skippedInvalidRole, map)
  else if !entry.isValid then .ok (.skippedInvalidEntry, map)
  else (map.allocateValidated entry).map (fun result => (.allocated result.1, result.2))

/-- Whether an entry was recorded under a root ref. -/
def owned (root : String) (entry : RefEntry) : Bool := entry.scope.rootRef == some root

/-- Whether an entry's path can be compared with paths from the surface. -/
def pathFromSurface (entry : RefEntry) : Bool :=
  entry.scope.rootRef.isNone || entry.scope.pathIsAbsolute

/-- Whether an entry lies under a parent entry: same process and source, both
paths from the surface, the parent's path a prefix, and either properly longer
or drilled. -/
def descendant (parent entry : RefEntry) : Bool :=
  entry.process == parent.process && entry.source == parent.source
    && pathFromSurface parent && pathFromSurface entry
    && parent.scope.path.isPrefixOf entry.scope.path
    && (decide (parent.scope.path.length < entry.scope.path.length)
      || entry.scope.rootRef.isSome)

/-- `remove_by_root_ref`: the root stays, what it owns and what lies under it
goes. -/
def removeByRootRef (map : RefMap) (root : String) : RefMap where
  inner :=
    let rootEntry := map.get root
    map.inner.retain (fun refId entry =>
      if refId == root then true
      else !owned root entry && !(rootEntry.any (fun parent => descendant parent entry)))
  counter := map.counter

/-- One binding of the check of a map: the key is canonical, the entry passes;
the largest number seen so far is passed on. -/
def validateBinding (maxId : ℕ) (binding : String × RefEntry) : Except AppError ℕ := do
  let some numeric := refKeyNumber binding.1
    | throw (.invalidInput "RefMap contains an invalid ref key")
  if refIdOf numeric != binding.1 then
    throw (.invalidInput "RefMap contains a non-canonical ref key")
  binding.2.validate
  return max maxId numeric

/-- `RefMap::validate`. -/
def validate (map : RefMap) : Except AppError Unit := do
  let maxId ← map.inner.entries.foldlM validateBinding 0
  if map.counter < maxId || map.counter == u32Max then
    throw (.invalidInput "RefMap counter is inconsistent with its allocated refs")

end RefMap

end AgentDesktop
