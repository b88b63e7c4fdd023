import AgentDesktop.RefStore
import AgentDesktop.Util.LockedCell

/-!
# Drilling into a snapshot from several processes

A drill-down looks its root up and observes the region without the lock of the
store; only then does it take the lock, read the map again, and check that the
root is still the entry the region was observed for. The file of the snapshot is
a cell updated under a lock, and what is proved of such a cell applies: whatever
the interleaving, the file is what the drill-downs that replaced it make of the
first file when they run one after another, in the order in which they had the
lock. Nothing a drill-down did before it had the lock can undo what another
wrote.

A drill-down that fails before it replaces the file leaves the file alone. There
is a failure after that: the directory cannot be synced, or the trace that was
asked for cannot be written. Such a drill-down counts among those that ran.
-/

namespace AgentDesktop

/-- What a drill-down is asked for. -/
structure DrillRequest where
  /-- The ref, as it was given. -/
  rootRefId : String
  /-- The ref in the snapshot. -/
  root : String
  options : RefAllocOptions

/-- What a drill-down brings to its locked section: the entry the ref had when it was looked
up, and the region as it was observed then. -/
structure DrillObservation where
  entry : RefEntry
  rawTree : AccessibilityNode

/-- How far a drill-down is before it takes the lock. -/
inductive DrillProgress
  /-- It has not begun. -/
  | started
  /-- It has looked the ref up. -/
  | loaded (entry : RefEntry)
  /-- It has observed the region. -/
  | observed (observation : DrillObservation)

/-- What is observed, once it is. -/
def DrillProgress.observation : DrillProgress → Option DrillObservation
  | .observed observation => some observation
  | _ => none

section

variable [BoundsHasher] [RefMapFormat]

/-- `run_from_ref` before the lock: the ref is looked up, and the region is observed, with
whatever outcome. -/
inductive DrillPrepares (snapshotId : String) (request : DrillRequest) (file : SnapshotFile) :
    DrillProgress → DrillProgress → Prop
  /-- The ref is looked up. -/
  | load {refmap : RefMap} {entry : RefEntry} (hload : loadSnapshot snapshotId file = .ok refmap)
      (hget : refmap.get request.root = some entry) :
    DrillPrepares snapshotId request file .started (.loaded entry)
  /-- The region is observed. -/
  | observe (entry : RefEntry) (rawTree : AccessibilityNode) :
    DrillPrepares snapshotId request file (.loaded entry) (.observed ⟨entry, rawTree⟩)

/-- `run_from_ref` under the lock. -/
def drillSection (snapshotId : String) (request : DrillRequest) (observation : DrillObservation)
    (file : SnapshotFile) : Except AppError (SnapshotFile × (AccessibilityNode × RefMap)) :=
  (updateExistingSnapshot snapshotId request.root observation.entry
    (drillUpdate request.root observation.entry request.options observation.rawTree) file).map
      (fun result => (some result.2, result.1))

/-- **The drill-downs of one snapshot**: its file is the cell. -/
def drillers {ι : Type} (snapshotId : String) (requests : ι → DrillRequest) :
    LockedCell ι SnapshotFile DrillProgress DrillObservation (AccessibilityNode × RefMap)
      AppError where
  prepares := fun driller file => DrillPrepares snapshotId (requests driller) file
  ready := DrillProgress.observation
  body := fun driller => drillSection snapshotId (requests driller)
  fault := fun error => ∃ message, error = .io message

theorem drillers_body {ι : Type} (snapshotId : String) (requests : ι → DrillRequest)
    (driller : ι) : (drillers snapshotId requests).body driller
      = drillSection snapshotId (requests driller) := rfl

/-! ## A drill-down by itself -/

/-- `run_from_ref` when nothing comes between: the ref is looked up in the file, the region is
observed as the tree given, and the file is updated. -/
def runFromRefStored (snapshotId : String) (request : DrillRequest)
    (rawTree : AccessibilityNode) (file : SnapshotFile) :
    Except AppError ((AccessibilityNode × RefMap) × RefMapFormat.Text) := do
  let refmap ← loadSnapshot snapshotId file
  match refmap.get request.root with
  | none => throw (.staleRef request.rootRefId)
  | some entry =>
    updateExistingSnapshot snapshotId request.root entry
      (drillUpdate request.root entry request.options rawTree) file

/-- **A locked section that succeeds is a drill-down by itself**: the entry it was prepared for
is the one it would have looked up. -/
theorem runFromRefStored_of_drillSection {snapshotId : String} {request : DrillRequest}
    {observation : DrillObservation} {file file' : SnapshotFile}
    {answer : AccessibilityNode × RefMap}
    (h : drillSection snapshotId request observation file = .ok (file', answer)) :
    ∃ text, file' = some text
      ∧ runFromRefStored snapshotId request observation.rawTree file = .ok (answer, text) := by
  obtain ⟨⟨answer', text⟩, hupdate, hresult⟩ := Except.map_eq_ok_iff.mp h
  cases hresult
  refine ⟨text, rfl, ?_⟩
  obtain ⟨current, hload, hget, -, -⟩ := updateExistingSnapshot_eq_ok hupdate
  refine Except.bind_eq_ok_iff.mpr ⟨current, hload, ?_⟩
  rw [hget]
  exact hupdate

/-- **A drill-down by itself is one of the map**, and the file then holds the updated map. -/
theorem runFromRef_of_stored {snapshotId : String} {request : DrillRequest}
    {rawTree : AccessibilityNode} {file : SnapshotFile} {answer : AccessibilityNode × RefMap}
    {text : RefMapFormat.Text}
    (h : runFromRefStored snapshotId request rawTree file = .ok (answer, text)) :
    ∃ map, loadSnapshot snapshotId file = .ok map
      ∧ runFromRef request.rootRefId request.root request.options rawTree map = .ok answer
      ∧ loadSnapshot snapshotId (some text) = .ok answer.2 := by
  obtain ⟨map, hload, h⟩ := Except.bind_eq_ok_iff.mp h
  cases hget : map.get request.root with
  | none =>
    rw [hget] at h
    cases h
  | some entry =>
    rw [hget] at h
    obtain ⟨current, hcurrent, -, hupdate, hjson⟩ := updateExistingSnapshot_eq_ok h
    rw [hload] at hcurrent
    cases hcurrent
    refine ⟨map, hload, ?_, loadSnapshot_of_serialize snapshotId hjson⟩
    unfold runFromRef
    rw [hget]
    exact hupdate

/-! ## Drill-downs one after another -/

variable {ι : Type} {snapshotId : String} {requests : ι → DrillRequest}

/-- **Drill-downs one after another**: each runs by itself, on the file the one before it left,
and answers what was logged. -/
def DrillsSerially (snapshotId : String) (requests : ι → DrillRequest) :
    SnapshotFile → List (LockedCell.Commit ι DrillObservation (AccessibilityNode × RefMap)) →
      SnapshotFile → Prop
  | first, [], last => first = last
  | first, commit :: rest, last =>
    ∃ text, runFromRefStored snapshotId (requests commit.party) commit.request.rawTree first
        = .ok (commit.answer, text)
      ∧ DrillsSerially snapshotId requests (some text) rest last

theorem drillsSerially_of_runsSerially {first last : SnapshotFile}
    {log : List (LockedCell.Commit ι DrillObservation (AccessibilityNode × RefMap))}
    (h : (drillers snapshotId requests).RunsSerially first log last) :
    DrillsSerially snapshotId requests first log last := by
  induction log generalizing first with
  | nil => exact h
  | cons commit rest ih =>
    obtain ⟨next, hcommit, hrest⟩ := h
    obtain ⟨text, rfl, hstored⟩ := runFromRefStored_of_drillSection hcommit
    exact ⟨text, hstored, ih hrest⟩

/-- **Drill-downs one after another keep to the maps of a snapshot.** -/
theorem DrillsSerially.drilled {first last : SnapshotFile}
    {log : List (LockedCell.Commit ι DrillObservation (AccessibilityNode × RefMap))}
    (h : DrillsSerially snapshotId requests first log last)
    (hfirst : ∀ map, loadSnapshot snapshotId first = .ok map → Drilled map) :
    ∀ map, loadSnapshot snapshotId last = .ok map → Drilled map := by
  induction log generalizing first with
  | nil =>
    obtain rfl : first = last := h
    exact hfirst
  | cons commit rest ih =>
    obtain ⟨text, hstored, hrest⟩ := h
    refine ih hrest (fun map hmap => ?_)
    obtain ⟨before, hbefore, hdrill, hafter⟩ := runFromRef_of_stored hstored
    rw [hafter] at hmap
    cases hmap
    exact .drill (hfirst before hbefore) hdrill

variable [DecidableEq ι]

/-! ## Every interleaving -/

/-- **Serializable drill-downs.** -/
structure SerializableDrills (snapshotId : String) (requests : ι → DrillRequest)
    (first : SnapshotFile)
    (state : LockedCell.State ι SnapshotFile DrillProgress DrillObservation
      (AccessibilityNode × RefMap) AppError) : Prop where
  /-- The file is what the drill-downs that replaced it make of the first file, one after
  another. -/
  serial : DrillsSerially snapshotId requests first state.log state.cell
  /-- They are in the order of their locked sections, each once. -/
  order : state.writers.Sublist state.acquired ∧ state.acquired.Nodup
  /-- A drill-down that succeeds is among them, with its answer. -/
  succeeded : ∀ driller answer, state.phase driller = .succeeded answer →
    ∃ commit ∈ state.log, commit.party = driller ∧ commit.answer = answer
  /-- One that fails or is gone is among them if and only if that was after it replaced the
  file. -/
  failed : ∀ driller wrote,
    (∃ error, state.phase driller = .failed error wrote) ∨ state.phase driller = .crashed wrote →
      (driller ∈ state.writers ↔ wrote = true)
  /-- A step that does not put its drill-down among them leaves the file. -/
  frame : ∀ driller state', (drillers snapshotId requests).Step state driller state' →
    state'.cell = state.cell ∧ state'.log = state.log
      ∨ ∃ commit, commit.party = driller ∧ state'.log = state.log ++ [commit]
  /-- A drill-down that has the lock when its root is not the entry it looked up reports a stale
  ref, unless the file cannot be read; it does not write. -/
  stale : ∀ driller observation current,
    state.phase driller = .holding observation →
    loadSnapshot snapshotId state.cell = .ok current →
    current.get (requests driller).root ≠ some observation.entry →
    ∀ state', Relation.ReflTransGen (drillers snapshotId requests).Next state state' →
      driller ∉ state'.writers
        ∧ (∀ answer, state'.phase driller ≠ .succeeded answer)
        ∧ ∀ error wrote, state'.phase driller = .failed error wrote →
          error = .staleRef (requests driller).root ∨ ∃ message, error = .io message

/-- **Drill-downs of one snapshot are serializable**, however many there are and however their
steps interleave. -/
theorem drillers_serializable {first : SnapshotFile}
    {state : LockedCell.State ι SnapshotFile DrillProgress DrillObservation
      (AccessibilityNode × RefMap) AppError}
    (h : Relation.ReflTransGen (drillers snapshotId requests).Next
      (LockedCell.initial first (fun _ => .started)) state) :
    SerializableDrills snapshotId requests first state := by
  have hinitial : (drillers snapshotId requests).Invariant first
      (LockedCell.initial first (fun _ => .started)) := .initial first _
  have hstate := hinitial.run h
  refine ⟨drillsSerially_of_runsSerially hstate.serial, ⟨hstate.order, hstate.nodup⟩,
    fun driller answer hphase => ?_, fun driller wrote hphase => ?_,
    fun driller state' => LockedCell.cell_eq_or_logged,
    fun driller observation current hphase hload hstale state' hrun => ?_⟩
  · have hparty := hstate.party driller
    rwa [hphase] at hparty
  · rw [hstate.mem_writers_iff]
    rcases hphase with ⟨error, hphase⟩ | hphase <;> rw [hphase] <;> rfl
  · have hbody : drillSection snapshotId (requests driller) observation state.cell
        = .error (.staleRef (requests driller).root) := by
      unfold drillSection
      rw [updateExistingSnapshot_of_stale _ hload hstale]
      rfl
    have hdoomed : (drillers snapshotId requests).Doomed state driller observation
        (.staleRef (requests driller).root) := Or.inl ⟨hbody, Or.inl hphase⟩
    have hlater := hdoomed.run hstate hrun
    refine ⟨?_, fun answer hsucceeded => ?_, fun error wrote hfailed => ?_⟩
    · rw [(hstate.run hrun).mem_writers_iff, hlater.wrote_eq_false]
      exact Bool.false_ne_true
    · have hwrote := hlater.wrote_eq_false
      rw [hsucceeded] at hwrote
      cases hwrote
    · rcases hlater with ⟨-, hsection | hsection⟩ | ⟨reported, hreported, hwhy⟩ | hcrashed
      · rw [hfailed] at hsection
        cases hsection
      · rw [hfailed] at hsection
        cases hsection
      · rw [hfailed] at hreported
        cases hreported
        exact hwhy
      · rw [hfailed] at hcrashed
        cases hcrashed

end

namespace Sample

/-- The list is drilled into. -/
def listRequest : DrillRequest := ⟨"@e2", "@e2", ⟨false, true, true⟩⟩

/-- The entry of the list. -/
def listEntry : RefEntry := (allocatedWindow.2.get "@e2").get (by decide)

/-- The list, as a drill-down observes it. -/
def listObservation : DrillObservation := ⟨listEntry, rawList⟩

/-- A map as its own text. -/
def fileOf (map : RefMap) : @SnapshotFile noBoundsHash mapFormat := some map

theorem serialize_drilledList :
    @RefMap.serializeWithSizeCheck noBoundsHash mapFormat drilledList.2 = .ok drilledList.2 :=
  @serializeWithSizeCheck_of_ok noBoundsHash mapFormat _
    (Except.eq_ok_of_toOption (by decide +kernel)) (by decide)

theorem loadSnapshot_allocatedWindow :
    @loadSnapshot noBoundsHash mapFormat "s1" (fileOf allocatedWindow.2)
      = .ok allocatedWindow.2 :=
  Except.eq_ok_of_toOption (by decide)

theorem drillSection_first :
    @drillSection noBoundsHash mapFormat "s1" listRequest listObservation
      (fileOf allocatedWindow.2) = .ok (fileOf drilledList.2, drilledList) := by
  refine Except.map_eq_ok_iff.mpr ⟨(drilledList, drilledList.2), ?_, rfl⟩
  exact @updateExistingSnapshot_of_ok noBoundsHash mapFormat _ _ _ _ _ _ _ _ _
    loadSnapshot_allocatedWindow (by decide) rfl serialize_drilledList

theorem drillers_body_first {ι : Type} (driller : ι) :
    (@drillers noBoundsHash mapFormat ι "s1" (fun _ => listRequest)).body driller listObservation
      (fileOf allocatedWindow.2) = .ok (fileOf drilledList.2, drilledList) := by
  rw [@drillers_body noBoundsHash mapFormat]
  exact drillSection_first

end Sample

/-- Two drill-downs into the list, which both look it up and observe it before the first of them
takes the lock; the second has the lock when the first is done. -/
theorem drillers_serializable_sample :
    letI := Sample.noBoundsHash
    letI := Sample.mapFormat
    ∃ state, state.phase false = .succeeded Sample.drilledList ∧ state.lock = some true
      ∧ SerializableDrills "s1" (fun _ : Bool => Sample.listRequest)
        (Sample.fileOf Sample.allocatedWindow.2) state := by
  let _ := Sample.noBoundsHash
  let _ := Sample.mapFormat
  have hload := Sample.loadSnapshot_allocatedWindow
  have hget : Sample.allocatedWindow.2.get "@e2" = some Sample.listEntry := by decide
  refine ⟨_, rfl, rfl, drillers_serializable <| Relation.ReflTransGen.refl
    |>.tail ⟨false, .move (.prepare (.load hload hget))⟩
    |>.tail ⟨true, .move (.prepare (.load hload hget))⟩
    |>.tail ⟨true, .move (.prepare (.observe _ Sample.rawList))⟩
    |>.tail ⟨false, .move (.prepare (.observe _ Sample.rawList))⟩
    |>.tail ⟨false, .acquire rfl rfl rfl⟩
    |>.tail ⟨false, .move (.read _)⟩
    |>.tail ⟨false, .replace rfl (Sample.drillers_body_first false)⟩
    |>.tail ⟨false, .move (.release _)⟩
    |>.tail ⟨true, .acquire rfl rfl rfl⟩
    |>.tail ⟨false, .move (.succeed _)⟩⟩

/-- A drill-down that fails although it has changed the file: the trace cannot be written. -/
theorem drillers_serializable_failing_late :
    letI := Sample.noBoundsHash
    letI := Sample.mapFormat
    ¬ ∀ state, Relation.ReflTransGen (drillers "s1" (fun _ : Unit => Sample.listRequest)).Next
        (LockedCell.initial (Sample.fileOf Sample.allocatedWindow.2) (fun _ => .started)) state →
      (∃ error wrote, state.phase () = .failed error wrote) →
        state.cell = Sample.fileOf Sample.allocatedWindow.2 := by
  intro h
  let _ := Sample.noBoundsHash
  let _ := Sample.mapFormat
  have hload := Sample.loadSnapshot_allocatedWindow
  have hget : Sample.allocatedWindow.2.get "@e2" = some Sample.listEntry := by decide
  have hsame := h _ (Relation.ReflTransGen.refl
    |>.tail ⟨(), .move (.prepare (.load hload hget))⟩
    |>.tail ⟨(), .move (.prepare (.observe _ Sample.rawList))⟩
    |>.tail ⟨(), .acquire rfl rfl rfl⟩
    |>.tail ⟨(), .move (.read _)⟩
    |>.tail ⟨(), .replace rfl (Sample.drillers_body_first ())⟩
    |>.tail ⟨(), .move (.release _)⟩
    |>.tail ⟨(), .move (.failLate _ (.io "trace write failed"))⟩) ⟨_, _, rfl⟩
  have hmap : Sample.drilledList.2 = Sample.allocatedWindow.2 := Option.some.inj hsame
  exact absurd hmap (by decide)

end AgentDesktop
