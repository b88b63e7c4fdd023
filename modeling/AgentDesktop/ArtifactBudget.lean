import AgentDesktop.AtomicWrite
import AgentDesktop.Error
import AgentDesktop.Util.AssocTotal
import AgentDesktop.Util.Runs

/-!
# The budget of trace artifacts

A trace directory holds screenshots and copies of ref maps, and neither may grow without bound.
What they come to stands in a ledger beside them, so that a write need not look at all files.
A write takes the lock of the directory, reads the ledger – or counts the files, if there is
none that can be read – compares what would be there with the limits, writes down what it is
about to add, and only then writes the file. If that fails and there is no file, it writes down
what was there before.

Each step is a function of what the system answers to it. The writer may stop between any two of
them: its lock is gone then, and the file it was writing stays where it is. Whoever else has
access to the directory may remove files and the ledger at any time.

The ledger is itself replaced by `write_private_file`, so it holds the old usage or the new one
(see `AgentDesktop.AtomicWrite`); that write may report an error after it took effect.
-/

namespace AgentDesktop

namespace ArtifactBudget

open AtomicWrite (Bytes WritePhase WriteStage StepAnswer maxAttempts)

/-! ## Usage and limits -/

/-- The largest 64-bit number. -/
def u64Max : ℕ := 18446744073709551615

/-- `saturating_add` of a number type with a largest number. -/
def saturatingAdd (largest a b : ℕ) : ℕ := min (a + b) largest

/-- The artifacts there are. -/
inductive ArtifactKind
  | screenshot | refmap
  deriving DecidableEq

/-- **What the artifacts come to**, as the ledger says it. -/
structure Usage where
  screenshotBytes : ℕ
  /-- How many screenshots there are. -/
  screenshotCount : ℕ
  /-- The bytes of all ref maps. -/
  refmapBytes : ℕ
  deriving DecidableEq

/-- `SCREENSHOT_BYTE_BUDGET`. -/
def screenshotByteBudget : ℕ := 128 * 1024 * 1024

/-- `SCREENSHOT_COUNT_BUDGET`. -/
def screenshotCountBudget : ℕ := 200

/-- `REFMAP_BYTE_BUDGET`. -/
def refmapByteBudget : ℕ := 64 * 1024 * 1024

/-- **What is written**: the artifact, its path, and the names that are tried for the file it is
written to before it is renamed, none of which is its path. -/
structure ArtifactJob (N : Type) where
  /-- Which artifact it is. -/
  kind : ArtifactKind
  path : N
  bytes : Bytes
  /-- The names of the temporary files. -/
  name : ℕ → N
  /-- A temporary file is named apart: it begins with a dot, and ends in `.tmp`. -/
  name_ne : ∀ attempt, name attempt ≠ path

variable {N : Type}

/-- The reason a write is refused for, if the usage leaves no room. -/
def checkBudget (usage : Usage) (job : ArtifactJob N) : Except String Unit :=
  match job.kind with
  | .screenshot =>
    if screenshotCountBudget ≤ usage.screenshotCount then .error "count_budget"
    else if screenshotByteBudget < saturatingAdd u64Max usage.screenshotBytes job.bytes.length then
      .error "budget"
    else .ok ()
  | .refmap =>
    if refmapByteBudget < saturatingAdd u64Max usage.refmapBytes job.bytes.length then
      .error "budget"
    else .ok ()

/-- **The usage with what is about to be written.** -/
def Usage.reserved (usage : Usage) (job : ArtifactJob N) : Usage :=
  match job.kind with
  | .screenshot =>
    { usage with
      screenshotBytes := saturatingAdd u64Max usage.screenshotBytes job.bytes.length
      screenshotCount := saturatingAdd u32Max usage.screenshotCount 1 }
  | .refmap =>
    { usage with refmapBytes := saturatingAdd u64Max usage.refmapBytes job.bytes.length }

/-- `directory_usage`: the bytes of all files, and how many there are. -/
def directoryUsage (files : AssocMap N Bytes) : ℕ × ℕ :=
  files.values.foldl
    (fun sum content => (saturatingAdd u64Max sum.1 content.length, saturatingAdd u32Max sum.2 1))
    (0, 0)

/-! ## The directory -/

/-- **How far a writer is** that has the lock. -/
inductive ArtifactPhase
  /-- `path.is_file()`, of a ref map. -/
  | checkingPresent
  /-- `load_usage` reads the ledger. -/
  | loading
  /-- It counts the screenshots, as there is none. -/
  | scanningScreens
  /-- It counts the ref maps. -/
  | scanningRefmaps (screens : ℕ × ℕ)
  /-- It writes the ledger. -/
  | persistingScan (usage : Usage)
  /-- The usage is known: the limits are checked, and what is to be written is written down. -/
  | reserving (usage : Usage)
  /-- `write_private_file`, after the usage was so much. -/
  | writing (usage : Usage) (phase : WritePhase)
  /-- `rollback_reservation_if_absent` looks whether there is a file. -/
  | checkingArtifact (usage : Usage)
  /-- It writes down the usage that was. -/
  | rollingBack (usage : Usage)

/-- **Who holds the lock.** -/
structure Holder (N : Type) where
  job : ArtifactJob N
  /-- How far the write is. -/
  phase : ArtifactPhase

/-- **A trace directory.** -/
structure TraceDisk (N : Type) where
  /-- The files in `screens`. -/
  screens : AssocMap N Bytes
  /-- The files in `refmaps`. -/
  refmaps : AssocMap N Bytes
  /-- What the ledger says, if there is one that can be decoded. -/
  ledger : Option Usage

/-- A trace directory, and its lock. -/
structure TraceState (N : Type) extends TraceDisk N where
  holder : Option (Holder N)

/-- What the system answers to a step. -/
inductive ArtifactAnswer
  /-- As it answers a step of `write_private_file`, or any other. -/
  | answer (answer : StepAnswer)
  /-- It fails after it took effect. -/
  | failedLate
  deriving DecidableEq

/-- **What is worth telling** of a step. -/
inductive ArtifactEvent (N : Type)
  /-- A file stays that is not counted: it could not be removed, or was not seen. -/
  | left (kind : ArtifactKind) (content : Bytes)
  /-- A ref map was there, but not seen. -/
  | unseen (path : N)
  /-- An artifact is in place. -/
  | placed (kind : ArtifactKind) (path : N) (content : Bytes)
  /-- A write is over. -/
  | returned (job : ArtifactJob N) (result : Except String Unit)
  /-- Somebody else removed a file. -/
  | removed (kind : ArtifactKind) (name : N)

/-- The files of a kind. -/
def TraceDisk.files (s : TraceDisk N) : ArtifactKind → AssocMap N Bytes
  | .screenshot => s.screens
  | .refmap => s.refmaps

namespace TraceState

variable (s : TraceState N)

/-- The files of a kind are changed. -/
def setFiles (kind : ArtifactKind) (files : AssocMap N Bytes) : TraceState N :=
  match kind with
  | .screenshot => { s with screens := files }
  | .refmap => { s with refmaps := files }

@[simp] theorem ledger_setFiles (kind : ArtifactKind) (files : AssocMap N Bytes) :
    (s.setFiles kind files).ledger = s.ledger := by cases kind <;> rfl

@[simp] theorem holder_setFiles (kind : ArtifactKind) (files : AssocMap N Bytes) :
    (s.setFiles kind files).holder = s.holder := by cases kind <;> rfl

@[simp] theorem files_setFiles_self (kind : ArtifactKind) (files : AssocMap N Bytes) :
    (s.setFiles kind files).files kind = files := by cases kind <;> rfl

theorem files_setFiles_of_ne {kind kind' : ArtifactKind} (h : kind ≠ kind')
    (files : AssocMap N Bytes) : (s.setFiles kind files).files kind' = s.files kind' := by
  cases kind <;> cases kind' <;> first | exact absurd rfl h | rfl

/-- The ledger is replaced. -/
def setLedger (usage : Usage) : TraceState N := { s with ledger := some usage }

/-- The write goes on. -/
def goTo (job : ArtifactJob N) (phase : ArtifactPhase) : TraceState N :=
  { s with holder := some ⟨job, phase⟩ }

/-- **The write is over**: the lock is released. -/
def finish (job : ArtifactJob N) (result : Except String Unit) :
    TraceState N × Option (ArtifactEvent N) :=
  ({ s with holder := none }, some (.returned job result))

end TraceState

variable [DecidableEq N]

/-! ## Writing a file -/

/-- Bytes are written to the file of a name, if it still has that name. -/
def appendTo (files : AssocMap N Bytes) (name : N) (chunk : Bytes) : AssocMap N Bytes :=
  match files.get name with
  | none => files
  | some content => files.insert name (content ++ chunk)

/-- **One step of `write_atomic_with`** in a directory, with what the system answers to it. -/
def writeStep (job : ArtifactJob N) (files : AssocMap N Bytes) (answer : StepAnswer) :
    WritePhase → AssocMap N Bytes × WritePhase
  | .ensuring =>
    (files, if answer = .failed then .returned (.error .ensureParent) else .validating)
  | .validating =>
    (files, if answer = .failed then .returned (.error .validateDestination) else .creating 0)
  | .creating attempt =>
    if attempt = maxAttempts ∨ answer = .failed then (files, .returned (.error .create))
    else if (files.get (job.name attempt)).isSome then (files, .creating (attempt + 1))
    else (files.insert (job.name attempt) [], .checking attempt)
  | .checking attempt =>
    (files, if answer = .failed then .returned (.error .checkTemporary)
      else .writing attempt job.bytes)
  | .writing attempt rest =>
    if rest = [] then (files, .syncing attempt)
    else
      match answer with
      | .failed | .wrote 0 => (files, .cleaning attempt .write)
      | .wrote (count + 1) =>
        (appendTo files (job.name attempt) (rest.take (count + 1)),
          .writing attempt (rest.drop (count + 1)))
      | .done => (appendTo files (job.name attempt) rest, .writing attempt [])
  | .syncing attempt =>
    (files, if answer = .failed then .cleaning attempt .sync else .replacing attempt)
  | .replacing attempt =>
    match files.get (job.name attempt) with
    | none => (files, .cleaning attempt .rename)
    | some content =>
      if answer = .failed then (files, .cleaning attempt .rename)
      else ((files.erase (job.name attempt)).insert job.path content, .reopening attempt)
  | .reopening attempt =>
    (files, if answer = .failed then .cleaning attempt .reopen else .revalidating attempt)
  | .revalidating attempt =>
    (files, if answer = .failed then .cleaning attempt .revalidate else .syncingParent attempt)
  | .syncingParent attempt =>
    (files, if answer = .failed then .cleaning attempt .syncParent else .returned (.ok ()))
  | .cleaning attempt stage =>
    (if answer = .failed then files else files.erase (job.name attempt), .returned (.error stage))
  | .returned result => (files, .returned result)
  | .gone => (files, .gone)

/-- What is worth telling of a step of `write_atomic_with`: a temporary file stays if it does not
pass its check or cannot be removed, and a rename puts an artifact in place. -/
def writeEvent (job : ArtifactJob N) (files : AssocMap N Bytes) (answer : StepAnswer) :
    WritePhase → Option (ArtifactEvent N)
  | .checking attempt | .cleaning attempt _ =>
    if answer = .failed then (files.get (job.name attempt)).map (.left job.kind) else none
  | .replacing attempt =>
    if answer = .failed then none
    else (files.get (job.name attempt)).map (.placed job.kind job.path)
  | .ensuring | .validating | .creating _ | .writing _ _ | .syncing _ | .reopening _
  | .revalidating _ | .syncingParent _ | .returned _ | .gone => none

/-! ## Steps of a writer -/

section Step

variable (s : TraceState N) (job : ArtifactJob N) (answer : ArtifactAnswer)

/-- `path.is_file()`: an error reads as an absence. -/
def checkPresent : TraceState N × Option (ArtifactEvent N) :=
  match s.refmaps.get job.path with
  | none => (s.goTo job .loading, none)
  | some _ =>
    if answer = .answer .failed then (s.goTo job .loading, some (.unseen job.path))
    else s.finish job (.ok ())

/-- The ledger is read. -/
def loadUsage : TraceState N × Option (ArtifactEvent N) :=
  match s.ledger with
  | none => (s.goTo job .scanningScreens, none)
  | some usage =>
    if answer = .answer .failed then (s.goTo job .scanningScreens, none)
    else (s.goTo job (.reserving usage), none)

/-- The screenshots are counted. -/
def scanScreens : TraceState N × Option (ArtifactEvent N) :=
  if answer = .answer .failed then s.finish job (.error "scan_failed")
  else (s.goTo job (.scanningRefmaps (directoryUsage s.screens)), none)

/-- The ref maps are counted. -/
def scanRefmaps (screens : ℕ × ℕ) : TraceState N × Option (ArtifactEvent N) :=
  if answer = .answer .failed then s.finish job (.error "scan_failed")
  else
    (s.goTo job (.persistingScan ⟨screens.1, screens.2, (directoryUsage s.refmaps).1⟩), none)

/-- **`persist_usage`**: the ledger is replaced, or not, and an error may come with either. -/
def persistUsage (usage : Usage) : TraceState N × Bool :=
  if answer = .answer .failed then (s, false)
  else if answer = .failedLate then (s.setLedger usage, false)
  else (s.setLedger usage, true)

/-- What was counted is written down. -/
def persistScan (usage : Usage) : TraceState N × Option (ArtifactEvent N) :=
  if (persistUsage s answer usage).2 then
    ((persistUsage s answer usage).1.goTo job (.reserving usage), none)
  else (persistUsage s answer usage).1.finish job (.error "ledger_failed")

/-- **The limits are checked, and what is to be written is written down.** -/
def reserve (usage : Usage) : TraceState N × Option (ArtifactEvent N) :=
  match checkBudget usage job with
  | .error reason => s.finish job (.error reason)
  | .ok () =>
    if (persistUsage s answer (usage.reserved job)).2 then
      ((persistUsage s answer (usage.reserved job)).1.goTo job (.writing usage .ensuring), none)
    else (persistUsage s answer (usage.reserved job)).1.finish job (.error "ledger_failed")

/-- One step of `write_private_file`. -/
def writeFile (usage : Usage) (phase : WritePhase) (answer : StepAnswer) :
    TraceState N × Option (ArtifactEvent N) :=
  let next := writeStep job (s.files job.kind) answer phase
  match next.2 with
  | .returned (.ok ()) => (s.setFiles job.kind next.1).finish job (.ok ())
  | .returned (.error _) =>
    ((s.setFiles job.kind next.1).goTo job (.checkingArtifact usage),
      writeEvent job (s.files job.kind) answer phase)
  | next' =>
    ((s.setFiles job.kind next.1).goTo job (.writing usage next'),
      writeEvent job (s.files job.kind) answer phase)

/-- `symlink_metadata`: an error reads as an absence. -/
def checkArtifact (usage : Usage) : TraceState N × Option (ArtifactEvent N) :=
  match (s.files job.kind).get job.path with
  | none => (s.goTo job (.rollingBack usage), none)
  | some content =>
    if answer = .answer .failed then
      (s.goTo job (.rollingBack usage), some (.left job.kind content))
    else s.finish job (.error "write_failed")

/-- The usage that was is written down again. -/
def rollBack (usage : Usage) : TraceState N × Option (ArtifactEvent N) :=
  (persistUsage s answer usage).1.finish job (.error "write_failed")

/-- **One step of a writer** that has the lock, with what the system answers to it. -/
def advance (phase : ArtifactPhase) : TraceState N × Option (ArtifactEvent N) :=
  match phase with
  | .checkingPresent => checkPresent s job answer
  | .loading => loadUsage s job answer
  | .scanningScreens => scanScreens s job answer
  | .scanningRefmaps screens => scanRefmaps s job answer screens
  | .persistingScan usage => persistScan s job answer usage
  | .reserving usage => reserve s job answer usage
  | .writing usage phase =>
    match answer with
    | .answer answer => writeFile s job usage phase answer
    | .failedLate => writeFile s job usage phase .failed
  | .checkingArtifact usage => checkArtifact s job answer usage
  | .rollingBack usage => rollBack s job answer usage

end Step

/-- **Where a write begins**, with the lock: `write_screenshot` reads the ledger, and
`write_refmap_if_absent` looks for the file first. -/
def ArtifactJob.begins (job : ArtifactJob N) : ArtifactPhase :=
  match job.kind with
  | .screenshot => .loading
  | .refmap => .checkingPresent

/-- **What may happen** in a trace directory. -/
inductive ArtifactStep (s : TraceState N) : Option (ArtifactEvent N) → TraceState N → Prop
  /-- A writer gets the lock. -/
  | begin (job : ArtifactJob N) (hfree : s.holder = none) :
    ArtifactStep s none (s.goTo job job.begins)
  /-- It makes a step. -/
  | move (job : ArtifactJob N) (phase : ArtifactPhase) (answer : ArtifactAnswer)
    (hholder : s.holder = some ⟨job, phase⟩) :
    ArtifactStep s (advance s job answer phase).2 (advance s job answer phase).1
  /-- It stops, and its lock is gone. -/
  | crash : ArtifactStep s none { s with holder := none }
  /-- Somebody else removes a file. -/
  | remove (kind : ArtifactKind) (name : N) :
    ArtifactStep s (some (.removed kind name)) (s.setFiles kind ((s.files kind).erase name))
  /-- The ledger is removed, or overwritten with what cannot be decoded. -/
  | loseLedger : ArtifactStep s none { s with ledger := none }

/-- **A new trace directory.** -/
def TraceState.fresh : TraceState N := ⟨⟨.empty, .empty, none⟩, none⟩

end ArtifactBudget

end AgentDesktop
