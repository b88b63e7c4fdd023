import Mathlib.Data.List.Basic
import Mathlib.Logic.Relation

/-!
# Replacing a file

A file is replaced by writing another one beside it and renaming that: whoever looks sees the
old content or the new one, complete. Each step may fail, several writers may replace the same
file at once, and the machine may stop between any two steps. What was not synced is lost
then, and a rename that was not synced may be undone; so the file is synced before it is
renamed, and its directory afterwards.

A step of a writer is a function of what the system answers to it, so any run of any writers
is a sequence of such answers. The names of the temporary files are a parameter.
-/

namespace AgentDesktop

namespace AtomicWrite

/-- What a file holds. -/
abbrev Bytes : Type := List UInt8

/-! ## Files -/

/-- A file: the one that is replaced, one that lies about, or the one a writer makes. -/
inductive FileId (ι : Type)
  | before
  | stray
  | madeBy (writer : ι)
  deriving DecidableEq

/-- A file: its content, and whether all of it would survive. -/
structure FileNode where
  content : Bytes
  /-- Whether the content was synced. -/
  synced : Bool
  deriving DecidableEq

/-- **The step that failed**, in place of the text of the error. -/
inductive WriteStage
  | ensureParent | validateDestination | create | checkTemporary | write | sync | rename | reopen
  | revalidate | syncParent
  deriving DecidableEq

/-- Whether a step comes after the rename. -/
def WriteStage.afterRename : WriteStage → Bool
  | reopen | revalidate | syncParent => true
  | ensureParent | validateDestination | create | checkTemporary | write | sync | rename => false

/-- **How far a writer is** in `write_atomic_with`; the temporary file is that of an attempt. -/
inductive WritePhase
  /-- `ensure_parent`. -/
  | ensuring
  /-- `validate_destination`. -/
  | validating
  /-- `create_temporary`, after some attempts. -/
  | creating (attempt : ℕ)
  /-- The check of the file that was made. -/
  | checking (attempt : ℕ)
  /-- `write_all`, with what is left to write. -/
  | writing (attempt : ℕ) (rest : Bytes)
  /-- `sync_all`. -/
  | syncing (attempt : ℕ)
  /-- `replace_atomic`. -/
  | replacing (attempt : ℕ)
  /-- `open_private_read`. -/
  | reopening (attempt : ℕ)
  /-- `validate_private_regular`. -/
  | revalidating (attempt : ℕ)
  /-- `sync_parent`. -/
  | syncingParent (attempt : ℕ)
  /-- `remove_file`, after an error. -/
  | cleaning (attempt : ℕ) (stage : WriteStage)
  /-- The end. -/
  | returned (result : Except WriteStage Unit)
  /-- The writer is gone, as the machine stopped. -/
  | gone

/-- What the system answers to a step. -/
inductive StepAnswer
  /-- It succeeds. -/
  | done
  | failed
  /-- Some bytes are written. -/
  | wrote (count : ℕ)
  deriving DecidableEq

/-- **The directory and the writers.** -/
structure DirState (ι N : Type) where
  /-- The files. -/
  nodes : FileId ι → FileNode
  /-- The file at the path that is written. -/
  destination : Option (FileId ι)
  /-- The files at other names. -/
  temporaries : N → Option (FileId ι)
  /-- What may be at the path when the machine starts again. -/
  durable : List (Option (FileId ι))
  /-- How far each writer is. -/
  phase : ι → WritePhase
  /-- What the path held after each change, and who made it; nobody, if the machine stopped. -/
  history : List (Option ι × Option Bytes)

/-- What a path holds if it is of a file. -/
def DirState.contentOf {ι N : Type} (s : DirState ι N) (file : Option (FileId ι)) : Option Bytes :=
  file.map (fun file => (s.nodes file).content)

/-- **What the path holds.** -/
def DirState.content {ι N : Type} (s : DirState ι N) : Option Bytes := s.contentOf s.destination

/-! ## Steps -/

/-- What the writers are given: their bytes, and the names of their temporary files. -/
structure WriteJobs (ι N : Type) where
  /-- The bytes that are written. -/
  bytes : ι → Bytes
  /-- The name of each attempt. -/
  name : ι → ℕ → N

/-- The attempts of `create_temporary`. -/
def maxAttempts : ℕ := 32

section Step

variable {ι N : Type} [DecidableEq ι] [DecidableEq N] (jobs : WriteJobs ι N)
  (s : DirState ι N) (w : ι)

namespace DirState

/-- A writer goes on. -/
def goTo (phase : WritePhase) : DirState ι N :=
  { s with phase := Function.update s.phase w phase }

/-- The file of a writer is changed. -/
def setNode (node : FileNode) : DirState ι N :=
  { s with nodes := Function.update s.nodes (.madeBy w) node }

/-- A name is given to a file, or to none. -/
def setName (name : N) (file : Option (FileId ι)) : DirState ι N :=
  { s with temporaries := Function.update s.temporaries name file }

/-- A file is put in place of another. -/
def putInPlace (file : FileId ι) : DirState ι N :=
  { s with
    destination := some file
    durable := some file :: s.durable
    history := s.history ++ [(some w, s.contentOf (some file))] }

/-- The directory is synced: a rename that was made survives. -/
def syncDirectory : DirState ι N := { s with durable := [s.destination] }

end DirState

/-- One attempt of `create_temporary`. -/
def createTemporary (attempt : ℕ) (answer : StepAnswer) : DirState ι N :=
  if attempt = maxAttempts then s.goTo w (.returned (.error .create))
  else if answer = .failed then s.goTo w (.returned (.error .create))
  else if (s.temporaries (jobs.name w attempt)).isSome then s.goTo w (.creating (attempt + 1))
  else
    ((s.setNode w ⟨[], false⟩).setName (jobs.name w attempt) (some (.madeBy w))).goTo w
      (.checking attempt)

/-- One write of `write_all`. -/
def writeSome (attempt : ℕ) (rest : Bytes) (answer : StepAnswer) : DirState ι N :=
  if rest = [] then s.goTo w (.syncing attempt)
  else
    match answer with
    | .failed | .wrote 0 => s.goTo w (.cleaning attempt .write)
    | .wrote (count + 1) =>
      (s.setNode w ⟨(s.nodes (.madeBy w)).content ++ rest.take (count + 1), false⟩).goTo w
        (.writing attempt (rest.drop (count + 1)))
    | .done =>
      (s.setNode w ⟨(s.nodes (.madeBy w)).content ++ rest, false⟩).goTo w (.writing attempt [])

/-- `replace_atomic`. -/
def replaceAtomic (attempt : ℕ) (answer : StepAnswer) : DirState ι N :=
  match s.temporaries (jobs.name w attempt) with
  | none => s.goTo w (.cleaning attempt .rename)
  | some file =>
    if answer = .failed then s.goTo w (.cleaning attempt .rename)
    else ((s.setName (jobs.name w attempt) none).putInPlace w file).goTo w (.reopening attempt)

/-- **One step of `write_atomic_with`**, with what the system answers to it. -/
def advance (answer : StepAnswer) : DirState ι N :=
  match s.phase w with
  | .ensuring =>
    s.goTo w (if answer = .failed then .returned (.error .ensureParent) else .validating)
  | .validating =>
    s.goTo w (if answer = .failed then .returned (.error .validateDestination) else .creating 0)
  | .creating attempt => createTemporary jobs s w attempt answer
  | .checking attempt =>
    s.goTo w (if answer = .failed then .returned (.error .checkTemporary)
      else .writing attempt (jobs.bytes w))
  | .writing attempt rest => writeSome s w attempt rest answer
  | .syncing attempt =>
    if answer = .failed then s.goTo w (.cleaning attempt .sync)
    else (s.setNode w ⟨(s.nodes (.madeBy w)).content, true⟩).goTo w (.replacing attempt)
  | .replacing attempt => replaceAtomic jobs s w attempt answer
  | .reopening attempt =>
    s.goTo w (if answer = .failed then .cleaning attempt .reopen else .revalidating attempt)
  | .revalidating attempt =>
    s.goTo w (if answer = .failed then .cleaning attempt .revalidate else .syncingParent attempt)
  | .syncingParent attempt =>
    if answer = .failed then s.goTo w (.cleaning attempt .syncParent)
    else s.syncDirectory.goTo w (.returned (.ok ()))
  | .cleaning attempt stage =>
    (s.setName (jobs.name w attempt) none).goTo w (.returned (.error stage))
  | .returned _ | .gone => s

/-- A file when the machine starts again: what was not synced is lost. -/
def FileNode.recovered (node : FileNode) (lost : Bytes) : FileNode :=
  if node.synced then node else ⟨lost, true⟩

/-- A writer when the machine starts again: it is gone, unless it had not begun. -/
def WritePhase.recovered : WritePhase → WritePhase
  | ensuring => ensuring
  | validating | creating _ | checking _ | writing _ _ | syncing _ | replacing _ | reopening _
  | revalidating _ | syncingParent _ | cleaning _ _ | returned _ | gone => gone

/-- **The machine stops**, and starts again with one of the files that may be at the path, and
with some files at other names. -/
def crash (found : Option (FileId ι)) (lost : FileId ι → Bytes) (left : N → Bool) :
    DirState ι N where
  nodes file := (s.nodes file).recovered (lost file)
  destination := found
  temporaries name := if left name then some .stray else none
  durable := [found]
  phase w := (s.phase w).recovered
  history := s.history ++
    [(none, found.map (fun file => ((s.nodes file).recovered (lost file)).content))]

end Step

/-- **What may happen**: a writer makes a step, or the machine stops. -/
inductive WriteStep {ι N : Type} [DecidableEq ι] [DecidableEq N] (jobs : WriteJobs ι N)
    (s : DirState ι N) : DirState ι N → Prop
  | move (w : ι) (answer : StepAnswer) : WriteStep jobs s (advance jobs s w answer)
  | crash (found : Option (FileId ι)) (lost : FileId ι → Bytes) (left : N → Bool)
      (hfound : found ∈ s.durable) : WriteStep jobs s (crash s found lost left)

/-- **The beginning**: the path holds the old content, if any, which was synced, and no writer has
begun. -/
structure Begun {ι N : Type} (old : Option Bytes) (s : DirState ι N) : Prop where
  /-- The path holds the old content. -/
  content : s.content = old
  /-- It is the file that is replaced. -/
  destination : ∀ file ∈ s.destination, file = .before
  /-- The file that is replaced was synced. -/
  synced : (s.nodes .before).synced = true
  /-- What may be found is what is there. -/
  durable : s.durable = [s.destination]
  /-- No writer has begun. -/
  phase : ∀ w, s.phase w = .ensuring
  /-- The other names are of other files. -/
  temporaries : ∀ name, ∀ file ∈ s.temporaries name, file = .stray
  /-- Nothing was changed. -/
  history : s.history = []

end AtomicWrite

end AgentDesktop
