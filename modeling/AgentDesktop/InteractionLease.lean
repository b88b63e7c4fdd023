import AgentDesktop.Util.Runs
import Mathlib.Logic.Function.Basic
import Mathlib.Data.Option.Basic

/-!
# The interaction lease

One lease serializes everything that acts on the desktop. Within a process it
is a flag that is taken by a compare-and-exchange; between processes it is the
lock of one file. Both are taken by an attempt, in this order: the flag, then
the descriptor of the file – opened by `acquire_unix_interaction_lease`,
duplicated from an inherited one by `adopt_inherited_unix_interaction_lease` –
and then the lock of that descriptor. They are given back in the opposite
order, when a lease is dropped and when an attempt fails.

A lock belongs to an open file description, which is named here by the attempt
that opened it: every descriptor duplicated from its own, in any process,
belongs to the same description, taking the lock again through one of them
succeeds, and the lock is gone when the last of them is closed. Any number of
attempts run in any number of processes; their steps, those of a process that
starts or dies, and those of a holder of descriptors come in any order, and at
each check the deadline may have passed or not.
-/

namespace AgentDesktop

/-- What a descriptor refers to. -/
inductive LeaseFile (ι : Type*)
  /-- The lock file, as the attempt `opener` has opened it. -/
  | canonical (opener : ι)
  /-- Another file. -/
  | unrelated
  deriving DecidableEq

/-- Where an attempt gets its descriptor from. -/
inductive LeaseSource
  /-- `acquire_unix_interaction_lease` opens the lock file. -/
  | fresh
  /-- `adopt_inherited_unix_interaction_lease` duplicates an inherited descriptor. -/
  | inherited
  deriving DecidableEq

/-- **How far an attempt has come.** -/
inductive LeasePhase (ι : Type*)
  /-- It has not begun. -/
  | idle
  /-- `ProcessLeaseGuard::acquire`: the flag is tried again and again. -/
  | waiting (source : LeaseSource)
  /-- The flag was taken; the deadline is checked next. -/
  | claimed (source : LeaseSource)
  /-- The process guard is there; the descriptor is next. -/
  | guarded (source : LeaseSource)
  /-- `FileLock::adopt_inherited`: the inherited descriptor was duplicated, and is to be
  compared with the lock file, which is opened for that alone and never locked. -/
  | duplicated (file : LeaseFile ι)
  /-- `lock_file`: the lock is tried again and again. -/
  | contending (opener : ι)
  /-- The lock was taken; the deadline is checked next. -/
  | locked (opener : ι)
  /-- The lease is alive. -/
  | alive (opener : ι)
  /-- The descriptor is closed, and the flag is still to be given back: a lease is being
  dropped, or an attempt is failing. -/
  | releasing (failed : Bool)
  /-- It is over. -/
  | ended (failed : Bool)
  /-- Its process has died, and a lease of the attempt may have been alive before. -/
  | gone (leased : Bool)
  deriving DecidableEq

namespace LeasePhase

variable {ι : Type*}

/-- Whether the flag of the process is taken by this attempt. -/
def ownsFlag : LeasePhase ι → Bool
  | claimed _ | guarded _ | duplicated _ | contending _ | locked _ | alive _ | releasing _ => true
  | idle | waiting _ | ended _ | gone _ => false

/-- The descriptor an attempt has. -/
def descriptor : LeasePhase ι → Option (LeaseFile ι)
  | duplicated file => some file
  | contending opener | locked opener | alive opener => some (.canonical opener)
  | idle | waiting _ | claimed _ | guarded _ | releasing _ | ended _ | gone _ => none

/-- Whether the lease of an attempt is alive, or has been. -/
def leased : LeasePhase ι → Bool
  | alive _ => true
  | releasing failed | ended failed => !failed
  | gone leased => leased
  | idle | waiting _ | claimed _ | guarded _ | duplicated _ | contending _ | locked _ => false

end LeasePhase

/-- **A state of all attempts and processes.** -/
structure LeaseState (ι π : Type*) where
  /-- `PROCESS_LEASE_HELD`, in each process. -/
  flag : π → Bool
  /-- The description the lock of the file belongs to. -/
  lock : Option ι
  /-- How far each attempt has come. -/
  phase : ι → LeasePhase ι
  /-- The descriptors outside of any attempt: duplicates of a lease's, and what was
  inherited. -/
  spare : List (π × LeaseFile ι)
  /-- The processes that live. -/
  lives : π → Bool

namespace LeaseState

variable {ι π : Type*}

/-- Whether a descriptor of a description is open. -/
def Open (s : LeaseState ι π) (opener : ι) : Prop :=
  (∃ x, (s.phase x).descriptor = some (.canonical opener))
    ∨ ∃ p, (p, LeaseFile.canonical opener) ∈ s.spare

/-- **The lock is released when its last descriptor is closed**, and only then: what is left
of a lock that was held. -/
def Settled (s : LeaseState ι π) (held : Option ι) : Prop :=
  ∀ opener, s.lock = some opener ↔ held = some opener ∧ s.Open opener

/-- Nothing has begun. -/
def initial (lives : π → Bool) : LeaseState ι π where
  flag := fun _ => false
  lock := none
  phase := fun _ => .idle
  spare := []
  lives := lives

/-- **One step of an attempt `x`**: from its phase, the flag of its process and the lock to
those after the step, where the process has the descriptors `mine` besides. -/
inductive Moves (x : ι) (mine : LeaseFile ι → Prop) :
    LeasePhase ι → Bool → Option ι → LeasePhase ι → Bool → Option ι → Prop
  /-- The attempt begins. -/
  | start (source : LeaseSource) {flag lock} :
    Moves x mine .idle flag lock (.waiting source) flag lock
  /-- The flag is taken by another attempt, and time is up. -/
  | flagTimeout {source lock} :
    Moves x mine (.waiting source) true lock (.ended true) true lock
  /-- The compare-and-exchange succeeds. -/
  | claim {source lock} :
    Moves x mine (.waiting source) false lock (.claimed source) true lock
  /-- The deadline has passed: the flag is stored back. -/
  | claimTimeout {source flag lock} :
    Moves x mine (.claimed source) flag lock (.ended true) false lock
  /-- The process guard is kept. -/
  | guard {source flag lock} :
    Moves x mine (.claimed source) flag lock (.guarded source) flag lock
  /-- The directory is not private, or there is no descriptor to be had. -/
  | prepareError {source flag lock} :
    Moves x mine (.guarded source) flag lock (.releasing true) flag lock
  /-- `open_private_lock`: a new description. -/
  | openLock {flag lock} :
    Moves x mine (.guarded .fresh) flag lock (.contending x) flag lock
  /-- The inherited descriptor is duplicated. -/
  | duplicate {file flag lock} (hmine : mine file) :
    Moves x mine (.guarded .inherited) flag lock (.duplicated file) flag lock
  /-- It is not the lock file, or that could not be found out. -/
  | reject {file flag lock} :
    Moves x mine (.duplicated file) flag lock (.releasing true) flag lock
  /-- It is the lock file. -/
  | accept {opener flag lock} :
    Moves x mine (.duplicated (.canonical opener)) flag lock (.contending opener) flag lock
  /-- Time is up before the lock is taken, or trying it fails. -/
  | lockError {opener flag lock} :
    Moves x mine (.contending opener) flag lock (.releasing true) flag lock
  /-- `try_lock` succeeds: no description has the lock, or the own one. -/
  | tryLock {opener flag lock} (hfree : lock = none ∨ lock = some opener) :
    Moves x mine (.contending opener) flag lock (.locked opener) flag (some opener)
  /-- The deadline has passed: the file is closed again. -/
  | lockTimeout {opener flag lock} :
    Moves x mine (.locked opener) flag lock (.releasing true) flag lock
  /-- The lease is handed out. -/
  | lease {opener flag lock} :
    Moves x mine (.locked opener) flag lock (.alive opener) flag lock
  /-- The lease is dropped: first its file. -/
  | drop {opener flag lock} :
    Moves x mine (.alive opener) flag lock (.releasing false) flag lock
  /-- Then the process guard, which stores the flag back. -/
  | release {failed flag lock} :
    Moves x mine (.releasing failed) flag lock (.ended failed) false lock

end LeaseState

/-- Who makes a step. -/
inductive LeaseActor (ι π : Type*)
  /-- An attempt, or the holder of its lease. -/
  | attempt (x : ι)
  | process (p : π)

namespace LeaseState

variable {ι π : Type*} [DecidableEq ι] [DecidableEq π] (process : ι → π)

/-- **A step of the whole**, where each attempt runs in a process. -/
inductive Step (s : LeaseState ι π) : Option (LeaseActor ι π) → LeaseState ι π → Prop
  /-- An attempt moves on. -/
  | move (x : ι) {phase : LeasePhase ι} {flag : Bool} {held : Option ι} (s' : LeaseState ι π)
    (hlives : s.lives (process x) = true)
    (hmoves : Moves x (fun file => (process x, file) ∈ s.spare) (s.phase x)
      (s.flag (process x)) s.lock phase flag held)
    (hs' : s' = { s with
      phase := Function.update s.phase x phase
      flag := Function.update s.flag (process x) flag
      lock := s'.lock })
    (hsettled : s'.Settled held) : Step s (some (.attempt x)) s'
  /-- `duplicate_inheritable`, on a lease that is alive. -/
  | duplicateInheritable (x opener : ι) (hlives : s.lives (process x) = true)
    (halive : s.phase x = .alive opener) :
    Step s (some (.attempt x)) { s with spare := (process x, .canonical opener) :: s.spare }
  /-- A process opens another file. -/
  | openUnrelated (p : π) (hlives : s.lives p = true) :
    Step s (some (.process p)) { s with spare := (p, .unrelated) :: s.spare }
  /-- A process closes a descriptor that is in no attempt. -/
  | closeSpare (p : π) (before after : List (π × LeaseFile ι)) (file : LeaseFile ι)
    (s' : LeaseState ι π) (hspare : s.spare = before ++ (p, file) :: after)
    (hs' : s' = { s with spare := before ++ after, lock := s'.lock })
    (hsettled : s'.Settled s.lock) : Step s (some (.process p)) s'
  /-- A process starts another one, which inherits some of its descriptors. -/
  | spawn (p child : π) (inherited : List (LeaseFile ι)) (hlives : s.lives p = true)
    (hnew : s.lives child = false) (hidle : ∀ x, process x = child → s.phase x = .idle)
    (hinherited : ∀ file ∈ inherited, (p, file) ∈ s.spare) :
    Step s (some (.process p)) { s with
      spare := inherited.map (fun file => (child, file)) ++ s.spare
      lives := Function.update s.lives child true }
  /-- A process ends, or crashes: its flag is gone, and its descriptors are closed. -/
  | crash (p : π) (s' : LeaseState ι π) (hlives : s.lives p = true)
    (hs' : s' = { s with
      flag := Function.update s.flag p false
      phase := fun x => if process x = p then .gone (s.phase x).leased else s.phase x
      spare := s.spare.filter (fun descriptor => descriptor.1 ≠ p)
      lives := Function.update s.lives p false
      lock := s'.lock })
    (hsettled : s'.Settled s.lock) : Step s (some (.process p)) s'

end LeaseState

end AgentDesktop
