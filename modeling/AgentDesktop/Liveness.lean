import AgentDesktop.Deadline
import AgentDesktop.Session
import AgentDesktop.Util.Runs

/-!
# The liveness of a session

A process that uses a session holds a lease on it: a file of its own in the
directory of the session, which it keeps locked. A lease is taken under the lock
of the session's ref store, once the manifest was read. `gc` removes the
directory of a session that is not live: it looks for leases, takes the lock of
the ref store, looks again, and removes what is in the directory, one entry
after the other and then the directory itself.

Among the entries is the file of the lock. A lock belongs to the file that was
opened, not to its path: once the path is unlinked, whoever opens it makes a new
file, with a lock of its own. Here is one session with any number of attempts to
take a lease, to end the session, to lock its ref store and to collect it; their
steps come in any order, and each attempt may fail or crash between two of them.
-/

namespace AgentDesktop

/-- `TRACE_LIVENESS_WINDOW`, in milliseconds. -/
def traceLivenessWindowMs : ℕ := 300 * 1000

/-- `GcOptions`. -/
structure GcOptions where
  /-- Whether only what has ended is collected. -/
  endedOnly : Bool
  /-- How old a session has to be, in nanoseconds. -/
  olderThan : Option ℕ

/-- What `gc` asks of a manifest. -/
def GcOptions.selects (options : GcOptions) (manifest : SessionManifest) (nowMillis : ℕ) : Bool :=
  !(options.endedOnly && manifest.endedAt.isNone)
    && match options.olderThan with
      | some olderThan =>
        decide (olderThan ≤ (nowMillis - manifest.endedAt.getD manifest.createdAt) * nanosPerMs)
      | none => manifest.endedAt.isSome

/-- The part of `has_recent_activity` that is read off the manifest. -/
def recentlyStarted (manifest : SessionManifest) (nowMillis : ℕ) : Bool :=
  manifest.endedAt.isNone && decide (nowMillis - manifest.createdAt < traceLivenessWindowMs)

/-- **The directory of a session**, with the lease files by the attempts that made them. -/
structure SessionFiles (ι : Type*) where
  /-- Whether the directory is there. -/
  dir : Bool
  /-- `session.json`. -/
  manifest : Option SessionManifest
  /-- The file the path `refstore.lock` leads to. -/
  lockPath : Option ℕ
  /-- How many lock files were made at that path. -/
  made : ℕ
  /-- The files under `liveness`. -/
  leaseFile : ι → Bool

/-- What the lock of the ref store is wanted for. -/
inductive StorePurpose
  | lease
  /-- The lease under which a session is ended. -/
  | endSession
  /-- The ref store itself. -/
  | store
  deriving DecidableEq

/-- A collection: what was asked for, and the copy of the manifest it has read. -/
structure GcDecision where
  options : GcOptions
  /-- The manifest, as `list_sessions` has read it. -/
  manifest : SessionManifest

/-- **How far an attempt has come.** -/
inductive LivenessPhase (ι : Type*)
  /-- It has not begun. -/
  | idle
  /-- `liveness::acquire` looks for the directory. -/
  | entering (purpose : StorePurpose)
  /-- It opens the lock file of the ref store. -/
  | opening (purpose : StorePurpose)
  /-- It waits for the lock of the file it has opened. -/
  | waiting (purpose : StorePurpose) (inode : ℕ)
  /-- It has that lock; for a lease the manifest is read next. -/
  | locked (purpose : StorePurpose) (inode : ℕ)
  /-- There is a manifest; the lease file is made next. -/
  | creating (purpose : StorePurpose) (inode : ℕ)
  /-- The lease file is made; it is locked next. -/
  | leasing (purpose : StorePurpose) (inode : ℕ)
  /-- It is locked; the lock of the ref store is given back next. -/
  | returning (purpose : StorePurpose) (inode : ℕ)
  /-- The lease was returned. -/
  | held (purpose : StorePurpose)
  /-- No lease was returned. -/
  | denied (purpose : StorePurpose)
  /-- `end_session` has read the manifest, and writes it. -/
  | writing (leased : Bool) (manifest : SessionManifest)
  /-- The lease was dropped; its file is removed next. -/
  | dropped
  /-- It is over, or it has failed. -/
  | finished
  /-- `gc` has found the session. -/
  | listed (decision : GcDecision)
  /-- The lock of the ref store was found free. -/
  | probed (decision : GcDecision)
  /-- The session was found not to be live, and is to be collected. -/
  | selected (decision : GcDecision)
  /-- `gc` waits for the lock of the file it has opened. -/
  | gcWaiting (decision : GcDecision) (inode : ℕ)
  /-- It has that lock; the lease files are listed next. -/
  | gcLocked (decision : GcDecision) (inode : ℕ)
  /-- These lease files are still to be tried. -/
  | checking (decision : GcDecision) (inode : ℕ) (remaining : List ι)
  /-- `remove_session_dir`. -/
  | removing (decision : GcDecision) (inode : ℕ)
  /-- The session was removed. -/
  | removed

namespace LivenessPhase

variable {ι : Type*}

/-- The lock file of the ref store an attempt has open. -/
def opened : LivenessPhase ι → Option ℕ
  | waiting _ inode | locked _ inode | creating _ inode | leasing _ inode | returning _ inode
  | gcWaiting _ inode | gcLocked _ inode | checking _ inode _ | removing _ inode => some inode
  | _ => none

/-- The lock file of the ref store whose lock an attempt has. -/
def storeLock : LivenessPhase ι → Option ℕ
  | locked _ inode | creating _ inode | leasing _ inode | returning _ inode
  | gcLocked _ inode | checking _ inode _ | removing _ inode => some inode
  | _ => none

/-- Whether an attempt has the lock of its lease file. -/
def leased : LivenessPhase ι → Bool
  | returning _ _ | held _ | writing true _ => true
  | _ => false

end LivenessPhase

/-- `open_private_lock`: the file at the path, or a new one, in a directory that is made if it
is missing. -/
def SessionFiles.openLock {ι : Type*} (files : SessionFiles ι) : ℕ × SessionFiles ι :=
  match files.lockPath with
  | some inode => (inode, { files with dir := true })
  | none =>
    (files.made, { files with dir := true, lockPath := some files.made, made := files.made + 1 })

section

variable {ι : Type*} [DecidableEq ι]

/-- **One step of an attempt `x`**, where some lock files and some lease files are locked. -/
inductive LivenessMove (x : ι) (locked : ℕ → Prop) (leased : ι → Prop) :
    SessionFiles ι → LivenessPhase ι → SessionFiles ι → LivenessPhase ι → Prop
  /-- A lease is asked for. -/
  | enter {files} (purpose : StorePurpose) (hpurpose : purpose ≠ .store) :
    LivenessMove x locked leased files .idle files (.entering purpose)
  /-- The lock of the ref store is asked for. -/
  | enterStore {files} :
    LivenessMove x locked leased files .idle files (.opening .store)
  /-- There is no directory. -/
  | noDirectory {files purpose} (hdir : files.dir = false) :
    LivenessMove x locked leased files (.entering purpose) files (.denied purpose)
  /-- There is one. -/
  | directory {files purpose} (hdir : files.dir = true) :
    LivenessMove x locked leased files (.entering purpose) files (.opening purpose)
  /-- The lock file is opened. -/
  | openLock {files purpose} :
    LivenessMove x locked leased files (.opening purpose) files.openLock.2
      (.waiting purpose files.openLock.1)
  /-- `try_lock` succeeds. -/
  | lock {files purpose inode} (hfree : ¬ locked inode) :
    LivenessMove x locked leased files (.waiting purpose inode) files (.locked purpose inode)
  /-- The ref store is given back. -/
  | unlockStore {files inode} :
    LivenessMove x locked leased files (.locked .store inode) files .finished
  /-- There is no manifest. -/
  | noManifest {files purpose inode} (hpurpose : purpose ≠ .store)
    (hmanifest : files.manifest = none) :
    LivenessMove x locked leased files (.locked purpose inode) files (.denied purpose)
  /-- There is one. -/
  | readManifest {files purpose inode} (hpurpose : purpose ≠ .store)
    (hmanifest : files.manifest ≠ none) :
    LivenessMove x locked leased files (.locked purpose inode) files (.creating purpose inode)
  /-- The lease file is made. -/
  | createLease {files purpose inode} :
    LivenessMove x locked leased files (.creating purpose inode)
      { files with dir := true, leaseFile := Function.update files.leaseFile x true }
      (.leasing purpose inode)
  /-- The lease file is locked: no one else knows it but those who try its lock. -/
  | lockLease {files purpose inode} :
    LivenessMove x locked leased files (.leasing purpose inode) files (.returning purpose inode)
  /-- The lease is returned, and the lock of the ref store given back. -/
  | returnLease {files purpose inode} :
    LivenessMove x locked leased files (.returning purpose inode) files (.held purpose)
  /-- `end_session` reads the manifest, under the lease. -/
  | readToEnd {files} {sessionId : String} {nowMillis : ℕ} {manifest : SessionManifest}
    (hupdate : endUpdate sessionId nowMillis files.manifest = .ok (manifest, true)) :
    LivenessMove x locked leased files (.held .endSession) files (.writing true manifest)
  /-- It reads the manifest where it was given no lease. -/
  | readToEndDenied {files} {sessionId : String} {nowMillis : ℕ} {manifest : SessionManifest}
    (hupdate : endUpdate sessionId nowMillis files.manifest = .ok (manifest, true)) :
    LivenessMove x locked leased files (.denied .endSession) files (.writing false manifest)
  /-- It writes the manifest, and keeps its lease until it returns. -/
  | writeEnded {files} {leased' : Bool} {manifest : SessionManifest} :
    LivenessMove x locked leased files (.writing leased' manifest)
      { files with dir := true, manifest := some manifest.stored }
      (if leased' then .held .lease else .finished)
  /-- The lease is dropped: its file is closed. -/
  | dropLease {files purpose} :
    LivenessMove x locked leased files (.held purpose) files .dropped
  /-- Then the lease file is removed. -/
  | removeLease {files} :
    LivenessMove x locked leased files .dropped
      { files with leaseFile := Function.update files.leaseFile x false } .finished
  /-- An attempt fails, gives up, or crashes. -/
  | fail {files phase} (hphase : phase ≠ .removed) :
    LivenessMove x locked leased files phase files .finished
  /-- `list_sessions` reads the manifest. -/
  | list {files} {manifest : SessionManifest} (options : GcOptions)
    (hmanifest : files.manifest = some manifest) :
    LivenessMove x locked leased files .idle files (.listed ⟨options, manifest⟩)
  /-- `is_live` finds the lock of the ref store free; its directory is made on the way. -/
  | probeLock {files decision} (hfree : ∀ inode, files.lockPath = some inode → ¬ locked inode) :
    LivenessMove x locked leased files (.listed decision) { files with dir := true }
      (.probed decision)
  /-- It finds no lease, and nothing recent; and the session is one that is asked for. -/
  | probeLeases {files decision} (nowMillis : ℕ)
    (hfree : ∀ y, files.leaseFile y = true → ¬ leased y)
    (hrecent : ∀ manifest ∈ files.manifest, recentlyStarted manifest nowMillis = false)
    (hselects : decision.options.selects decision.manifest nowMillis = true) :
    LivenessMove x locked leased files (.probed decision) files (.selected decision)
  /-- `gc` opens the lock file. -/
  | gcOpenLock {files decision} :
    LivenessMove x locked leased files (.selected decision) files.openLock.2
      (.gcWaiting decision files.openLock.1)
  /-- `try_lock` succeeds. -/
  | gcLock {files decision inode} (hfree : ¬ locked inode) :
    LivenessMove x locked leased files (.gcWaiting decision inode) files
      (.gcLocked decision inode)
  /-- `any_held` lists the lease files: all that are there. -/
  | readEntries {files decision inode} (entries : List ι)
    (hentries : ∀ y, files.leaseFile y = true → y ∈ entries) :
    LivenessMove x locked leased files (.gcLocked decision inode) files
      (.checking decision inode entries)
  /-- One of them is gone, or not locked. -/
  | tryEntry {files decision inode entry remaining}
    (hfree : files.leaseFile entry = true → ¬ leased entry) :
    LivenessMove x locked leased files (.checking decision inode (entry :: remaining)) files
      (.checking decision inode remaining)
  /-- None of them is locked, nothing is recent, and the directory is there. -/
  | startRemoval {files decision inode} (nowMillis : ℕ) (hdir : files.dir = true)
    (hrecent : recentlyStarted decision.manifest nowMillis = false) :
    LivenessMove x locked leased files (.checking decision inode []) files
      (.removing decision inode)
  /-- `remove_dir_all` unlinks the lock file. -/
  | unlinkLock {files decision inode} :
    LivenessMove x locked leased files (.removing decision inode) { files with lockPath := none }
      (.removing decision inode)
  | unlinkManifest {files decision inode} :
    LivenessMove x locked leased files (.removing decision inode) { files with manifest := none }
      (.removing decision inode)
  /-- It unlinks a lease file. -/
  | unlinkLease {files decision inode} (y : ι) :
    LivenessMove x locked leased files (.removing decision inode)
      { files with leaseFile := Function.update files.leaseFile y false }
      (.removing decision inode)
  /-- The directory is empty, and removed; the lock is given back. -/
  | removeDir {files decision inode} (hmanifest : files.manifest = none)
    (hlock : files.lockPath = none) (hleases : ∀ y, files.leaseFile y = false) :
    LivenessMove x locked leased files (.removing decision inode) { files with dir := false }
      .removed

/-- **A session and those who use it.** -/
structure SessionState (ι : Type*) where
  files : SessionFiles ι
  /-- How far each attempt has come. -/
  phase : ι → LivenessPhase ι

namespace SessionState

/-- A session that was started, and that no one uses yet. -/
def started (manifest : SessionManifest) : SessionState ι where
  files :=
    { dir := true, manifest := some manifest, lockPath := none, made := 0,
      leaseFile := fun _ => false }
  phase := fun _ => .idle

/-- The lock of a lock file is taken. -/
def Locked (s : SessionState ι) (inode : ℕ) : Prop :=
  ∃ y, (s.phase y).storeLock = some inode

/-- A lease file is locked. -/
def Leased (s : SessionState ι) (y : ι) : Prop := (s.phase y).leased = true

/-- **A step of one attempt.** -/
inductive Step (s : SessionState ι) : Option ι → SessionState ι → Prop
  /-- The attempt `x` moves on. -/
  | move (x : ι) {files : SessionFiles ι} {phase : LivenessPhase ι}
    (hmove : LivenessMove x s.Locked s.Leased s.files (s.phase x) files phase) :
    Step s (some x) ⟨files, Function.update s.phase x phase⟩

end SessionState

end

end AgentDesktop
