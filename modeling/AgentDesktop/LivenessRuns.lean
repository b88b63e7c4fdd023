import AgentDesktop.Liveness

/-!
# Garbage collection and live sessions

The lock of the ref store keeps a lease from being taken while `gc` looks for
leases and removes – as long as both have opened the same file. `remove_dir_all`
unlinks that file along with the rest; whoever opens the path after that, and
finds the manifest still there, takes a lease under a lock of its own, and the
removal goes on over it (`lease_taken_during_removal`).

Where the lock file is not made anew while the manifest is there
(`SessionState.Recreates`), there is one lock file as long as there is a
manifest, and no lease once there is none; so a removal meets no lease, and
none is returned after it (`gc_keeps_live_sessions`).
-/

namespace AgentDesktop

variable {ι : Type*}

/-! ## Where an attempt is -/

/-- Whether an attempt has read the manifest under the lock of the ref store, or under a lease,
and has not given either back. -/
def LivenessPhase.guarded : LivenessPhase ι → Bool
  | .creating _ _ | .leasing _ _ | .returning _ _ | .held _ | .writing true _ => true
  | _ => false

/-- Whether an attempt has a lease file. -/
def LivenessPhase.hasFile : LivenessPhase ι → Bool
  | .leasing _ _ | .returning _ _ | .held _ | .writing true _ => true
  | _ => false

/-- The collection an attempt is. -/
def LivenessPhase.decision : LivenessPhase ι → Option GcDecision
  | .listed decision | .probed decision | .selected decision | .gcWaiting decision _
  | .gcLocked decision _ | .checking decision _ _ | .removing decision _ => some decision
  | _ => none

/-- The collection an attempt is, once the session was selected. -/
def LivenessPhase.selection : LivenessPhase ι → Option GcDecision
  | .selected decision | .gcWaiting decision _ | .gcLocked decision _ | .checking decision _ _
  | .removing decision _ => some decision
  | _ => none

namespace LivenessPhase

theorem guarded_cases {phase : LivenessPhase ι} (h : phase.guarded = true) :
    phase.leased = true ∨ ∃ inode, phase.storeLock = some inode := by
  cases phase with
  | creating purpose inode => exact Or.inr ⟨inode, rfl⟩
  | leasing purpose inode => exact Or.inr ⟨inode, rfl⟩
  | returning | held => exact Or.inl rfl
  | writing leased manifest =>
    cases leased with
    | true => exact Or.inl rfl
    | false => cases h
  | _ => cases h

theorem guarded_of_hasFile {phase : LivenessPhase ι} (h : phase.hasFile = true) :
    phase.guarded = true := by
  cases phase with
  | leasing | returning | held => rfl
  | writing leased manifest => cases leased <;> exact h
  | _ => cases h

theorem hasFile_of_leased {phase : LivenessPhase ι} (h : phase.leased = true) :
    phase.hasFile = true := by
  cases phase with
  | returning | held => rfl
  | writing leased manifest => cases leased <;> exact h
  | _ => cases h

theorem opened_of_storeLock {phase : LivenessPhase ι} {inode : ℕ}
    (h : phase.storeLock = some inode) : phase.opened = some inode := by
  cases phase with
  | locked | creating | leasing | returning | gcLocked | checking | removing => exact h
  | _ => cases h

end LivenessPhase

variable [DecidableEq ι]

/-! ## What one step can do

Each part of the state has one lemma here, which says what any step may do to it. The invariant is
kept by putting these together, and none of its proofs looks at a step again. -/

section Moves

variable {x : ι} {taken : ℕ → Prop} {live : ι → Prop} {files files' : SessionFiles ι}
  {phase phase' : LivenessPhase ι}

omit [DecidableEq ι] in
theorem SessionFiles.openLock_cases (files : SessionFiles ι) :
    files.openLock.2.lockPath = some files.openLock.1
      ∧ files.openLock.2.manifest = files.manifest ∧ files.openLock.2.dir = true
      ∧ files.openLock.2.leaseFile = files.leaseFile
      ∧ ((files.lockPath = some files.openLock.1 ∧ files.openLock.2.made = files.made)
        ∨ (files.lockPath = none ∧ files.openLock.1 = files.made
          ∧ files.openLock.2.made = files.made + 1)) := by
  unfold SessionFiles.openLock
  cases hpath : files.lockPath with
  | none => exact ⟨rfl, rfl, rfl, rfl, Or.inr ⟨rfl, rfl, rfl⟩⟩
  | some inode => exact ⟨rfl, rfl, rfl, rfl, Or.inl ⟨rfl, rfl⟩⟩

/-- **A lock of the ref store** is kept, or was free. -/
theorem LivenessMove.storeLock (h : LivenessMove x taken live files phase files' phase')
    {inode : ℕ} (hlock : phase'.storeLock = some inode) :
    phase.storeLock = some inode ∨ ¬ taken inode := by
  cases h with
  | lock hfree | gcLock hfree =>
    obtain rfl := Option.some.inj hlock
    exact Or.inr hfree
  | writeEnded => split at hlock <;> cases hlock
  | readManifest | createLease | lockLease | readEntries | tryEntry | startRemoval | unlinkLock
  | unlinkManifest | unlinkLease => exact Or.inl hlock
  | _ => cases hlock

/-- **A lock file** that is open was open, or is at the path now. -/
theorem LivenessMove.opened (h : LivenessMove x taken live files phase files' phase')
    {inode : ℕ} (hopened : phase'.opened = some inode) :
    phase.opened = some inode ∨ files'.lockPath = some inode := by
  cases h with
  | openLock | gcOpenLock =>
    obtain rfl := Option.some.inj hopened
    exact Or.inr files.openLock_cases.1
  | writeEnded => split at hopened <;> cases hopened
  | lock | readManifest | createLease | lockLease | gcLock | readEntries | tryEntry
  | startRemoval | unlinkLock | unlinkManifest | unlinkLease => exact Or.inl hopened
  | _ => cases hopened

/-- **The path** leads where it did, nowhere, or to a file that is made now. -/
theorem LivenessMove.lockPath (h : LivenessMove x taken live files phase files' phase') :
    (files'.made = files.made
        ∧ ∀ inode, files'.lockPath = some inode → files.lockPath = some inode)
      ∨ (files'.made = files.made + 1 ∧ files.lockPath = none
        ∧ files'.lockPath = some files.made) := by
  cases h with
  | openLock | gcOpenLock =>
    obtain ⟨hpath, -, -, -, ⟨hbefore, hmade⟩ | ⟨hbefore, hinode, hmade⟩⟩ := files.openLock_cases
    · exact Or.inl ⟨hmade, fun inode hinode => by rw [hbefore, ← hpath, hinode]⟩
    · exact Or.inr ⟨hmade, hbefore, by rw [hpath, hinode]⟩
  | unlinkLock => exact Or.inl ⟨rfl, fun inode hinode => (by cases hinode)⟩
  | _ => exact Or.inl ⟨rfl, fun inode hinode => hinode⟩

/-- **The manifest** is as it was, replaced by one that has ended, or removed. -/
theorem LivenessMove.manifest (h : LivenessMove x taken live files phase files' phase') :
    files'.manifest = files.manifest
      ∨ (∃ leased' manifest, phase = .writing leased' manifest
        ∧ files'.manifest = some manifest.stored)
      ∨ (files'.manifest = none ∧ ∃ decision inode, phase = .removing decision inode) := by
  cases h with
  | openLock | gcOpenLock => exact Or.inl files.openLock_cases.2.1
  | writeEnded => exact Or.inr (Or.inl ⟨_, _, rfl, rfl⟩)
  | unlinkManifest => exact Or.inr (Or.inr ⟨rfl, _, _, rfl⟩)
  | _ => exact Or.inl rfl

/-- **The directory** is removed only without its manifest. -/
theorem LivenessMove.dir (h : LivenessMove x taken live files phase files' phase')
    (hdir : files'.dir = false) : files.dir = false ∨ files'.manifest = none := by
  cases h with
  | openLock | gcOpenLock =>
    rw [files.openLock_cases.2.2.1] at hdir
    cases hdir
  | removeDir hmanifest => exact Or.inr hmanifest
  | createLease | probeLock | writeEnded => cases hdir
  | _ => exact Or.inl hdir

/-- **Who is guarded** was so before, or has just read the manifest. -/
theorem LivenessMove.guarded (h : LivenessMove x taken live files phase files' phase')
    (hguarded : phase'.guarded = true) :
    phase.guarded = true
      ∨ (files'.manifest = files.manifest ∧ files.manifest ≠ none) := by
  cases h with
  | readManifest hpurpose hmanifest => exact Or.inr ⟨rfl, hmanifest⟩
  | createLease | lockLease | returnLease | readToEnd => exact Or.inl rfl
  | @writeEnded leased' _ =>
    cases leased' with
    | true => exact Or.inl rfl
    | false => cases hguarded
  | _ => cases hguarded

/-- **A lease** was taken before, or is taken under the lock of the ref store. -/
theorem LivenessMove.leased (h : LivenessMove x taken live files phase files' phase')
    (hleased : phase'.leased = true) :
    phase.leased = true
      ∨ ((∃ purpose inode, phase = .leasing purpose inode) ∧ files' = files) := by
  cases h with
  | lockLease => exact Or.inr ⟨⟨_, _, rfl⟩, rfl⟩
  | returnLease | readToEnd => exact Or.inl rfl
  | @writeEnded leased' _ =>
    cases leased' with
    | true => exact Or.inl rfl
    | false => cases hleased
  | _ => cases hleased

/-- **The own lease file** is there from its making on. -/
theorem LivenessMove.hasFile (h : LivenessMove x taken live files phase files' phase')
    (hfile : phase'.hasFile = true) :
    phase.hasFile = true ∨ files'.leaseFile x = true := by
  cases h with
  | createLease => exact Or.inr (Function.update_self _ _ _)
  | lockLease | returnLease | readToEnd => exact Or.inl rfl
  | @writeEnded leased' _ =>
    cases leased' with
    | true => exact Or.inl rfl
    | false => cases hfile
  | _ => cases hfile

/-- **A lease file** is removed by its owner, when it was dropped, or with the directory. -/
theorem LivenessMove.leaseFile (h : LivenessMove x taken live files phase files' phase')
    {y : ι} (hfile : files.leaseFile y = true) :
    files'.leaseFile y = true ∨ (∃ decision inode, phase = .removing decision inode)
      ∨ (y = x ∧ phase = .dropped) := by
  cases h with
  | openLock | gcOpenLock =>
    rw [files.openLock_cases.2.2.2.1]
    exact Or.inl hfile
  | createLease =>
    by_cases hy : y = x
    · rw [hy]
      exact Or.inl (Function.update_self _ _ _)
    · exact Or.inl ((Function.update_of_ne hy _ _).trans hfile)
  | removeLease =>
    by_cases hy : y = x
    · exact Or.inr (Or.inr ⟨hy, rfl⟩)
    · exact Or.inl ((Function.update_of_ne hy _ _).trans hfile)
  | unlinkLease => exact Or.inr (Or.inl ⟨_, _, rfl⟩)
  | _ => exact Or.inl hfile

/-- **What is still to be tried** are all lease files, or what was still to be tried less one
that is not locked. -/
theorem LivenessMove.checking (h : LivenessMove x taken live files phase files' phase')
    {decision : GcDecision} {inode : ℕ} {remaining : List ι}
    (hchecking : phase' = .checking decision inode remaining) :
    files' = files ∧ phase.storeLock = some inode
      ∧ ((∀ y, files.leaseFile y = true → y ∈ remaining)
        ∨ ∃ entry, phase = .checking decision inode (entry :: remaining)
          ∧ (files.leaseFile entry = true → ¬ live entry)) := by
  cases h with
  | readEntries entries hentries =>
    obtain ⟨rfl, rfl, rfl⟩ := LivenessPhase.checking.inj hchecking
    exact ⟨rfl, rfl, Or.inl hentries⟩
  | tryEntry hfree =>
    obtain ⟨rfl, rfl, rfl⟩ := LivenessPhase.checking.inj hchecking
    exact ⟨rfl, rfl, Or.inr ⟨_, rfl, hfree⟩⟩
  | writeEnded => split at hchecking <;> cases hchecking
  | _ => cases hchecking

/-- **A removal** goes on, or begins when nothing is left to be tried. -/
theorem LivenessMove.removing (h : LivenessMove x taken live files phase files' phase')
    {decision : GcDecision} {inode : ℕ} (hremoving : phase' = .removing decision inode) :
    phase = .removing decision inode ∨ phase = .checking decision inode [] := by
  cases h with
  | startRemoval =>
    obtain ⟨rfl, rfl⟩ := LivenessPhase.removing.inj hremoving
    exact Or.inr rfl
  | unlinkLock | unlinkManifest | unlinkLease => exact Or.inl hremoving
  | writeEnded => split at hremoving <;> cases hremoving
  | _ => cases hremoving

/-- **A lease is denied** where there is no directory, or no manifest. -/
theorem LivenessMove.denied (h : LivenessMove x taken live files phase files' phase')
    {purpose : StorePurpose} (hdenied : phase' = .denied purpose) :
    files' = files ∧ (files.dir = false ∨ files.manifest = none) := by
  cases h with
  | noDirectory hdir => exact ⟨rfl, Or.inl hdir⟩
  | noManifest hpurpose hmanifest => exact ⟨rfl, Or.inr hmanifest⟩
  | writeEnded => split at hdenied <;> cases hdenied
  | _ => cases hdenied

/-- **A manifest is written** after one was read that had not ended. -/
theorem LivenessMove.writing (h : LivenessMove x taken live files phase files' phase')
    {leased' : Bool} {manifest : SessionManifest} (hwriting : phase' = .writing leased' manifest) :
    manifest.isEnded = true ∧ files.manifest ≠ none
      ∧ (leased' = true ∨ ∃ purpose, phase = .denied purpose) := by
  cases h with
  | readToEnd hupdate =>
    obtain ⟨rfl, rfl⟩ := LivenessPhase.writing.inj hwriting
    obtain ⟨read, hread, hended, -⟩ := eq_of_endUpdate hupdate
    exact ⟨hended, by rw [hread]; simp, Or.inl rfl⟩
  | readToEndDenied hupdate =>
    obtain ⟨rfl, rfl⟩ := LivenessPhase.writing.inj hwriting
    obtain ⟨read, hread, hended, -⟩ := eq_of_endUpdate hupdate
    exact ⟨hended, by rw [hread]; simp, Or.inr ⟨_, rfl⟩⟩
  | writeEnded => split at hwriting <;> cases hwriting
  | _ => cases hwriting

/-- **A collection** goes on, or begins with the manifest as it is. -/
theorem LivenessMove.decision (h : LivenessMove x taken live files phase files' phase')
    {decision : GcDecision} (hdecision : phase'.decision = some decision) :
    phase.decision = some decision
      ∨ (files' = files ∧ files.manifest = some decision.manifest) := by
  cases h with
  | list options hmanifest =>
    obtain rfl := Option.some.inj hdecision
    exact Or.inr ⟨rfl, hmanifest⟩
  | writeEnded => split at hdecision <;> cases hdecision
  | probeLock | probeLeases | gcOpenLock | gcLock | readEntries | tryEntry | startRemoval
  | unlinkLock | unlinkManifest | unlinkLease => exact Or.inl hdecision
  | _ => cases hdecision

/-- **A session is selected** as its options say. -/
theorem LivenessMove.selection (h : LivenessMove x taken live files phase files' phase')
    {decision : GcDecision} (hselection : phase'.selection = some decision) :
    phase.selection = some decision
      ∨ ∃ nowMillis, decision.options.selects decision.manifest nowMillis = true := by
  cases h with
  | probeLeases nowMillis hfree hrecent hselects =>
    obtain rfl := Option.some.inj hselection
    exact Or.inr ⟨_, hselects⟩
  | writeEnded => split at hselection <;> cases hselection
  | gcOpenLock | gcLock | readEntries | tryEntry | startRemoval | unlinkLock | unlinkManifest
  | unlinkLease => exact Or.inl hselection
  | _ => cases hselection

/-- **A session is removed** when its manifest is gone. -/
theorem LivenessMove.removed (h : LivenessMove x taken live files phase files' phase')
    (hremoved : phase' = .removed) :
    files'.manifest = none ∧ files.manifest = none
      ∧ ∃ decision inode, phase = .removing decision inode := by
  cases h with
  | removeDir hmanifest => exact ⟨hmanifest, hmanifest, _, _, rfl⟩
  | writeEnded => split at hremoved <;> cases hremoved
  | _ => cases hremoved

end Moves

/-! ## What holds as long as the lock file is not made anew

Two attempts that have locked the ref store have opened one file, as long as no one finds the path
free and makes another. Under that condition the lock orders everything: who is guarded has read a
manifest that is still there, a removal begins only when no lease is left, and nothing is leased
after it. -/

namespace SessionState

/-- **The lock file is made anew**: a removal has unlinked it, and the manifest is still there. -/
def Recreates (s s' : SessionState ι) : Prop :=
  s.files.lockPath = none ∧ s'.files.lockPath ≠ none ∧ s.files.made ≠ 0 ∧ s.files.manifest ≠ none

/-- A step that does not make the lock file anew. -/
def KeepingStep (s : SessionState ι) (actor : Option ι) (s' : SessionState ι) : Prop :=
  Step s actor s' ∧ ¬ Recreates s s'

/-- **The invariant.** -/
structure Invariant (s : SessionState ι) : Prop where
  /-- The lock of a lock file is taken once. -/
  exclusive : ∀ x y inode, (s.phase x).storeLock = some inode →
    (s.phase y).storeLock = some inode → x = y
  /-- As long as there is a manifest, there was one lock file at most. -/
  single : s.files.manifest ≠ none → s.files.made ≤ 1
  /-- What is open was made. -/
  opened : ∀ x inode, (s.phase x).opened = some inode → inode < s.files.made
  /-- What is at the path was made. -/
  path : ∀ inode, s.files.lockPath = some inode → inode < s.files.made
  /-- Where anyone is guarded there is a manifest. -/
  present : ∀ x, (s.phase x).guarded = true → s.files.manifest ≠ none
  /-- Where there is no directory there is no manifest. -/
  dir : s.files.dir = false → s.files.manifest = none
  /-- Lease files are there from their making on. -/
  file : ∀ x, (s.phase x).hasFile = true → s.files.leaseFile x = true
  /-- A collection has all leases still to try. -/
  checked : ∀ g decision inode remaining, s.phase g = .checking decision inode remaining →
    ∀ x, s.Leased x → x ∈ remaining
  /-- **A removal meets no lease.** -/
  cleared : ∀ g decision inode, s.phase g = .removing decision inode → ∀ x, ¬ s.Leased x
  /-- A lease is denied where there is no manifest. -/
  denied : ∀ x purpose, s.phase x = .denied purpose → s.files.manifest = none
  /-- A session is ended under a lease. -/
  written : ∀ x leased manifest, s.phase x = .writing leased manifest →
    leased = true ∧ manifest.isEnded = true
  /-- What has ended when it was read has ended. -/
  decided : ∀ g decision, (s.phase g).decision = some decision → decision.manifest.isEnded = true →
    ∀ manifest, s.files.manifest = some manifest → manifest.isEnded = true
  /-- What is selected is as the options say. -/
  selected : ∀ g decision, (s.phase g).selection = some decision →
    ∃ nowMillis, decision.options.selects decision.manifest nowMillis = true
  /-- What was removed has no manifest. -/
  removed : ∀ g, s.phase g = .removed → s.files.manifest = none

namespace Invariant

variable {s : SessionState ι}

omit [DecidableEq ι] in
theorem eq_zero (h : s.Invariant) (hmanifest : s.files.manifest ≠ none) {x : ι} {inode : ℕ}
    (hlock : (s.phase x).storeLock = some inode) : inode = 0 := by
  have hmade := h.single hmanifest
  have hinode := h.opened x inode (LivenessPhase.opened_of_storeLock hlock)
  omega

omit [DecidableEq ι] in
theorem sole (h : s.Invariant) (hmanifest : s.files.manifest ≠ none) {x y : ι} {i j : ℕ}
    (hx : (s.phase x).storeLock = some i) (hy : (s.phase y).storeLock = some j) : x = y := by
  rw [h.eq_zero hmanifest hx] at hx
  rw [h.eq_zero hmanifest hy] at hy
  exact h.exclusive x y 0 hx hy

omit [DecidableEq ι] in
theorem not_guarded (h : s.Invariant) {g : ι} {decision : GcDecision} {inode : ℕ}
    (hg : s.phase g = .removing decision inode) (x : ι) : ¬ (s.phase x).guarded = true := by
  intro hguarded
  rcases LivenessPhase.guarded_cases hguarded with hleased | ⟨inode', hlock⟩
  · exact h.cleared g decision inode hg x hleased
  · have heq : g = x := h.sole (h.present x hguarded) (by rw [hg]; rfl) hlock
    rw [← heq, hg] at hguarded
    cases hguarded

section Step

variable {x : ι} {files : SessionFiles ι} {phase : LivenessPhase ι}

theorem manifest_none (h : s.Invariant)
    (hmove : LivenessMove x s.Locked s.Leased s.files (s.phase x) files phase)
    (hnone : s.files.manifest = none) : files.manifest = none := by
  rcases hmove.manifest with hsame | ⟨leased, manifest, hwriting, -⟩ | ⟨hgone, -⟩
  · rw [hsame, hnone]
  · obtain ⟨rfl, -⟩ := h.written x leased manifest hwriting
    exact absurd hnone (h.present x (by rw [hwriting]; rfl))
  · exact hgone

theorem manifest_kept
    (hmove : LivenessMove x s.Locked s.Leased s.files (s.phase x) files phase)
    (hmanifest : s.files.manifest ≠ none) :
    files.manifest ≠ none ∨ ∃ decision inode, s.phase x = .removing decision inode := by
  rcases hmove.manifest with hsame | ⟨leased, manifest, -, hwritten⟩ | ⟨-, hremoving⟩
  · exact Or.inl (by rw [hsame]; exact hmanifest)
  · exact Or.inl (by rw [hwritten]; simp)
  · exact Or.inr hremoving

theorem made_le (hmove : LivenessMove x s.Locked s.Leased s.files (s.phase x) files phase) :
    s.files.made ≤ files.made := by
  rcases hmove.lockPath with ⟨hmade, -⟩ | ⟨hmade, -, -⟩ <;> omega

theorem path_made (h : s.Invariant)
    (hmove : LivenessMove x s.Locked s.Leased s.files (s.phase x) files phase) {inode : ℕ}
    (hpath : files.lockPath = some inode) : inode < files.made := by
  rcases hmove.lockPath with ⟨hmade, hbefore⟩ | ⟨hmade, -, hnew⟩
  · rw [hmade]
    exact h.path inode (hbefore inode hpath)
  · rw [hnew] at hpath
    obtain rfl := Option.some.inj hpath
    omega

theorem leased_of_update {y : ι} (hleased : Leased ⟨files, Function.update s.phase x phase⟩ y)
    (hphase : phase.leased = false) : s.Leased y := by
  unfold Leased at hleased ⊢
  dsimp only at hleased
  by_cases hy : y = x
  · rw [hy, Function.update_self, hphase] at hleased
    cases hleased
  · rwa [Function.update_of_ne hy] at hleased

/-- **A lease that is there after a step** was there before, or no one else has the lock of the
ref store. -/
theorem leased_before (h : s.Invariant)
    (hmove : LivenessMove x s.Locked s.Leased s.files (s.phase x) files phase) {g y : ι}
    {inode : ℕ} (hgx : g ≠ x) (hg : (s.phase g).storeLock = some inode)
    (hleased : Leased ⟨files, Function.update s.phase x phase⟩ y) : s.Leased y := by
  unfold Leased at hleased ⊢
  dsimp only at hleased
  by_cases hy : y = x
  · rw [hy, Function.update_self] at hleased
    rw [hy]
    rcases hmove.leased hleased with hbefore | ⟨⟨purpose, inode', hleasing⟩, -⟩
    · exact hbefore
    · have hpresent := h.present x (by rw [hleasing]; rfl)
      exact absurd (h.sole hpresent hg (by rw [hleasing]; rfl)) hgx
  · rw [Function.update_of_ne hy] at hleased
    exact hleased

/-- **A lock of a lock file is taken once**: one that is taken was free. -/
theorem exclusive_move (h : s.Invariant)
    (hmove : LivenessMove x s.Locked s.Leased s.files (s.phase x) files phase) {y z : ι} {inode : ℕ}
    (hy : (Function.update s.phase x phase y).storeLock = some inode)
    (hz : (Function.update s.phase x phase z).storeLock = some inode) : y = z := by
  have hnew {y z : ι} (hyx : y = x) (hzx : z ≠ x)
      (hy : (Function.update s.phase x phase y).storeLock = some inode)
      (hz : (Function.update s.phase x phase z).storeLock = some inode) : y = z := by
    rw [Function.update_of_ne hzx] at hz
    rw [hyx, Function.update_self] at hy
    rcases hmove.storeLock hy with hbefore | hfree
    · rw [hyx]
      exact h.exclusive x z inode hbefore hz
    · exact absurd ⟨z, hz⟩ hfree
  by_cases hyx : y = x
  · by_cases hzx : z = x
    · rw [hyx, hzx]
    · exact hnew hyx hzx hy hz
  · by_cases hzx : z = x
    · exact (hnew hzx hyx hz hy).symm
    · rw [Function.update_of_ne hyx] at hy
      rw [Function.update_of_ne hzx] at hz
      exact h.exclusive y z inode hy hz

/-- **The lock file is made once** as long as there is a manifest. -/
theorem single_move (h : s.Invariant)
    (hmove : LivenessMove x s.Locked s.Leased s.files (s.phase x) files phase)
    (hkeeping : ¬ s.Recreates ⟨files, Function.update s.phase x phase⟩)
    (hmanifest : files.manifest ≠ none) : files.made ≤ 1 := by
  have hbefore : s.files.manifest ≠ none := fun hnone => hmanifest (h.manifest_none hmove hnone)
  rcases hmove.lockPath with ⟨hmade, -⟩ | ⟨hmade, hnone, hnew⟩
  · rw [hmade]
    exact h.single hbefore
  · have hfirst : s.files.made = 0 := by
      by_contra hne
      exact hkeeping ⟨hnone, by rw [hnew]; simp, hne, hbefore⟩
    omega

/-- **Who is guarded finds a manifest**: one is guarded from a manifest on, and a removal meets no
one who is. -/
theorem present_move (h : s.Invariant)
    (hmove : LivenessMove x s.Locked s.Leased s.files (s.phase x) files phase) {y : ι}
    (hy : (Function.update s.phase x phase y).guarded = true) : files.manifest ≠ none := by
  have hbefore : (s.phase y).guarded = true ∨ files.manifest ≠ none := by
    by_cases hyx : y = x
    · rw [hyx, Function.update_self] at hy
      rcases hmove.guarded hy with hbefore | ⟨hsame, hmanifest⟩
      · exact Or.inl (hyx ▸ hbefore)
      · exact Or.inr (by rw [hsame]; exact hmanifest)
    · rw [Function.update_of_ne hyx] at hy
      exact Or.inl hy
  rcases hbefore with hbefore | hafter
  · rcases manifest_kept hmove (h.present y hbefore) with hkept | ⟨decision, inode, hremoving⟩
    · exact hkept
    · exact absurd hbefore (h.not_guarded hremoving y)
  · exact hafter

/-- **A lease file stays** until its lease is dropped: a removal meets none. -/
theorem file_move (h : s.Invariant)
    (hmove : LivenessMove x s.Locked s.Leased s.files (s.phase x) files phase) {y : ι}
    (hy : (Function.update s.phase x phase y).hasFile = true) : files.leaseFile y = true := by
  have hbefore : (s.phase y).hasFile = true ∨ files.leaseFile y = true := by
    by_cases hyx : y = x
    · rw [hyx, Function.update_self] at hy
      rw [hyx]
      exact hmove.hasFile hy
    · rw [Function.update_of_ne hyx] at hy
      exact Or.inl hy
  rcases hbefore with hbefore | hafter
  · rcases hmove.leaseFile (h.file y hbefore) with hkept | ⟨decision, inode, hremoving⟩
      | ⟨hyx, hdropped⟩
    · exact hkept
    · exact absurd (LivenessPhase.guarded_of_hasFile hbefore) (h.not_guarded hremoving y)
    · rw [hyx, hdropped] at hbefore
      cases hbefore
  · exact hafter

/-- **A collection goes over all leases**: it starts with all, and passes over those that are
free. -/
theorem checked_move (h : s.Invariant)
    (hmove : LivenessMove x s.Locked s.Leased s.files (s.phase x) files phase) {g y : ι}
    {decision : GcDecision} {inode : ℕ} {remaining : List ι}
    (hg : Function.update s.phase x phase g = .checking decision inode remaining)
    (hleased : Leased ⟨files, Function.update s.phase x phase⟩ y) : y ∈ remaining := by
  by_cases hgx : g = x
  · rw [hgx, Function.update_self] at hg
    obtain ⟨-, hlock, hremaining⟩ := hmove.checking hg
    have hbefore := leased_of_update hleased (by rw [hg]; rfl)
    have hfile := h.file y (LivenessPhase.hasFile_of_leased hbefore)
    rcases hremaining with hall | ⟨entry, hchecking, hfree⟩
    · exact hall y hfile
    · rcases List.mem_cons.mp (h.checked x _ _ _ hchecking y hbefore) with heq | hmem
      · rw [heq] at hfile hbefore
        exact absurd hbefore (hfree hfile)
      · exact hmem
  · rw [Function.update_of_ne hgx] at hg
    exact h.checked g _ _ _ hg y (h.leased_before hmove hgx (by rw [hg]; rfl) hleased)

/-- **A session that had ended when it was read has ended**: what is written over its manifest
ends it too. -/
theorem decided_move (h : s.Invariant)
    (hmove : LivenessMove x s.Locked s.Leased s.files (s.phase x) files phase) {g : ι}
    {decision : GcDecision} (hg : (Function.update s.phase x phase g).decision = some decision)
    (hended : decision.manifest.isEnded = true) {manifest : SessionManifest}
    (hmanifest : files.manifest = some manifest) : manifest.isEnded = true := by
  have hbefore : (s.phase g).decision = some decision
      ∨ (files = s.files ∧ s.files.manifest = some decision.manifest) := by
    by_cases hgx : g = x
    · rw [hgx, Function.update_self] at hg
      rw [hgx]
      exact hmove.decision hg
    · rw [Function.update_of_ne hgx] at hg
      exact Or.inl hg
  rcases hbefore with hbefore | ⟨hsame, hread⟩
  · rcases hmove.manifest with hsame | ⟨leased, manifest', hwriting, hwritten⟩ | ⟨hgone, -⟩
    · rw [hsame] at hmanifest
      exact h.decided g decision hbefore hended manifest hmanifest
    · rw [hwritten] at hmanifest
      obtain rfl := Option.some.inj hmanifest
      unfold SessionManifest.isEnded
      rw [SessionManifest.stored_endedAt]
      exact (h.written x leased manifest' hwriting).2
    · rw [hgone] at hmanifest
      cases hmanifest
  · rw [hsame, hread] at hmanifest
    obtain rfl := Option.some.inj hmanifest
    exact hended

/-- **A step that does not make the lock file anew keeps the invariant.** -/
theorem move (h : s.Invariant)
    (hmove : LivenessMove x s.Locked s.Leased s.files (s.phase x) files phase)
    (hkeeping : ¬ s.Recreates ⟨files, Function.update s.phase x phase⟩) :
    Invariant ⟨files, Function.update s.phase x phase⟩ := by
  have hself : Function.update s.phase x phase x = phase := Function.update_self _ _ _
  have hother {y : ι} (hy : y ≠ x) : Function.update s.phase x phase y = s.phase y :=
    Function.update_of_ne hy _ _
  refine
    { exclusive := fun y z inode hy hz => h.exclusive_move hmove hy hz
      single := fun hmanifest => h.single_move hmove hkeeping hmanifest
      opened := fun y inode hy => ?_
      path := fun inode hpath => h.path_made hmove hpath
      present := fun y hy => h.present_move hmove hy
      dir := fun hdir => ?_
      file := fun y hy => h.file_move hmove hy
      checked := fun g decision inode remaining hg y hleased => h.checked_move hmove hg hleased
      cleared := fun g decision inode hg y hleased => ?_
      denied := fun y purpose hy => ?_
      written := fun y leased manifest hy => ?_
      decided := fun g decision hg hended manifest hmanifest =>
        h.decided_move hmove hg hended hmanifest
      selected := fun g decision hg => ?_
      removed := fun g hg => ?_ }
  all_goals dsimp only at *
  · by_cases hyx : y = x
    · rw [hyx, hself] at hy
      rcases hmove.opened hy with hbefore | hpath
      · exact lt_of_lt_of_le (h.opened x inode hbefore) (made_le hmove)
      · exact h.path_made hmove hpath
    · rw [hother hyx] at hy
      exact lt_of_lt_of_le (h.opened y inode hy) (made_le hmove)
  · rcases hmove.dir hdir with hbefore | hafter
    · exact h.manifest_none hmove (h.dir hbefore)
    · exact hafter
  · by_cases hgx : g = x
    · -- the removal begins where no lease is left to try
      rw [hgx, hself] at hg
      have hbefore := leased_of_update hleased (by rw [hg]; rfl)
      rcases hmove.removing hg with hremoving | hchecking
      · exact h.cleared x _ _ hremoving y hbefore
      · exact absurd (h.checked x _ _ _ hchecking y hbefore) (by simp)
    · rw [hother hgx] at hg
      exact h.cleared g _ _ hg y (h.leased_before hmove hgx (by rw [hg]; rfl) hleased)
  · refine h.manifest_none hmove ?_
    by_cases hyx : y = x
    · rw [hyx, hself] at hy
      rcases (hmove.denied hy).2 with hdir | hnone
      · exact h.dir hdir
      · exact hnone
    · rw [hother hyx] at hy
      exact h.denied y purpose hy
  · by_cases hyx : y = x
    · rw [hyx, hself] at hy
      obtain ⟨hended, hmanifest, hleased | ⟨purpose, hdenied⟩⟩ := hmove.writing hy
      · exact ⟨hleased, hended⟩
      · exact absurd (h.denied x purpose hdenied) hmanifest
    · rw [hother hyx] at hy
      exact h.written y leased manifest hy
  · by_cases hgx : g = x
    · rw [hgx, hself] at hg
      rcases hmove.selection hg with hbefore | hselects
      · exact h.selected x decision hbefore
      · exact hselects
    · rw [hother hgx] at hg
      exact h.selected g decision hg
  · by_cases hgx : g = x
    · rw [hgx, hself] at hg
      exact (hmove.removed hg).1
    · rw [hother hgx] at hg
      exact h.manifest_none hmove (h.removed g hg)

end Step

end Invariant

omit [DecidableEq ι] in
theorem invariant_started (manifest : SessionManifest) :
    (started manifest : SessionState ι).Invariant where
  exclusive := fun _ _ _ hx => (by cases hx)
  single := fun _ => Nat.zero_le 1
  opened := fun _ _ hx => (by cases hx)
  path := fun _ hpath => (by cases hpath)
  present := fun _ hx => (by cases hx)
  dir := fun hdir => (by cases hdir)
  file := fun _ hx => (by cases hx)
  checked := fun _ _ _ _ hg => (by cases hg)
  cleared := fun _ _ _ hg => (by cases hg)
  denied := fun _ _ hx => (by cases hx)
  written := fun _ _ _ hx => (by cases hx)
  decided := fun _ _ hg => (by cases hg)
  selected := fun _ _ hg => (by cases hg)
  removed := fun _ hg => (by cases hg)

theorem Invariant.step {s s' : SessionState ι} {actor : Option ι} (h : s.Invariant)
    (hstep : KeepingStep s actor s') : s'.Invariant := by
  obtain ⟨hstep, hkeeping⟩ := hstep
  cases hstep with
  | move x hmove => exact h.move hmove hkeeping

theorem Invariant.step_manifest_none {s s' : SessionState ι} {actor : Option ι} (h : s.Invariant)
    (hstep : KeepingStep s actor s') (hnone : s.files.manifest = none) :
    s'.files.manifest = none := by
  cases hstep.1 with
  | move x hmove => exact h.manifest_none hmove hnone

omit [DecidableEq ι] in
theorem Invariant.not_leased {s : SessionState ι} (h : s.Invariant)
    (hnone : s.files.manifest = none) (x : ι) : ¬ s.Leased x := by
  intro hleased
  have hguarded := LivenessPhase.guarded_of_hasFile (LivenessPhase.hasFile_of_leased hleased)
  exact h.present x hguarded hnone

/-- **Garbage collection removes no live session**: while a removal is going on there is no
lease, and without `older_than` the session has ended; and there is no lease once it
was removed. -/
def KeepsLive (s : SessionState ι) : Prop :=
  (∀ g decision inode, s.phase g = .removing decision inode →
      (∀ x, ¬ s.Leased x)
        ∧ (decision.options.olderThan = none → decision.manifest.isEnded = true
          ∧ ∀ manifest, s.files.manifest = some manifest → manifest.isEnded = true))
    ∧ ∀ g, s.phase g = .removed → ∀ x, ¬ s.Leased x

end SessionState

/-- What is selected without `older_than` has ended. -/
theorem GcOptions.isEnded_of_selects {options : GcOptions} {manifest : SessionManifest}
    {nowMillis : ℕ} (h : options.selects manifest nowMillis = true)
    (hnone : options.olderThan = none) : manifest.isEnded = true := by
  unfold GcOptions.selects at h
  rw [hnone, Bool.and_eq_true] at h
  exact h.2

/-- **Where the lock file is not made anew while the manifest is there, no live session is
removed.** Any number of attempts take leases, end the session, lock its ref store and collect
it, in any order. If no step makes the lock file anew after a removal has unlinked it and while
the manifest is still there, then in every state that is reached no removal meets a lease, and
none began on a session that had not ended unless an age was asked for; and once the session is
removed, no attempt, whenever it began, has a lease in any state after. -/
theorem gc_keeps_live_sessions {manifest : SessionManifest} {actors : List ι} {s : SessionState ι}
    (h : Runs SessionState.KeepingStep (.started manifest) actors s) :
    s.KeepsLive
      ∧ ∀ g, s.phase g = .removed → ∀ actors' s', Runs SessionState.KeepingStep s actors' s' →
        ∀ x, ¬ s'.Leased x := by
  have hinv : s.Invariant :=
    h.invariant (SessionState.invariant_started manifest) (fun _ _ _ hinv hstep => hinv.step hstep)
  refine ⟨⟨fun g decision inode hg => ⟨hinv.cleared g decision inode hg, fun hnone => ?_⟩,
    fun g hg => hinv.not_leased (hinv.removed g hg)⟩, fun g hg actors' s' hrun => ?_⟩
  · obtain ⟨nowMillis, hselects⟩ := hinv.selected g decision (by rw [hg]; rfl)
    have hended := GcOptions.isEnded_of_selects hselects hnone
    exact ⟨hended, hinv.decided g decision (by rw [hg]; rfl) hended⟩
  · have hlater := hrun.invariant
      (I := fun s => s.Invariant ∧ s.files.manifest = none) ⟨hinv, hinv.removed g hg⟩
      (fun _ _ _ hinv hstep => ⟨hinv.1.step hstep, hinv.1.step_manifest_none hstep hinv.2⟩)
    exact hlater.1.not_leased hlater.2

/-! ## Two collections

The condition cannot be dropped: the removal unlinks the lock file before the manifest, and there is
a moment between the two. -/

namespace Sample

/-- A session that has ended. -/
def collectedManifest : SessionManifest :=
  ⟨"run-9", none, 0, some 5, .on, .events, .default⟩

/-- `session gc`, without options. -/
def collection : GcDecision := ⟨⟨false, none⟩, collectedManifest⟩

/-- A collection, and an attempt to take a lease. -/
def beside (files : SessionFiles Bool) (gc attempt : LivenessPhase Bool) : SessionState Bool :=
  ⟨files, fun x => if x then gc else attempt⟩

/-- The directory with these entries. -/
def entries (manifest : Option SessionManifest) (lockPath : Option ℕ) (made : ℕ) (lease : Bool) :
    SessionFiles Bool where
  dir := true
  manifest
  lockPath
  made
  leaseFile := fun x => !x && lease

theorem entries_update (manifest : Option SessionManifest) (lockPath : Option ℕ) (made : ℕ)
    (before after : Bool) :
    { entries manifest lockPath made before with
      leaseFile := Function.update (entries manifest lockPath made before).leaseFile false after }
      = entries manifest lockPath made after := by
  have hleases : Function.update (entries manifest lockPath made before).leaseFile false after
      = (entries manifest lockPath made after).leaseFile := by
    funext x
    cases x <;> rfl
  rw [hleases]
  rfl

end Sample

namespace SessionState

instance (s : SessionState Bool) (inode : ℕ) : Decidable (s.Locked inode) :=
  inferInstanceAs (Decidable (∃ _, _))

instance (s : SessionState Bool) (y : Bool) : Decidable (s.Leased y) :=
  inferInstanceAs (Decidable (_ = true))

theorem step_gc {files files' : SessionFiles Bool} {gc gc' attempt : LivenessPhase Bool}
    (hmove : LivenessMove true (Sample.beside files gc attempt).Locked
      (Sample.beside files gc attempt).Leased files gc files' gc') :
    Step (Sample.beside files gc attempt) (some true) (Sample.beside files' gc' attempt) := by
  have hphase : Function.update (Sample.beside files gc attempt).phase true gc'
      = (Sample.beside files' gc' attempt).phase := by
    funext x
    cases x <;> rfl
  have hstep := Step.move (s := Sample.beside files gc attempt) true hmove
  rw [hphase] at hstep
  exact hstep

theorem step_attempt {files files' : SessionFiles Bool} {gc attempt attempt' : LivenessPhase Bool}
    (hmove : LivenessMove false (Sample.beside files gc attempt).Locked
      (Sample.beside files gc attempt).Leased files attempt files' attempt') :
    Step (Sample.beside files gc attempt) (some false) (Sample.beside files' gc attempt') := by
  have hphase : Function.update (Sample.beside files gc attempt).phase false attempt'
      = (Sample.beside files' gc attempt').phase := by
    funext x
    cases x <;> rfl
  have hstep := Step.move (s := Sample.beside files gc attempt) false hmove
  rw [hphase] at hstep
  exact hstep

instance (s s' : SessionState Bool) : Decidable (s.Recreates s') :=
  inferInstanceAs (Decidable (_ ∧ _ ∧ _ ∧ _))

theorem unlinked_run : ∃ actors, Runs KeepingStep (started Sample.collectedManifest) actors
    (Sample.beside (Sample.entries (some Sample.collectedManifest) none 1 false)
      (.removing Sample.collection 0) .idle) := by
  let files := Sample.entries (some Sample.collectedManifest)
  let state := fun made lock (gc : LivenessPhase Bool) =>
    Sample.beside (files lock made false) gc .idle
  have hstart : started Sample.collectedManifest = state 0 none .idle := by
    show (⟨_, _⟩ : SessionState Bool) = ⟨_, _⟩
    congr 1
    · show (⟨_, _, _, _, _⟩ : SessionFiles Bool) = ⟨_, _, _, _, _⟩
      congr 1
      funext x
      cases x <;> rfl
    · funext x
      cases x <;> rfl
  rw [hstart]
  have hlisted : Runs KeepingStep (state 0 none .idle) _
      (state 0 none (.listed Sample.collection)) :=
    Runs.refl.snoc ⟨step_gc (.list ⟨false, none⟩ rfl), by decide⟩
  have hprobed : Runs KeepingStep (state 0 none .idle) _
      (state 0 none (.probed Sample.collection)) :=
    hlisted.snoc ⟨step_gc (.probeLock (fun _ h => (by cases h))), by decide⟩
  have hselected : Runs KeepingStep (state 0 none .idle) _
      (state 0 none (.selected Sample.collection)) :=
    hprobed.snoc ⟨step_gc (.probeLeases 9 (fun y h => (by cases y <;> cases h))
      (fun manifest h => (by cases h; rfl)) rfl), by decide⟩
  have hopened : Runs KeepingStep (state 0 none .idle) _
      (state 1 (some 0) (.gcWaiting Sample.collection 0)) :=
    hselected.snoc ⟨step_gc .gcOpenLock, by decide⟩
  have hlocked : Runs KeepingStep (state 0 none .idle) _
      (state 1 (some 0) (.gcLocked Sample.collection 0)) :=
    hopened.snoc ⟨step_gc (.gcLock (by decide)), by decide⟩
  have hchecking : Runs KeepingStep (state 0 none .idle) _
      (state 1 (some 0) (.checking Sample.collection 0 [])) :=
    hlocked.snoc ⟨step_gc (.readEntries [] (fun y h => (by cases y <;> cases h))), by decide⟩
  have hremoving : Runs KeepingStep (state 0 none .idle) _
      (state 1 (some 0) (.removing Sample.collection 0)) :=
    hchecking.snoc ⟨step_gc (.startRemoval 9 rfl rfl), by decide⟩
  exact ⟨_, hremoving.snoc ⟨step_gc .unlinkLock, by decide⟩⟩

end SessionState

/-- A collection that no one disturbs removes the session, and there is no lease after it. -/
theorem gc_keeps_live_sessions_undisturbed :
    ∃ actors s, Runs SessionState.KeepingStep (.started Sample.collectedManifest) actors s
      ∧ s.phase true = .removed ∧ ¬ s.Leased false := by
  obtain ⟨actors, hrun⟩ := SessionState.unlinked_run
  have hemptied : Runs SessionState.KeepingStep (.started Sample.collectedManifest) _
      (Sample.beside (Sample.entries none none 1 false) (.removing Sample.collection 0) .idle) :=
    hrun.snoc ⟨SessionState.step_gc .unlinkManifest, by decide⟩
  have hremoved : Runs SessionState.KeepingStep (.started Sample.collectedManifest) _
      (Sample.beside { Sample.entries none none 1 false with dir := false } .removed .idle) :=
    hemptied.snoc ⟨SessionState.step_gc (.removeDir rfl rfl (fun y => (by cases y <;> rfl))),
      by decide⟩
  exact ⟨_, _, hremoved, rfl, (gc_keeps_live_sessions hremoved).1.2 true rfl false⟩

/-- **A lease is taken during a removal**: the collection has unlinked the lock file when the
attempt opens the path; it locks a file of its own, finds the manifest and is returned a
lease; and the collection removes the rest, and the session with it. The removal need not even
be completed: a file made anew below the directory can stop it after the manifest is gone, and
then the session is lost in the same way. -/
theorem lease_taken_during_removal :
    ∃ actors s, Runs SessionState.Step (.started Sample.collectedManifest) actors s
      ∧ s.phase true = .removed ∧ s.phase false = .held .lease ∧ s.Leased false := by
  obtain ⟨actors, hkept⟩ := SessionState.unlinked_run
  have hrun := hkept.mono (fun _ _ _ hstep => hstep.1)
  let start : SessionState Bool := .started Sample.collectedManifest
  let gc : LivenessPhase Bool := .removing Sample.collection 0
  let files := Sample.entries (some Sample.collectedManifest)
  have hentering : Runs SessionState.Step start _
      (Sample.beside (files none 1 false) gc (.entering .lease)) :=
    hrun.snoc (SessionState.step_attempt (.enter .lease (by decide)))
  have hopening : Runs SessionState.Step start _
      (Sample.beside (files none 1 false) gc (.opening .lease)) :=
    hentering.snoc (SessionState.step_attempt (.directory rfl))
  have hwaiting : Runs SessionState.Step start _
      (Sample.beside (files (some 1) 2 false) gc (.waiting .lease 1)) :=
    hopening.snoc (SessionState.step_attempt .openLock)
  have hlocked : Runs SessionState.Step start _
      (Sample.beside (files (some 1) 2 false) gc (.locked .lease 1)) :=
    hwaiting.snoc (SessionState.step_attempt (.lock (by decide)))
  have hcreating : Runs SessionState.Step start _
      (Sample.beside (files (some 1) 2 false) gc (.creating .lease 1)) :=
    hlocked.snoc (SessionState.step_attempt (.readManifest (by decide) (by decide)))
  have hcreated : Runs SessionState.Step start _
      (Sample.beside { files (some 1) 2 false with
        leaseFile := Function.update (files (some 1) 2 false).leaseFile false true } gc
        (.leasing .lease 1)) :=
    hcreating.snoc (SessionState.step_attempt .createLease)
  rw [Sample.entries_update] at hcreated
  have hreturning : Runs SessionState.Step start _
      (Sample.beside (files (some 1) 2 true) gc (.returning .lease 1)) :=
    hcreated.snoc (SessionState.step_attempt .lockLease)
  have hheld : Runs SessionState.Step start _
      (Sample.beside (files (some 1) 2 true) gc (.held .lease)) :=
    hreturning.snoc (SessionState.step_attempt .returnLease)
  -- the collection goes on over the lease
  have hunlinked : Runs SessionState.Step start _
      (Sample.beside { files (some 1) 2 true with
        leaseFile := Function.update (files (some 1) 2 true).leaseFile false false } gc
        (.held .lease)) :=
    hheld.snoc (SessionState.step_gc (.unlinkLease false))
  rw [Sample.entries_update] at hunlinked
  have hunlisted : Runs SessionState.Step start _
      (Sample.beside (Sample.entries none (some 1) 2 false) gc (.held .lease)) :=
    hunlinked.snoc (SessionState.step_gc .unlinkManifest)
  have hemptied : Runs SessionState.Step start _
      (Sample.beside (Sample.entries none none 2 false) gc (.held .lease)) :=
    hunlisted.snoc (SessionState.step_gc .unlinkLock)
  have hremoved : Runs SessionState.Step start _
      (Sample.beside { Sample.entries none none 2 false with dir := false } .removed
        (.held .lease)) :=
    hemptied.snoc (SessionState.step_gc (.removeDir rfl rfl (fun y => (by cases y <;> rfl))))
  exact ⟨_, _, hremoved, rfl, rfl, rfl⟩

end AgentDesktop
