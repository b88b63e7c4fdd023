import AgentDesktop.ArtifactBudgetRuns

/-!
# A copy of a ref map is written once

A ref map is copied to the trace directory under the name of its snapshot, and the copy is a
record: a later write of the same name looks for it first and leaves it as it is. A writer that
has begun to write a ref map found none there, and nobody else has the lock; the temporary files
of other writers get names that were free. So what is in place once stays, unless somebody else
removes it or a look at it fails.
-/

namespace AgentDesktop

namespace ArtifactBudget

open AtomicWrite (Bytes WritePhase WriteStage StepAnswer maxAttempts)

variable {N : Type} [DecidableEq N]

/-! ## Who leaves a ref map alone

A writer can change a file in two ways: it renames its own onto it, or it writes to a temporary file
of that name. The first is excluded by its look under the lock, which finds the copy and ends the
write; the second by the creation of the temporary file, which only gets a name that is free. -/

/-- Whether a writer may still put its artifact in place. -/
def mayPlace : ArtifactPhase → Bool
  | .loading | .scanningScreens | .scanningRefmaps _ | .persistingScan _ | .reserving _ => true
  | .writing _ phase =>
    match phase with
    | .ensuring | .validating | .creating _ | .checking _ | .writing _ _ | .syncing _
    | .replacing _ => true
    | .reopening _ | .revalidating _ | .syncingParent _ | .cleaning _ _ | .returned _ | .gone =>
      false
  | .checkingPresent | .checkingArtifact _ | .rollingBack _ => false

/-- The attempt whose name the temporary file of a write has, or had. -/
def attemptOf : ArtifactPhase → Option ℕ
  | .writing _ phase =>
    match phase with
    | .checking attempt | .writing attempt _ | .syncing attempt | .replacing attempt
    | .reopening attempt | .revalidating attempt | .syncingParent attempt
    | .cleaning attempt _ => some attempt
    | .ensuring | .validating | .creating _ | .returned _ | .gone => none
  | .checkingPresent | .loading | .scanningScreens | .scanningRefmaps _ | .persistingScan _
  | .reserving _ | .checkingArtifact _ | .rollingBack _ => none

/-- **A writer leaves a ref map alone**: it does not write there, nor to its temporary file. -/
structure Spares (path : N) (job : ArtifactJob N) (phase : ArtifactPhase) : Prop where
  /-- It does not write there. -/
  place : job.kind = .refmap → mayPlace phase = true → job.path ≠ path
  /-- Its temporary file is another one. -/
  temporary : job.kind = .refmap → ∀ attempt ∈ attemptOf phase, job.name attempt ≠ path

/-- **A ref map is in place**, and whoever writes leaves it alone. -/
structure Keeps (path : N) (content : Bytes) (s : TraceState N) : Prop where
  /-- It is in place. -/
  stored : (s.files .refmap).get path = some content
  /-- Whoever writes leaves it alone. -/
  holder : ∀ holder ∈ s.holder, Spares path holder.job holder.phase

/-- What takes a ref map away, or lets it be written again. -/
def spoils (path : N) (event : ArtifactEvent N) : Prop :=
  event = .removed .refmap path ∨ event = .unseen path

namespace Keeps

variable {path : N} {content : Bytes} {s : TraceState N} {job : ArtifactJob N}

theorem goTo (h : Keeps path content s) {phase : ArtifactPhase} (hspares : Spares path job phase) :
    Keeps path content (s.goTo job phase) := by
  refine ⟨h.stored, fun holder hholder => ?_⟩
  obtain rfl := Option.some.inj hholder
  exact hspares

theorem release (h : Keeps path content s) : Keeps path content { s with holder := none } :=
  ⟨h.stored, fun _ hholder => by cases hholder⟩

theorem persist (h : Keeps path content s) (usage : Usage) (answer : ArtifactAnswer) :
    Keeps path content (persistUsage s answer usage).1 := by
  unfold persistUsage
  split_ifs
  · exact h
  · exact ⟨h.stored, h.holder⟩
  · exact ⟨h.stored, h.holder⟩

end Keeps

omit [DecidableEq N] in
theorem Spares.goOn {path : N} {job : ArtifactJob N} {phase phase' : ArtifactPhase}
    (h : Spares path job phase) (hplace : mayPlace phase' = true → mayPlace phase = true)
    (hattempt : attemptOf phase' = none ∨ attemptOf phase' = attemptOf phase) :
    Spares path job phase' := by
  refine ⟨fun hkind hmay => h.place hkind (hplace hmay), fun hkind attempt hheld => ?_⟩
  rcases hattempt with hnone | hsame
  · rw [hnone] at hheld
    cases hheld
  · exact h.temporary hkind attempt (hsame ▸ hheld)

theorem get_appendTo_of_ne {files : AssocMap N Bytes} {name path : N} (hne : name ≠ path)
    (chunk : Bytes) : (appendTo files name chunk).get path = files.get path := by
  unfold appendTo
  cases files.get name with
  | none => rfl
  | some content => rw [AssocMap.get_insert, if_neg hne.symm]

/-- **A step of `write_private_file`** spares a ref map, and leaves it in place. -/
theorem writeStep_spares {path : N} {content : Bytes} {job : ArtifactJob N}
    (hkind : job.kind = .refmap) {files : AssocMap N Bytes} {usage : Usage} {phase : WritePhase}
    (hget : files.get path = some content) (h : Spares path job (.writing usage phase))
    (answer : StepAnswer) :
    (writeStep job files answer phase).1.get path = some content
      ∧ Spares path job (.writing usage (writeStep job files answer phase).2) := by
  cases phase with
  | creating attempt =>
    unfold writeStep
    dsimp only
    split_ifs with hstop hused
    · exact ⟨hget, h.goOn (fun hmay => absurd hmay (by simp [mayPlace])) (Or.inl rfl)⟩
    · exact ⟨hget, h.goOn (fun _ => rfl) (Or.inl rfl)⟩
    · -- the name was free, so it is not that of the ref map
      have hne : job.name attempt ≠ path := by
        rintro heq
        rw [heq, hget] at hused
        exact hused rfl
      refine ⟨?_, fun _ _ => h.place hkind rfl, fun _ other hother => ?_⟩
      · rw [AssocMap.get_insert, if_neg hne.symm]
        exact hget
      · obtain rfl := Option.some.inj hother
        exact hne
  | writing attempt rest =>
    have hne : job.name attempt ≠ path := h.temporary hkind attempt rfl
    unfold writeStep
    dsimp only
    split_ifs
    · exact ⟨hget, h.goOn (fun _ => rfl) (Or.inr rfl)⟩
    · cases answer with
      | failed => exact ⟨hget, h.goOn (fun _ => rfl) (Or.inr rfl)⟩
      | done =>
        exact ⟨(get_appendTo_of_ne hne _).trans hget, h.goOn (fun _ => rfl) (Or.inr rfl)⟩
      | wrote count =>
        cases count with
        | zero => exact ⟨hget, h.goOn (fun _ => rfl) (Or.inr rfl)⟩
        | succ count =>
          exact ⟨(get_appendTo_of_ne hne _).trans hget, h.goOn (fun _ => rfl) (Or.inr rfl)⟩
  | replacing attempt =>
    unfold writeStep
    dsimp only
    cases files.get (job.name attempt) with
    | none => exact ⟨hget, h.goOn (fun _ => rfl) (Or.inr rfl)⟩
    | some written =>
      dsimp only
      split_ifs
      · exact ⟨hget, h.goOn (fun _ => rfl) (Or.inr rfl)⟩
      · refine ⟨?_, h.goOn (fun _ => rfl) (Or.inr rfl)⟩
        rw [AssocMap.get_insert, if_neg (h.place hkind rfl).symm,
          AssocMap.get_erase_of_ne _ (h.temporary hkind attempt rfl).symm]
        exact hget
  | cleaning attempt stage =>
    unfold writeStep
    dsimp only
    refine ⟨?_, h.goOn (fun hmay => absurd hmay (by simp [mayPlace])) (Or.inl rfl)⟩
    split_ifs
    · exact hget
    · rw [AssocMap.get_erase_of_ne _ (h.temporary hkind attempt rfl).symm]
      exact hget
  | returned result => exact ⟨hget, h⟩
  | gone => exact ⟨hget, h⟩
  | ensuring | validating | checking attempt | syncing attempt =>
    unfold writeStep
    dsimp only
    refine ⟨hget, ?_⟩
    split_ifs
    · exact h.goOn (fun _ => rfl) (by first | exact Or.inr rfl | exact Or.inl rfl)
    · exact h.goOn (fun _ => rfl) (Or.inr rfl)
  | reopening attempt | revalidating attempt | syncingParent attempt =>
    unfold writeStep
    dsimp only
    refine ⟨hget, ?_⟩
    split_ifs
    · exact h.goOn (fun hmay => absurd hmay (by simp [mayPlace])) (Or.inr rfl)
    · exact h.goOn (fun hmay => absurd hmay (by simp [mayPlace]))
        (by first | exact Or.inl rfl | exact Or.inr rfl)

/-! ## Steps -/

namespace Keeps

variable {path : N} {content : Bytes} {s : TraceState N} {job : ArtifactJob N}

theorem setFiles (h : Keeps path content s) {kind : ArtifactKind} {files : AssocMap N Bytes}
    (hfiles : kind = .refmap → files.get path = some content) :
    Keeps path content (s.setFiles kind files) := by
  refine ⟨?_, fun holder hholder => h.holder holder (TraceState.holder_setFiles s kind files ▸ hholder)⟩
  cases kind with
  | screenshot => exact h.stored
  | refmap => exact hfiles rfl

theorem writeFile (h : Keeps path content s) {usage : Usage} {phase : WritePhase}
    (hspares : Spares path job (.writing usage phase)) (answer : StepAnswer) :
    Keeps path content (writeFile s job usage phase answer).1 := by
  have hnext : ∀ files phase', writeStep job (s.files job.kind) answer phase = (files, phase') →
      Keeps path content (s.setFiles job.kind files) ∧ Spares path job (.writing usage phase') := by
    intro files phase' hstep
    by_cases hkind : job.kind = .refmap
    · have hstored : (s.files job.kind).get path = some content := hkind ▸ h.stored
      have hboth := writeStep_spares hkind hstored hspares answer
      rw [hstep] at hboth
      exact ⟨h.setFiles (fun _ => hboth.1), hboth.2⟩
    · exact ⟨h.setFiles (fun hrefmap => absurd hrefmap hkind),
        ⟨fun hrefmap => absurd hrefmap hkind, fun hrefmap => absurd hrefmap hkind⟩⟩
  unfold ArtifactBudget.writeFile
  cases hstep : writeStep job (s.files job.kind) answer phase with
  | mk files phase' =>
    obtain ⟨hkept, hspared⟩ := hnext files phase' hstep
    cases phase' with
    | returned result =>
      cases result with
      | ok _ => exact hkept.release
      | error stage =>
        exact hkept.goTo (hspared.goOn (fun hmay => absurd hmay (by simp [mayPlace])) (Or.inl rfl))
    | _ => exact hkept.goTo hspared

/-- **A step of a writer** that spares a ref map leaves it in place, and goes on to spare it. -/
theorem advance (h : Keeps path content s) {phase : ArtifactPhase}
    (hspares : Spares path job phase) (answer : ArtifactAnswer)
    (hseen : ∀ event ∈ (advance s job answer phase).2, ¬spoils path event) :
    Keeps path content (advance s job answer phase).1 := by
  have hearly : mayPlace phase = true → ∀ phase', attemptOf phase' = none →
      Keeps path content (s.goTo job phase') :=
    fun hmay phase' hattempt => h.goTo (hspares.goOn (fun _ => hmay) (Or.inl hattempt))
  have hlate : ∀ phase', mayPlace phase' = false → attemptOf phase' = none →
      Keeps path content (s.goTo job phase') :=
    fun phase' hmay hattempt =>
      h.goTo (hspares.goOn (fun hmay' => absurd hmay' (by simp [hmay])) (Or.inl hattempt))
  cases phase with
  | checkingPresent =>
    have helse : job.path ≠ path → Keeps path content (s.goTo job .loading) := fun hne =>
      h.goTo ⟨fun _ _ => hne, fun _ _ hheld => by cases hheld⟩
    revert hseen
    show (∀ event ∈ (checkPresent s job answer).2, ¬spoils path event) →
      Keeps path content (checkPresent s job answer).1
    unfold checkPresent
    cases hpresent : s.refmaps.get job.path with
    | none =>
      refine fun _ => helse ?_
      rintro rfl
      exact absurd (hpresent.symm.trans h.stored) (by simp)
    | some _ =>
      dsimp only
      split_ifs
      · refine fun hseen => helse ?_
        rintro rfl
        exact hseen _ rfl (Or.inr rfl)
      · exact fun _ => h.release
  | loading =>
    show Keeps path content (loadUsage s job answer).1
    unfold loadUsage
    cases s.ledger with
    | none => exact hearly rfl _ rfl
    | some usage =>
      dsimp only
      split_ifs
      · exact hearly rfl _ rfl
      · exact hearly rfl _ rfl
  | scanningScreens =>
    show Keeps path content (scanScreens s job answer).1
    unfold scanScreens
    split_ifs
    · exact h.release
    · exact hearly rfl _ rfl
  | scanningRefmaps screens =>
    show Keeps path content (scanRefmaps s job answer screens).1
    unfold scanRefmaps
    split_ifs
    · exact h.release
    · exact hearly rfl _ rfl
  | persistingScan usage =>
    show Keeps path content (persistScan s job answer usage).1
    unfold persistScan
    split_ifs
    · exact (h.persist usage answer).goTo (hspares.goOn (fun _ => rfl) (Or.inl rfl))
    · exact (h.persist usage answer).release
  | reserving usage =>
    show Keeps path content (reserve s job answer usage).1
    unfold reserve
    cases checkBudget usage job with
    | error reason => exact h.release
    | ok _ =>
      dsimp only
      split_ifs
      · exact (h.persist _ answer).goTo (hspares.goOn (fun _ => rfl) (Or.inl rfl))
      · exact (h.persist _ answer).release
  | writing usage phase =>
    cases answer with
    | answer answer => exact h.writeFile hspares answer
    | failedLate => exact h.writeFile hspares .failed
  | checkingArtifact usage =>
    show Keeps path content (checkArtifact s job answer usage).1
    unfold checkArtifact
    cases (s.files job.kind).get job.path with
    | none => exact hlate _ rfl rfl
    | some _ =>
      dsimp only
      split_ifs
      · exact hlate _ rfl rfl
      · exact h.release
  | rollingBack usage => exact (h.persist usage answer).release

/-- **Each step keeps a ref map** that is not removed, and is seen where it is looked for. -/
theorem step (h : Keeps path content s) {event : Option (ArtifactEvent N)} {s' : TraceState N}
    (hstep : ArtifactStep s event s') (hseen : ∀ e ∈ event, ¬spoils path e) :
    Keeps path content s' := by
  cases hstep with
  | begin job hfree =>
    refine h.goTo ⟨fun hkind hmay => ?_, fun _ _ hheld => ?_⟩
    · unfold ArtifactJob.begins at hmay
      rw [hkind] at hmay
      cases hmay
    · unfold ArtifactJob.begins at hheld
      cases hkind : job.kind <;> rw [hkind] at hheld <;> cases hheld
  | move job phase answer hholder => exact h.advance (h.holder _ hholder) answer hseen
  | crash => exact h.release
  | remove kind name =>
    refine h.setFiles (fun hkind => ?_)
    subst hkind
    have hne : path ≠ name := by
      rintro rfl
      exact hseen _ rfl (Or.inl rfl)
    exact (AssocMap.get_erase_of_ne _ hne).trans h.stored
  | loseLedger => exact ⟨h.stored, h.holder⟩

end Keeps

theorem replacing_of_placed {files : AssocMap N Bytes} {job : ArtifactJob N} {kind : ArtifactKind}
    {path : N} {content : Bytes} {phase : WritePhase} {answer : StepAnswer}
    (h : writeEvent job files answer phase = some (.placed kind path content)) :
    kind = job.kind ∧ path = job.path ∧ ∃ attempt, phase = .replacing attempt ∧ answer ≠ .failed
      ∧ files.get (job.name attempt) = some content := by
  unfold writeEvent at h
  cases phase with
  | replacing attempt =>
    dsimp only at h
    split_ifs at h with hfailed
    obtain ⟨written, hget, heq⟩ := Option.map_eq_some_iff.mp h
    cases heq
    exact ⟨rfl, rfl, attempt, rfl, hfailed, hget⟩
  | checking attempt | cleaning attempt stage =>
    dsimp only at h
    split_ifs at h
    obtain ⟨written, -, heq⟩ := Option.map_eq_some_iff.mp h
    cases heq
  | _ => cases h

/-- **What is put in place** is there, and the writer that put it there leaves it alone: its
temporary file has another name. -/
theorem keeps_of_writeFile {path : N} {content : Bytes} {s : TraceState N} {job : ArtifactJob N}
    {usage : Usage} {phase : WritePhase} {answer : StepAnswer}
    (h : (writeFile s job usage phase answer).2 = some (.placed .refmap path content)) :
    Keeps path content (writeFile s job usage phase answer).1 := by
  have hevent : writeEvent job (s.files job.kind) answer phase
      = some (.placed .refmap path content) := by
    unfold writeFile at h
    generalize writeStep job (s.files job.kind) answer phase = next at h
    obtain ⟨files, phase'⟩ := next
    cases phase' with
    | returned result =>
      cases result with
      | ok _ => cases h
      | error stage => exact h
    | _ => exact h
  obtain ⟨hkind, rfl, attempt, rfl, hfailed, hget⟩ := replacing_of_placed hevent
  have hstep : writeStep job (s.files job.kind) answer (.replacing attempt)
      = (((s.files job.kind).erase (job.name attempt)).insert job.path content,
        .reopening attempt) := by
    unfold writeStep
    dsimp only
    rw [hget]
    dsimp only
    rw [if_neg hfailed]
  unfold writeFile
  rw [hstep]
  refine ⟨?_, fun holder hholder => ?_⟩
  · show ((s.setFiles job.kind _).files .refmap).get job.path = some content
    rw [← hkind, TraceState.files_setFiles_self, AssocMap.get_insert_self]
  · obtain rfl := Option.some.inj hholder
    refine ⟨fun _ hmay => absurd hmay (by simp [mayPlace]), fun _ other hother => ?_⟩
    obtain rfl := Option.some.inj hother
    exact job.name_ne attempt

theorem keeps_of_advance {path : N} {content : Bytes} {s : TraceState N} {job : ArtifactJob N}
    {phase : ArtifactPhase} {answer : ArtifactAnswer}
    (h : (advance s job answer phase).2 = some (.placed .refmap path content)) :
    Keeps path content (advance s job answer phase).1 := by
  cases phase with
  | writing usage phase =>
    cases answer with
    | answer answer => exact keeps_of_writeFile h
    | failedLate => exact keeps_of_writeFile h
  | checkingPresent =>
    have h : (checkPresent s job answer).2 = _ := h
    unfold checkPresent at h
    cases hpresent : s.refmaps.get job.path with
    | none => simp [hpresent] at h
    | some stored =>
      rw [hpresent] at h
      dsimp only at h
      split_ifs at h <;> cases h
  | loading =>
    have h : (loadUsage s job answer).2 = _ := h
    unfold loadUsage at h
    cases hledger : s.ledger with
    | none => simp [hledger] at h
    | some usage =>
      rw [hledger] at h
      dsimp only at h
      split_ifs at h
  | scanningScreens =>
    have h : (scanScreens s job answer).2 = _ := h
    unfold scanScreens at h
    split_ifs at h
    cases h
  | scanningRefmaps screens =>
    have h : (scanRefmaps s job answer screens).2 = _ := h
    unfold scanRefmaps at h
    split_ifs at h
    cases h
  | persistingScan usage =>
    have h : (persistScan s job answer usage).2 = _ := h
    unfold persistScan at h
    split_ifs at h
    cases h
  | reserving usage =>
    have h : (reserve s job answer usage).2 = _ := h
    unfold reserve at h
    cases hcheck : checkBudget usage job with
    | error reason =>
      rw [hcheck] at h
      cases h
    | ok _ =>
      rw [hcheck] at h
      dsimp only at h
      split_ifs at h
      cases h
  | checkingArtifact usage =>
    have h : (checkArtifact s job answer usage).2 = _ := h
    unfold checkArtifact at h
    cases hget : (s.files job.kind).get job.path with
    | none => simp [hget] at h
    | some stored =>
      rw [hget] at h
      dsimp only at h
      split_ifs at h <;> cases h
  | rollingBack usage => cases h

/-! ## Runs -/

/-- **A copy of a ref map stays as it was written**, in every run from where it was put in place:
whoever writes and whatever fails, its content is the same, as long as nobody else removes it and
no look at it fails. -/
theorem refmap_kept {first s : TraceState N} {before after : List (ArtifactEvent N)} {path : N}
    {content : Bytes}
    (h : Runs ArtifactStep first (before ++ .placed .refmap path content :: after) s)
    (hafter : ∀ event ∈ after, ¬spoils path event) : s.refmaps.get path = some content := by
  have hkeeps : Keeps path content s := by
    refine h.ever_after trivial (fun _ _ _ _ _ => trivial)
      (fun s event s' _ hstep (hmark : event = .placed .refmap path content) => ?_)
      (fun s event s' _ hstep (hseen : ∀ e ∈ event, ¬spoils path e) hkeeps =>
        hkeeps.step hstep hseen) rfl rfl hafter
    subst hmark
    generalize hevent : some (ArtifactEvent.placed .refmap path content) = event at hstep
    cases hstep with
    | move job phase answer hholder => exact keeps_of_advance hevent.symm
    | _ => cases hevent
  exact hkeeps.stored

/-- A copy of a ref map of two bytes. -/
def twoByteMap : ArtifactJob ℕ where
  kind := .refmap
  path := 0
  bytes := [1, 2]
  name := fun attempt => attempt + 1
  name_ne := fun attempt => Nat.succ_ne_zero attempt

/-- A write whose steps all succeed. -/
def wholeWrite : TraceState ℕ :=
  (drive (TraceState.fresh.goTo twoByteMap .checkingPresent)
    (List.replicate 18 (.answer .done))).2

theorem runs_wholeWrite :
    Runs ArtifactStep TraceState.fresh
      ([] ++ .placed .refmap 0 [1, 2] :: [.returned twoByteMap (.ok ())]) wholeWrite := by
  have hbegun : Runs ArtifactStep TraceState.fresh []
      (TraceState.fresh.goTo twoByteMap .checkingPresent) :=
    Runs.refl.snoc (ArtifactStep.begin twoByteMap rfl)
  exact runs_drive hbegun (List.replicate 18 (.answer .done))

/-- Another copy for the same path, of three bytes. -/
def threeByteMap : ArtifactJob ℕ := { twoByteMap with bytes := [3, 4, 5] }

/-- A second writer of the same path finds the copy, returns, and leaves it as it is. -/
theorem refmap_kept_twoByteMap :
    ∃ s : TraceState ℕ, Runs ArtifactStep TraceState.fresh
        ([] ++ .placed .refmap 0 [1, 2]
          :: [.returned twoByteMap (.ok ()), .returned threeByteMap (.ok ())]) s
      ∧ s.refmaps.get 0 = some [1, 2] := by
  have hsecond : Runs ArtifactStep TraceState.fresh
      ([] ++ .placed .refmap 0 [1, 2]
        :: [.returned twoByteMap (.ok ()), .returned threeByteMap (.ok ())])
      (drive (wholeWrite.goTo threeByteMap .checkingPresent) [.answer .done]).2 :=
    runs_drive (runs_wholeWrite.snoc (.begin threeByteMap rfl)) [.answer .done]
  refine ⟨_, hsecond, refmap_kept hsecond (fun event hevent => ?_)⟩
  rcases List.mem_cons.mp hevent with rfl | hevent
  · rintro (h | h) <;> cases h
  · obtain rfl := List.mem_singleton.mp hevent
    rintro (h | h) <;> cases h

end ArtifactBudget

end AgentDesktop
