import AgentDesktop.AtomicWrite

/-!
# The path holds one content or another

Only a rename puts a file at the path, and a writer renames only the file it made: its name is
its own, so no other writer touches it, and it was written and synced before. From then on the
writer leaves the file alone. So whatever fails, whoever else writes and wherever the machine
stops, the path holds what it held at first or the whole of what a writer wrote.

A writer that returns an error before its rename has put nothing at the path and has removed its
file. After its rename it returns an error too, if the file cannot be read back or the directory
cannot be synced; what it wrote stays then.
-/

namespace AgentDesktop

namespace AtomicWrite

variable {ι N : Type} {jobs : WriteJobs ι N} {s s' : DirState ι N} {w : ι}

/-! ## The phases of a writer -/

namespace WritePhase

/-- The attempt whose name is the writer's. -/
def holds : WritePhase → Option ℕ
  | checking attempt | writing attempt _ | syncing attempt | replacing attempt => some attempt
  | cleaning attempt stage => if stage.afterRename then none else some attempt
  | ensuring | validating | creating _ | reopening _ | revalidating _ | syncingParent _
  | returned _ | gone => none

/-- Whether the rename is behind a writer. -/
def isRenamed : WritePhase → Bool
  | reopening _ | revalidating _ | syncingParent _ | returned (.ok _) => true
  | cleaning _ stage | returned (.error stage) => stage.afterRename
  | ensuring | validating | creating _ | checking _ | writing _ _ | syncing _ | replacing _
  | gone => false

/-- Whether the rename may be behind a writer. -/
def mayBeRenamed : WritePhase → Bool
  | gone => true
  | phase => phase.isRenamed

/-- What is known of the file of a writer. -/
def Ready (bytes : Bytes) (node : FileNode) : WritePhase → Prop
  | checking _ => node.content = []
  | writing _ rest => node.content ++ rest = bytes
  | syncing _ => node.content = bytes
  | replacing _ => node = ⟨bytes, true⟩
  | ensuring | validating | creating _ | reopening _ | revalidating _ | syncingParent _
  | cleaning _ _ | returned _ | gone => True

theorem mayBeRenamed_of_isRenamed {phase : WritePhase} (h : phase.isRenamed = true) :
    phase.mayBeRenamed = true := by
  cases phase <;> first | exact h | rfl

end WritePhase

/-- **What is known of a writer.** -/
structure WriterInvariant (jobs : WriteJobs ι N) (s : DirState ι N) (w : ι) : Prop where
  /-- The name it holds is that of its file. -/
  held : ∀ attempt, (s.phase w).holds = some attempt →
    s.temporaries (jobs.name w attempt) = some (.madeBy w)
  /-- Its file has no other name, unless it was left behind. -/
  left : ∀ name, s.temporaries name = some (.madeBy w) →
    (∃ attempt, (s.phase w).holds = some attempt ∧ name = jobs.name w attempt)
      ∨ s.phase w = .returned (.error .checkTemporary)
  /-- Its file is as far as the writer is. -/
  ready : (s.phase w).Ready (jobs.bytes w) (s.nodes (.madeBy w))
  /-- Once it was renamed, the file is complete, and stays so. -/
  complete : (∃ content, (some w, content) ∈ s.history) →
    (s.phase w).mayBeRenamed = true ∧ s.nodes (.madeBy w) = ⟨jobs.bytes w, true⟩
  /-- It was renamed if the writer is past that. -/
  renamed : (s.phase w).isRenamed = true → (some w, some (jobs.bytes w)) ∈ s.history

/-! ## What a step leaves alone

Writers share a directory but neither phases nor names. What a step of one of them changes is said
once, as a frame, and what is known of the others follows from the frame. -/

/-- **A step of a writer** changes its own phase, its own file, and its own names. -/
structure StepFrame (jobs : WriteJobs ι N) (w : ι) (s s' : DirState ι N) : Prop where
  /-- The other writers are where they were. -/
  phase : ∀ other, other ≠ w → s'.phase other = s.phase other
  /-- The other files are as they were. -/
  nodes : ∀ file, file ≠ .madeBy w → s'.nodes file = s.nodes file
  /-- The other names are those of the same files. -/
  names : ∀ name, (∀ attempt, name ≠ jobs.name w attempt) → s'.temporaries name = s.temporaries name
  /-- No other file gets a name. -/
  entries : ∀ name file, file ≠ .madeBy w → s'.temporaries name = some file →
    s.temporaries name = some file
  /-- The other renames are those that were made. -/
  history : ∀ other content, other ≠ w →
    ((some other, content) ∈ s'.history ↔ (some other, content) ∈ s.history)

namespace StepFrame

theorem refl (jobs : WriteJobs ι N) (w : ι) (s : DirState ι N) : StepFrame jobs w s s :=
  ⟨fun _ _ => rfl, fun _ _ => rfl, fun _ _ => rfl, fun _ _ _ h => h, fun _ _ _ => Iff.rfl⟩

theorem trans {s'' : DirState ι N} (h : StepFrame jobs w s s') (h' : StepFrame jobs w s' s'') :
    StepFrame jobs w s s'' where
  phase := fun other hne => (h'.phase other hne).trans (h.phase other hne)
  nodes := fun file hne => (h'.nodes file hne).trans (h.nodes file hne)
  names := fun name hne => (h'.names name hne).trans (h.names name hne)
  entries := fun name file hne hname => h.entries name file hne (h'.entries name file hne hname)
  history := fun other content hne =>
    (h'.history other content hne).trans (h.history other content hne)

theorem goTo [DecidableEq ι] (jobs : WriteJobs ι N) (s : DirState ι N) (phase : WritePhase) :
    StepFrame jobs w s (s.goTo w phase) :=
  { refl jobs w s with phase := fun _ hne => Function.update_of_ne hne _ _ }

theorem setNode [DecidableEq ι] (jobs : WriteJobs ι N) (s : DirState ι N) (node : FileNode) :
    StepFrame jobs w s (s.setNode w node) :=
  { refl jobs w s with nodes := fun _ hne => Function.update_of_ne hne _ _ }

theorem setName [DecidableEq N] (jobs : WriteJobs ι N) (s : DirState ι N) (attempt : ℕ)
    {file : Option (FileId ι)} (hfile : file = none ∨ file = some (.madeBy w)) :
    StepFrame jobs w s (s.setName (jobs.name w attempt) file) :=
  { refl jobs w s with
    names := fun _ hne => Function.update_of_ne (hne attempt) _ _
    entries := by
      intro name file' hne hname
      by_cases hown : name = jobs.name w attempt
      · rw [hown] at hname
        rw [show (s.setName (jobs.name w attempt) file).temporaries (jobs.name w attempt) = file
          from Function.update_self ..] at hname
        rcases hfile with rfl | rfl
        · cases hname
        · exact absurd (Option.some.inj hname).symm hne
      · rwa [show (s.setName (jobs.name w attempt) file).temporaries name = s.temporaries name
          from Function.update_of_ne hown ..] at hname }

theorem putInPlace (jobs : WriteJobs ι N) (s : DirState ι N) (file : FileId ι) :
    StepFrame jobs w s (s.putInPlace w file) :=
  { refl jobs w s with
    history := by
      intro other content hne
      show (some other, content) ∈ s.history ++ [_] ↔ _
      rw [List.mem_append, List.mem_singleton]
      refine or_iff_left (fun h => hne ?_)
      exact Option.some.inj (congrArg Prod.fst h) }

theorem syncDirectory (jobs : WriteJobs ι N) (s : DirState ι N) :
    StepFrame jobs w s s.syncDirectory := { refl jobs w s with }

end StepFrame

variable [DecidableEq ι] [DecidableEq N]

theorem advance_frame (jobs : WriteJobs ι N) (s : DirState ι N) (w : ι) (answer : StepAnswer) :
    StepFrame jobs w s (advance jobs s w answer) := by
  unfold advance
  cases s.phase w with
  | creating attempt =>
    dsimp only
    unfold createTemporary
    split_ifs
    · exact .goTo jobs s _
    · exact .goTo jobs s _
    · exact .goTo jobs s _
    · exact ((StepFrame.setNode jobs s _).trans (.setName jobs _ attempt (Or.inr rfl))).trans
        (.goTo jobs _ _)
  | writing attempt rest =>
    dsimp only
    unfold writeSome
    split_ifs
    · exact .goTo jobs s _
    · cases answer with
      | failed => exact .goTo jobs s _
      | done => exact (StepFrame.setNode jobs s _).trans (.goTo jobs _ _)
      | wrote count =>
        cases count with
        | zero => exact .goTo jobs s _
        | succ count => exact (StepFrame.setNode jobs s _).trans (.goTo jobs _ _)
  | syncing attempt =>
    dsimp only
    split_ifs
    · exact .goTo jobs s _
    · exact (StepFrame.setNode jobs s _).trans (.goTo jobs _ _)
  | replacing attempt =>
    dsimp only
    unfold replaceAtomic
    cases s.temporaries (jobs.name w attempt) with
    | none => exact .goTo jobs s _
    | some file =>
      dsimp only
      split_ifs
      · exact .goTo jobs s _
      · exact ((StepFrame.setName jobs s attempt (Or.inl rfl)).trans
          (.putInPlace jobs _ file)).trans (.goTo jobs _ _)
  | syncingParent attempt =>
    dsimp only
    split_ifs
    · exact .goTo jobs s _
    · exact (StepFrame.syncDirectory jobs s).trans (.goTo jobs _ _)
  | cleaning attempt stage =>
    exact (StepFrame.setName jobs s attempt (Or.inl rfl)).trans (.goTo jobs _ _)
  | returned result => exact .refl jobs w s
  | gone => exact .refl jobs w s
  | ensuring | validating | checking attempt | reopening attempt | revalidating attempt =>
    exact .goTo jobs s _

/-! ## What is known of a writer -/

namespace WriterInvariant

omit [DecidableEq ι] [DecidableEq N] in
theorem of_frame (hnames : ∀ w w' attempt attempt', jobs.name w attempt = jobs.name w' attempt' →
    w = w') (hframe : StepFrame jobs w s s') {other : ι} (hne : other ≠ w)
    (h : WriterInvariant jobs s other) : WriterInvariant jobs s' other := by
  have hphase := hframe.phase other hne
  have hnode : s'.nodes (.madeBy other) = s.nodes (.madeBy other) :=
    hframe.nodes _ (fun heq => hne (FileId.madeBy.inj heq))
  refine ⟨?_, ?_, ?_, ?_, ?_⟩
  · intro attempt hheld
    rw [hphase] at hheld
    rw [hframe.names _ (fun attempt' heq => hne (hnames _ _ _ _ heq))]
    exact h.held attempt hheld
  · intro name hname
    rw [hphase]
    exact h.left name (hframe.entries name _ (fun heq => hne (FileId.madeBy.inj heq)) hname)
  · rw [hphase, hnode]
    exact h.ready
  · rintro ⟨content, hcontent⟩
    rw [hphase, hnode]
    exact h.complete ⟨content, (hframe.history other content hne).mp hcontent⟩
  · intro hrenamed
    rw [hphase] at hrenamed
    exact (hframe.history other _ hne).mpr (h.renamed hrenamed)

omit [DecidableEq ι] [DecidableEq N] in
/-- What is known of a writer depends on the files, the names, its phase and the renames only. -/
theorem of_syncDirectory (h : WriterInvariant jobs s w) :
    WriterInvariant jobs s.syncDirectory w := ⟨h.held, h.left, h.ready, h.complete, h.renamed⟩

omit [DecidableEq N] in
theorem goTo (h : WriterInvariant jobs s w) {phase : WritePhase}
    (hholds : phase.holds = (s.phase w).holds)
    (hready : phase.Ready (jobs.bytes w) (s.nodes (.madeBy w)))
    (hrenamed : phase.isRenamed = (s.phase w).isRenamed)
    (hbusy : s.phase w ≠ .returned (.error .checkTemporary) ∧ s.phase w ≠ .gone) :
    WriterInvariant jobs (s.goTo w phase) w := by
  have hphase : (s.goTo w phase).phase w = phase := Function.update_self ..
  refine ⟨?_, ?_, ?_, ?_, ?_⟩
  · intro attempt hheld
    rw [hphase, hholds] at hheld
    exact h.held attempt hheld
  · intro name hname
    rw [hphase, hholds]
    exact Or.inl ((h.left name hname).resolve_right hbusy.1)
  · rw [hphase]
    exact hready
  · intro hmade
    rw [hphase]
    refine ⟨?_, (h.complete hmade).2⟩
    refine WritePhase.mayBeRenamed_of_isRenamed (hrenamed.trans ?_)
    have hmay := (h.complete hmade).1
    cases hcase : s.phase w with
    | gone => exact absurd hcase hbusy.2
    | _ => rw [hcase] at hmay; exact hmay
  · intro hpast
    rw [hphase, hrenamed] at hpast
    exact h.renamed hpast

omit [DecidableEq N] in
theorem setNode (h : WriterInvariant jobs s w) (hearly : (s.phase w).mayBeRenamed = false)
    {node : FileNode} {phase : WritePhase} (hholds : phase.holds = (s.phase w).holds)
    (hready : phase.Ready (jobs.bytes w) node) (hrenamed : phase.isRenamed = false)
    (hbusy : s.phase w ≠ .returned (.error .checkTemporary)) :
    WriterInvariant jobs ((s.setNode w node).goTo w phase) w := by
  have hphase : ((s.setNode w node).goTo w phase).phase w = phase := Function.update_self ..
  have hnode : ((s.setNode w node).goTo w phase).nodes (.madeBy w) = node :=
    Function.update_self ..
  refine ⟨?_, ?_, ?_, ?_, ?_⟩
  · intro attempt hheld
    rw [hphase, hholds] at hheld
    exact h.held attempt hheld
  · intro name hname
    rw [hphase, hholds]
    exact Or.inl ((h.left name hname).resolve_right hbusy)
  · rw [hphase, hnode]
    exact hready
  · intro hmade
    have hmay := (h.complete hmade).1
    rw [hearly] at hmay
    cases hmay
  · intro hpast
    rw [hphase, hrenamed] at hpast
    cases hpast

theorem create (h : WriterInvariant jobs s w) {attempt : ℕ}
    (hphase : s.phase w = .creating attempt) :
    WriterInvariant jobs (((s.setNode w ⟨[], false⟩).setName (jobs.name w attempt)
      (some (.madeBy w))).goTo w (.checking attempt)) w := by
  have hphase' : (((s.setNode w ⟨[], false⟩).setName (jobs.name w attempt)
      (some (.madeBy w))).goTo w (.checking attempt)).phase w = .checking attempt :=
    Function.update_self ..
  refine ⟨?_, ?_, ?_, ?_, ?_⟩
  · intro attempt' hheld
    rw [hphase'] at hheld
    obtain rfl := Option.some.inj hheld
    exact Function.update_self ..
  · intro name hname
    rw [hphase']
    refine Or.inl ⟨attempt, rfl, ?_⟩
    by_contra hne
    have hold : s.temporaries name = some (.madeBy w) :=
      (Function.update_of_ne hne ..).symm.trans hname
    rcases h.left name hold with ⟨_, hheld, -⟩ | hleft
    · rw [hphase] at hheld
      cases hheld
    · rw [hphase] at hleft
      cases hleft
  · rw [hphase']
    show (Function.update s.nodes (.madeBy w) ⟨[], false⟩ (.madeBy w)).content = []
    rw [Function.update_self]
  · intro hmade
    have hmay := (h.complete hmade).1
    rw [hphase] at hmay
    cases hmay
  · intro hpast
    rw [hphase'] at hpast
    cases hpast

omit [DecidableEq N] in
theorem refuse (h : WriterInvariant jobs s w) {attempt : ℕ}
    (hphase : s.phase w = .checking attempt) :
    WriterInvariant jobs (s.goTo w (.returned (.error .checkTemporary))) w := by
  have hphase' : (s.goTo w (.returned (.error .checkTemporary))).phase w
      = .returned (.error .checkTemporary) := Function.update_self ..
  refine ⟨?_, ?_, ?_, ?_, ?_⟩
  · intro attempt' hheld
    rw [hphase'] at hheld
    cases hheld
  · exact fun name _ => Or.inr hphase'
  · rw [hphase']
    trivial
  · intro hmade
    have hmay := (h.complete hmade).1
    rw [hphase] at hmay
    cases hmay
  · intro hpast
    rw [hphase'] at hpast
    cases hpast

/-- **A writer that renames its file**: it is complete. -/
theorem rename (h : WriterInvariant jobs s w) {attempt : ℕ}
    (hphase : s.phase w = .replacing attempt) :
    WriterInvariant jobs (((s.setName (jobs.name w attempt) none).putInPlace w (.madeBy w)).goTo w
      (.reopening attempt)) w := by
  have hphase' : (((s.setName (jobs.name w attempt) none).putInPlace w (.madeBy w)).goTo w
      (.reopening attempt)).phase w = .reopening attempt := Function.update_self ..
  have hnode : s.nodes (.madeBy w) = ⟨jobs.bytes w, true⟩ := by
    have hready := h.ready
    rw [hphase] at hready
    exact hready
  refine ⟨?_, ?_, ?_, ?_, ?_⟩
  · intro attempt' hheld
    rw [hphase'] at hheld
    cases hheld
  · intro name hname
    have hname : Function.update s.temporaries (jobs.name w attempt) none name
        = some (.madeBy w) := hname
    by_cases hown : name = jobs.name w attempt
    · rw [hown, Function.update_self] at hname
      cases hname
    · rw [Function.update_of_ne hown] at hname
      rcases h.left name hname with ⟨attempt', hheld, heq⟩ | hleft
      · rw [hphase] at hheld
        obtain rfl := Option.some.inj hheld
        exact absurd heq hown
      · rw [hphase] at hleft
        cases hleft
  · rw [hphase']
    trivial
  · intro _
    rw [hphase']
    exact ⟨rfl, hnode⟩
  · intro _
    show _ ∈ s.history ++ [(some w, some (s.nodes (.madeBy w)).content)]
    rw [hnode]
    exact List.mem_append_right _ (List.mem_singleton.mpr rfl)

/-- **A writer that removes its file**, and returns the error. -/
theorem clean (h : WriterInvariant jobs s w) {attempt : ℕ} {stage : WriteStage}
    (hphase : s.phase w = .cleaning attempt stage) :
    WriterInvariant jobs ((s.setName (jobs.name w attempt) none).goTo w
      (.returned (.error stage))) w := by
  have hphase' : ((s.setName (jobs.name w attempt) none).goTo w (.returned (.error stage))).phase w
      = .returned (.error stage) := Function.update_self ..
  have hleft : ∀ name, Function.update s.temporaries (jobs.name w attempt) none name
      ≠ some (.madeBy w) := by
    intro name hname
    by_cases hown : name = jobs.name w attempt
    · rw [hown, Function.update_self] at hname
      cases hname
    · rw [Function.update_of_ne hown] at hname
      rcases h.left name hname with ⟨attempt', hheld, heq⟩ | hleft
      · rw [hphase] at hheld
        have hheld : (if stage.afterRename = true then none else some attempt) = some attempt' :=
          hheld
        split_ifs at hheld
        obtain rfl := Option.some.inj hheld
        exact hown heq
      · rw [hphase] at hleft
        cases hleft
  refine ⟨?_, fun name hname => absurd hname (hleft name), ?_, ?_, ?_⟩
  · intro attempt' hheld
    rw [hphase'] at hheld
    cases hheld
  · rw [hphase']
    trivial
  · intro hmade
    have hcomplete := h.complete hmade
    rw [hphase] at hcomplete
    rw [hphase']
    exact hcomplete
  · intro hpast
    rw [hphase'] at hpast
    refine h.renamed ?_
    rw [hphase]
    exact hpast

/-- **A step keeps what is known of the writer that makes it.** -/
theorem advance (h : WriterInvariant jobs s w) (answer : StepAnswer) :
    WriterInvariant jobs (AtomicWrite.advance jobs s w answer) w := by
  unfold AtomicWrite.advance
  cases hphase : s.phase w with
  | ensuring | validating =>
    dsimp only
    split_ifs <;>
      exact h.goTo (by rw [hphase]; rfl) trivial (by rw [hphase]; rfl) (by simp [hphase])
  | creating attempt =>
    dsimp only
    unfold createTemporary
    split_ifs
    · exact h.goTo (by rw [hphase]; rfl) trivial (by rw [hphase]; rfl) (by simp [hphase])
    · exact h.goTo (by rw [hphase]; rfl) trivial (by rw [hphase]; rfl) (by simp [hphase])
    · exact h.goTo (by rw [hphase]; rfl) trivial (by rw [hphase]; rfl) (by simp [hphase])
    · exact h.create hphase
  | checking attempt =>
    dsimp only
    split_ifs
    · exact h.refuse hphase
    · have hready := h.ready
      rw [hphase] at hready
      have hready : (s.nodes (.madeBy w)).content = [] := hready
      refine h.goTo (by rw [hphase]; rfl) ?_ (by rw [hphase]; rfl) (by simp [hphase])
      show (s.nodes (.madeBy w)).content ++ jobs.bytes w = jobs.bytes w
      rw [hready, List.nil_append]
  | writing attempt rest =>
    have hready := h.ready
    rw [hphase] at hready
    have hready : (s.nodes (.madeBy w)).content ++ rest = jobs.bytes w := hready
    dsimp only
    unfold writeSome
    split_ifs with hrest
    · refine h.goTo (by rw [hphase]; rfl) ?_ (by rw [hphase]; rfl) (by simp [hphase])
      show (s.nodes (.madeBy w)).content = jobs.bytes w
      rw [← hready, hrest, List.append_nil]
    · cases answer with
      | failed =>
        exact h.goTo (by rw [hphase]; rfl) trivial (by rw [hphase]; rfl) (by simp [hphase])
      | done =>
        refine h.setNode (by rw [hphase]; rfl) (by rw [hphase]; rfl) ?_ rfl (by simp [hphase])
        show (_ ++ rest) ++ [] = jobs.bytes w
        rw [List.append_nil, hready]
      | wrote count =>
        cases count with
        | zero =>
          exact h.goTo (by rw [hphase]; rfl) trivial (by rw [hphase]; rfl) (by simp [hphase])
        | succ count =>
          refine h.setNode (by rw [hphase]; rfl) (by rw [hphase]; rfl) ?_ rfl (by simp [hphase])
          show (_ ++ rest.take (count + 1)) ++ rest.drop (count + 1) = jobs.bytes w
          rw [List.append_assoc, List.take_append_drop, hready]
  | syncing attempt =>
    have hready := h.ready
    rw [hphase] at hready
    have hready : (s.nodes (.madeBy w)).content = jobs.bytes w := hready
    dsimp only
    split_ifs
    · exact h.goTo (by rw [hphase]; rfl) trivial (by rw [hphase]; rfl) (by simp [hphase])
    · refine h.setNode (by rw [hphase]; rfl) (by rw [hphase]; rfl) ?_ rfl (by simp [hphase])
      show (⟨(s.nodes (.madeBy w)).content, true⟩ : FileNode) = ⟨jobs.bytes w, true⟩
      rw [hready]
  | replacing attempt =>
    have hheld : s.temporaries (jobs.name w attempt) = some (.madeBy w) :=
      h.held attempt (by rw [hphase]; rfl)
    dsimp only
    unfold replaceAtomic
    rw [hheld]
    dsimp only
    split_ifs
    · exact h.goTo (by rw [hphase]; rfl) trivial (by rw [hphase]; rfl) (by simp [hphase])
    · exact h.rename hphase
  | reopening attempt | revalidating attempt =>
    dsimp only
    split_ifs <;>
      exact h.goTo (by rw [hphase]; rfl) trivial (by rw [hphase]; rfl) (by simp [hphase])
  | syncingParent attempt =>
    dsimp only
    split_ifs
    · exact h.goTo (by rw [hphase]; rfl) trivial (by rw [hphase]; rfl) (by simp [hphase])
    · have hsynced : s.syncDirectory.phase w = .syncingParent attempt := hphase
      exact h.of_syncDirectory.goTo (by rw [hsynced]; rfl) trivial (by rw [hsynced]; rfl)
        (by simp [hsynced])
  | cleaning attempt stage => exact h.clean hphase
  | returned result => exact h
  | gone => exact h

end WriterInvariant

/-! ## The machine stops -/

omit [DecidableEq ι] [DecidableEq N] in
theorem FileNode.recovered_of_synced {node : FileNode} (hsynced : node.synced = true)
    (lost : Bytes) : node.recovered lost = node := if_pos hsynced

namespace WritePhase

theorem recovered_holds (phase : WritePhase) : phase.recovered.holds = none := by
  cases phase <;> rfl

theorem recovered_isRenamed (phase : WritePhase) : phase.recovered.isRenamed = false := by
  cases phase <;> rfl

theorem recovered_ready (bytes : Bytes) (node : FileNode) (phase : WritePhase) :
    phase.recovered.Ready bytes node := by
  cases phase <;> trivial

theorem recovered_mayBeRenamed {phase : WritePhase} (h : phase.mayBeRenamed = true) :
    phase.recovered.mayBeRenamed = true := by
  cases phase <;> first | rfl | cases h

end WritePhase

section Crash

variable {found : Option (FileId ι)} {lost : FileId ι → Bytes} {left : N → Bool}

omit [DecidableEq ι] [DecidableEq N] in
theorem crash_temporaries (name : N) (w : ι) :
    (crash s found lost left).temporaries name ≠ some (.madeBy w) := by
  show (if left name = true then some FileId.stray else none) ≠ _
  split_ifs
  · intro heq
    cases heq
  · intro heq
    cases heq

omit [DecidableEq ι] [DecidableEq N] in
theorem mem_crash_history {w : ι} {content : Option Bytes} :
    (some w, content) ∈ (crash s found lost left).history ↔ (some w, content) ∈ s.history := by
  show _ ∈ s.history ++ [_] ↔ _
  rw [List.mem_append, List.mem_singleton]
  refine or_iff_left (fun heq => ?_)
  cases congrArg Prod.fst heq

omit [DecidableEq ι] [DecidableEq N] in
/-- **What is known of a writer** is known of it when the machine starts again. -/
theorem WriterInvariant.crash (h : WriterInvariant jobs s w) :
    WriterInvariant jobs (AtomicWrite.crash s found lost left) w := by
  refine ⟨?_, ?_, ?_, ?_, ?_⟩
  · intro attempt hheld
    have hheld : (s.phase w).recovered.holds = some attempt := hheld
    rw [WritePhase.recovered_holds] at hheld
    cases hheld
  · exact fun name hname => absurd hname (crash_temporaries name w)
  · exact WritePhase.recovered_ready _ _ _
  · rintro ⟨content, hcontent⟩
    obtain ⟨hmay, hnode⟩ := h.complete ⟨content, mem_crash_history.mp hcontent⟩
    refine ⟨WritePhase.recovered_mayBeRenamed hmay, ?_⟩
    show (s.nodes (.madeBy w)).recovered _ = _
    rw [hnode]
    exact FileNode.recovered_of_synced rfl _
  · intro hpast
    have hpast : (s.phase w).recovered.isRenamed = true := hpast
    rw [WritePhase.recovered_isRenamed] at hpast
    cases hpast

end Crash

/-! ## What the path holds

Only a rename changes what is at the path, and a writer renames its file when it is complete and
synced. A crash may undo the last renames, since the directory may not have been synced, but what it
brings back was there before. -/

/-- **A file that may be at the path**: the one that was there, or one that was renamed. -/
def Known (start : Option (FileId ι)) (s : DirState ι N) (file : Option (FileId ι)) : Prop :=
  file = start ∨ ∃ w content, file = some (.madeBy w) ∧ (some w, content) ∈ s.history

/-- **What holds in every state of a run.** -/
structure DirInvariant (jobs : WriteJobs ι N) (start : Option (FileId ι)) (old : Option Bytes)
    (s : DirState ι N) : Prop where
  writer : ∀ w, WriterInvariant jobs s w
  /-- The file that is replaced is not a writer's. -/
  start_eq : ∀ file ∈ start, file = .before
  /-- The file that is replaced stays as it is. -/
  start_content : s.contentOf start = old
  before_synced : (s.nodes .before).synced = true
  /-- What may be found at the path is known. -/
  durable : ∀ file ∈ s.durable, Known start s file
  /-- What is at the path may be found there. -/
  destination : s.destination ∈ s.durable
  /-- A writer puts the whole of its bytes at the path. -/
  entries : ∀ w content, (some w, content) ∈ s.history → content = some (jobs.bytes w)
  /-- A machine that stops leaves a whole content at the path. -/
  restarts : ∀ content, (none, content) ∈ s.history →
    content = old ∨ ∃ w, content = some (jobs.bytes w)
  /-- The path holds what was put there last. -/
  last : s.content = (s.history.getLast?.map Prod.snd).getD old

namespace DirInvariant

variable {start : Option (FileId ι)} {old : Option Bytes}

omit [DecidableEq ι] [DecidableEq N] in
theorem contentOf (h : DirInvariant jobs start old s) {file : Option (FileId ι)}
    (hfile : Known start s file) :
    s.contentOf file = old ∨ ∃ w, s.contentOf file = some (jobs.bytes w) := by
  rcases hfile with rfl | ⟨w, content, rfl, hmade⟩
  · exact Or.inl h.start_content
  · refine Or.inr ⟨w, ?_⟩
    show some (s.nodes (.madeBy w)).content = _
    rw [((h.writer w).complete ⟨content, hmade⟩).2]

omit [DecidableEq ι] [DecidableEq N] in
theorem contentOf_eq (h : DirInvariant jobs start old s)
    (hwriter : ∀ w, WriterInvariant jobs s' w) (hbefore : s'.nodes .before = s.nodes .before)
    (hhistory : ∀ w content, (some w, content) ∈ s.history → (some w, content) ∈ s'.history)
    {file : Option (FileId ι)} (hfile : Known start s file) :
    s'.contentOf file = s.contentOf file := by
  rcases hfile with rfl | ⟨w, content, rfl, hmade⟩
  · cases hstart : file with
    | none => rfl
    | some file' =>
      obtain rfl := h.start_eq file' hstart
      exact congrArg (fun node => some node.content) hbefore
  · show some (s'.nodes (.madeBy w)).content = some (s.nodes (.madeBy w)).content
    rw [((h.writer w).complete ⟨content, hmade⟩).2,
      ((hwriter w).complete ⟨content, hhistory w content hmade⟩).2]

omit [DecidableEq ι] [DecidableEq N] in
theorem known (hhistory : ∀ w content, (some w, content) ∈ s.history →
    (some w, content) ∈ s'.history) {file : Option (FileId ι)} (hfile : Known start s file) :
    Known start s' file := by
  rcases hfile with hstart | ⟨w, content, hfile, hmade⟩
  · exact Or.inl hstart
  · exact Or.inr ⟨w, content, hfile, hhistory w content hmade⟩

omit [DecidableEq ι] [DecidableEq N] in
/-- **The machine stops, and the path holds a whole content.** -/
theorem crash (h : DirInvariant jobs start old s) {found : Option (FileId ι)}
    (hfound : found ∈ s.durable) (lost : FileId ι → Bytes) (left : N → Bool) :
    DirInvariant jobs start old (AtomicWrite.crash s found lost left) := by
  have hhistory : ∀ w content, (some w, content) ∈ s.history →
      (some w, content) ∈ (AtomicWrite.crash s found lost left).history :=
    fun w content hmade => mem_crash_history.mpr hmade
  have hbefore : (AtomicWrite.crash s found lost left).nodes .before = s.nodes .before :=
    FileNode.recovered_of_synced h.before_synced _
  have hwriter : ∀ w, WriterInvariant jobs (AtomicWrite.crash s found lost left) w :=
    fun w => (h.writer w).crash
  have hkept : ∀ file, Known start s file →
      (AtomicWrite.crash s found lost left).contentOf file = s.contentOf file :=
    fun file => h.contentOf_eq hwriter hbefore hhistory
  refine ⟨hwriter, h.start_eq, (hkept _ (Or.inl rfl)).trans h.start_content, ?_, ?_, ?_, ?_, ?_, ?_⟩
  · rw [hbefore]
    exact h.before_synced
  · intro file hfile
    obtain rfl := List.mem_singleton.mp hfile
    exact known hhistory (h.durable _ hfound)
  · exact List.mem_singleton.mpr rfl
  · exact fun w content hmade => h.entries w content (mem_crash_history.mp hmade)
  · intro content hmade
    rcases List.mem_append.mp hmade with hmade | hmade
    · exact h.restarts content hmade
    · obtain rfl : content = _ := congrArg Prod.snd (List.mem_singleton.mp hmade)
      have hcontent := h.contentOf (h.durable _ hfound)
      rwa [← hkept _ (h.durable _ hfound)] at hcontent
  · show _ = ((s.history ++ [_]).getLast?.map Prod.snd).getD old
    rw [List.getLast?_concat]
    rfl

/-- **What a step of a writer does at the path**: nothing, but for a rename. -/
theorem advance_cases (jobs : WriteJobs ι N) (s : DirState ι N) (w : ι) (answer : StepAnswer) :
    ((AtomicWrite.advance jobs s w answer).destination = s.destination
        ∧ (AtomicWrite.advance jobs s w answer).history = s.history
        ∧ ((AtomicWrite.advance jobs s w answer).durable = s.durable
          ∨ (AtomicWrite.advance jobs s w answer).durable = [s.destination]))
      ∨ ∃ attempt file, s.phase w = .replacing attempt
        ∧ s.temporaries (jobs.name w attempt) = some file
        ∧ AtomicWrite.advance jobs s w answer
          = ((s.setName (jobs.name w attempt) none).putInPlace w file).goTo w
            (.reopening attempt) := by
  unfold AtomicWrite.advance
  cases hphase : s.phase w with
  | creating attempt =>
    refine Or.inl ?_
    dsimp only
    unfold createTemporary
    split_ifs <;> exact ⟨rfl, rfl, Or.inl rfl⟩
  | writing attempt rest =>
    refine Or.inl ?_
    dsimp only
    unfold writeSome
    split_ifs
    · exact ⟨rfl, rfl, Or.inl rfl⟩
    · cases answer with
      | failed | done => exact ⟨rfl, rfl, Or.inl rfl⟩
      | wrote count => cases count <;> exact ⟨rfl, rfl, Or.inl rfl⟩
  | syncing attempt =>
    refine Or.inl ?_
    dsimp only
    split_ifs <;> exact ⟨rfl, rfl, Or.inl rfl⟩
  | replacing attempt =>
    dsimp only
    unfold replaceAtomic
    cases hname : s.temporaries (jobs.name w attempt) with
    | none => exact Or.inl ⟨rfl, rfl, Or.inl rfl⟩
    | some file =>
      dsimp only
      split_ifs
      · exact Or.inl ⟨rfl, rfl, Or.inl rfl⟩
      · exact Or.inr ⟨attempt, file, rfl, hname, rfl⟩
  | syncingParent attempt =>
    refine Or.inl ?_
    dsimp only
    split_ifs
    · exact ⟨rfl, rfl, Or.inl rfl⟩
    · exact ⟨rfl, rfl, Or.inr rfl⟩
  | ensuring | validating | checking attempt | reopening attempt | revalidating attempt
  | cleaning attempt stage | returned result | gone => exact Or.inl ⟨rfl, rfl, Or.inl rfl⟩

/-- **A writer makes a step, and the path holds a whole content.** -/
theorem advance
    (hnames : ∀ w w' attempt attempt', jobs.name w attempt = jobs.name w' attempt' → w = w')
    (h : DirInvariant jobs start old s) (w : ι) (answer : StepAnswer) :
    DirInvariant jobs start old (AtomicWrite.advance jobs s w answer) := by
  have hframe := advance_frame jobs s w answer
  have hbefore := hframe.nodes .before (fun heq => by cases heq)
  have hwriter : ∀ other, WriterInvariant jobs (AtomicWrite.advance jobs s w answer) other := by
    intro other
    by_cases hself : other = w
    · rw [hself]
      exact (h.writer w).advance answer
    · exact (h.writer other).of_frame hnames hframe hself
  rcases advance_cases jobs s w answer with ⟨hdestination, hhistory, hdurable⟩
    | ⟨attempt, file, hphase, hname, hstep⟩
  · have hmore : ∀ w' content, (some w', content) ∈ s.history →
        (some w', content) ∈ (AtomicWrite.advance jobs s w answer).history := by
      intro w' content hmade
      rwa [hhistory]
    have hkept : ∀ file, Known start s file →
        (AtomicWrite.advance jobs s w answer).contentOf file = s.contentOf file :=
      fun file => h.contentOf_eq hwriter hbefore hmore
    have hknown := h.durable _ h.destination
    refine ⟨hwriter, h.start_eq, (hkept _ (Or.inl rfl)).trans h.start_content, ?_, ?_, ?_, ?_, ?_,
      ?_⟩
    · rw [hbefore]
      exact h.before_synced
    · intro file hfile
      rcases hdurable with heq | heq
      · rw [heq] at hfile
        exact known hmore (h.durable file hfile)
      · rw [heq] at hfile
        obtain rfl := List.mem_singleton.mp hfile
        exact known hmore hknown
    · rw [hdestination]
      rcases hdurable with heq | heq
      · rw [heq]
        exact h.destination
      · rw [heq]
        exact List.mem_singleton.mpr rfl
    · rw [hhistory]
      exact h.entries
    · rw [hhistory]
      exact h.restarts
    · unfold DirState.content
      rw [hhistory, hdestination, hkept _ hknown]
      exact h.last
  · -- the writer renames its file, which is complete
    obtain rfl : file = .madeBy w := by
      have hheld := (h.writer w).held attempt (by rw [hphase]; rfl)
      exact Option.some.inj (hname.symm.trans hheld)
    have hnode : s.nodes (.madeBy w) = ⟨jobs.bytes w, true⟩ := by
      have hready := (h.writer w).ready
      rw [hphase] at hready
      exact hready
    have hcontent : s.contentOf (some (.madeBy w)) = some (jobs.bytes w) := by
      show some (s.nodes (.madeBy w)).content = _
      rw [hnode]
    have hhistory : (AtomicWrite.advance jobs s w answer).history
        = s.history ++ [(some w, some (jobs.bytes w))] := by
      rw [hstep, ← hcontent]
      rfl
    have hdestination : (AtomicWrite.advance jobs s w answer).destination = some (.madeBy w) := by
      rw [hstep]
      rfl
    have hdurable : (AtomicWrite.advance jobs s w answer).durable
        = some (.madeBy w) :: s.durable := by
      rw [hstep]
      rfl
    have hmore : ∀ w' content, (some w', content) ∈ s.history →
        (some w', content) ∈ (AtomicWrite.advance jobs s w answer).history := by
      intro w' content hmade
      rw [hhistory]
      exact List.mem_append_left _ hmade
    have hmade : (some w, some (jobs.bytes w)) ∈ (AtomicWrite.advance jobs s w answer).history := by
      rw [hhistory]
      exact List.mem_append_right _ (List.mem_singleton.mpr rfl)
    refine ⟨hwriter, h.start_eq,
      (h.contentOf_eq hwriter hbefore hmore (Or.inl rfl)).trans h.start_content, ?_, ?_, ?_, ?_, ?_,
      ?_⟩
    · rw [hbefore]
      exact h.before_synced
    · intro file hfile
      rw [hdurable] at hfile
      rcases List.mem_cons.mp hfile with rfl | hfile
      · exact Or.inr ⟨w, _, rfl, hmade⟩
      · exact known hmore (h.durable file hfile)
    · rw [hdestination, hdurable]
      exact List.mem_cons_self
    · intro w' content hentry
      rw [hhistory] at hentry
      rcases List.mem_append.mp hentry with hentry | hentry
      · exact h.entries w' content hentry
      · obtain ⟨hw, hcontent⟩ := Prod.mk.inj (List.mem_singleton.mp hentry)
        rw [hcontent, Option.some.inj hw]
    · intro content hentry
      rw [hhistory] at hentry
      rcases List.mem_append.mp hentry with hentry | hentry
      · exact h.restarts content hentry
      · cases congrArg Prod.fst (List.mem_singleton.mp hentry)
    · unfold DirState.content
      rw [hhistory, hdestination, List.getLast?_concat]
      show some ((AtomicWrite.advance jobs s w answer).nodes (.madeBy w)).content = _
      rw [((hwriter w).complete ⟨_, hmade⟩).2]
      rfl

omit [DecidableEq ι] [DecidableEq N] in
theorem begun (h : Begun old s) : DirInvariant jobs s.destination old s := by
  have hempty : ∀ entry, entry ∉ s.history := by
    intro entry hentry
    rw [h.history] at hentry
    cases hentry
  refine ⟨?_, h.destination, h.content, h.synced, ?_, ?_, ?_, ?_, ?_⟩
  · intro w
    refine ⟨?_, ?_, ?_, ?_, ?_⟩
    · intro attempt hheld
      rw [h.phase w] at hheld
      cases hheld
    · intro name hname
      cases h.temporaries name _ hname
    · rw [h.phase w]
      trivial
    · rintro ⟨content, hmade⟩
      exact absurd hmade (hempty _)
    · intro hpast
      rw [h.phase w] at hpast
      cases hpast
  · intro file hfile
    rw [h.durable] at hfile
    exact Or.inl (List.mem_singleton.mp hfile)
  · rw [h.durable]
    exact List.mem_singleton.mpr rfl
  · exact fun w content hmade => absurd hmade (hempty _)
  · exact fun content hmade => absurd hmade (hempty _)
  · rw [h.history]
    exact h.content

theorem run
    (hnames : ∀ w w' attempt attempt', jobs.name w attempt = jobs.name w' attempt' → w = w')
    (h : DirInvariant jobs start old s) (hrun : Relation.ReflTransGen (WriteStep jobs) s s') :
    DirInvariant jobs start old s' := by
  induction hrun with
  | refl => exact h
  | tail _ hstep ih =>
    cases hstep with
    | move w answer => exact ih.advance hnames w answer
    | crash found lost left hfound => exact ih.crash hfound lost left

end DirInvariant

/-! ## Every run -/

/-- **A path that is written holds one whole content or another**, whatever fails, whoever else
writes and wherever the machine stops: the old content, or what one of the writers wrote.

A writer that returns well has put its bytes at the path. One that returns an error leaves no
file beside it, unless its fresh file was refused; it has put its bytes at the path if the error
comes after the rename, and has put nothing there otherwise. -/
theorem writeAtomic_whole {old : Option Bytes}
    (hnames : ∀ w w' attempt attempt', jobs.name w attempt = jobs.name w' attempt' → w = w')
    (hbegun : Begun old s) (hrun : Relation.ReflTransGen (WriteStep jobs) s s') :
    (s'.content = old ∨ ∃ w, s'.content = some (jobs.bytes w))
      ∧ s'.content = (s'.history.getLast?.map Prod.snd).getD old
      ∧ (∀ content, (none, content) ∈ s'.history →
        content = old ∨ ∃ w, content = some (jobs.bytes w))
      ∧ ∀ w, (∀ content, (some w, content) ∈ s'.history → content = some (jobs.bytes w))
        ∧ (s'.phase w = .returned (.ok ()) → (some w, some (jobs.bytes w)) ∈ s'.history)
        ∧ ∀ stage, s'.phase w = .returned (.error stage) →
          (stage ≠ .checkTemporary → ∀ name, s'.temporaries name ≠ some (.madeBy w))
          ∧ ((∃ content, (some w, content) ∈ s'.history) ↔ stage.afterRename = true) := by
  have h : DirInvariant jobs s.destination old s' := (DirInvariant.begun hbegun).run hnames hrun
  refine ⟨h.contentOf (h.durable _ h.destination), h.last, h.restarts, fun w =>
    ⟨h.entries w, ?_, ?_⟩⟩
  · intro hreturned
    exact (h.writer w).renamed (by rw [hreturned]; rfl)
  · intro stage hreturned
    refine ⟨?_, ?_, ?_⟩
    · intro hstage name hname
      rcases (h.writer w).left name hname with ⟨attempt, hheld, -⟩ | hrefused
      · rw [hreturned] at hheld
        cases hheld
      · rw [hreturned] at hrefused
        exact hstage (Except.error.inj (WritePhase.returned.inj hrefused))
    · intro hmade
      have hmay := ((h.writer w).complete hmade).1
      rwa [hreturned] at hmay
    · intro hafter
      exact ⟨_, (h.writer w).renamed (by rw [hreturned]; exact hafter)⟩

/-! ## Samples -/

/-- The state after some steps. -/
def runSteps (jobs : WriteJobs ι N) (s : DirState ι N) (steps : List (ι × StepAnswer)) :
    DirState ι N :=
  steps.foldl (fun s step => AtomicWrite.advance jobs s step.1 step.2) s

theorem runSteps_run (jobs : WriteJobs ι N) (s : DirState ι N) (steps : List (ι × StepAnswer)) :
    Relation.ReflTransGen (WriteStep jobs) s (runSteps jobs s steps) := by
  induction steps generalizing s with
  | nil => exact .refl
  | cons step steps ih => exact (ih _).head (.move step.1 step.2)

/-- Writers whose temporary files bear their names. -/
def sampleJobs (ι : Type) (bytes : ι → Bytes) : WriteJobs ι (ι × ℕ) := ⟨bytes, Prod.mk⟩

/-- A file that holds a zero. -/
def sampleDir (ι : Type) : DirState ι (ι × ℕ) where
  nodes := fun _ => ⟨[0], true⟩
  destination := some .before
  temporaries := fun _ => none
  durable := [some .before]
  phase := fun _ => .ensuring
  history := []

omit [DecidableEq ι] in
theorem sampleDir_begun : Begun (some [0]) (sampleDir ι) where
  content := rfl
  destination := fun _ hfile => (Option.some.inj hfile).symm
  synced := rfl
  durable := rfl
  phase := fun _ => rfl
  temporaries := fun _ _ hfile => by cases hfile
  history := rfl

/-- Two writers that write in turns, both of which succeed. -/
def sampleTurns : List (Bool × StepAnswer) :=
  (List.replicate 6 [(false, .done), (true, .done)]).flatten
    ++ (List.replicate 6 [(true, .done), (false, .done)]).flatten

theorem writeAtomic_whole_sample :
    (some false, some [2])
      ∈ (runSteps (sampleJobs Bool (fun w => if w then [1] else [2])) (sampleDir Bool)
          sampleTurns).history :=
  ((writeAtomic_whole (fun _ _ _ _ heq => congrArg Prod.fst heq) sampleDir_begun
    (runSteps_run _ _ sampleTurns)).2.2.2 false).2.1 rfl

/-- **An error does not mean that the old content is there**: the directory cannot be synced, and
the rename was made. -/
theorem writeAtomic_error_after_rename :
    ¬ ∀ (s s' : DirState Unit (Unit × ℕ)) (stage : WriteStage), Begun (some [0]) s →
      Relation.ReflTransGen (WriteStep (sampleJobs Unit (fun _ => [1]))) s s' →
        s'.phase () = .returned (.error stage) → s'.content = some [0] := by
  intro h
  have hcontent := h _ _ .syncParent sampleDir_begun
    (runSteps_run _ _ ((List.replicate 10 ((), .done)) ++ [((), .failed), ((), .done)])) rfl
  exact absurd hcontent (by decide)

end AtomicWrite

end AgentDesktop
