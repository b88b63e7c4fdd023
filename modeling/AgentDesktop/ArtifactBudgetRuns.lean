import AgentDesktop.ArtifactBudget

/-!
# Trace artifacts stay within their budgets

Three quantities are bounded: the bytes of the screenshots, their number, and the bytes of the
ref maps. Each is a weight of the files of one kind, and the argument is the same for all three:
what is there without the file that is being written is no more than the usage that was read, and
that file weighs no more than what was reserved for it. So what is there never exceeds the ledger,
nor the limit, whatever fails and wherever a writer stops.

What a write leaves behind when it cannot remove its temporary file, or does not see its artifact,
is not counted. The bounds hold up to what was left so in the run.
-/

namespace AgentDesktop

namespace ArtifactBudget

open AtomicWrite (Bytes WritePhase WriteStage StepAnswer maxAttempts)

variable {N : Type}

/-! ## What is bounded

The three quantities are treated as one: each is the weight of the files of one kind, and has a
limit and a place in the ledger. They are looked at one by one only where the code does so: where
the limits are checked, and where the files are counted. -/

/-- **The bounded quantities.** -/
inductive Meter
  | screenshotBytes | screenshotCount | refmapBytes
  deriving DecidableEq

namespace Meter

/-- The files it is a quantity of. -/
def kind : Meter → ArtifactKind
  | screenshotBytes | screenshotCount => .screenshot
  | refmapBytes => .refmap

/-- What one file adds to it. -/
def weigh : Meter → Bytes → ℕ
  | screenshotBytes | refmapBytes => List.length
  | screenshotCount => fun _ => 1

/-- Its limit. -/
def limit : Meter → ℕ
  | screenshotBytes => screenshotByteBudget
  | screenshotCount => screenshotCountBudget
  | refmapBytes => refmapByteBudget

/-- What the ledger says of it. -/
def read (usage : Usage) : Meter → ℕ
  | screenshotBytes => usage.screenshotBytes
  | screenshotCount => usage.screenshotCount
  | refmapBytes => usage.refmapBytes

/-- **What it is** in a directory. -/
def measure (q : Meter) (s : TraceDisk N) : ℕ := (s.files q.kind).total q.weigh

/-- What a write adds to it. -/
def cost (q : Meter) (job : ArtifactJob N) : ℕ :=
  if job.kind = q.kind then q.weigh job.bytes else 0

/-- What an event leaves that is not counted. -/
def leftBy (q : Meter) : ArtifactEvent N → ℕ
  | .left kind content => if kind = q.kind then q.weigh content else 0
  | .unseen _ | .placed _ _ _ | .returned _ _ | .removed _ _ => 0

/-- **What was left in a run** and is not counted. -/
def left (q : Meter) (events : List (ArtifactEvent N)) : ℕ := (events.map q.leftBy).sum

theorem left_append (q : Meter) (events : List (ArtifactEvent N))
    (event : Option (ArtifactEvent N)) :
    q.left (events ++ event.toList) = q.left events + (event.map q.leftBy).getD 0 := by
  unfold left
  cases event <;> simp

theorem weigh_mono (q : Meter) {content content' : Bytes}
    (h : content.length ≤ content'.length) : q.weigh content ≤ q.weigh content' := by
  cases q with
  | screenshotBytes => exact h
  | screenshotCount => exact le_refl 1
  | refmapBytes => exact h

theorem cost_of_kind (q : Meter) {job : ArtifactJob N} (h : job.kind = q.kind) :
    q.cost job = q.weigh job.bytes := if_pos h

theorem cost_of_kind_ne (q : Meter) {job : ArtifactJob N} (h : job.kind ≠ q.kind) :
    q.cost job = 0 := if_neg h

end Meter

theorem saturatingAdd_le {largest a b : ℕ} (h : saturatingAdd largest a b < largest) :
    saturatingAdd largest a b = a + b := by
  unfold saturatingAdd at h ⊢
  omega

/-- **The check leaves room** for what is written. -/
theorem reserved_of_checkBudget {usage : Usage} {job : ArtifactJob N}
    (h : checkBudget usage job = .ok ()) (q : Meter) :
    q.read (usage.reserved job) = q.read usage + q.cost job
      ∧ (job.kind = q.kind → q.read usage + q.cost job ≤ q.limit) := by
  unfold checkBudget at h
  unfold Usage.reserved
  cases hkind : job.kind with
  | screenshot =>
    rw [hkind] at h
    dsimp only at h
    split_ifs at h with hcount hbytes
    have hbytes : saturatingAdd u64Max usage.screenshotBytes job.bytes.length
        ≤ screenshotByteBudget := not_lt.mp hbytes
    have hexact := saturatingAdd_le
      (lt_of_le_of_lt hbytes (show screenshotByteBudget < u64Max by decide))
    have hroom : usage.screenshotCount + 1 ≤ screenshotCountBudget := not_le.mp hcount
    have hone : saturatingAdd u32Max usage.screenshotCount 1 = usage.screenshotCount + 1 :=
      min_eq_left (hroom.trans (by decide))
    cases q with
    | screenshotBytes =>
      rw [Meter.cost_of_kind _ hkind]
      exact ⟨hexact, fun _ => hexact ▸ hbytes⟩
    | screenshotCount =>
      rw [Meter.cost_of_kind _ hkind]
      exact ⟨hone, fun _ => hroom⟩
    | refmapBytes =>
      rw [Meter.cost_of_kind_ne _ (by rw [hkind]; decide)]
      exact ⟨rfl, fun hne => by cases hne⟩
  | refmap =>
    rw [hkind] at h
    dsimp only at h
    split_ifs at h with hbytes
    have hbytes : saturatingAdd u64Max usage.refmapBytes job.bytes.length ≤ refmapByteBudget :=
      not_lt.mp hbytes
    have hexact := saturatingAdd_le
      (lt_of_le_of_lt hbytes (show refmapByteBudget < u64Max by decide))
    cases q with
    | screenshotBytes | screenshotCount =>
      rw [Meter.cost_of_kind_ne _ (by rw [hkind]; decide)]
      exact ⟨rfl, fun hne => by cases hne⟩
    | refmapBytes =>
      rw [Meter.cost_of_kind _ hkind]
      exact ⟨hexact, fun _ => hexact ▸ hbytes⟩

/-- **The files of a directory are counted**, up to where the number types end. -/
theorem directoryUsage_eq (files : AssocMap N Bytes) :
    directoryUsage files
      = (min (files.total List.length) u64Max, min (files.total (fun _ => 1)) u32Max) := by
  have hfold : ∀ (contents : List Bytes) (bytes count : ℕ),
      contents.foldl (fun sum content =>
        (saturatingAdd u64Max sum.1 content.length, saturatingAdd u32Max sum.2 1))
        (min bytes u64Max, min count u32Max)
      = (min (bytes + (contents.map List.length).sum) u64Max,
        min (count + (contents.map (fun _ => 1)).sum) u32Max) := by
    intro contents
    induction contents with
    | nil => exact fun bytes count => rfl
    | cons content rest ih =>
      intro bytes count
      have hbytes : saturatingAdd u64Max (min bytes u64Max) content.length
          = min (bytes + content.length) u64Max := by unfold saturatingAdd; omega
      have hcount : saturatingAdd u32Max (min count u32Max) 1 = min (count + 1) u32Max := by
        unfold saturatingAdd
        omega
      rw [List.foldl_cons, hbytes, hcount, ih, List.map_cons, List.map_cons, List.sum_cons,
        List.sum_cons, add_assoc, add_assoc]
  have hall := hfold files.values 0 0
  rw [zero_add, zero_add] at hall
  exact hall

/-! ## What is known

The ledger is replaced before the artifact is written, by one that counts it already. From there on
it can only say too much: the file that is being written is no larger than what was reserved, and
the other files weigh no more than the usage that was read. A temporary file that could not be
removed is no longer the file of the write; its weight is added to the bound, which is what the run
has left. -/

/-- **A usage accounts for what is there**, and is within the limit. -/
structure Accounts (q : Meter) (left : ℕ) (s : TraceDisk N) (usage : Usage) : Prop where
  /-- There is no more than it says. -/
  measured : q.measure s ≤ q.read usage + left
  /-- It says no more than the limit. -/
  within : q.read usage ≤ q.limit + left

/-- **A reservation stands**: the limit leaves room, and the ledger counts what is written. -/
structure Reserved (q : Meter) (left : ℕ) (s : TraceDisk N) (job : ArtifactJob N)
    (usage : Usage) : Prop where
  /-- There is room. -/
  room : q.read usage + q.cost job ≤ q.limit + left
  /-- The limit was checked for what is written. -/
  checked : job.kind = q.kind → q.read usage + q.cost job ≤ q.limit
  /-- The ledger counts it, if there is one. -/
  ledger : ∀ stored ∈ s.ledger, q.read stored = q.read usage + q.cost job

/-- The file a write may have added: the temporary one, and the artifact after the rename. -/
def fileOf (job : ArtifactJob N) : WritePhase → Option N
  | .checking attempt | .writing attempt _ | .syncing attempt | .replacing attempt =>
    some (job.name attempt)
  | .cleaning attempt stage =>
    if stage.afterRename then some job.path else some (job.name attempt)
  | .reopening _ | .revalidating _ | .syncingParent _ | .returned (.ok _) => some job.path
  | .returned (.error stage) => if stage.afterRename then some job.path else none
  | .ensuring | .validating | .creating _ | .gone => none

/-- How much is yet to be written. -/
def remaining (job : ArtifactJob N) : WritePhase → ℕ
  | .checking _ => job.bytes.length
  | .writing _ rest => rest.length
  | .ensuring | .validating | .creating _ | .syncing _ | .replacing _ | .reopening _
  | .revalidating _ | .syncingParent _ | .cleaning _ _ | .returned _ | .gone => 0

variable [DecidableEq N]

/-- **What is known of the files while one is written**: the others weigh no more than a bound,
and it is no larger than what is written. -/
structure FileInvariant (weigh : Bytes → ℕ) (bound : ℕ) (job : ArtifactJob N)
    (files : AssocMap N Bytes) (phase : WritePhase) : Prop where
  /-- The other files. -/
  apart : (files.without (fileOf job phase)).total weigh ≤ bound
  /-- The file that is written. -/
  size : ∀ name ∈ fileOf job phase, ∀ content ∈ files.get name,
    content.length + remaining job phase ≤ job.bytes.length

namespace FileInvariant

variable {weigh : Bytes → ℕ} {bound : ℕ} {job : ArtifactJob N} {files : AssocMap N Bytes}
  {phase phase' : WritePhase}

theorem mono (h : FileInvariant weigh bound job files phase) {bound' : ℕ} (hle : bound ≤ bound') :
    FileInvariant weigh bound' job files phase := ⟨h.apart.trans hle, h.size⟩

theorem goOn (h : FileInvariant weigh bound job files phase)
    (hfile : fileOf job phase' = fileOf job phase)
    (hrest : remaining job phase' ≤ remaining job phase) :
    FileInvariant weigh bound job files phase' := by
  refine ⟨hfile ▸ h.apart, fun name hname content hcontent => ?_⟩
  rw [hfile] at hname
  exact (Nat.add_le_add_left hrest _).trans (h.size name hname content hcontent)

theorem ofNone (h : files.total weigh ≤ bound) (hfile : fileOf job phase = none) :
    FileInvariant weigh bound job files phase := by
  refine ⟨by rw [hfile]; exact h, fun name hname => ?_⟩
  rw [hfile] at hname
  cases hname

theorem erase (h : FileInvariant weigh bound job files phase) (name : N) :
    FileInvariant weigh bound job (files.erase name) phase := by
  refine ⟨(AssocMap.total_erase_without_le files name _ weigh).trans h.apart, ?_⟩
  intro other hother content hcontent
  by_cases hname : other = name
  · rw [hname, AssocMap.get_erase_self] at hcontent
    cases hcontent
  · rw [AssocMap.get_erase_of_ne _ hname] at hcontent
    exact h.size other hother content hcontent

theorem insert {name : N} {content : Bytes} (h : (files.erase name).total weigh ≤ bound)
    (hfile : fileOf job phase = some name)
    (hsize : content.length + remaining job phase ≤ job.bytes.length) :
    FileInvariant weigh bound job (files.insert name content) phase := by
  refine ⟨?_, fun other hother stored hstored => ?_⟩
  · rw [hfile]
    exact (AssocMap.total_erase_insert files name content weigh).trans_le h
  · rw [hfile] at hother
    obtain rfl := Option.some.inj hother
    rw [AssocMap.get_insert_self] at hstored
    obtain rfl := Option.some.inj hstored
    exact hsize

theorem abandon (h : FileInvariant weigh bound job files phase) {name : N}
    (hfile : fileOf job phase = some name) (hfile' : fileOf job phase' = none) :
    FileInvariant weigh (bound + AssocMap.weightOf weigh (files.get name)) job files phase' := by
  refine .ofNone ?_ hfile'
  have hapart := h.apart
  rw [hfile] at hapart
  rw [← AssocMap.total_erase files name weigh]
  exact Nat.add_le_add_right hapart _

/-- **What is written weighs no more than what was given.** -/
theorem total_le {q : Meter} (h : FileInvariant q.weigh bound job files phase) :
    files.total q.weigh ≤ bound + q.weigh job.bytes := by
  refine (AssocMap.total_le_without files (fileOf job phase) ?_).trans
    (Nat.add_le_add_right h.apart _)
  intro name hname content hcontent
  exact q.weigh_mono ((Nat.le_add_right _ _).trans (h.size name hname content hcontent))

end FileInvariant

omit [DecidableEq N] in
theorem leftBy_left (q : Meter) {job : ArtifactJob N} (hkind : job.kind = q.kind)
    (content : Option Bytes) :
    ((content.map (ArtifactEvent.left (N := N) job.kind)).map q.leftBy).getD 0
      = AssocMap.weightOf q.weigh content := by
  cases content with
  | none => rfl
  | some content => exact if_pos hkind

/-- **One step of `write_atomic_with` keeps what is known of the files**, up to what it leaves. -/
theorem writeStep_fileInvariant (q : Meter) {job : ArtifactJob N} (hkind : job.kind = q.kind)
    {bound : ℕ} {files : AssocMap N Bytes} {phase : WritePhase}
    (h : FileInvariant q.weigh bound job files phase) (answer : StepAnswer) :
    FileInvariant q.weigh
      (bound + ((writeEvent job files answer phase).map q.leftBy).getD 0) job
      (writeStep job files answer phase).1 (writeStep job files answer phase).2 := by
  cases phase with
  | ensuring | validating =>
    unfold writeStep writeEvent
    dsimp only
    split_ifs
    · exact h.goOn rfl (le_refl _)
    · exact h.goOn rfl (le_refl _)
  | creating attempt =>
    unfold writeStep writeEvent
    dsimp only
    split_ifs
    · exact h.goOn rfl (le_refl _)
    · exact h.goOn rfl (le_refl _)
    · refine .insert ?_ rfl (by simp [remaining])
      exact (AssocMap.total_erase_le files _ _).trans h.apart
  | checking attempt =>
    unfold writeStep writeEvent
    dsimp only
    split_ifs
    · rw [leftBy_left q hkind]
      exact h.abandon rfl rfl
    · exact h.goOn rfl (le_refl _)
  | writing attempt rest =>
    have hwrites : ∀ chunk rest' : Bytes, chunk.length + rest'.length ≤ rest.length →
        FileInvariant q.weigh bound job (appendTo files (job.name attempt) chunk)
          (.writing attempt rest') := by
      intro chunk rest' hlength
      unfold appendTo
      cases hget : files.get (job.name attempt) with
      | none => exact h.goOn rfl ((Nat.le_add_left _ _).trans hlength)
      | some content =>
        have hsize : content.length + rest.length ≤ job.bytes.length := h.size _ rfl _ hget
        refine .insert h.apart rfl ?_
        rw [List.length_append]
        show content.length + chunk.length + rest'.length ≤ job.bytes.length
        omega
    unfold writeStep writeEvent
    dsimp only
    split_ifs
    · exact h.goOn rfl (Nat.zero_le _)
    · cases answer with
      | failed => exact h.goOn rfl (Nat.zero_le _)
      | done => exact hwrites rest [] (by simp)
      | wrote count =>
        cases count with
        | zero => exact h.goOn rfl (Nat.zero_le _)
        | succ count => exact hwrites _ _ (by simp only [List.length_take, List.length_drop]; omega)
  | syncing attempt =>
    unfold writeStep writeEvent
    dsimp only
    split_ifs
    · exact h.goOn rfl (le_refl _)
    · exact h.goOn rfl (le_refl _)
  | replacing attempt =>
    unfold writeStep writeEvent
    dsimp only
    cases hget : files.get (job.name attempt) with
    | none =>
      dsimp only
      split_ifs
      · exact h.goOn rfl (le_refl _)
      · exact h.goOn rfl (le_refl _)
    | some content =>
      dsimp only
      split_ifs
      · exact h.goOn rfl (le_refl _)
      · refine .insert ?_ rfl (h.size _ rfl _ hget)
        exact (AssocMap.total_erase_le _ _ _).trans h.apart
  | reopening attempt | revalidating attempt | syncingParent attempt =>
    unfold writeStep writeEvent
    dsimp only
    split_ifs
    · exact h.goOn rfl (le_refl _)
    · exact h.goOn rfl (le_refl _)
  | cleaning attempt stage =>
    unfold writeStep writeEvent
    dsimp only
    cases hstage : stage.afterRename with
    | true =>
      have hfile : fileOf job (.returned (.error stage)) = fileOf job (.cleaning attempt stage) :=
        by simp [fileOf, hstage]
      have hgone : FileInvariant q.weigh bound job files (.returned (.error stage)) :=
        h.goOn hfile (le_refl _)
      split_ifs
      · exact hgone.mono (Nat.le_add_right _ _)
      · exact hgone.erase _
    | false =>
      have hfile : fileOf job (.cleaning attempt stage) = some (job.name attempt) := by
        simp [fileOf, hstage]
      have hfile' : fileOf job (.returned (.error stage)) = none := by simp [fileOf, hstage]
      split_ifs
      · rw [leftBy_left q hkind]
        exact h.abandon hfile hfile'
      · refine .ofNone ?_ hfile'
        have hapart := h.apart
        rwa [hfile] at hapart
  | returned result => exact h.mono (Nat.le_add_right _ _)
  | gone => exact h.mono (Nat.le_add_right _ _)

theorem writeEvent_of_returned_ok {job : ArtifactJob N} {files : AssocMap N Bytes}
    {answer : StepAnswer} {phase : WritePhase}
    (h : (writeStep job files answer phase).2 = .returned (.ok ())) :
    writeEvent job files answer phase = none := by
  cases phase with
  | checking attempt =>
    unfold writeStep at h
    dsimp only at h
    split_ifs at h
    cases h
  | replacing attempt =>
    unfold writeStep at h
    dsimp only at h
    cases hget : files.get (job.name attempt) with
    | none =>
      rw [hget] at h
      cases h
    | some content =>
      rw [hget] at h
      dsimp only at h
      split_ifs at h
  | cleaning attempt stage => cases h
  | _ => rfl

/-! ## What is known of the directory

Only the holder of the lock writes, so what is known of the directory depends on the phase of one
writer. Before the reservation it knows a usage that accounts for what is there; after it, what
`FileInvariant` says of the files; and once the artifact is found to be absent, again the usage from
before. -/

/-- **What is known of a write**, of how far it is. Until the artifact is written, this is a
usage that accounts for the directory; then a reservation stands, and the files are split into the
one that is written and the others. -/
def HolderKnows (q : Meter) (left : ℕ) (s : TraceDisk N) (job : ArtifactJob N) :
    ArtifactPhase → Prop
  | .checkingPresent | .loading | .scanningScreens => True
  | .scanningRefmaps screens =>
    q.kind = .screenshot → Accounts q left s ⟨screens.1, screens.2, 0⟩
  | .persistingScan usage | .reserving usage => Accounts q left s usage
  | .writing usage phase =>
    Reserved q left s job usage
      ∧ (job.kind = q.kind →
        FileInvariant q.weigh (q.read usage + left) job (s.files q.kind) phase)
      ∧ (job.kind ≠ q.kind → q.measure s ≤ q.read usage + left)
  | .checkingArtifact usage =>
    Reserved q left s job usage ∧ q.measure s ≤ q.read usage + q.cost job + left
      ∧ ((s.files q.kind).without (if job.kind = q.kind then some job.path else none)).total q.weigh
        ≤ q.read usage + left
  | .rollingBack usage => Reserved q left s job usage ∧ Accounts q left s usage

/-- **What is known of a directory**: what is there is within the limit, and the ledger, if there
is one, accounts for it. -/
structure BudgetInvariant (q : Meter) (left : ℕ) (s : TraceState N) : Prop where
  /-- What is there is within the limit. -/
  disk : q.measure s.toTraceDisk ≤ q.limit + left
  /-- The ledger accounts for it. -/
  ledger : ∀ stored ∈ s.ledger, Accounts q left s.toTraceDisk stored
  /-- So does what the writer knows. -/
  holder : ∀ holder ∈ s.holder, HolderKnows q left s.toTraceDisk holder.job holder.phase

omit [DecidableEq N] in
theorem Accounts.mono {q : Meter} {left left' : ℕ} {s : TraceDisk N} {usage : Usage}
    (h : Accounts q left s usage) (hle : left ≤ left') : Accounts q left' s usage :=
  ⟨h.measured.trans (Nat.add_le_add_left hle _), h.within.trans (Nat.add_le_add_left hle _)⟩

omit [DecidableEq N] in
theorem Reserved.mono {q : Meter} {left left' : ℕ} {s : TraceDisk N} {job : ArtifactJob N}
    {usage : Usage} (h : Reserved q left s job usage) (hle : left ≤ left') :
    Reserved q left' s job usage := ⟨h.room.trans (Nat.add_le_add_left hle _), h.checked, h.ledger⟩

omit [DecidableEq N] in
/-- **A reservation accounts for what is there**, with what is written. -/
theorem Reserved.accounts {q : Meter} {left : ℕ} {s : TraceDisk N} {job : ArtifactJob N}
    {usage : Usage} (h : Reserved q left s job usage)
    (hmeasure : q.measure s ≤ q.read usage + q.cost job + left) :
    ∀ stored ∈ s.ledger, Accounts q left s stored := by
  intro stored hstored
  refine ⟨?_, ?_⟩
  · rw [h.ledger stored hstored]
    exact hmeasure
  · rw [h.ledger stored hstored]
    exact h.room

namespace BudgetInvariant

variable {q : Meter} {left : ℕ} {s : TraceState N} {job : ArtifactJob N}

theorem goTo (h : BudgetInvariant q left s) {phase : ArtifactPhase}
    (hknows : HolderKnows q left s.toTraceDisk job phase) :
    BudgetInvariant q left (s.goTo job phase) := by
  refine ⟨h.disk, fun stored hstored => h.ledger stored hstored, fun holder hholder => ?_⟩
  obtain rfl := Option.some.inj hholder
  exact hknows

theorem release (h : BudgetInvariant q left s) : BudgetInvariant q left { s with holder := none } :=
  ⟨h.disk, fun stored hstored => h.ledger stored hstored, fun _ hholder => by cases hholder⟩

/-- **The ledger may be replaced** by what accounts for what is there, if nobody else goes on. -/
theorem persist (h : BudgetInvariant q left s) {usage : Usage}
    (haccounts : Accounts q left s.toTraceDisk usage) (answer : ArtifactAnswer) :
    BudgetInvariant q left { (persistUsage s answer usage).1 with holder := none } := by
  have hset : BudgetInvariant q left { s.setLedger usage with holder := none } := by
    refine ⟨h.disk, fun stored hstored => ?_, fun _ hholder => by cases hholder⟩
    obtain rfl := Option.some.inj hstored
    exact ⟨haccounts.measured, haccounts.within⟩
  unfold persistUsage
  split_ifs
  · exact h.release
  · exact hset
  · exact hset

end BudgetInvariant

/-! ## Steps

Each step of the holder has its lemma, named as the function of the code. Other processes take no
part in the account: what they do makes the directory lighter, and every bound is kept by what is
lighter. -/

/-- What an event leaves, if there is one. -/
def Meter.leftBy? (q : Meter) (event : Option (ArtifactEvent N)) : ℕ :=
  (event.map q.leftBy).getD 0

omit [DecidableEq N] in
/-- **What was counted accounts for what is there**, even where the count stops at the largest
number: what is there is within the limit, and that is less. -/
theorem accounts_of_min {q : Meter} {left largest : ℕ} {s : TraceDisk N} {usage : Usage}
    (hdisk : q.measure s ≤ q.limit + left) (hread : q.read usage = min (q.measure s) largest)
    (hlargest : q.limit ≤ largest) : Accounts q left s usage := by
  refine ⟨?_, ?_⟩
  · rw [hread]
    omega
  · rw [hread]
    exact (min_le_left _ _).trans hdisk

namespace BudgetInvariant

variable {q : Meter} {left : ℕ} {s : TraceState N} {job : ArtifactJob N}

theorem checkPresent (h : BudgetInvariant q left s) (answer : ArtifactAnswer) :
    BudgetInvariant q left (checkPresent s job answer).1 := by
  unfold ArtifactBudget.checkPresent
  cases s.refmaps.get job.path with
  | none => exact h.goTo trivial
  | some content =>
    dsimp only
    split_ifs
    · exact h.goTo trivial
    · exact h.release

theorem loadUsage (h : BudgetInvariant q left s) (answer : ArtifactAnswer) :
    BudgetInvariant q left (loadUsage s job answer).1 := by
  unfold ArtifactBudget.loadUsage
  cases hledger : s.ledger with
  | none => exact h.goTo trivial
  | some usage =>
    dsimp only
    split_ifs
    · exact h.goTo trivial
    · exact h.goTo (h.ledger usage hledger)

theorem scanScreens (h : BudgetInvariant q left s) (answer : ArtifactAnswer) :
    BudgetInvariant q left (scanScreens s job answer).1 := by
  unfold ArtifactBudget.scanScreens
  split_ifs
  · exact h.release
  · refine h.goTo (fun hkind => ?_)
    rw [directoryUsage_eq]
    cases q with
    | screenshotBytes => exact accounts_of_min h.disk rfl (by decide)
    | screenshotCount => exact accounts_of_min h.disk rfl (by decide)
    | refmapBytes => cases hkind

theorem scanRefmaps (h : BudgetInvariant q left s) {screens : ℕ × ℕ}
    (hknows : HolderKnows q left s.toTraceDisk job (.scanningRefmaps screens))
    (answer : ArtifactAnswer) :
    BudgetInvariant q left (scanRefmaps s job answer screens).1 := by
  unfold ArtifactBudget.scanRefmaps
  split_ifs
  · exact h.release
  · refine h.goTo ?_
    rw [directoryUsage_eq]
    cases q with
    | screenshotBytes | screenshotCount =>
      exact ⟨(hknows rfl).measured, (hknows rfl).within⟩
    | refmapBytes => exact accounts_of_min h.disk rfl (by decide)

theorem persistScan (h : BudgetInvariant q left s) {usage : Usage}
    (haccounts : Accounts q left s.toTraceDisk usage) (answer : ArtifactAnswer) :
    BudgetInvariant q left (persistScan s job answer usage).1 := by
  have hpersisted := h.persist haccounts answer
  unfold ArtifactBudget.persistScan
  split_ifs with hok
  · unfold persistUsage at hok hpersisted ⊢
    split_ifs at hok hpersisted ⊢
    exact hpersisted.goTo ⟨haccounts.measured, haccounts.within⟩
  · exact hpersisted

theorem reserve (h : BudgetInvariant q left s) {usage : Usage}
    (haccounts : Accounts q left s.toTraceDisk usage) (answer : ArtifactAnswer) :
    BudgetInvariant q left (reserve s job answer usage).1 := by
  unfold ArtifactBudget.reserve
  cases hcheck : checkBudget usage job with
  | error reason => exact h.release
  | ok _ =>
    obtain ⟨hread, hchecked⟩ := reserved_of_checkBudget hcheck q
    have hroom : q.read usage + q.cost job ≤ q.limit + left := by
      by_cases hkind : job.kind = q.kind
      · exact (hchecked hkind).trans (Nat.le_add_right _ _)
      · rw [q.cost_of_kind_ne hkind]
        exact haccounts.within
    have hreserved : Accounts q left s.toTraceDisk (usage.reserved job) := by
      refine ⟨?_, hread ▸ hroom⟩
      rw [hread]
      exact haccounts.measured.trans (by omega)
    have hpersisted := h.persist hreserved answer
    dsimp only
    split_ifs with hok
    · unfold persistUsage at hok hpersisted ⊢
      split_ifs at hok hpersisted ⊢
      refine hpersisted.goTo ⟨⟨hroom, hchecked, fun stored hstored => ?_⟩, fun _ => ?_, fun _ => ?_⟩
      · obtain rfl := Option.some.inj hstored
        exact hread
      · exact .ofNone haccounts.measured rfl
      · exact haccounts.measured
    · exact hpersisted

theorem mono (h : BudgetInvariant q left s) {left' : ℕ} (hle : left ≤ left') :
    BudgetInvariant q left' s := by
  refine ⟨h.disk.trans (Nat.add_le_add_left hle _), fun stored hstored =>
    (h.ledger stored hstored).mono hle, fun holder hholder => ?_⟩
  have hknows := h.holder holder hholder
  revert hknows
  cases holder.phase with
  | checkingPresent | loading | scanningScreens => exact id
  | scanningRefmaps screens => exact fun hscreens hkind => (hscreens hkind).mono hle
  | persistingScan usage | reserving usage => exact fun haccounts => haccounts.mono hle
  | writing usage phase =>
    exact fun ⟨hreserved, hfile, hother⟩ => ⟨hreserved.mono hle,
      fun hkind => (hfile hkind).mono (Nat.add_le_add_left hle _),
      fun hkind => (hother hkind).trans (Nat.add_le_add_left hle _)⟩
  | checkingArtifact usage =>
    exact fun ⟨hreserved, hmeasure, hapart⟩ => ⟨hreserved.mono hle,
      hmeasure.trans (Nat.add_le_add_left hle _), hapart.trans (Nat.add_le_add_left hle _)⟩
  | rollingBack usage =>
    exact fun ⟨hreserved, haccounts⟩ => ⟨hreserved.mono hle, haccounts.mono hle⟩

/-- **An artifact that is not there** may be taken from the ledger again; one that is there but
was not seen is left. -/
theorem checkArtifact (h : BudgetInvariant q left s) {usage : Usage}
    (hknows : HolderKnows q left s.toTraceDisk job (.checkingArtifact usage))
    (answer : ArtifactAnswer) :
    BudgetInvariant q (left + q.leftBy? (checkArtifact s job answer usage).2)
      (checkArtifact s job answer usage).1 := by
  obtain ⟨hreserved, hmeasure, hapart⟩ := hknows
  have hwithin : q.read usage ≤ q.limit + left := (Nat.le_add_right _ _).trans hreserved.room
  unfold ArtifactBudget.checkArtifact
  cases hget : (s.files job.kind).get job.path with
  | none =>
    refine h.goTo ⟨hreserved, ?_, hwithin⟩
    by_cases hkind : job.kind = q.kind
    · rw [if_pos hkind] at hapart
      rw [hkind] at hget
      show (s.files q.kind).total q.weigh ≤ q.read usage + left
      rw [← AssocMap.erase_of_get_eq_none hget]
      exact hapart
    · rwa [if_neg hkind] at hapart
  | some content =>
    dsimp only
    split_ifs
    · have hleft : left ≤ left + q.leftBy? (some (.left (N := N) job.kind content)) :=
        Nat.le_add_right _ _
      refine (h.mono hleft).goTo ⟨hreserved.mono hleft, ?_, ?_⟩
      · by_cases hkind : job.kind = q.kind
        · rw [if_pos hkind] at hapart
          rw [hkind] at hget
          have hsplit := AssocMap.total_erase (s.files q.kind) job.path q.weigh
          rw [hget, AssocMap.weightOf_some] at hsplit
          have hweight : q.leftBy? (some (.left (N := N) job.kind content)) = q.weigh content :=
            if_pos hkind
          rw [hweight, ← add_assoc]
          exact hsplit.symm.trans_le (Nat.add_le_add_right hapart _)
        · rw [if_neg hkind] at hapart
          exact hapart.trans (Nat.add_le_add_left hleft _)
      · exact hwithin.trans (Nat.add_le_add_left hleft _)
    · exact h.release

theorem rollBack (h : BudgetInvariant q left s) {usage : Usage}
    (hknows : HolderKnows q left s.toTraceDisk job (.rollingBack usage))
    (answer : ArtifactAnswer) : BudgetInvariant q left (rollBack s job answer usage).1 :=
  h.persist hknows.2 answer

/-- **A step of `write_private_file`**: the reservation stands, and what is known of the files says
that what is there is within it. -/
theorem writeFile (h : BudgetInvariant q left s) {usage : Usage} {phase : WritePhase}
    (hknows : HolderKnows q left s.toTraceDisk job (.writing usage phase)) (answer : StepAnswer) :
    BudgetInvariant q (left + q.leftBy? (writeFile s job usage phase answer).2)
      (writeFile s job usage phase answer).1 := by
  obtain ⟨hreserved, hfile, hother⟩ := hknows
  have hquiet : (writeStep job (s.files job.kind) answer phase).2 = .returned (.ok ()) →
      writeEvent job (s.files job.kind) answer phase = none := writeEvent_of_returned_ok
  unfold ArtifactBudget.writeFile
  generalize hevent : writeEvent job (s.files job.kind) answer phase = event at hquiet ⊢
  generalize hnext : writeStep job (s.files job.kind) answer phase = next at hquiet ⊢
  obtain ⟨files, phase'⟩ := next
  have hleft : left ≤ left + q.leftBy? event := Nat.le_add_right _ _
  have hfile' : job.kind = q.kind → FileInvariant q.weigh (q.read usage + (left + q.leftBy? event))
      job ((s.setFiles job.kind files).files q.kind) phase' := by
    intro hkind
    have hstep := writeStep_fileInvariant q hkind (hkind ▸ hfile hkind) answer
    rw [hevent, hnext] at hstep
    rw [← hkind, TraceState.files_setFiles_self, ← add_assoc]
    exact hstep
  have hother' : job.kind ≠ q.kind →
      q.measure (s.setFiles job.kind files).toTraceDisk
        ≤ q.read usage + (left + q.leftBy? event) := by
    intro hkind
    unfold Meter.measure
    rw [TraceState.files_setFiles_of_ne s hkind]
    exact (hother hkind).trans (Nat.add_le_add_left hleft _)
  have hmeasure : q.measure (s.setFiles job.kind files).toTraceDisk
      ≤ q.read usage + q.cost job + (left + q.leftBy? event) := by
    by_cases hkind : job.kind = q.kind
    · have htotal := (hfile' hkind).total_le
      rw [q.cost_of_kind hkind]
      refine htotal.trans (le_of_eq ?_)
      omega
    · rw [q.cost_of_kind_ne hkind]
      exact hother' hkind
  have hreserved' : Reserved q (left + q.leftBy? event) (s.setFiles job.kind files).toTraceDisk
      job usage := by
    refine ⟨(hreserved.mono hleft).room, hreserved.checked, fun stored hstored => ?_⟩
    rw [TraceState.ledger_setFiles] at hstored
    exact hreserved.ledger stored hstored
  have hdisk : q.measure (s.setFiles job.kind files).toTraceDisk
      ≤ q.limit + (left + q.leftBy? event) := by
    by_cases hkind : job.kind = q.kind
    · exact hmeasure.trans (Nat.add_le_add_right (hreserved.checked hkind) _)
    · unfold Meter.measure
      rw [TraceState.files_setFiles_of_ne s hkind]
      exact h.disk.trans (Nat.add_le_add_left hleft _)
  have hset : BudgetInvariant q (left + q.leftBy? event)
      { s.setFiles job.kind files with holder := none } :=
    ⟨hdisk, hreserved'.accounts hmeasure, fun _ hholder => by cases hholder⟩
  cases phase' with
  | returned result =>
    cases result with
    | ok _ =>
      rw [hquiet rfl] at hset
      exact hset
    | error stage =>
      refine hset.goTo ⟨hreserved', hmeasure, ?_⟩
      by_cases hkind : job.kind = q.kind
      · have hapart := (hfile' hkind).apart
        rw [if_pos hkind]
        unfold fileOf at hapart
        dsimp only at hapart
        split_ifs at hapart
        · exact hapart
        · exact (AssocMap.total_erase_le _ _ _).trans hapart
      · rw [if_neg hkind]
        exact hother' hkind
  | _ => exact hset.goTo ⟨hreserved', hfile', hother'⟩

theorem advance (h : BudgetInvariant q left s) {phase : ArtifactPhase}
    (hknows : HolderKnows q left s.toTraceDisk job phase) (answer : ArtifactAnswer) :
    BudgetInvariant q (left + q.leftBy? (advance s job answer phase).2)
      (advance s job answer phase).1 := by
  cases phase with
  | checkingPresent => exact (h.checkPresent answer).mono (Nat.le_add_right _ _)
  | loading => exact (h.loadUsage answer).mono (Nat.le_add_right _ _)
  | scanningScreens => exact (h.scanScreens answer).mono (Nat.le_add_right _ _)
  | scanningRefmaps screens => exact (h.scanRefmaps hknows answer).mono (Nat.le_add_right _ _)
  | persistingScan usage => exact (h.persistScan hknows answer).mono (Nat.le_add_right _ _)
  | reserving usage => exact (h.reserve hknows answer).mono (Nat.le_add_right _ _)
  | writing usage phase =>
    cases answer with
    | answer answer => exact h.writeFile hknows answer
    | failedLate => exact h.writeFile hknows .failed
  | checkingArtifact usage => exact h.checkArtifact hknows answer
  | rollingBack usage => exact (h.rollBack hknows answer).mono (Nat.le_add_right _ _)

/-- **What others change** makes a directory lighter: they remove files, or the ledger. -/
structure Lighter (q : Meter) (s s' : TraceState N) : Prop where
  /-- The files weigh no more, with or without one of them. -/
  total : ∀ key, ((s'.files q.kind).without key).total q.weigh
    ≤ ((s.files q.kind).without key).total q.weigh
  /-- A file that is there was there. -/
  get : ∀ name content, (s'.files q.kind).get name = some content →
    (s.files q.kind).get name = some content
  /-- So was the ledger. -/
  ledger : ∀ stored ∈ s'.ledger, stored ∈ s.ledger
  /-- The lock is left alone. -/
  holder : s'.holder = s.holder

/-- **A directory that others make lighter** is within all bounds. -/
theorem lighter {s' : TraceState N} (h : BudgetInvariant q left s) (hlighter : Lighter q s s') :
    BudgetInvariant q left s' := by
  have hmeasure : q.measure s'.toTraceDisk ≤ q.measure s.toTraceDisk := hlighter.total none
  have haccounts : ∀ {usage : Usage}, Accounts q left s.toTraceDisk usage →
      Accounts q left s'.toTraceDisk usage :=
    fun haccounts => ⟨hmeasure.trans haccounts.measured, haccounts.within⟩
  have hreserved : ∀ {job : ArtifactJob N} {usage : Usage},
      Reserved q left s.toTraceDisk job usage → Reserved q left s'.toTraceDisk job usage :=
    fun hreserved => ⟨hreserved.room, hreserved.checked,
      fun stored hstored => hreserved.ledger stored (hlighter.ledger stored hstored)⟩
  refine ⟨hmeasure.trans h.disk, fun stored hstored =>
    haccounts (h.ledger stored (hlighter.ledger stored hstored)), fun holder hholder => ?_⟩
  rw [hlighter.holder] at hholder
  have hknows := h.holder holder hholder
  revert hknows
  cases holder.phase with
  | checkingPresent | loading | scanningScreens => exact id
  | scanningRefmaps screens => exact fun hscreens hkind => haccounts (hscreens hkind)
  | persistingScan usage | reserving usage => exact fun hbefore => haccounts hbefore
  | writing usage phase =>
    exact fun ⟨hbefore, hfile, hother⟩ => ⟨hreserved hbefore,
      fun hkind => ⟨(hlighter.total _).trans (hfile hkind).apart, fun name hname content hcontent =>
        (hfile hkind).size name hname content (hlighter.get name content hcontent)⟩,
      fun hkind => hmeasure.trans (hother hkind)⟩
  | checkingArtifact usage =>
    exact fun ⟨hbefore, hbound, hapart⟩ =>
      ⟨hreserved hbefore, hmeasure.trans hbound, (hlighter.total _).trans hapart⟩
  | rollingBack usage =>
    exact fun ⟨hbefore, hrolled⟩ => ⟨hreserved hbefore, haccounts hrolled⟩

theorem lighter_remove (s : TraceState N) (kind : ArtifactKind) (name : N) :
    Lighter q s (s.setFiles kind ((s.files kind).erase name)) := by
  have hfiles : (s.setFiles kind ((s.files kind).erase name)).files q.kind
      = if kind = q.kind then (s.files q.kind).erase name else s.files q.kind := by
    split_ifs with hkind
    · subst hkind
      exact TraceState.files_setFiles_self s _ _
    · exact TraceState.files_setFiles_of_ne s hkind _
  refine ⟨fun key => ?_, fun other content hother => ?_, fun stored hstored => ?_, ?_⟩
  · rw [hfiles]
    split_ifs
    · exact AssocMap.total_erase_without_le _ _ _ _
    · exact le_refl _
  · rw [hfiles] at hother
    split_ifs at hother
    · by_cases hname : other = name
      · rw [hname, AssocMap.get_erase_self] at hother
        cases hother
      · rwa [AssocMap.get_erase_of_ne _ hname] at hother
    · exact hother
  · rwa [TraceState.ledger_setFiles] at hstored
  · exact TraceState.holder_setFiles s _ _

/-- **Each step keeps what is known of a directory**, up to what it leaves. -/
theorem step (h : BudgetInvariant q left s) {event : Option (ArtifactEvent N)} {s' : TraceState N}
    (hstep : ArtifactStep s event s') : BudgetInvariant q (left + q.leftBy? event) s' := by
  cases hstep with
  | begin job hfree =>
    refine (h.goTo ?_).mono (Nat.le_add_right _ _)
    unfold ArtifactJob.begins
    cases job.kind with
    | screenshot => exact trivial
    | refmap => exact trivial
  | move job phase answer hholder => exact h.advance (h.holder _ hholder) answer
  | crash => exact h.release
  | remove kind name => exact h.lighter (lighter_remove s kind name)
  | loseLedger =>
    exact h.lighter ⟨fun _ => le_refl _, fun _ _ hget => hget,
      fun _ hstored => absurd hstored (by simp), rfl⟩

end BudgetInvariant

/-! ## Runs -/

/-- **Artifacts stay within their budgets**: in every state that any writers reach, whatever fails
and wherever they stop, the bytes and the number of the screenshots and the bytes of the ref maps
are within the limits, and the ledger accounts for them and is within the limits too – up to what
was left behind uncounted. -/
theorem artifacts_within_budget {events : List (ArtifactEvent N)} {s : TraceState N}
    (h : Runs ArtifactStep .fresh events s) (q : Meter) :
    q.measure s.toTraceDisk ≤ q.limit + q.left events
      ∧ ∀ usage ∈ s.ledger, q.measure s.toTraceDisk ≤ q.read usage + q.left events
        ∧ q.read usage ≤ q.limit + q.left events := by
  have hinvariant : BudgetInvariant q (q.left events) s := by
    refine h.account (I := fun events s => BudgetInvariant q (q.left events) s) ?_ ?_
    · refine ⟨?_, fun _ hstored => (by cases hstored), fun _ hholder => (by cases hholder)⟩
      cases q with
      | screenshotBytes | screenshotCount | refmapBytes => exact Nat.zero_le _
    · intro events s event s' hkept hstep
      rw [q.left_append]
      exact hkept.step hstep
  exact ⟨hinvariant.disk, fun usage husage =>
    ⟨(hinvariant.ledger usage husage).measured, (hinvariant.ledger usage husage).within⟩⟩

/-- The answers to the steps of a writer, one after another. -/
def drive (s : TraceState N) : List ArtifactAnswer → List (ArtifactEvent N) × TraceState N
  | [] => ([], s)
  | answer :: rest =>
    match s.holder with
    | none => ([], s)
    | some holder =>
      let next := advance s holder.job answer holder.phase
      let last := drive next.1 rest
      (next.2.toList ++ last.1, last.2)

theorem runs_drive {first s : TraceState N} {events : List (ArtifactEvent N)}
    (h : Runs ArtifactStep first events s) (answers : List ArtifactAnswer) :
    Runs ArtifactStep first (events ++ (drive s answers).1) (drive s answers).2 := by
  induction answers generalizing s events with
  | nil =>
    rw [show drive s [] = ([], s) from rfl, List.append_nil]
    exact h
  | cons answer rest ih =>
    unfold drive
    cases hholder : s.holder with
    | none =>
      rw [List.append_nil]
      exact h
    | some holder =>
      dsimp only
      rw [← List.append_assoc]
      exact ih (h.snoc (.move holder.job holder.phase answer hholder))

/-- A screenshot of two bytes. -/
def twoByteShot : ArtifactJob ℕ where
  kind := .screenshot
  path := 0
  bytes := [1, 2]
  name := fun attempt => attempt + 1
  name_ne := fun attempt => Nat.succ_ne_zero attempt

/-- The answers to a write whose second part fails, and whose temporary file cannot be removed. -/
def leavesOneByte : List ArtifactAnswer :=
  [.answer .done, .answer .done, .answer .done, .answer .done, .answer .done, .answer .done,
    .answer .done, .answer .done, .answer .done, .answer (.wrote 1), .answer .failed,
    .answer .failed, .answer .done, .answer .done]

theorem artifacts_within_budget_left :
    (drive (TraceState.fresh.goTo twoByteShot .loading) leavesOneByte).2.ledger = some ⟨0, 0, 0⟩
      ∧ Meter.screenshotBytes.measure
          (drive (TraceState.fresh.goTo twoByteShot .loading) leavesOneByte).2.toTraceDisk = 1
      ∧ Meter.screenshotBytes.measure
          (drive (TraceState.fresh.goTo twoByteShot .loading) leavesOneByte).2.toTraceDisk
        ≤ Meter.screenshotBytes.limit + Meter.screenshotBytes.left
          (drive (TraceState.fresh.goTo twoByteShot .loading) leavesOneByte).1 :=
  ⟨by decide, by decide,
    (artifacts_within_budget (runs_drive (.snoc .refl (.begin twoByteShot rfl)) leavesOneByte)
      .screenshotBytes).1⟩

end ArtifactBudget

end AgentDesktop
