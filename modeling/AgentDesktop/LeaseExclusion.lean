import AgentDesktop.InteractionLease

/-!
# The interaction lease is exclusive

Two invariants carry the argument, one for each of the two locks. The flag of a
process is set exactly while one attempt in it owns it, and no second one does
(`FlagInvariant`). The lock of the file belongs to a description exactly while
the attempt that opened it has taken it, or a descriptor of it is shared – a
duplicate, or one that another attempt adopts – and a description is shared only
by an attempt that was leased (`LockInvariant`).

What an attempt adds to the flag and the lock is told apart from what the rest
of the system has of them (`RestFlag`, `RestLock`): no step of an attempt
changes the rest, and before an attempt begins and after it has failed the flag
and the lock are those of the rest.
-/

namespace AgentDesktop

namespace LeaseState

variable {ι π : Type*}

/-! ## What one step of an attempt can do

An attempt touches three things: the flag of its process, the lock of the file, and its descriptor.
What it may do to each is said once, whatever phase it is in. -/

section Moves

variable {x : ι} {mine : LeaseFile ι → Prop} {phase phase' : LeasePhase ι} {flag flag' : Bool}
  {lock lock' : Option ι}

/-- **The flag** is left alone, taken when it was free, or given back by its owner. -/
theorem Moves.flag_cases (h : Moves x mine phase flag lock phase' flag' lock') :
    (flag' = flag ∧ phase'.ownsFlag = phase.ownsFlag)
      ∨ (flag = false ∧ flag' = true ∧ phase.ownsFlag = false ∧ phase'.ownsFlag = true)
      ∨ (flag' = false ∧ phase.ownsFlag = true ∧ phase'.ownsFlag = false) := by
  cases h with
  | claim => exact Or.inr (Or.inl ⟨rfl, rfl, rfl, rfl⟩)
  | claimTimeout | release => exact Or.inr (Or.inr ⟨rfl, rfl, rfl⟩)
  | _ => exact Or.inl ⟨rfl, rfl⟩

/-- **The lock** is left alone, or taken for the description the attempt contends with. -/
theorem Moves.lock_cases (h : Moves x mine phase flag lock phase' flag' lock') :
    lock' = lock
      ∨ ∃ opener, lock' = some opener ∧ (lock = none ∨ lock = some opener)
        ∧ phase = .contending opener ∧ phase' = .locked opener := by
  cases h with
  | tryLock hfree => exact Or.inr ⟨_, rfl, hfree, rfl, rfl⟩
  | _ => exact Or.inl rfl

/-- **The descriptor** is kept, duplicated from one of the process, or newly opened. -/
theorem Moves.descriptor_cases (h : Moves x mine phase flag lock phase' flag' lock')
    {opener : ι} (hopen : phase'.descriptor = some (.canonical opener)) :
    phase.descriptor = some (.canonical opener) ∨ mine (.canonical opener)
      ∨ (opener = x ∧ phase' = .contending x) := by
  cases h with
  | openLock =>
    obtain rfl := LeaseFile.canonical.inj (Option.some.inj hopen)
    exact Or.inr (Or.inr ⟨rfl, rfl⟩)
  | duplicate hmine =>
    obtain rfl := Option.some.inj hopen
    exact Or.inr (Or.inl hmine)
  | accept | tryLock | lease => exact Or.inl hopen
  | _ => cases hopen

theorem Moves.leased (h : Moves x mine phase flag lock phase' flag' lock')
    (hleased : phase.leased = true) : phase'.leased = true := by
  cases h with
  | drop => rfl
  | release => exact hleased
  | _ => cases hleased

theorem Moves.own_cases (h : Moves x mine phase flag lock phase' flag' lock')
    (hown : phase' = .locked x ∨ phase' = .alive x) :
    lock' = some x ∨ (lock' = lock ∧ phase = .locked x) := by
  cases h with
  | tryLock hfree =>
    rcases hown with hown | hown
    · obtain rfl := LeasePhase.locked.inj hown
      exact Or.inl rfl
    · cases hown
  | lease =>
    rcases hown with hown | hown
    · cases hown
    · obtain rfl := LeasePhase.alive.inj hown
      exact Or.inr ⟨rfl, rfl⟩
  | _ => rcases hown with hown | hown <;> cases hown

theorem Moves.before_contending (h : Moves x mine phase flag lock phase' flag' lock')
    {opener : ι} (hcontending : phase' = .contending opener) :
    phase.leased = false ∧ phase ≠ .locked x ∧ phase ≠ .alive x := by
  cases h with
  | openLock | accept => exact ⟨rfl, by simp, by simp⟩
  | _ => cases hcontending

theorem Moves.before_duplicated (h : Moves x mine phase flag lock phase' flag' lock')
    {file : LeaseFile ι} (hduplicated : phase' = .duplicated file) :
    mine file ∧ phase.leased = false := by
  cases h with
  | duplicate hmine =>
    obtain rfl := LeasePhase.duplicated.inj hduplicated
    exact ⟨hmine, rfl⟩
  | _ => cases hduplicated

theorem Moves.keeps_held (h : Moves x mine phase flag lock phase' flag' lock') {opener : ι}
    (hheld : lock = some opener) : lock' = some opener := by
  rcases h.lock_cases with hlock | ⟨opener', htaken, hfree | hfree, -, -⟩
  · rw [hlock, hheld]
  · rw [hheld] at hfree
    cases hfree
  · rw [htaken, ← hfree, hheld]

end Moves

/-! ## The invariants -/

/-- **The flag invariant**: a flag is set exactly while an attempt of its process owns it, and
no two attempts of one process own it. -/
structure FlagInvariant (process : ι → π) (s : LeaseState ι π) : Prop where
  /-- There is one owner at most. -/
  unique : ∀ x y, process x = process y → (s.phase x).ownsFlag = true →
    (s.phase y).ownsFlag = true → x = y
  /-- A flag that is set has an owner. -/
  owned : ∀ p, s.flag p = true ↔ ∃ x, process x = p ∧ (s.phase x).ownsFlag = true

/-- A description has a descriptor besides that of the attempt that opened it. -/
def Shared (s : LeaseState ι π) (opener : ι) : Prop :=
  (∃ x, x ≠ opener ∧ (s.phase x).descriptor = some (.canonical opener))
    ∨ ∃ p, (p, LeaseFile.canonical opener) ∈ s.spare

/-- The attempt that opened a description has taken its lock. -/
def Own (s : LeaseState ι π) (opener : ι) : Prop :=
  s.phase opener = .locked opener ∨ s.phase opener = .alive opener

/-- **The lock invariant**: the lock belongs to a description exactly while it is shared, or its
opener has taken it; and it is shared only by a lease. -/
structure LockInvariant (s : LeaseState ι π) : Prop where
  /-- Who has the lock. -/
  held : ∀ opener, s.lock = some opener ↔ s.Shared opener ∨ s.Own opener
  /-- What is shared was leased. -/
  leased : ∀ opener, s.Shared opener → (s.phase opener).leased = true
  /-- No attempt adopts its own description. -/
  foreign : ∀ x, s.phase x ≠ .duplicated (.canonical x)

theorem Shared.isOpen {s : LeaseState ι π} {opener : ι} (h : s.Shared opener) :
    s.Open opener :=
  h.imp_left (fun ⟨x, _, hx⟩ => ⟨x, hx⟩)

theorem Own.isOpen {s : LeaseState ι π} {opener : ι} (h : s.Own opener) : s.Open opener := by
  refine Or.inl ⟨opener, ?_⟩
  rcases h with h | h
  all_goals rw [h]
  all_goals rfl

/-- An open description is shared, or its opener has the lock, or contends for it, or
is about to adopt it. -/
theorem Open.cases {s : LeaseState ι π} {opener : ι} (h : s.Open opener) :
    s.Shared opener ∨ s.Own opener ∨ s.phase opener = .contending opener
      ∨ s.phase opener = .duplicated (.canonical opener) := by
  rcases h with ⟨x, hx⟩ | hspare
  · by_cases hne : x = opener
    · subst hne
      cases hphase : s.phase x with
      | duplicated file =>
        rw [hphase] at hx
        obtain rfl := Option.some.inj hx
        exact Or.inr (Or.inr (Or.inr rfl))
      | contending opener =>
        rw [hphase] at hx
        obtain rfl := LeaseFile.canonical.inj (Option.some.inj hx)
        exact Or.inr (Or.inr (Or.inl rfl))
      | locked opener =>
        rw [hphase] at hx
        obtain rfl := LeaseFile.canonical.inj (Option.some.inj hx)
        exact Or.inr (Or.inl (Or.inl hphase))
      | alive opener =>
        rw [hphase] at hx
        obtain rfl := LeaseFile.canonical.inj (Option.some.inj hx)
        exact Or.inr (Or.inl (Or.inr hphase))
      | idle | waiting | claimed | guarded | releasing | ended | gone =>
        rw [hphase] at hx
        cases hx
    · exact Or.inl (Or.inl ⟨x, hne, hx⟩)
  · exact Or.inl (Or.inr hspare)

/-- **The lock after a step**, from the one it settles: enough is that whoever has a claim on it
held it, and that no one who contends for a lock of its own held it. -/
theorem LockInvariant.of_settled {s : LeaseState ι π} {held : Option ι}
    (hsettled : s.Settled held)
    (hclaims : ∀ opener, s.Shared opener ∨ s.Own opener → held = some opener)
    (hcontending : ∀ opener, held = some opener → s.phase opener ≠ .contending opener)
    (hleased : ∀ opener, s.Shared opener → (s.phase opener).leased = true)
    (hforeign : ∀ x, s.phase x ≠ .duplicated (.canonical x)) : s.LockInvariant where
  held opener := by
    rw [hsettled opener]
    constructor
    · rintro ⟨hheld, hopen⟩
      rcases hopen.cases with h | h | h | h
      · exact Or.inl h
      · exact Or.inr h
      · exact absurd h (hcontending opener hheld)
      · exact absurd h (hforeign opener)
    · intro h
      exact ⟨hclaims opener h, h.elim Shared.isOpen Own.isOpen⟩
  leased := hleased
  foreign := hforeign

/-- What holds of the lock while only descriptors outside of the attempts change, and none of
a description that was not shared or leased comes. -/
theorem LockInvariant.of_spare {s s' : LeaseState ι π} (h : s.LockInvariant)
    (hphase : s'.phase = s.phase) (hsettled : s'.Settled s.lock)
    (hspare : ∀ p opener, (p, LeaseFile.canonical opener) ∈ s'.spare →
      s.Shared opener ∨ (s.phase opener).leased = true ∧ s.lock = some opener) :
    s'.LockInvariant := by
  have hshared (opener : ι) (hopener : s'.Shared opener) :
      s.lock = some opener ∧ (s.phase opener).leased = true := by
    have hbefore : s.Shared opener ∨ (s.phase opener).leased = true ∧ s.lock = some opener := by
      rcases hopener with ⟨x, hx, hopen⟩ | ⟨p, hp⟩
      · rw [hphase] at hopen
        exact Or.inl (Or.inl ⟨x, hx, hopen⟩)
      · exact hspare p opener hp
    rcases hbefore with hbefore | ⟨hleased, hlock⟩
    · exact ⟨(h.held opener).mpr (Or.inl hbefore), h.leased opener hbefore⟩
    · exact ⟨hlock, hleased⟩
  refine .of_settled hsettled (fun opener hopener => ?_) (fun opener hlock hcontending => ?_)
    (fun opener hopener => ?_) (fun x => ?_)
  · rcases hopener with hopener | hown
    · exact (hshared opener hopener).1
    · unfold Own at hown
      rw [hphase] at hown
      exact (h.held opener).mpr (Or.inr hown)
  · rw [hphase] at hcontending
    rcases (h.held opener).mp hlock with hopener | hown | hown
    · have hleased := h.leased opener hopener
      rw [hcontending] at hleased
      cases hleased
    · rw [hcontending] at hown
      cases hown
    · rw [hcontending] at hown
      cases hown
  · rw [hphase]
    exact (hshared opener hopener).2
  · rw [hphase]
    exact h.foreign x

theorem LockInvariant.settled_of_open {s s' : LeaseState ι π} (h : s.LockInvariant)
    (hlock : s'.lock = s.lock) (hopen : ∀ opener, s.Open opener → s'.Open opener) :
    s'.Settled s.lock := by
  intro opener
  rw [hlock]
  refine ⟨fun hheld => ⟨hheld, hopen opener ?_⟩, fun hheld => hheld.1⟩
  exact ((h.held opener).mp hheld).elim Shared.isOpen Own.isOpen

/-! ## The steps keep the invariants

The flag concerns one process at a time, and its invariant follows from the moves of the attempts
alone. The lock outlives a process, since a descriptor may have been inherited; its invariant has to
be kept by duplications, closings and crashes too. -/

section Steps

variable [DecidableEq ι] [DecidableEq π] {process : ι → π} {s s' : LeaseState ι π}
  {actor : Option (LeaseActor ι π)}

omit [DecidableEq ι] [DecidableEq π] in
theorem FlagInvariant.unique_of_other (h : s.FlagInvariant process) {x : ι}
    (hother : ∀ y, y ≠ x → s'.phase y = s.phase y) {y z : ι} (hy : process y ≠ process x)
    (hyz : process y = process z) (hyowns : (s'.phase y).ownsFlag = true)
    (hzowns : (s'.phase z).ownsFlag = true) : y = z := by
  have hyne : y ≠ x := fun heq => hy (by rw [heq])
  have hzne : z ≠ x := fun heq => hy (by rw [hyz, heq])
  rw [hother y hyne] at hyowns
  rw [hother z hzne] at hzowns
  exact h.unique y z hyz hyowns hzowns

omit [DecidableEq ι] [DecidableEq π] in
theorem FlagInvariant.owned_of_other (h : s.FlagInvariant process) {x : ι}
    (hother : ∀ y, y ≠ x → s'.phase y = s.phase y)
    (hflag : ∀ p, p ≠ process x → s'.flag p = s.flag p) {p : π} (hp : p ≠ process x) :
    s'.flag p = true ↔ ∃ y, process y = p ∧ (s'.phase y).ownsFlag = true := by
  rw [hflag p hp, h.owned p]
  refine exists_congr (fun y => and_congr_right (fun hy => ?_))
  rw [hother y (fun heq => hp (by rw [← hy, heq]))]

/-- **A move of an attempt keeps the flag invariant.** -/
theorem FlagInvariant.move (h : s.FlagInvariant process) {x : ι} {phase : LeasePhase ι}
    {flag : Bool} {held : Option ι} {mine : LeaseFile ι → Prop}
    (hmoves : Moves x mine (s.phase x) (s.flag (process x)) s.lock phase flag held)
    (hphase : s'.phase = Function.update s.phase x phase)
    (hflag : s'.flag = Function.update s.flag (process x) flag) :
    s'.FlagInvariant process := by
  have hself : s'.phase x = phase := by rw [hphase, Function.update_self]
  have hother {y : ι} (hy : y ≠ x) : s'.phase y = s.phase y := by
    rw [hphase, Function.update_of_ne hy]
  have hflagSelf : s'.flag (process x) = flag := by rw [hflag, Function.update_self]
  have hflagOther {p : π} (hp : p ≠ process x) : s'.flag p = s.flag p := by
    rw [hflag, Function.update_of_ne hp]
  rcases hmoves.flag_cases with ⟨hsame, howns⟩ | ⟨hfree, htaken, -, howns⟩ | ⟨hgiven, hbefore, howns⟩
  · -- who owns what is as before
    have howner (y : ι) : (s'.phase y).ownsFlag = (s.phase y).ownsFlag := by
      by_cases hy : y = x
      · rw [hy, hself, howns]
      · rw [hother hy]
    have hflags (p : π) : s'.flag p = s.flag p := by
      by_cases hp : p = process x
      · rw [hp, hflagSelf, hsame]
      · exact hflagOther hp
    refine ⟨fun y z => ?_, fun p => ?_⟩
    · rw [howner, howner]
      exact h.unique y z
    · rw [hflags]
      simp only [howner]
      exact h.owned p
  · -- nobody owned the flag before
    have hnobody (y : ι) (hy : process y = process x) : (s.phase y).ownsFlag = false := by
      rw [Bool.eq_false_iff]
      intro hyowns
      have hset := (h.owned (process x)).mpr ⟨y, hy, hyowns⟩
      rw [hfree] at hset
      cases hset
    have hsole (y : ι) (hy : process y = process x) (hyowns : (s'.phase y).ownsFlag = true) :
        y = x := by
      by_contra hne
      rw [hother hne, hnobody y hy] at hyowns
      cases hyowns
    refine ⟨fun y z hyz hyowns hzowns => ?_, fun p => ?_⟩
    · by_cases hy : process y = process x
      · rw [hsole y hy hyowns, hsole z (hyz.symm.trans hy) hzowns]
      · exact h.unique_of_other (fun _ => hother) hy hyz hyowns hzowns
    · by_cases hp : p = process x
      · rw [hp, hflagSelf, htaken]
        exact ⟨fun _ => ⟨x, rfl, by rw [hself, howns]⟩, fun _ => rfl⟩
      · exact h.owned_of_other (fun _ => hother) (fun _ => hflagOther) hp
  · -- nobody owns it after
    have hnobody (y : ι) (hy : process y = process x) : (s'.phase y).ownsFlag = false := by
      by_cases hyx : y = x
      · rw [hyx, hself, howns]
      · rw [hother hyx, Bool.eq_false_iff]
        exact fun hyowns => hyx (h.unique y x hy hyowns hbefore)
    refine ⟨fun y z hyz hyowns hzowns => ?_, fun p => ?_⟩
    · by_cases hy : process y = process x
      · rw [hnobody y hy] at hyowns
        cases hyowns
      · exact h.unique_of_other (fun _ => hother) hy hyz hyowns hzowns
    · by_cases hp : p = process x
      · rw [hp, hflagSelf, hgiven]
        refine ⟨fun hset => (by cases hset), fun ⟨y, hy, hyowns⟩ => ?_⟩
        rw [hnobody y hy] at hyowns
        cases hyowns
      · exact h.owned_of_other (fun _ => hother) (fun _ => hflagOther) hp

theorem FlagInvariant.step (h : s.FlagInvariant process) (hstep : Step process s actor s') :
    s'.FlagInvariant process := by
  cases hstep with
  | move x s' hlives hmoves hs' hsettled =>
    exact h.move hmoves (by rw [hs']) (by rw [hs'])
  | duplicateInheritable x opener hlives halive => exact ⟨h.unique, h.owned⟩
  | openUnrelated p hlives => exact ⟨h.unique, h.owned⟩
  | closeSpare p before after file s' hspare hs' hsettled =>
    rw [hs']
    exact ⟨h.unique, h.owned⟩
  | spawn p child inherited hlives hnew hidle hinherited => exact ⟨h.unique, h.owned⟩
  | crash p s' hlives hs' hsettled =>
    rw [hs']
    have howner (y : ι) :
        (if process y = p then LeasePhase.gone (s.phase y).leased else s.phase y).ownsFlag = true
          ↔ process y ≠ p ∧ (s.phase y).ownsFlag = true := by
      by_cases hy : process y = p
      · rw [if_pos hy]
        exact ⟨fun hgone => (by cases hgone), fun hne => absurd hy hne.1⟩
      · rw [if_neg hy]
        exact ⟨fun howns => ⟨hy, howns⟩, fun howns => howns.2⟩
    refine ⟨fun y z hyz hyowns hzowns => ?_, fun q => ?_⟩
    · exact h.unique y z hyz ((howner y).mp hyowns).2 ((howner z).mp hzowns).2
    · dsimp only
      simp only [howner]
      by_cases hq : q = p
      · rw [hq, Function.update_self]
        exact ⟨fun hset => (by cases hset), fun ⟨y, hy, hne, _⟩ => absurd hy hne⟩
      · rw [Function.update_of_ne hq, h.owned q]
        refine exists_congr (fun y => and_congr_right (fun hy => ?_))
        exact ⟨fun howns => ⟨fun heq => hq (by rw [← hy, heq]), howns⟩, fun howns => howns.2⟩

omit [DecidableEq π] in
theorem shared_before {x : ι} {phase : LeasePhase ι} {flag : Bool} {held : Option ι}
    (hmoves : Moves x (fun file => (process x, file) ∈ s.spare) (s.phase x)
      (s.flag (process x)) s.lock phase flag held)
    (hphase : s'.phase = Function.update s.phase x phase) (hspare : s'.spare = s.spare)
    {opener : ι} (hopener : s'.Shared opener) : s.Shared opener := by
  rcases hopener with ⟨y, hy, hopen⟩ | ⟨p, hp⟩
  · by_cases hx : y = x
    · rw [hx, hphase, Function.update_self] at hopen
      rcases hmoves.descriptor_cases hopen with hbefore | hmine | ⟨heq, -⟩
      · exact Or.inl ⟨x, hx ▸ hy, hbefore⟩
      · exact Or.inr ⟨process x, hmine⟩
      · exact absurd (hx.trans heq.symm) hy
    · rw [hphase, Function.update_of_ne hx] at hopen
      exact Or.inl ⟨y, hy, hopen⟩
  · rw [hspare] at hp
    exact Or.inr ⟨p, hp⟩

omit [DecidableEq π] in
/-- **A move of an attempt keeps the lock invariant.** -/
theorem LockInvariant.move (h : s.LockInvariant) {x : ι} {phase : LeasePhase ι} {flag : Bool}
    {held : Option ι}
    (hmoves : Moves x (fun file => (process x, file) ∈ s.spare) (s.phase x)
      (s.flag (process x)) s.lock phase flag held)
    (hphase : s'.phase = Function.update s.phase x phase) (hspare : s'.spare = s.spare)
    (hsettled : s'.Settled held) : s'.LockInvariant := by
  have hself : s'.phase x = phase := by rw [hphase, Function.update_self]
  have hother {y : ι} (hy : y ≠ x) : s'.phase y = s.phase y := by
    rw [hphase, Function.update_of_ne hy]
  have hleased {opener : ι} (hopener : (s.phase opener).leased = true) :
      (s'.phase opener).leased = true := by
    by_cases hx : opener = x
    · rw [hx] at hopener ⊢
      rw [hself]
      exact hmoves.leased hopener
    · rw [hother hx]
      exact hopener
  have hshared {opener : ι} (hopener : s'.Shared opener) : s.Shared opener :=
    shared_before hmoves hphase hspare hopener
  refine .of_settled hsettled (fun opener hopener => ?_) (fun opener hheld hcontending => ?_)
    (fun opener hopener => hleased (h.leased opener (hshared hopener)))
    (fun y hduplicated => ?_)
  · rcases hopener with hopener | hown
    · exact hmoves.keeps_held ((h.held opener).mpr (Or.inl (hshared hopener)))
    · by_cases hx : opener = x
      · subst hx
        unfold Own at hown
        rw [hself] at hown
        rcases hmoves.own_cases hown with htaken | ⟨hlock, hlocked⟩
        · exact htaken
        · rw [hlock]
          exact (h.held opener).mpr (Or.inr (Or.inl hlocked))
      · unfold Own at hown
        rw [hother hx] at hown
        exact hmoves.keeps_held ((h.held opener).mpr (Or.inr hown))
  · -- whoever contends for its own description had no lock before, nor takes it now
    have hbefore : (s.phase opener).leased = false ∧ ¬ s.Own opener := by
      by_cases hx : opener = x
      · subst hx
        rw [hself] at hcontending
        obtain ⟨hnot, hlocked, halive⟩ := hmoves.before_contending hcontending
        exact ⟨hnot, fun hown => hown.elim hlocked halive⟩
      · rw [hother hx] at hcontending
        unfold Own
        rw [hcontending]
        exact ⟨rfl, by simp⟩
    have hnot : ¬ s.Shared opener := fun hopener => by
      have hopenerLeased := h.leased opener hopener
      rw [hbefore.1] at hopenerLeased
      cases hopenerLeased
    rcases hmoves.lock_cases with hlock | ⟨opener', htaken, -, hfrom, hto⟩
    · rw [hlock] at hheld
      exact ((h.held opener).mp hheld).elim hnot hbefore.2
    · rw [htaken] at hheld
      obtain rfl := Option.some.inj hheld
      by_cases hx : opener' = x
      · rw [hx, hself, hto] at hcontending
        cases hcontending
      · exact hnot (Or.inl ⟨x, fun heq => hx heq.symm, by rw [hfrom]; rfl⟩)
  · by_cases hx : y = x
    · subst hx
      rw [hself] at hduplicated
      obtain ⟨hmine, hnot⟩ := hmoves.before_duplicated hduplicated
      have hyLeased := h.leased y (Or.inr ⟨_, hmine⟩)
      rw [hnot] at hyLeased
      cases hyLeased
    · rw [hother hx] at hduplicated
      exact h.foreign y hduplicated

omit [DecidableEq ι] in
theorem LockInvariant.crash (h : s.LockInvariant) {p : π}
    (hphase : s'.phase = fun x => if process x = p then .gone (s.phase x).leased else s.phase x)
    (hspare : s'.spare = s.spare.filter (fun descriptor => descriptor.1 ≠ p))
    (hsettled : s'.Settled s.lock) : s'.LockInvariant := by
  have hphaseOf (x : ι) : s'.phase x = .gone (s.phase x).leased ∨ s'.phase x = s.phase x := by
    rw [hphase]
    by_cases hx : process x = p
    · exact Or.inl (if_pos hx)
    · exact Or.inr (if_neg hx)
  have hshared {opener : ι} (hopener : s'.Shared opener) : s.Shared opener := by
    rcases hopener with ⟨y, hy, hopen⟩ | ⟨q, hq⟩
    · rcases hphaseOf y with hgone | hsame
      · rw [hgone] at hopen
        cases hopen
      · rw [hsame] at hopen
        exact Or.inl ⟨y, hy, hopen⟩
    · rw [hspare] at hq
      exact Or.inr ⟨q, (List.mem_filter.mp hq).1⟩
  refine .of_settled hsettled (fun opener hopener => ?_) (fun opener hheld hcontending => ?_)
    (fun opener hopener => ?_) (fun y hduplicated => ?_)
  · rcases hopener with hopener | hown
    · exact (h.held opener).mpr (Or.inl (hshared hopener))
    · unfold Own at hown
      rcases hphaseOf opener with hgone | hsame
      · rw [hgone] at hown
        rcases hown with hown | hown <;> cases hown
      · rw [hsame] at hown
        exact (h.held opener).mpr (Or.inr hown)
  · rcases hphaseOf opener with hgone | hsame
    · rw [hgone] at hcontending
      cases hcontending
    · rw [hsame] at hcontending
      rcases (h.held opener).mp hheld with hopener | hown
      · have hleased := h.leased opener hopener
        rw [hcontending] at hleased
        cases hleased
      · unfold Own at hown
        rw [hcontending] at hown
        rcases hown with hown | hown <;> cases hown
  · have hleased := h.leased opener (hshared hopener)
    rcases hphaseOf opener with hgone | hsame
    · rw [hgone]
      exact hleased
    · rw [hsame]
      exact hleased
  · rcases hphaseOf y with hgone | hsame
    · rw [hgone] at hduplicated
      cases hduplicated
    · rw [hsame] at hduplicated
      exact h.foreign y hduplicated

theorem LockInvariant.step (h : s.LockInvariant) (hstep : Step process s actor s') :
    s'.LockInvariant := by
  cases hstep with
  | move x s' hlives hmoves hs' hsettled =>
    exact h.move hmoves (by rw [hs']) (by rw [hs']) hsettled
  | duplicateInheritable x opener hlives halive =>
    refine h.of_spare rfl (h.settled_of_open rfl (fun _ hopen => hopen.imp_right
      (fun ⟨p, hp⟩ => ⟨p, List.mem_cons_of_mem _ hp⟩))) (fun p opener' hp => ?_)
    rcases List.mem_cons.mp hp with heq | hp
    · obtain rfl := LeaseFile.canonical.inj (Prod.mk.inj heq).2
      by_cases hx : x = opener'
      · subst hx
        refine Or.inr ⟨by rw [halive]; rfl, ?_⟩
        exact (h.held x).mpr (Or.inr (Or.inr halive))
      · exact Or.inl (Or.inl ⟨x, hx, by rw [halive]; rfl⟩)
    · exact Or.inl (Or.inr ⟨p, hp⟩)
  | openUnrelated p hlives =>
    refine h.of_spare rfl (h.settled_of_open rfl (fun _ hopen => hopen.imp_right
      (fun ⟨p, hp⟩ => ⟨p, List.mem_cons_of_mem _ hp⟩))) (fun q opener hq => ?_)
    rcases List.mem_cons.mp hq with heq | hq
    · cases heq
    · exact Or.inl (Or.inr ⟨q, hq⟩)
  | closeSpare p before after file s' hspare hs' hsettled =>
    refine h.of_spare (by rw [hs']) hsettled (fun q opener hq => Or.inl (Or.inr ⟨q, ?_⟩))
    rw [hs'] at hq
    rw [hspare]
    rcases List.mem_append.mp hq with hq | hq
    · exact List.mem_append_left _ hq
    · exact List.mem_append_right _ (List.mem_cons_of_mem _ hq)
  | spawn p child inherited hlives hnew hidle hinherited =>
    refine h.of_spare rfl (h.settled_of_open rfl (fun _ hopen => hopen.imp_right
      (fun ⟨p, hp⟩ => ⟨p, List.mem_append_right _ hp⟩))) (fun q opener hq => ?_)
    rcases List.mem_append.mp hq with hq | hq
    · obtain ⟨file, hfile, heq⟩ := List.mem_map.mp hq
      obtain ⟨rfl, rfl⟩ := Prod.mk.inj heq
      exact Or.inl (Or.inr ⟨p, hinherited _ hfile⟩)
    · exact Or.inl (Or.inr ⟨q, hq⟩)
  | crash p s' hlives hs' hsettled =>
    exact h.crash (by rw [hs']) (by rw [hs']) hsettled

end Steps

/-! ## What the rest of the system has

An attempt that fails must leave nothing behind. This is no invariant, since others go on in the
meantime; so what an attempt adds is separated from what there is without it, and only the latter is
compared. -/

/-- Another attempt owns the flag of a process. -/
def RestFlag (process : ι → π) (s : LeaseState ι π) (x : ι) (p : π) : Prop :=
  ∃ y, y ≠ x ∧ process y = p ∧ (s.phase y).ownsFlag = true

/-- The lock belongs to a description with a descriptor that is not the attempt's. -/
def RestLock (s : LeaseState ι π) (x opener : ι) : Prop :=
  s.lock = some opener
    ∧ ((∃ y, y ≠ x ∧ (s.phase y).descriptor = some (.canonical opener))
      ∨ ∃ p, (p, LeaseFile.canonical opener) ∈ s.spare)

/-- **The flags and the lock are as the rest of the system has them**: an attempt adds
nothing to either. -/
def AsRest (process : ι → π) (s : LeaseState ι π) (x : ι) : Prop :=
  (∀ p, s.flag p = true ↔ s.RestFlag process x p)
    ∧ ∀ opener, s.lock = some opener ↔ s.RestLock x opener

theorem asRest_of_nothing {process : ι → π} {s : LeaseState ι π}
    (hflag : s.FlagInvariant process) (hlock : s.LockInvariant) {x : ι}
    (howns : (s.phase x).ownsFlag = false) (hnone : (s.phase x).descriptor = none) :
    s.AsRest process x := by
  constructor
  · intro p
    rw [hflag.owned p]
    constructor
    · rintro ⟨y, hy, hyowns⟩
      refine ⟨y, fun heq => ?_, hy, hyowns⟩
      rw [heq, howns] at hyowns
      cases hyowns
    · rintro ⟨y, -, hy, hyowns⟩
      exact ⟨y, hy, hyowns⟩
  · intro opener
    refine ⟨fun hheld => ⟨hheld, ?_⟩, fun hheld => hheld.1⟩
    have hopen : s.Open opener :=
      ((hlock.held opener).mp hheld).elim Shared.isOpen Own.isOpen
    refine hopen.imp_left (fun ⟨y, hy⟩ => ⟨y, fun heq => ?_, hy⟩)
    rw [heq, hnone] at hy
    cases hy

section Rest

variable [DecidableEq ι] [DecidableEq π] {process : ι → π} {s s' : LeaseState ι π}

omit [DecidableEq π] in
/-- **A move of an attempt changes nothing of what the rest has**: the others keep what they
own, and the lock it may take is one that was free, or shared with it. -/
theorem rest_of_move (hlock : s.LockInvariant) {x : ι} {phase : LeasePhase ι} {flag : Bool}
    {held : Option ι}
    (hmoves : Moves x (fun file => (process x, file) ∈ s.spare) (s.phase x)
      (s.flag (process x)) s.lock phase flag held)
    (hphase : s'.phase = Function.update s.phase x phase) (hspare : s'.spare = s.spare)
    (hsettled : s'.Settled held) :
    (∀ p, s'.RestFlag process x p ↔ s.RestFlag process x p)
      ∧ ∀ opener, s'.RestLock x opener ↔ s.RestLock x opener := by
  have hother {y : ι} (hy : y ≠ x) : s'.phase y = s.phase y := by
    rw [hphase, Function.update_of_ne hy]
  have hdescriptors (opener : ι) :
      ((∃ y, y ≠ x ∧ (s'.phase y).descriptor = some (.canonical opener))
        ∨ ∃ p, (p, LeaseFile.canonical opener) ∈ s'.spare)
        ↔ (∃ y, y ≠ x ∧ (s.phase y).descriptor = some (.canonical opener))
          ∨ ∃ p, (p, LeaseFile.canonical opener) ∈ s.spare := by
    rw [hspare]
    refine or_congr_left (exists_congr (fun y => and_congr_right (fun hy => ?_)))
    rw [hother hy]
  refine ⟨fun p => exists_congr (fun y => and_congr_right (fun hy => ?_)), fun opener => ?_⟩
  · rw [hother hy]
  · constructor
    · rintro ⟨hheld', hopen'⟩
      have hopen := (hdescriptors opener).mp hopen'
      refine ⟨?_, hopen⟩
      have hheld := ((hsettled opener).mp hheld').1
      rcases hmoves.lock_cases with hsame | ⟨opener', htaken, -, hfrom, -⟩
      · rw [← hsame, hheld]
      · rw [htaken] at hheld
        obtain rfl := Option.some.inj hheld
        refine (hlock.held opener').mpr (Or.inl ?_)
        rcases hopen with ⟨y, hy, hyopen⟩ | hopen
        · by_cases hx : opener' = x
          · exact Or.inl ⟨y, fun heq => hy (heq.trans hx), hyopen⟩
          · exact Or.inl ⟨x, fun heq => hx heq.symm, by rw [hfrom]; rfl⟩
        · exact Or.inr hopen
    · rintro ⟨hheld, hopen⟩
      have hopen' := (hdescriptors opener).mpr hopen
      refine ⟨(hsettled opener).mpr ⟨hmoves.keeps_held hheld, ?_⟩, hopen'⟩
      exact hopen'.imp_left (fun ⟨y, _, hy⟩ => ⟨y, hy⟩)

/-! ## Every run -/

omit [DecidableEq ι] [DecidableEq π] in
theorem invariant_initial (lives : π → Bool) :
    (initial lives : LeaseState ι π).FlagInvariant process
      ∧ (initial lives : LeaseState ι π).LockInvariant := by
  refine ⟨⟨fun x y _ howns => (by cases howns), fun p => ⟨fun hset => (by cases hset), ?_⟩⟩,
    ⟨fun opener => ⟨fun hheld => (by cases hheld), ?_⟩, ?_, fun x hx => (by cases hx)⟩⟩
  · rintro ⟨x, -, howns⟩
    cases howns
  · rintro ((⟨x, -, hx⟩ | ⟨p, hp⟩) | (hown | hown))
    · cases hx
    · cases hp
    · cases hown
    · cases hown
  · rintro opener (⟨x, -, hx⟩ | ⟨p, hp⟩)
    · cases hx
    · cases hp

theorem invariant_of_runs {lives : π → Bool} {actors : List (LeaseActor ι π)}
    (h : Runs (Step process) (initial lives) actors s) :
    s.FlagInvariant process ∧ s.LockInvariant :=
  h.invariant (I := fun s => s.FlagInvariant process ∧ s.LockInvariant) (invariant_initial lives)
    (fun _ _ _ hinv hstep => ⟨hinv.1.step hstep, hinv.2.step hstep⟩)

/-- **A step of an attempt that is not leased** changes nothing of what the rest has. -/
theorem rest_of_step (hlock : s.LockInvariant) {x : ι}
    (hstep : Step process s (some (.attempt x)) s') (hnot : ∀ opener, s.phase x ≠ .alive opener) :
    (∀ p, s'.RestFlag process x p ↔ s.RestFlag process x p)
      ∧ ∀ opener, s'.RestLock x opener ↔ s.RestLock x opener := by
  cases hstep with
  | duplicateInheritable x opener hlives halive => exact absurd halive (hnot opener)
  | move x s' hlives hmoves hs' hsettled =>
    exact rest_of_move hlock hmoves (by rw [hs']) (by rw [hs']) hsettled

theorem leased_of_step {x : ι} (hstep : Step process s (some (.attempt x)) s')
    (hleased : (s.phase x).leased = true) : (s'.phase x).leased = true := by
  cases hstep with
  | duplicateInheritable x opener hlives halive => exact hleased
  | @move x phase flag held s' hlives hmoves hs' hsettled =>
    rw [show s'.phase = Function.update s.phase x phase by rw [hs'], Function.update_self]
    exact hmoves.leased hleased

/-- **While only one attempt moves** and is not leased, the rest has what it had. The induction
is on its steps. -/
theorem rest_of_attempt (hinv : s.FlagInvariant process ∧ s.LockInvariant) {x : ι}
    {actors : List (LeaseActor ι π)} (h : Runs (Step process) s actors s')
    (hactors : ∀ actor ∈ actors, actor = .attempt x) :
    (s'.phase x).leased = true
      ∨ ((∀ p, s'.RestFlag process x p ↔ s.RestFlag process x p)
        ∧ ∀ opener, s'.RestLock x opener ↔ s.RestLock x opener) := by
  induction h with
  | refl => exact Or.inr ⟨fun _ => Iff.rfl, fun _ => Iff.rfl⟩
  | @snoc actors t t' actor hrun hstep ih =>
    have hactor : actor = some (.attempt x) := by
      cases actor with
      | none => cases hstep
      | some actor => rw [hactors actor (by simp)]
    rw [hactor] at hstep
    have hinv' := hrun.invariant (I := fun s => s.FlagInvariant process ∧ s.LockInvariant) hinv
      (fun _ _ _ hinv hstep => ⟨hinv.1.step hstep, hinv.2.step hstep⟩)
    rcases ih (fun actor hmem => hactors actor (by simp [hmem])) with hleased | ⟨hflags, hlocks⟩
    · exact Or.inl (leased_of_step hstep hleased)
    · by_cases hnot : ∀ opener, t.phase x ≠ .alive opener
      · obtain ⟨hflags', hlocks'⟩ := rest_of_step hinv'.2 hstep hnot
        exact Or.inr ⟨fun p => (hflags' p).trans (hflags p),
          fun opener => (hlocks' opener).trans (hlocks opener)⟩
      · push Not at hnot
        obtain ⟨opener, halive⟩ := hnot
        exact Or.inl (leased_of_step hstep (by rw [halive]; rfl))

end Rest

/-- **The lock is granted where it is free**: an attempt that has the lock of its own description
after a step had it before, or nobody had. -/
theorem free_before_own [DecidableEq ι] [DecidableEq π] {process : ι → π} {s s' : LeaseState ι π}
    {x : ι} (hlock : s.LockInvariant)
    (hstep : LeaseState.Step process s (some (.attempt x)) s') (hown : s'.Own x) :
    s.lock = none ∨ s.lock = some x := by
  cases hstep with
  | duplicateInheritable x opener' hlives halive =>
    exact Or.inr ((hlock.held x).mpr (Or.inr hown))
  | @move x phase flag held s' hlives hmoves hs' hsettled =>
    have hphase : s'.phase = Function.update s.phase x phase := by rw [hs']
    unfold LeaseState.Own at hown
    rw [hphase, Function.update_self] at hown
    rcases hmoves.own_cases hown with htaken | ⟨-, hlocked⟩
    · rcases hmoves.lock_cases with hsame | ⟨opener', htaken', hfree, -, -⟩
      · exact Or.inr (hsame.symm.trans htaken)
      · rw [htaken'] at htaken
        rw [← Option.some.inj htaken]
        exact hfree
    · exact Or.inr ((hlock.held x).mpr (Or.inr (Or.inl hlocked)))

theorem lock_of_alive {s : LeaseState ι π} (hlock : s.LockInvariant) {x opener : ι}
    (halive : s.phase x = .alive opener) : s.lock = some opener := by
  refine (hlock.held opener).mpr ?_
  by_cases hx : x = opener
  · exact Or.inr (Or.inr (hx ▸ halive))
  · exact Or.inl (Or.inl ⟨x, hx, by rw [halive]; rfl⟩)

/-- Two states in which an attempt adds nothing, and of which the rest has the same, have
the same flags and the same lock. -/
theorem eq_of_asRest {process : ι → π} {s s' : LeaseState ι π} {x : ι}
    (h : s.AsRest process x) (h' : s'.AsRest process x)
    (hflags : ∀ p, s'.RestFlag process x p ↔ s.RestFlag process x p)
    (hlocks : ∀ opener, s'.RestLock x opener ↔ s.RestLock x opener) :
    s'.flag = s.flag ∧ s'.lock = s.lock := by
  constructor
  · funext p
    rw [Bool.eq_iff_iff, h'.1 p, h.1 p]
    exact hflags p
  · ext opener
    rw [h'.2 opener, h.2 opener]
    exact hlocks opener

end LeaseState

variable {ι π : Type*} [DecidableEq ι] [DecidableEq π]

/-- **The interaction lease is exclusive.** In every state that any run of any number of attempts
in any number of processes reaches:

- no two leases are alive in one process;
- leases that are alive at once belong to one description, the one some attempt opened that was
  leased itself, so that of two of them one at least was adopted;
- an attempt that opened the lock file itself is only granted its lock, and its lease, while no
  lease is alive that belongs to another acquisition, and no descriptor of one is open: none
  that is outside of the attempts, and none but its own in an attempt that has the lock or
  adopts;
- an attempt that has not begun, or has failed, adds nothing to the flags and the lock; no
  step of an attempt that is not leased changes what the rest of the system has of them; and so
  an attempt that fails while nothing else happens leaves the flags and the lock as they were. -/
theorem interactionLease_exclusive (process : ι → π) {lives : π → Bool}
    {actors : List (LeaseActor ι π)} {s : LeaseState ι π}
    (h : Runs (LeaseState.Step process) (.initial lives) actors s) :
    (∀ x y opener opener', s.phase x = .alive opener → s.phase y = .alive opener' →
        process x = process y → x = y)
      ∧ (∀ x y opener opener', s.phase x = .alive opener → s.phase y = .alive opener' → x ≠ y →
        opener = opener' ∧ (s.phase opener).leased = true ∧ (x ≠ opener ∨ y ≠ opener))
      ∧ (∀ x s', LeaseState.Step process s (some (.attempt x)) s' → s'.Own x →
        ∀ opener, opener ≠ x → ¬ s.Shared opener ∧ ¬ s.Own opener)
      ∧ (∀ x, (s.phase x = .idle ∨ s.phase x = .ended true) → s.AsRest process x)
      ∧ (∀ x s', LeaseState.Step process s (some (.attempt x)) s' →
        (∀ opener, s.phase x ≠ .alive opener) →
        (∀ p, s'.RestFlag process x p ↔ s.RestFlag process x p)
          ∧ ∀ opener, s'.RestLock x opener ↔ s.RestLock x opener)
      ∧ ∀ x s' actors', s.phase x = .idle → Runs (LeaseState.Step process) s actors' s' →
        (∀ actor ∈ actors', actor = .attempt x) → s'.phase x = .ended true →
        s'.flag = s.flag ∧ s'.lock = s.lock := by
  obtain ⟨hflag, hlock⟩ := LeaseState.invariant_of_runs h
  have hasRest {t : LeaseState ι π} (ht : t.FlagInvariant process ∧ t.LockInvariant) {x : ι}
      (hx : t.phase x = .idle ∨ t.phase x = .ended true) : t.AsRest process x := by
    refine LeaseState.asRest_of_nothing ht.1 ht.2 ?_ ?_
    · rcases hx with hx | hx <;> rw [hx] <;> rfl
    · rcases hx with hx | hx <;> rw [hx] <;> rfl
  refine ⟨?_, ?_, ?_, fun x hx => hasRest ⟨hflag, hlock⟩ hx,
    fun x s' hstep hnot => LeaseState.rest_of_step hlock hstep hnot, ?_⟩
  · intro x y opener opener' hx hy hprocess
    exact hflag.unique x y hprocess (by rw [hx]; rfl) (by rw [hy]; rfl)
  · intro x y opener opener' hx hy hne
    obtain rfl : opener = opener' :=
      Option.some.inj ((LeaseState.lock_of_alive hlock hx).symm.trans
        (LeaseState.lock_of_alive hlock hy))
    have hadopted : x ≠ opener ∨ y ≠ opener := by
      by_contra hboth
      push Not at hboth
      exact hne (hboth.1.trans hboth.2.symm)
    refine ⟨rfl, hlock.leased opener ?_, hadopted⟩
    rcases hadopted with hadopted | hadopted
    · exact Or.inl ⟨x, hadopted, by rw [hx]; rfl⟩
    · exact Or.inl ⟨y, hadopted, by rw [hy]; rfl⟩
  · intro x s' hstep hown opener hne
    have hfree := LeaseState.free_before_own hlock hstep hown
    have hother : s.lock ≠ some opener := by
      rcases hfree with hfree | hfree
      · rw [hfree]
        simp
      · rw [hfree]
        exact fun heq => hne (Option.some.inj heq).symm
    exact ⟨fun hshared => hother ((hlock.held opener).mpr (Or.inl hshared)),
      fun hown => hother ((hlock.held opener).mpr (Or.inr hown))⟩
  · intro x s' actors' hidle hrun hactors hended
    have hinv' := hrun.invariant (I := fun s => s.FlagInvariant process ∧ s.LockInvariant)
      ⟨hflag, hlock⟩ (fun _ _ _ hinv hstep => ⟨hinv.1.step hstep, hinv.2.step hstep⟩)
    rcases LeaseState.rest_of_attempt ⟨hflag, hlock⟩ hrun hactors with hleased | ⟨hflags, hlocks⟩
    · rw [hended] at hleased
      cases hleased
    · exact LeaseState.eq_of_asRest (hasRest ⟨hflag, hlock⟩ (Or.inl hidle))
        (hasRest hinv' (Or.inr hended)) hflags hlocks

/-! ## A lease that is shared

Two leases may be alive at once when one was adopted from the other through an inherited descriptor.
That is the purpose of adoption, and the run below shows it. -/

namespace Sample

/-- The state after a move of an attempt. -/
def moved (s : LeaseState Bool Bool) (x : Bool) (phase : LeasePhase Bool) (flag : Bool)
    (lock : Option Bool) : LeaseState Bool Bool :=
  { s with
    phase := Function.update s.phase x phase
    flag := Function.update s.flag x flag
    lock }

/-- An attempt gets as far as a lease. -/
def granted (s : LeaseState Bool Bool) (x opener : Bool) : LeaseState Bool Bool :=
  moved (moved (moved s x (.contending opener) true s.lock)
    x (.locked opener) true (some opener)) x (.alive opener) true (some opener)

/-- An attempt gets as far as its process guard. -/
def entered (s : LeaseState Bool Bool) (x : Bool) (source : LeaseSource) :
    LeaseState Bool Bool :=
  moved (moved (moved s x (.waiting source) false s.lock)
    x (.claimed source) true s.lock) x (.guarded source) true s.lock

/-- One process lives, and its attempt has a lease. -/
def firstLease : LeaseState Bool Bool :=
  granted (entered (.initial (fun p => p)) true .fresh) true true

/-- The descriptor was duplicated, and a process that was started has inherited it. -/
def inheritedLease : LeaseState Bool Bool :=
  { firstLease with
    spare := [(false, .canonical true), (true, .canonical true)]
    lives := Function.update (fun p => p) false true }

/-- Both leases are alive, the second adopted from the first. -/
def sharedLease : LeaseState Bool Bool :=
  granted (moved (entered inheritedLease false .inherited)
    false (.duplicated (.canonical true)) true (some true)) false true

end Sample

theorem LeaseState.step_moved {s : LeaseState Bool Bool} {x : Bool} {phase : LeasePhase Bool}
    {flag : Bool} {held : Option Bool} (hlives : s.lives x = true)
    (hmoves : LeaseState.Moves x (fun file => (x, file) ∈ s.spare) (s.phase x) (s.flag x) s.lock
      phase flag held)
    (hsettled : (Sample.moved s x phase flag held).Settled held) :
    LeaseState.Step id s (some (.attempt x)) (Sample.moved s x phase flag held) :=
  .move x _ hlives hmoves rfl hsettled

instance (s : LeaseState Bool Bool) (opener : Bool) : Decidable (s.Open opener) :=
  inferInstanceAs (Decidable (_ ∨ ∃ _, _ ∈ s.spare))

instance (s : LeaseState Bool Bool) (held : Option Bool) : Decidable (s.Settled held) :=
  inferInstanceAs (Decidable (∀ _, _))

theorem sharedLease_run :
    ∃ actors, Runs (LeaseState.Step id) (.initial (fun p => p)) actors Sample.sharedLease := by
  have hfirst : Runs (LeaseState.Step id) _ _ Sample.firstLease :=
    (((((Runs.refl.snoc (LeaseState.step_moved rfl (.start .fresh) (by decide))).snoc
      (LeaseState.step_moved rfl .claim (by decide))).snoc
      (LeaseState.step_moved rfl .guard (by decide))).snoc
      (LeaseState.step_moved rfl .openLock (by decide))).snoc
      (LeaseState.step_moved rfl (.tryLock (Or.inl rfl)) (by decide))).snoc
      (LeaseState.step_moved rfl .lease (by decide))
  have hinherited : Runs (LeaseState.Step id) _ _ Sample.inheritedLease :=
    (hfirst.snoc (.duplicateInheritable true true rfl rfl)).snoc
      (.spawn true false [.canonical true] rfl rfl (by decide) (by decide))
  have hentered : Runs (LeaseState.Step id) _ _
      (Sample.entered Sample.inheritedLease false .inherited) :=
    ((hinherited.snoc (LeaseState.step_moved rfl (.start .inherited) (by decide))).snoc
      (LeaseState.step_moved rfl .claim (by decide))).snoc
      (LeaseState.step_moved rfl .guard (by decide))
  have hshared : Runs (LeaseState.Step id) _ _ Sample.sharedLease :=
    (((hentered.snoc (LeaseState.step_moved rfl (.duplicate (by decide)) (by decide))).snoc
      (LeaseState.step_moved rfl .accept (by decide))).snoc
      (LeaseState.step_moved rfl (.tryLock (Or.inr rfl)) (by decide))).snoc
      (LeaseState.step_moved rfl .lease (by decide))
  exact ⟨_, hshared⟩

/-- Two leases that are alive at once: one of them was adopted, and the description they share
was opened by an attempt that was leased. -/
theorem interactionLease_exclusive_shared :
    Sample.sharedLease.phase true = .alive true ∧ Sample.sharedLease.phase false = .alive true
      ∧ (Sample.sharedLease.phase true).leased = true ∧ (true ≠ true ∨ false ≠ true) := by
  obtain ⟨actors, hrun⟩ := sharedLease_run
  exact ⟨rfl, rfl,
    ((interactionLease_exclusive id hrun).2.1 true false true true rfl rfl (by decide)).2⟩

end AgentDesktop
