import Mathlib.Data.List.Nodup
import Mathlib.Logic.Function.Basic
import Mathlib.Logic.Relation

/-!
# A cell that is updated under a lock

Several parties update one shared cell. Each prepares without the lock, and may
read the cell for that; then it takes the lock, reads the cell again, computes
the new content from what it has just read, replaces the content in one step,
and lets go of the lock. It may fail or crash anywhere on the way.

Whatever the interleaving, the content of the cell is what the locked sections
make of the first content when they run one after another, in the order in which
they had the lock. Nothing is asked of the preparations: a locked section that
depends on one has to check for itself that it still applies, and one that finds
it does not leaves the cell alone.
-/

/-- **A cell updated under a lock** by parties `ι`: its contents are `σ`, a party prepares
through states `π` until it has a request `ρ`, and its locked section answers with `α` or fails
with `ε`. -/
structure LockedCell (ι σ π ρ α ε : Type*) where
  /-- What a party can do without the lock, with the content of the cell at hand. -/
  prepares : ι → σ → π → π → Prop
  /-- The request of a party that is prepared. -/
  ready : π → Option ρ
  /-- The locked section: the new content and the answer, from the content read. -/
  body : ι → ρ → σ → Except ε (σ × α)
  /-- The errors of the surroundings: a read or a write that fails. -/
  fault : ε → Prop

namespace LockedCell

variable {ι σ π ρ α ε : Type*}

/-- Where a party is. -/
inductive Phase (σ π ρ α ε : Type*)
  | preparing (state : π)
  /-- It has taken the lock. -/
  | holding (request : ρ)
  /-- It has read the cell. -/
  | updating (request : ρ) (read : σ)
  /-- It has replaced the content. -/
  | replaced (answer : α)
  /-- It has let go of the lock. -/
  | released (answer : α)
  /-- It is done. -/
  | succeeded (answer : α)
  /-- It has failed, before or after replacing the content. -/
  | failed (error : ε) (wrote : Bool)
  /-- It is gone, before or after replacing the content. -/
  | crashed (wrote : Bool)

/-- Whether a party has the lock. -/
def Phase.locked : Phase σ π ρ α ε → Bool
  | .holding _ | .updating _ _ | .replaced _ => true
  | _ => false

/-- Whether a party has replaced the content. -/
def Phase.wrote : Phase σ π ρ α ε → Bool
  | .replaced _ | .released _ | .succeeded _ => true
  | .failed _ wrote | .crashed wrote => wrote
  | _ => false

/-- A locked section that has replaced the content. -/
structure Commit (ι ρ α : Type*) where
  party : ι
  request : ρ
  answer : α

/-- The cell and its parties. The log and the order in which the lock was taken are recorded for
the statements only. -/
structure State (ι σ π ρ α ε : Type*) where
  cell : σ
  lock : Option ι
  /-- Where the parties are. -/
  phase : ι → Phase σ π ρ α ε
  /-- The replacements so far. -/
  log : List (Commit ι ρ α)
  /-- Who has had the lock, in order. -/
  acquired : List ι

/-- The parties that have replaced the content, in order. -/
def State.writers (state : State ι σ π ρ α ε) : List ι := state.log.map Commit.party

/-- **The locked sections one after another**: the first content, the replacements, the last
content. -/
def RunsSerially (system : LockedCell ι σ π ρ α ε) : σ → List (Commit ι ρ α) → σ → Prop
  | first, [], last => first = last
  | first, commit :: rest, last =>
    ∃ next, system.body commit.party commit.request first = .ok (next, commit.answer)
      ∧ RunsSerially system next rest last

theorem RunsSerially.snoc {system : LockedCell ι σ π ρ α ε} {first last next : σ}
    {log : List (Commit ι ρ α)} (h : system.RunsSerially first log last)
    {commit : Commit ι ρ α}
    (hcommit : system.body commit.party commit.request last = .ok (next, commit.answer)) :
    system.RunsSerially first (log ++ [commit]) next := by
  induction log generalizing first with
  | nil =>
    obtain rfl : first = last := h
    exact ⟨next, hcommit, rfl⟩
  | cons head rest ih =>
    obtain ⟨mid, hhead, hrest⟩ := h
    exact ⟨mid, hhead, ih hrest⟩

/-! ## Steps -/

/-- **What a party does by itself**, with neither the content nor the order of the lock
changed. -/
inductive Moves (system : LockedCell ι σ π ρ α ε) (party : ι) (cell : σ) :
    Phase σ π ρ α ε → Phase σ π ρ α ε → Prop
  /-- It goes on preparing. -/
  | prepare {state state' : π} (h : system.prepares party cell state state') :
    Moves system party cell (.preparing state) (.preparing state')
  /-- It fails while preparing, or waiting for the lock. -/
  | giveUp (state : π) (error : ε) :
    Moves system party cell (.preparing state) (.failed error false)
  /-- It reads the cell. -/
  | read (request : ρ) : Moves system party cell (.holding request) (.updating request cell)
  /-- It cannot read the cell. -/
  | readFails (request : ρ) {error : ε} (h : system.fault error) :
    Moves system party cell (.holding request) (.failed error false)
  /-- Its section does not apply. -/
  | abort {request : ρ} {read : σ} {error : ε} (h : system.body party request read = .error error) :
    Moves system party cell (.updating request read) (.failed error false)
  /-- It cannot replace the content. -/
  | writeFails {request : ρ} {read : σ} {result : σ × α} {error : ε}
      (h : system.body party request read = .ok result) (herror : system.fault error) :
    Moves system party cell (.updating request read) (.failed error false)
  /-- It lets go of the lock. -/
  | release (answer : α) : Moves system party cell (.replaced answer) (.released answer)
  /-- It fails when it has replaced the content. -/
  | failAfter (answer : α) (error : ε) :
    Moves system party cell (.replaced answer) (.failed error true)
  /-- It is done. -/
  | succeed (answer : α) : Moves system party cell (.released answer) (.succeeded answer)
  /-- It fails when it has let go of the lock. -/
  | failLate (answer : α) (error : ε) :
    Moves system party cell (.released answer) (.failed error true)
  /-- It crashes, anywhere. -/
  | crash (phase : Phase σ π ρ α ε) : Moves system party cell phase (.crashed phase.wrote)

variable [DecidableEq ι]

/-- A party moves; where it leaves its section, the lock is free. -/
def State.move (state : State ι σ π ρ α ε) (party : ι) (phase : Phase σ π ρ α ε) :
    State ι σ π ρ α ε :=
  { state with
    lock := if (state.phase party).locked && !phase.locked then none else state.lock
    phase := Function.update state.phase party phase }

/-- A party takes the lock. -/
def State.acquire (state : State ι σ π ρ α ε) (party : ι) (request : ρ) :
    State ι σ π ρ α ε :=
  { state with
    lock := some party
    phase := Function.update state.phase party (.holding request)
    acquired := state.acquired ++ [party] }

/-- A party replaces the content. -/
def State.replace (state : State ι σ π ρ α ε) (party : ι) (request : ρ) (cell : σ)
    (answer : α) : State ι σ π ρ α ε :=
  { state with
    cell := cell
    phase := Function.update state.phase party (.replaced answer)
    log := state.log ++ [⟨party, request, answer⟩] }

/-- **One step of one party.** -/
inductive Step (system : LockedCell ι σ π ρ α ε) (state : State ι σ π ρ α ε) (party : ι) :
    State ι σ π ρ α ε → Prop
  /-- It moves by itself. -/
  | move {phase : Phase σ π ρ α ε} (h : system.Moves party state.cell (state.phase party) phase) :
    Step system state party (state.move party phase)
  /-- It takes the lock, which is free. -/
  | acquire {prepared : π} {request : ρ} (hphase : state.phase party = .preparing prepared)
      (hready : system.ready prepared = some request) (hlock : state.lock = none) :
    Step system state party (state.acquire party request)
  /-- It replaces the content. -/
  | replace {request : ρ} {read cell : σ} {answer : α}
      (hphase : state.phase party = .updating request read)
      (hbody : system.body party request read = .ok (cell, answer)) :
    Step system state party (state.replace party request cell answer)

/-- One step of any party. -/
def Next (system : LockedCell ι σ π ρ α ε) (state state' : State ι σ π ρ α ε) : Prop :=
  ∃ party, system.Step state party state'

/-- The parties begin to prepare. -/
def initial (cell : σ) (start : ι → π) : State ι σ π ρ α ε :=
  ⟨cell, none, fun party => .preparing (start party), [], []⟩

/-! ## The invariant

The log has the replacements in the order of the lock, and each of them was made from the content
that the one before it left. What is known of a party depends on where it is: while it has the lock,
the content is the one it works on. -/

/-- **It is a party's turn**: it was the last to take the lock, and the content was replaced by
those before it only. -/
def State.Turn (state : State ι σ π ρ α ε) (party : ι) : Prop :=
  state.lock = some party
    ∧ ∃ before, state.acquired = before ++ [party] ∧ state.writers.Sublist before

/-- What holds of a party, by where it is. -/
def State.Consistent (state : State ι σ π ρ α ε) (party : ι) : Phase σ π ρ α ε → Prop
  | .preparing _ => party ∉ state.acquired
  | .holding _ => state.Turn party
  | .updating _ read => state.Turn party ∧ read = state.cell
  | .replaced answer => state.lock = some party
    ∧ ∃ commit ∈ state.log, commit.party = party ∧ commit.answer = answer
  | .released answer | .succeeded answer =>
    ∃ commit ∈ state.log, commit.party = party ∧ commit.answer = answer
  | .failed _ wrote | .crashed wrote => party ∈ state.writers ↔ wrote = true

/-- **The invariant of the cell.** -/
structure Invariant (system : LockedCell ι σ π ρ α ε) (first : σ)
    (state : State ι σ π ρ α ε) : Prop where
  /-- The content is that of the sections one after another. -/
  serial : system.RunsSerially first state.log state.cell
  /-- They are in the order of the lock. -/
  order : state.writers.Sublist state.acquired
  /-- Nobody takes the lock twice. -/
  nodup : state.acquired.Nodup
  /-- The parties are where they say. -/
  party : ∀ party, state.Consistent party (state.phase party)

variable {system : LockedCell ι σ π ρ α ε} {first : σ} {state state' : State ι σ π ρ α ε}
  {party other : ι}

theorem State.writers_replace (state : State ι σ π ρ α ε) (party : ι) (request : ρ) (cell : σ)
    (answer : α) :
    (state.replace party request cell answer).writers = state.writers ++ [party] := by
  unfold writers replace
  rw [List.map_append]
  rfl

omit [DecidableEq ι] in
theorem State.Consistent.lock_eq {phase : Phase σ π ρ α ε} (h : state.Consistent party phase)
    (hlocked : phase.locked = true) : state.lock = some party := by
  cases phase with
  | holding _ => exact h.1
  | updating _ _ => exact h.1.1
  | replaced _ => exact h.1
  | preparing _ | released _ | succeeded _ | failed _ _ | crashed _ => cases hlocked

omit [DecidableEq ι] in
/-- **What a party is told of does not change** where its lock stays, the content stays while it
has the lock, and what is added is not its own. -/
theorem State.Consistent.of_other {phase : Phase σ π ρ α ε} (h : state.Consistent party phase)
    (hlock : phase.locked = true → state'.lock = state.lock ∧ state'.cell = state.cell
      ∧ state'.log = state.log ∧ state'.acquired = state.acquired)
    (hacquired : party ∈ state'.acquired → party ∈ state.acquired)
    (hlog : state.log ⊆ state'.log) (hwriters : party ∈ state'.writers → party ∈ state.writers) :
    state'.Consistent party phase := by
  have hiff : party ∈ state'.writers ↔ party ∈ state.writers := by
    refine ⟨hwriters, fun hmem => ?_⟩
    obtain ⟨commit, hcommit, heq⟩ := List.mem_map.mp hmem
    exact List.mem_map.mpr ⟨commit, hlog hcommit, heq⟩
  have hturn : phase.locked = true → state.Turn party → state'.Turn party := by
    rintro hlocked ⟨hheld, before, hbefore, hsublist⟩
    obtain ⟨hlock, -, hsame, hacquired⟩ := hlock hlocked
    exact ⟨hlock.trans hheld, before, hacquired.trans hbefore, by rwa [writers, hsame]⟩
  cases phase with
  | preparing _ => exact fun hmem => h (hacquired hmem)
  | holding _ => exact hturn rfl h
  | updating _ _ => exact ⟨hturn rfl h.1, h.2.trans (hlock rfl).2.1.symm⟩
  | replaced _ =>
    obtain ⟨commit, hcommit, hparty⟩ := h.2
    exact ⟨(hlock rfl).1.trans h.1, commit, hlog hcommit, hparty⟩
  | released _ | succeeded _ =>
    obtain ⟨commit, hcommit, hparty⟩ := h
    exact ⟨commit, hlog hcommit, hparty⟩
  | failed _ _ | crashed _ => exact hiff.trans h

namespace Invariant

omit [DecidableEq ι] in
theorem initial (cell : σ) (start : ι → π) : system.Invariant cell (initial cell start) :=
  ⟨rfl, .slnil, List.nodup_nil, fun _ => List.not_mem_nil⟩

omit [DecidableEq ι] in
theorem notMem_writers (h : system.Invariant first state) (hturn : state.Turn party) :
    party ∉ state.writers := by
  obtain ⟨-, before, hbefore, hsublist⟩ := hturn
  have hnodup := h.nodup
  rw [hbefore, List.nodup_append] at hnodup
  exact fun hmem => hnodup.2.2 party (hsublist.subset hmem) party List.mem_cons_self rfl

omit [DecidableEq ι] in
theorem mem_writers_iff (h : system.Invariant first state) (party : ι) :
    party ∈ state.writers ↔ (state.phase party).wrote = true := by
  have hparty := h.party party
  cases hphase : state.phase party with
  | preparing _ =>
    rw [hphase] at hparty
    exact iff_of_false (fun hmem => hparty (h.order.subset hmem)) Bool.false_ne_true
  | holding _ =>
    rw [hphase] at hparty
    exact iff_of_false (h.notMem_writers hparty) Bool.false_ne_true
  | updating _ _ =>
    rw [hphase] at hparty
    exact iff_of_false (h.notMem_writers hparty.1) Bool.false_ne_true
  | replaced _ =>
    rw [hphase] at hparty
    obtain ⟨commit, hcommit, heq, -⟩ := hparty.2
    exact iff_of_true (List.mem_map.mpr ⟨commit, hcommit, heq⟩) rfl
  | released _ | succeeded _ =>
    rw [hphase] at hparty
    obtain ⟨commit, hcommit, heq, -⟩ := hparty
    exact iff_of_true (List.mem_map.mpr ⟨commit, hcommit, heq⟩) rfl
  | failed _ _ | crashed _ =>
    rw [hphase] at hparty
    exact hparty

omit [DecidableEq ι] in
theorem locked_unique (h : system.Invariant first state)
    (hparty : (state.phase party).locked = true) (hother : (state.phase other).locked = true) :
    other = party := by
  have hlock := (h.party party).lock_eq hparty
  rw [(h.party other).lock_eq hother, Option.some.injEq] at hlock
  exact hlock

theorem move (h : system.Invariant first state) {phase : Phase σ π ρ α ε}
    (hmoves : system.Moves party state.cell (state.phase party) phase) :
    system.Invariant first (state.move party phase) := by
  refine ⟨h.serial, h.order, h.nodup, fun other => ?_⟩
  show (state.move party phase).Consistent other (Function.update state.phase party phase other)
  have hmoved : (state.phase party).locked = true → phase.locked = true →
      (state.move party phase).lock = state.lock := by
    intro _ hlocked
    unfold State.move
    rw [hlocked, Bool.not_true, Bool.and_false]
    rfl
  by_cases hother : other = party
  · subst hother
    rw [Function.update_self]
    have hparty := h.party other
    have hwriters := h.mem_writers_iff other
    generalize hbefore : state.phase other = before at hmoves hparty hwriters
    rw [hbefore] at hmoved
    cases hmoves with
    | prepare _ => exact hparty
    | read _ => exact ⟨⟨(hmoved rfl rfl).trans hparty.1, hparty.2⟩, rfl⟩
    | release _ => exact hparty.2
    | succeed _ => exact hparty
    | giveUp _ _ | readFails _ _ | abort _ | writeFails _ _ | failAfter _ _ | failLate _ _
    | crash _ => exact hwriters
  · rw [Function.update_of_ne hother]
    refine (h.party other).of_other (fun hlocked => ⟨?_, rfl, rfl, rfl⟩) id (List.Subset.refl _) id
    -- the lock is with the other party, so the party that moves does not let go of it
    have hnot : (state.phase party).locked = false := by
      by_contra hparty
      exact hother (h.locked_unique (Bool.not_eq_false _ ▸ hparty) hlocked)
    unfold State.move
    rw [hnot]
    rfl

theorem acquire (h : system.Invariant first state) {prepared : π} (request : ρ)
    (hphase : state.phase party = .preparing prepared) (hlock : state.lock = none) :
    system.Invariant first (state.acquire party request) := by
  have hfresh : party ∉ state.acquired := by
    have hparty := h.party party
    rwa [hphase] at hparty
  refine ⟨h.serial, h.order.trans (List.sublist_append_left _ _), ?_, fun other => ?_⟩
  · exact h.nodup.append (List.nodup_singleton _) (List.disjoint_singleton.mpr hfresh)
  show (state.acquire party request).Consistent other
    (Function.update state.phase party (.holding request) other)
  by_cases hother : other = party
  · subst hother
    rw [Function.update_self]
    exact ⟨rfl, state.acquired, rfl, h.order⟩
  · rw [Function.update_of_ne hother]
    refine (h.party other).of_other (fun hlocked => ?_) (fun hmem => ?_) (List.Subset.refl _) id
    · -- nobody has the lock
      have hheld := (h.party other).lock_eq hlocked
      rw [hlock] at hheld
      cases hheld
    · rcases List.mem_append.mp hmem with hold | hnew
      · exact hold
      · exact absurd (List.mem_singleton.mp hnew) hother

theorem replace (h : system.Invariant first state) {request : ρ} {read cell : σ} {answer : α}
    (hphase : state.phase party = .updating request read)
    (hbody : system.body party request read = .ok (cell, answer)) :
    system.Invariant first (state.replace party request cell answer) := by
  have hparty := h.party party
  rw [hphase] at hparty
  obtain ⟨⟨hlock, before, hbefore, hsublist⟩, rfl⟩ := hparty
  refine ⟨h.serial.snoc hbody, ?_, h.nodup, fun other => ?_⟩
  · rw [State.writers_replace]
    show (state.writers ++ [party]).Sublist state.acquired
    rw [hbefore]
    exact hsublist.append (List.Sublist.refl _)
  show (state.replace party request cell answer).Consistent other
    (Function.update state.phase party (.replaced answer) other)
  by_cases hother : other = party
  · subst hother
    rw [Function.update_self]
    exact ⟨hlock, _, List.mem_append_right _ List.mem_cons_self, rfl, rfl⟩
  · rw [Function.update_of_ne hother]
    refine (h.party other).of_other (fun hlocked => ?_) id (List.subset_append_left _ _)
      (fun hmem => ?_)
    · refine absurd (h.locked_unique ?_ hlocked) hother
      rw [hphase]
      rfl
    · rw [State.writers_replace] at hmem
      rcases List.mem_append.mp hmem with hold | hnew
      · exact hold
      · exact absurd (List.mem_singleton.mp hnew) hother

theorem step (h : system.Invariant first state) (hstep : system.Step state party state') :
    system.Invariant first state' := by
  cases hstep with
  | move hmoves => exact h.move hmoves
  | acquire hphase _ hlock => exact h.acquire _ hphase hlock
  | replace hphase hbody => exact h.replace hphase hbody

theorem run (h : system.Invariant first state)
    (hrun : Relation.ReflTransGen system.Next state state') : system.Invariant first state' := by
  induction hrun with
  | refl => exact h
  | tail _ hnext ih =>
    obtain ⟨party, hstep⟩ := hnext
    exact ih.step hstep

end Invariant

/-! ## A section that does not apply -/

/-- **A party that will not write**: its section does not apply to the content, or it has failed
for this or for a fault, or it is gone. -/
def Doomed (system : LockedCell ι σ π ρ α ε) (state : State ι σ π ρ α ε) (party : ι)
    (request : ρ) (error : ε) : Prop :=
  (system.body party request state.cell = .error error
    ∧ (state.phase party = .holding request ∨ state.phase party = .updating request state.cell))
  ∨ (∃ reported, state.phase party = .failed reported false
    ∧ (reported = error ∨ system.fault reported))
  ∨ state.phase party = .crashed false

namespace Doomed

variable {request : ρ} {error : ε}

omit [DecidableEq ι] in
theorem wrote_eq_false (h : system.Doomed state party request error) :
    (state.phase party).wrote = false := by
  rcases h with ⟨-, hphase | hphase⟩ | ⟨_, hphase, -⟩ | hphase <;> rw [hphase] <;> rfl

theorem step_of_ne (h : system.Doomed state party request error)
    (hinvariant : system.Invariant first state) (hstep : system.Step state other state')
    (hother : party ≠ other) : system.Doomed state' party request error := by
  have hphase : state'.phase party = state.phase party := by
    cases hstep <;> exact Function.update_of_ne hother _ _
  unfold Doomed
  rw [hphase]
  refine h.imp_left ?_
  rintro ⟨hbody, hsection⟩
  have hlocked : (state.phase party).locked = true := by
    rcases hsection with hsection | hsection <;> rw [hsection] <;> rfl
  have hcell : state'.cell = state.cell := by
    cases hstep with
    | move _ => rfl
    | acquire _ _ _ => rfl
    | replace hupdating _ =>
      refine absurd (hinvariant.locked_unique ?_ hlocked) hother
      rw [hupdating]
      rfl
  rw [hcell]
  exact ⟨hbody, hsection⟩

theorem step_self (h : system.Doomed state party request error)
    (hstep : system.Step state party state') : system.Doomed state' party request error := by
  cases hstep with
  | move hmoves =>
    have hnext : ∀ phase, (state.move party phase).phase party = phase :=
      fun phase => Function.update_self _ _ _
    unfold Doomed
    rw [hnext]
    rcases h with ⟨hbody, hphase | hphase⟩ | ⟨reported, hphase, hreported⟩ | hphase <;>
      rw [hphase] at hmoves
    · cases hmoves with
      | read _ => exact Or.inl ⟨hbody, Or.inr rfl⟩
      | readFails _ hfault => exact Or.inr (Or.inl ⟨_, rfl, Or.inr hfault⟩)
      | crash _ => exact Or.inr (Or.inr rfl)
    · cases hmoves with
      | abort habort =>
        rw [hbody] at habort
        cases habort
        exact Or.inr (Or.inl ⟨_, rfl, Or.inl rfl⟩)
      | writeFails hok _ =>
        rw [hbody] at hok
        cases hok
      | crash _ => exact Or.inr (Or.inr rfl)
    · cases hmoves with
      | crash _ => exact Or.inr (Or.inr rfl)
    · cases hmoves with
      | crash _ => exact Or.inr (Or.inr rfl)
  | acquire hpreparing _ _ =>
    rcases h with ⟨-, hphase | hphase⟩ | ⟨_, hphase, -⟩ | hphase <;> rw [hphase] at hpreparing <;>
      cases hpreparing
  | replace hupdating hok =>
    rcases h with ⟨hbody, hphase | hphase⟩ | ⟨_, hphase, -⟩ | hphase <;>
      rw [hphase] at hupdating <;> cases hupdating
    rw [hbody] at hok
    cases hok

theorem run (h : system.Doomed state party request error)
    (hinvariant : system.Invariant first state)
    (hrun : Relation.ReflTransGen system.Next state state') :
    system.Doomed state' party request error := by
  induction hrun with
  | refl => exact h
  | tail hbefore hnext ih =>
    obtain ⟨other, hstep⟩ := hnext
    by_cases hother : party = other
    · subst hother
      exact ih.step_self hstep
    · exact ih.step_of_ne (hinvariant.run hbefore) hstep hother

end Doomed

/-- **Only a replacement changes the content**, and it is logged. -/
theorem cell_eq_or_logged (hstep : system.Step state party state') :
    (state'.cell = state.cell ∧ state'.log = state.log)
      ∨ ∃ commit, commit.party = party ∧ state'.log = state.log ++ [commit] := by
  cases hstep with
  | move _ => exact Or.inl ⟨rfl, rfl⟩
  | acquire _ _ _ => exact Or.inl ⟨rfl, rfl⟩
  | replace _ _ => exact Or.inr ⟨_, rfl, rfl⟩

end LockedCell
