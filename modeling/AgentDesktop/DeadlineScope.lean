import Mathlib.Logic.Relation
import Mathlib.Algebra.Ring.Nat
import Mathlib.Data.List.Basic
import AgentDesktop.Deadline

/-!
# Scopes of deadlines

A thread carries the deadline that is in force in it. Entering a scope puts one in
force that is over no later than the one before, and dropping the guard of the scope
puts back what was in force when it was entered. A deadline that is made meanwhile
is cut to the one in force – unless it is detached on purpose, and what is capped
then is detached as well.

The instants of the clock run out here: a sum that is no instant is none.
-/

namespace AgentDesktop

/-- **The instants of the clock**, in nanoseconds. -/
class InstantRange where
  last : ℕ

section Clock

variable [InstantRange]

/-- `Instant::checked_add`. -/
def checkedAdd (instant duration : ℕ) : Option ℕ :=
  if instant + duration ≤ InstantRange.last then some (instant + duration) else none

namespace DeadlineClock

/-- The error of a timeout that ends at no instant. -/
def unrepresentable (timeoutMs : ℕ) : AdapterError :=
  (AdapterError.new .invalidArgs "Timeout cannot be represented safely").withDetails
    (.obj [("timeout_ms", .num timeoutMs)])

/-- A deadline that is not cut. -/
def uncut (startedAt timeoutMs : ℕ) : Except AdapterError Deadline := do
  let duration ← waitTimeoutDuration timeoutMs
  match checkedAdd startedAt duration with
  | none => throw (unrepresentable timeoutMs)
  | some expiresAt => return { startedAt, expiresAt, timeoutMs, capped := false }

/-- The deadline in force cuts one. -/
def cut (inherited : Option Deadline) (deadline : Deadline) : Deadline :=
  inherited.elim deadline deadline.minExpiry

/-- `Deadline::detached_after`. -/
def detachedAfter (now timeoutMs : ℕ) : Except AdapterError Deadline := uncut now timeoutMs

/-- `Deadline::after`. -/
def after (inherited : Option Deadline) (now timeoutMs : ℕ) : Except AdapterError Deadline := do
  let deadline ← detachedAfter now timeoutMs
  return cut inherited deadline

/-- `Deadline::standard`. -/
def standard (inherited : Option Deadline) (now : ℕ) : Except AdapterError Deadline :=
  after inherited now defaultOperationTimeoutMs

/-- `Duration::subsec_nanos`. -/
def subsecNanos (duration : ℕ) : ℕ := duration % 1000000000

/-- `Deadline::from_duration`. -/
def fromDuration (inherited : Option Deadline) (now duration : ℕ) :
    Except AdapterError Deadline :=
  let wholeMs := duration / nanosPerMs
  let roundedMs := if subsecNanos duration % nanosPerMs = 0 then wholeMs else wholeMs + 1
  if 2 ^ 64 ≤ roundedMs then .error (.new .invalidArgs "Timeout is too large")
  else after inherited now roundedMs

/-- `Deadline::at`. -/
def startingAt (inherited : Option Deadline) (startedAt timeoutMs : ℕ) :
    Except AdapterError Deadline := do
  let deadline ← uncut startedAt timeoutMs
  return cut inherited deadline

/-- `capped`. -/
def capped (deadline : Deadline) (now maximum : ℕ) : Deadline :=
  let expiresAt := (checkedAdd now maximum).elim deadline.expiresAt (min deadline.expiresAt)
  { deadline with
    capped := deadline.capped || decide (expiresAt < deadline.expiresAt)
    expiresAt }

/-- `extended_by`. -/
def extendedBy (inherited : Option Deadline) (deadline : Deadline) (pause : ℕ) : Deadline :=
  cut inherited
    { deadline with expiresAt := (checkedAdd deadline.expiresAt pause).getD deadline.expiresAt }

/-- `remaining_ms`, which stops at the largest number there is. -/
def remainingMs (deadline : Deadline) (now : ℕ) : ℕ :=
  min (deadline.remainingMs now) (2 ^ 64 - 1)

theorem detachedAfter_eq {now timeoutMs : ℕ}
    (hlast : now + timeoutMs * nanosPerMs ≤ InstantRange.last) :
    detachedAfter now timeoutMs = Deadline.detachedAfter now timeoutMs := by
  unfold detachedAfter uncut Deadline.detachedAfter
  cases h : waitTimeoutDuration timeoutMs with
  | error error => rfl
  | ok duration =>
    have hduration : duration = timeoutMs * nanosPerMs := by
      unfold waitTimeoutDuration at h
      split at h
      · nomatch h
      · exact (Except.ok.inj h).symm
    have hsum : checkedAdd now (timeoutMs * nanosPerMs) = some (now + timeoutMs * nanosPerMs) := by
      unfold checkedAdd
      rw [if_pos hlast]
    show (match checkedAdd now duration with
      | none => _
      | some expiresAt => _) = _
    rw [hduration, hsum]
    rfl

theorem after_eq (inherited : Option Deadline) {now timeoutMs : ℕ}
    (hlast : now + timeoutMs * nanosPerMs ≤ InstantRange.last) :
    after inherited now timeoutMs = Deadline.after inherited now timeoutMs := by
  unfold after Deadline.after
  rw [detachedAfter_eq hlast]
  rfl

/-! ## No deadline is over later than it may be -/

omit [InstantRange] in
theorem expiresAt_cut_le (inForce deadline : Deadline) :
    (cut (some inForce) deadline).expiresAt ≤ inForce.expiresAt :=
  Nat.min_le_right _ _

/-- **Capping never puts a deadline off.** -/
theorem expiresAt_capped_le (deadline : Deadline) (now maximum : ℕ) :
    (capped deadline now maximum).expiresAt ≤ deadline.expiresAt := by
  show (checkedAdd now maximum).elim deadline.expiresAt (min deadline.expiresAt)
    ≤ deadline.expiresAt
  cases checkedAdd now maximum with
  | none => exact Nat.le_refl _
  | some slice => exact Nat.min_le_left _ _

/-- **A deadline made where another is in force**: by `after` and what calls it, by `at` and by
`extended_by`, and by capping one that was made so. -/
inductive Made (inherited : Option Deadline) : Deadline → Prop
  /-- By `after`. -/
  | after {now timeoutMs : ℕ} {deadline : Deadline}
    (hafter : after inherited now timeoutMs = .ok deadline) : Made inherited deadline
  /-- By `standard`. -/
  | standard {now : ℕ} {deadline : Deadline} (hstandard : standard inherited now = .ok deadline) :
    Made inherited deadline
  /-- By `from_duration`. -/
  | fromDuration {now duration : ℕ} {deadline : Deadline}
    (hduration : fromDuration inherited now duration = .ok deadline) : Made inherited deadline
  /-- By `at`. -/
  | startingAt {startedAt timeoutMs : ℕ} {deadline : Deadline}
    (hat : startingAt inherited startedAt timeoutMs = .ok deadline) : Made inherited deadline
  /-- By `extended_by`, from any deadline. -/
  | extendedBy (deadline : Deadline) (pause : ℕ) :
    Made inherited (extendedBy inherited deadline pause)
  /-- By `capped`, from one that was made here. -/
  | capped {deadline : Deadline} (hmade : Made inherited deadline) (now maximum : ℕ) :
    Made inherited (capped deadline now maximum)

omit [InstantRange] in
theorem exists_cut_of_bind {inherited : Option Deadline} {made : Except AdapterError Deadline}
    {deadline : Deadline} (hmade : (do return cut inherited (← made)) = Except.ok deadline) :
    ∃ whole, deadline = cut inherited whole := by
  cases made with
  | error error => nomatch hmade
  | ok whole => exact ⟨whole, (Except.ok.inj hmade).symm⟩

/-- **A deadline that is made is over no later than the one in force.** -/
theorem Made.expiresAt_le {inForce deadline : Deadline} (hmade : Made (some inForce) deadline) :
    deadline.expiresAt ≤ inForce.expiresAt := by
  have hafter : ∀ {now timeoutMs : ℕ} {deadline : Deadline},
      DeadlineClock.after (some inForce) now timeoutMs = .ok deadline →
        deadline.expiresAt ≤ inForce.expiresAt := by
    intro now timeoutMs deadline hafter
    obtain ⟨whole, rfl⟩ := exists_cut_of_bind hafter
    exact expiresAt_cut_le _ _
  induction hmade with
  | after h => exact hafter h
  | standard h => exact hafter h
  | @fromDuration now duration deadline h =>
    unfold DeadlineClock.fromDuration at h
    dsimp only at h
    generalize (if subsecNanos duration % nanosPerMs = 0 then duration / nanosPerMs
      else duration / nanosPerMs + 1) = roundedMs at h
    split at h
    · nomatch h
    · exact hafter h
  | startingAt h =>
    obtain ⟨whole, rfl⟩ := exists_cut_of_bind h
    exact expiresAt_cut_le _ _
  | extendedBy deadline pause => exact expiresAt_cut_le _ _
  | capped _ now maximum ih => exact (expiresAt_capped_le _ now maximum).trans ih

end DeadlineClock

end Clock

/-! ## Scopes -/

/-- `DeadlineScope`, the guard of a scope, with the deadline the scope was entered with. -/
structure DeadlineScope where
  id : ℕ
  /-- The deadline that was in force before. -/
  previous : Option Deadline
  /-- The deadline of the scope. -/
  deadline : Option Deadline
  deriving DecidableEq

/-- **A thread**, with the guards that were not dropped yet. -/
structure ScopedThread where
  /-- `INHERITED_DEADLINE`, the deadline in force. -/
  inherited : Option Deadline
  /-- The guards, that of the innermost scope first. -/
  scopes : List DeadlineScope
  /-- How many scopes were entered. -/
  entered : ℕ

namespace ScopedThread

/-- The deadline that a scope puts in force. -/
def effective (previous deadline : Option Deadline) : Option Deadline :=
  match previous, deadline with
  | some parent, some child => some (child.minExpiry parent)
  | parent, child => parent.or child

/-- `enter_scope`. -/
def enterScope (thread : ScopedThread) (deadline : Option Deadline) : ScopedThread where
  inherited := effective thread.inherited deadline
  scopes := ⟨thread.entered, thread.inherited, deadline⟩ :: thread.scopes
  entered := thread.entered + 1

/-- `DeadlineScope::drop`. -/
def dropScope (thread : ScopedThread) (scope : DeadlineScope) : ScopedThread :=
  { thread with
    inherited := scope.previous
    scopes := thread.scopes.filter (fun other => other.id ≠ scope.id) }

/-- **A step of a thread**: a scope is entered, or a guard is dropped, whichever it is. -/
inductive Step (thread : ScopedThread) : ScopedThread → Prop
  /-- A scope is entered. -/
  | enter (deadline : Option Deadline) : Step thread (thread.enterScope deadline)
  /-- A guard is dropped. -/
  | drop (scope : DeadlineScope) (hscope : scope ∈ thread.scopes) :
    Step thread (thread.dropScope scope)

/-- **A nested step**: only the guard of the innermost scope is dropped. -/
inductive NestedStep (thread : ScopedThread) : ScopedThread → Prop
  /-- A scope is entered. -/
  | enter (deadline : Option Deadline) : NestedStep thread (thread.enterScope deadline)
  /-- The guard of the innermost scope is dropped. -/
  | drop (scope : DeadlineScope) (rest : List DeadlineScope)
    (hscopes : thread.scopes = scope :: rest) : NestedStep thread (thread.dropScope scope)

theorem NestedStep.step {thread next : ScopedThread} (hstep : NestedStep thread next) :
    Step thread next := by
  cases hstep with
  | enter deadline => exact .enter deadline
  | drop scope rest hscopes => exact .drop scope (hscopes ▸ List.mem_cons_self)

/-! ### What a guard puts back -/

/-- The guards of a thread are told apart by their numbers. -/
def Numbered (thread : ScopedThread) : Prop :=
  (thread.scopes.map DeadlineScope.id).Nodup ∧ ∀ scope ∈ thread.scopes, scope.id < thread.entered

theorem Numbered.step {thread next : ScopedThread} (hnumbered : thread.Numbered)
    (hstep : Step thread next) : next.Numbered := by
  obtain ⟨hnodup, hlt⟩ := hnumbered
  cases hstep with
  | enter deadline =>
    refine ⟨List.nodup_cons.mpr ⟨fun hmem => ?_, hnodup⟩, fun scope hscope => ?_⟩
    · obtain ⟨scope, hscope, heq⟩ := List.mem_map.mp hmem
      exact absurd heq (Nat.ne_of_lt (hlt scope hscope))
    · rcases List.mem_cons.mp hscope with rfl | hscope
      · exact Nat.lt_succ_self _
      · exact Nat.lt_succ_of_lt (hlt scope hscope)
  | drop scope hscope =>
    exact ⟨hnodup.sublist (List.filter_sublist.map _),
      fun other hother => hlt other (List.mem_of_mem_filter hother)⟩

theorem numbered_of_run {start thread : ScopedThread} (hstart : start.scopes = [])
    (hrun : Relation.ReflTransGen Step start thread) : thread.Numbered := by
  induction hrun with
  | refl =>
    unfold Numbered
    rw [hstart]
    exact ⟨List.nodup_nil, fun scope hscope => nomatch hscope⟩
  | tail _ hstep ih => exact ih.step hstep

/-- **A guard remembers the deadline its scope was entered under**, whatever is entered and dropped
before it is dropped itself. -/
theorem previous_of_run {outer inner : ScopedThread} {deadline : Option Deadline}
    (hnumbered : outer.Numbered)
    (hrun : Relation.ReflTransGen Step (outer.enterScope deadline) inner) :
    outer.entered < inner.entered
      ∧ ∀ scope ∈ inner.scopes, scope.id = outer.entered → scope.previous = outer.inherited := by
  induction hrun with
  | refl =>
    refine ⟨Nat.lt_succ_self _, fun scope hscope hid => ?_⟩
    rcases List.mem_cons.mp hscope with rfl | hscope
    · rfl
    · exact absurd hid (Nat.ne_of_lt (hnumbered.2 scope hscope))
  | tail _ hstep ih =>
    obtain ⟨hlt, hprevious⟩ := ih
    cases hstep with
    | enter deadline' =>
      refine ⟨Nat.lt_succ_of_lt hlt, fun scope hscope hid => ?_⟩
      rcases List.mem_cons.mp hscope with rfl | hscope
      · exact absurd hid.symm (Nat.ne_of_lt hlt)
      · exact hprevious scope hscope hid
    | drop dropped hdropped =>
      exact ⟨hlt, fun scope hscope hid =>
        hprevious scope (List.mem_of_mem_filter hscope) hid⟩

/-! ### What is in force -/

/-- **Scopes within scopes**: what is in force is what each scope put in force over the one around
it. -/
def Nested : List DeadlineScope → Option Deadline → Prop
  | [], _ => True
  | scope :: rest, inherited =>
    inherited = effective scope.previous scope.deadline ∧ Nested rest scope.previous

theorem Nested.step {thread next : ScopedThread} (hnumbered : thread.Numbered)
    (hnested : Nested thread.scopes thread.inherited) (hstep : NestedStep thread next) :
    Nested next.scopes next.inherited := by
  cases hstep with
  | enter deadline => exact ⟨rfl, hnested⟩
  | drop scope rest hscopes =>
    rw [hscopes] at hnested
    have hnodup := hnumbered.1
    rw [hscopes, List.map_cons, List.nodup_cons] at hnodup
    have hrest : thread.scopes.filter (fun other => other.id ≠ scope.id) = rest := by
      rw [hscopes, List.filter_cons_of_neg (by simp), List.filter_eq_self]
      intro other hother
      exact decide_eq_true fun heq => hnodup.1 (heq ▸ List.mem_map_of_mem hother)
    show Nested (thread.scopes.filter _) scope.previous
    rw [hrest]
    exact hnested.2

theorem nested_of_run {start thread : ScopedThread} (hstart : start.scopes = [])
    (hrun : Relation.ReflTransGen NestedStep start thread) :
    Nested thread.scopes thread.inherited := by
  induction hrun with
  | refl => rw [hstart]; trivial
  | tail hrun hstep ih =>
    exact ih.step (numbered_of_run hstart
      (Relation.ReflTransGen.mono (fun _ _ => NestedStep.step) _ _ hrun)) hstep

theorem Nested.expiresAt_le {scopes : List DeadlineScope} {inherited : Option Deadline}
    (hnested : Nested scopes inherited) {scope : DeadlineScope} (hscope : scope ∈ scopes)
    {bound : Deadline} (hbound : scope.deadline = some bound) :
    ∃ inForce, inherited = some inForce ∧ inForce.expiresAt ≤ bound.expiresAt := by
  induction scopes generalizing inherited with
  | nil => nomatch hscope
  | cons first rest ih =>
    obtain ⟨rfl, hrest⟩ := hnested
    rcases List.mem_cons.mp hscope with rfl | hscope
    · rw [hbound]
      cases scope.previous with
      | none => exact ⟨bound, rfl, Nat.le_refl _⟩
      | some parent => exact ⟨bound.minExpiry parent, rfl, Nat.min_le_left _ _⟩
    · obtain ⟨parent, hparent, hle⟩ := ih hrest hscope
      rw [hparent]
      cases first.deadline with
      | none => exact ⟨parent, rfl, hle⟩
      | some child => exact ⟨child.minExpiry parent, rfl, (Nat.min_le_right _ _).trans hle⟩

end ScopedThread

/-! ## Containment -/

theorem Deadline.remaining_le {deadline bound : Deadline}
    (hle : deadline.expiresAt ≤ bound.expiresAt) (now : ℕ) :
    deadline.remaining now ≤ bound.remaining now :=
  Nat.sub_le_sub_right hle now

variable [InstantRange]

/-- **No operation outlives the scopes around it.** In every nesting of scopes a deadline that is
made is over no later than each scope around it, whatever sums run out of instants, and so is what
is said to be left of it at any time; capping puts no deadline off, whichever it is. Dropping a
guard, in whatever order the guards are dropped, puts back the deadline that was in force when its
scope was entered. -/
theorem scopes_contain_deadlines (start : ScopedThread) (hstart : start.scopes = []) :
    (∀ thread, Relation.ReflTransGen ScopedThread.NestedStep start thread →
        ∀ scope ∈ thread.scopes, ∀ bound, scope.deadline = some bound →
          ∀ deadline, DeadlineClock.Made thread.inherited deadline →
            deadline.expiresAt ≤ bound.expiresAt
              ∧ ∀ now, deadline.remaining now ≤ bound.remaining now
                ∧ DeadlineClock.remainingMs deadline now ≤ DeadlineClock.remainingMs bound now
                ∧ (bound.isExpired now → deadline.isExpired now)
                ∧ ∀ maximum slice, deadline.remainingSlice now maximum = .ok slice →
                  slice ≤ bound.remaining now)
      ∧ (∀ deadline now maximum,
          (DeadlineClock.capped deadline now maximum).expiresAt ≤ deadline.expiresAt)
      ∧ ∀ outer, Relation.ReflTransGen ScopedThread.Step start outer →
          ∀ deadline inner,
            Relation.ReflTransGen ScopedThread.Step (outer.enterScope deadline) inner →
              ∀ scope ∈ inner.scopes, scope.id = outer.entered →
                (inner.dropScope scope).inherited = outer.inherited := by
  refine ⟨?_, DeadlineClock.expiresAt_capped_le, ?_⟩
  · intro thread hrun scope hscope bound hbound deadline hmade
    -- what is in force is over no later than any scope the thread is in
    obtain ⟨inForce, hinForce, hle⟩ :=
      (ScopedThread.nested_of_run hstart hrun).expiresAt_le hscope hbound
    rw [hinForce] at hmade
    have hexpires : deadline.expiresAt ≤ bound.expiresAt := hmade.expiresAt_le.trans hle
    refine ⟨hexpires, fun now => ?_⟩
    have hremaining := Deadline.remaining_le hexpires now
    refine ⟨hremaining, ?_, fun hover => ?_, fun maximum slice hslice => ?_⟩
    · have hms : deadline.remainingMs now ≤ bound.remainingMs now :=
        Nat.div_le_div_right (Nat.add_le_add_right hremaining _)
      exact Nat.le_min.mpr ⟨(Nat.min_le_left _ _).trans hms, Nat.min_le_right _ _⟩
    · unfold Deadline.isExpired at hover ⊢
      rw [beq_iff_eq] at hover ⊢
      exact Nat.le_zero.mp (hover ▸ hremaining)
    · unfold Deadline.remainingSlice at hslice
      split at hslice
      · nomatch hslice
      · obtain rfl := Except.ok.inj hslice
        exact (Nat.min_le_left _ _).trans hremaining
  · intro outer houter deadline inner hinner scope hscope hid
    exact (ScopedThread.previous_of_run (ScopedThread.numbered_of_run hstart houter) hinner).2
      scope hscope hid

namespace Sample

/-- A thread with no deadline in force. -/
def freeThread : ScopedThread := ⟨none, [], 0⟩

/-- A deadline of `25` milliseconds, and one of ten. -/
def shortDeadline : Deadline := ⟨0, 25000000, 25, false⟩

def shorterDeadline : Deadline := ⟨0, 10000000, 10, false⟩

end Sample

omit [InstantRange] in
/-- Two scopes within each other: what is made in the inner one is over when either is. -/
theorem twoScopes_contain_deadlines :
    let _ : InstantRange := ⟨2 ^ 90⟩
    let thread := (Sample.freeThread.enterScope (some Sample.shortDeadline)).enterScope
      (some Sample.shorterDeadline)
    ∀ deadline, DeadlineClock.Made thread.inherited deadline →
      deadline.expiresAt ≤ Sample.shortDeadline.expiresAt := by
  intro _ thread deadline hmade
  have hrun : Relation.ReflTransGen ScopedThread.NestedStep Sample.freeThread thread :=
    (Relation.ReflTransGen.refl.tail (.enter _)).tail (.enter _)
  exact ((scopes_contain_deadlines Sample.freeThread rfl).1 thread hrun
    ⟨0, none, some Sample.shortDeadline⟩ (by decide) Sample.shortDeadline rfl deadline hmade).1

omit [InstantRange] in
/-- **What is not contained.** A detached deadline is over later than the scope it is made in, also
when it is capped; and when the guard of the outer scope is dropped first, the deadline of that
scope is in force after both are gone. -/
theorem scopes_do_not_contain_all :
    let _ : InstantRange := ⟨2 ^ 90⟩
    let outer := Sample.freeThread.enterScope (some Sample.shortDeadline)
    let inner := outer.enterScope none
    (∃ deadline, DeadlineClock.detachedAfter 0 100 = .ok deadline
        ∧ Sample.shortDeadline.expiresAt
          < (DeadlineClock.capped deadline 0 1000000000).expiresAt)
      ∧ ∃ first ∈ inner.scopes, ∃ second ∈ (inner.dropScope first).scopes,
        ((inner.dropScope first).dropScope second).scopes = []
          ∧ ((inner.dropScope first).dropScope second).inherited ≠ Sample.freeThread.inherited := by
  refine ⟨⟨⟨0, 100000000, 100, false⟩, rfl, by decide⟩, ?_⟩
  exact ⟨⟨0, none, some Sample.shortDeadline⟩, by decide, ⟨1, some Sample.shortDeadline, none⟩,
    by decide, by decide, by decide⟩

end AgentDesktop
