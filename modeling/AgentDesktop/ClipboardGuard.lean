import AgentDesktop.Clipboard

/-!
# The replacement is a guarded transaction

Whatever the write and the verification do, and whatever other processes do in
between: a replacement succeeds only when the clipboard, after its content was
verified, is still the one this call took over; what a failure clears is the
clipboard that was last seen to be this call's own; and once the old content is
gone no failure says that nothing was delivered.
-/

namespace AgentDesktop

namespace ClipboardWorld

variable {σ C α β : Type} (world : ClipboardWorld σ C)

/-! ## What each call records -/

theorem nativeCall_sat (call : Pasteboard C → σ → (α × Pasteboard C) × σ)
    (event : α → Pasteboard C → ClipboardEvent C) :
    (world.nativeCall call event).Sat (fun o events =>
      ∃ a pasteboard, o = .ok (a, pasteboard) ∧ events = [event a pasteboard]) :=
  Prog.sat_ask_bind (fun answer => Prog.sat_emit_bind (Prog.sat_pure
    ⟨answer.1, answer.2, rfl, rfl⟩))

theorem sat_nativeCall_map {call : Pasteboard C → σ → (α × Pasteboard C) × σ}
    {event : α → Pasteboard C → ClipboardEvent C} (g : α × Pasteboard C → β) :
    (world.nativeCall call event >>= fun answer => pure (g answer)).Sat (fun o events =>
      ∃ a pasteboard, o = .ok (g (a, pasteboard)) ∧ events = [event a pasteboard]) := by
  refine (world.nativeCall_sat call event).bind ?_ (fun _ _ h => by obtain ⟨_, _, h, _⟩ := h; cases h)
    (fun _ h => by obtain ⟨_, _, h, _⟩ := h; cases h)
  rintro _ _ ⟨a, pasteboard, ha, rfl⟩
  obtain rfl := Outcome.ok.inj ha
  exact Prog.sat_pure ⟨a, pasteboard, rfl, rfl⟩

theorem clearContents_sat : world.clearContents.Sat (fun o events =>
    ∃ pasteboard, o = .ok pasteboard.count ∧ events = [.cleared pasteboard]) :=
  (world.sat_nativeCall_map (fun answer => answer.2.count)).mono
    (fun _ _ h => by obtain ⟨_, pasteboard, h⟩ := h; exact ⟨pasteboard, h⟩)

theorem changeCount_sat : world.changeCount.Sat (fun o events =>
    ∃ pasteboard, o = .ok pasteboard.count ∧ events = [.observed pasteboard]) :=
  (world.sat_nativeCall_map (fun answer => answer.2.count)).mono
    (fun _ _ h => by obtain ⟨_, pasteboard, h⟩ := h; exact ⟨pasteboard, h⟩)

theorem writeContent_sat (deadline : Deadline) :
    (world.writeContent deadline).Sat (fun o events =>
      ∃ result pasteboard, o = .ok result ∧ events = [.wrote result pasteboard]) :=
  world.sat_nativeCall_map Prod.fst

theorem verifyContent_sat (deadline : Deadline) :
    (world.verifyContent deadline).Sat (fun o events =>
      ∃ result pasteboard, o = .ok result ∧ events = [.verified result pasteboard]) :=
  world.sat_nativeCall_map Prod.fst

theorem ensureBefore_sat (deadline : Deadline) (disposition : DeliverySemantics) :
    (world.ensureBefore deadline disposition).Sat (fun o events => events = []
      ∧ (o = .ok () ∨ ∃ error, o = .error error ∧ error.disposition = disposition)) := by
  refine Prog.sat_ask_bind (fun now => ?_)
  split_ifs
  · exact Prog.sat_fail ⟨rfl, Or.inr ⟨_, rfl, rfl⟩⟩
  · exact Prog.sat_pure ⟨rfl, Or.inl rfl⟩

theorem sat_call_bind {p : ClipboardProg σ C α} {f : α → ClipboardProg σ C β}
    {answer : Pasteboard C → α} {event : Pasteboard C → ClipboardEvent C}
    {Ψ : Outcome AdapterError β → List (ClipboardEvent C) → Prop}
    (hp : p.Sat (fun o events => ∃ pasteboard, o = .ok (answer pasteboard)
      ∧ events = [event pasteboard]))
    (hf : ∀ pasteboard, (f (answer pasteboard)).Sat (fun o events =>
      Ψ o (event pasteboard :: events))) : (p >>= f).Sat Ψ := by
  refine hp.bind ?_ (fun _ _ h => by obtain ⟨_, h, _⟩ := h; cases h)
    (fun _ h => by obtain ⟨_, h, _⟩ := h; cases h)
  rintro _ _ ⟨pasteboard, ha, rfl⟩
  obtain rfl := Outcome.ok.inj ha
  exact hf pasteboard

theorem sat_result_bind {p : ClipboardProg σ C (Except AdapterError Bool)}
    {f : Except AdapterError Bool → ClipboardProg σ C β}
    {event : Except AdapterError Bool → Pasteboard C → ClipboardEvent C}
    {Ψ : Outcome AdapterError β → List (ClipboardEvent C) → Prop}
    (hp : p.Sat (fun o events => ∃ result pasteboard, o = .ok result
      ∧ events = [event result pasteboard]))
    (hf : ∀ result pasteboard, (f result).Sat (fun o events =>
      Ψ o (event result pasteboard :: events))) : (p >>= f).Sat Ψ := by
  refine hp.bind ?_ (fun _ _ h => by obtain ⟨_, _, h, _⟩ := h; cases h)
    (fun _ h => by obtain ⟨_, _, h, _⟩ := h; cases h)
  rintro _ _ ⟨result, pasteboard, ha, rfl⟩
  obtain rfl := Outcome.ok.inj ha
  exact hf _ pasteboard

end ClipboardWorld

/-! ## What a failure cleans up -/

theorem eq_of_owns {ownership current : ℤ} (h : owns ownership current = true) :
    current = ownership := by
  unfold owns at h
  rw [Bool.and_eq_true] at h
  exact (eq_of_beq h.2).symm

/-- **What the cleanup of a failure records**: nothing, an observation, or a clearing that an
observation of this call's own count comes right before. -/
inductive CleanupTail {C : Type} (ownership : ℤ) : List (ClipboardEvent C) → Prop
  /-- There is nothing to clean up. -/
  | none : CleanupTail ownership []
  /-- The clipboard is not cleared. -/
  | left (pasteboard : Pasteboard C) : CleanupTail ownership [.observed pasteboard]
  /-- It is cleared, and perhaps looked at. -/
  | cleared {pasteboard : Pasteboard C} (empty : Pasteboard C) (looked : Option (Pasteboard C))
      (h : pasteboard.count = ownership) :
      CleanupTail ownership
        (.observed pasteboard :: .cleared empty :: (looked.map .observed).toList)

/-- An honest failure, with its cleanup. -/
def FailsHonestly {C : Type} (ownership : ℤ) (o : Outcome AdapterError Unit)
    (events : List (ClipboardEvent C)) : Prop :=
  (∃ error, o = .error error ∧ error.disposition ≠ .notDelivered) ∧ CleanupTail ownership events

namespace ClipboardWorld

variable {σ C : Type} (world : ClipboardWorld σ C)

/-- **The cleanup clears only what it has just seen to be its own.** -/
theorem clearIfOwned_sat (ownership : ℤ) (deadline : Deadline) :
    (world.clearIfOwned ownership deadline).Sat (fun o events =>
      o ≠ .running ∧ CleanupTail ownership events) := by
  refine sat_call_bind world.changeCount_sat (fun observed => ?_)
  split_ifs with howns
  · exact Prog.sat_pure ⟨by simp, CleanupTail.left observed⟩
  · have hcount : observed.count = ownership := eq_of_owns (by simpa using howns)
    refine (world.ensureBefore_sat deadline .notDelivered).bind (fun _ events h => ?_)
      (fun error events h => ?_) (fun _ h => by rcases h.2 with h | ⟨_, h, _⟩ <;> cases h)
    · rw [h.1]
      refine sat_call_bind world.clearContents_sat (fun empty => ?_)
      split_ifs
      · exact Prog.sat_fail ⟨by simp, CleanupTail.cleared empty none hcount⟩
      · refine sat_call_bind world.changeCount_sat (fun looked => ?_)
        split_ifs
        · exact Prog.sat_fail ⟨by simp, CleanupTail.cleared empty (some looked) hcount⟩
        · exact Prog.sat_pure ⟨by simp, CleanupTail.cleared empty (some looked) hcount⟩
    · rw [h.1]
      exact ⟨by simp, CleanupTail.left observed⟩

/-- **A failure after the clearing is honest**, whatever becomes of its cleanup. -/
theorem postClearFailure_sat (ownership : ℤ) (kind : String) (deadline : Deadline)
    (cause : AdapterError) :
    (world.postClearFailure ownership kind deadline cause).Sat (FailsHonestly ownership) := by
  refine (world.clearIfOwned_sat ownership deadline).attempt_bind (fun cleaned events h => ?_)
    (fun error events h => ?_) (fun _ h => absurd rfl h.1)
  · exact Prog.sat_fail ⟨⟨_, rfl, by simp⟩, by rw [List.append_nil]; exact h.2⟩
  · exact Prog.sat_fail ⟨⟨_, rfl, by simp [clipboardDeliveryUncertain, clipboardDeliveryError]⟩,
      by rw [List.append_nil]; exact h.2⟩

end ClipboardWorld

/-! ## What a replacement records -/

/-- An event that does not clear the clipboard. -/
def ClipboardEvent.Spares {C : Type} (event : ClipboardEvent C) : Prop :=
  ∀ pasteboard, event ≠ .cleared pasteboard

/-- **What follows the clearing** of a replacement: it fails honestly, after some checks and its
cleanup; or the content was written, verified, and found to be this call's own each time. -/
def AfterClear {C : Type} (first : Pasteboard C) (o : Outcome AdapterError Unit)
    (events : List (ClipboardEvent C)) : Prop :=
  (∃ checks tail, events = checks ++ tail ∧ (∀ event ∈ checks, event.Spares)
      ∧ FailsHonestly first.count o tail)
    ∨ ∃ p₁ p₂ p₃ p₄ p₅, events = [.observed p₁, .wrote (.ok true) p₂, .observed p₃,
        .verified (.ok true) p₄, .observed p₅] ∧ p₅.count = first.count
      ∧ (o = .ok () ∨ ∃ error, o = .error error ∧ error.disposition = .deliveredVerified)

/-- A replacement that fails before it clears, or is as it should be after that. -/
def Replaces {C : Type} (o : Outcome AdapterError Unit) (events : List (ClipboardEvent C)) :
    Prop :=
  ((∃ error, o = .error error) ∧ events = [])
    ∨ ∃ first rest, events = .cleared first :: rest ∧ AfterClear first o rest

theorem FailsHonestly.afterClear {C : Type} {first : Pasteboard C}
    {o : Outcome AdapterError Unit} {checks tail : List (ClipboardEvent C)}
    (hchecks : ∀ event ∈ checks, event.Spares) (h : FailsHonestly first.count o tail) :
    AfterClear first o (checks ++ tail) :=
  Or.inl ⟨checks, tail, rfl, hchecks, h⟩

theorem failsHonestly_of_disposition {C : Type} (ownership : ℤ) {error : AdapterError}
    (h : error.disposition ≠ .notDelivered) :
    FailsHonestly ownership (.error error) ([] : List (ClipboardEvent C)) :=
  ⟨⟨error, rfl, h⟩, CleanupTail.none⟩

namespace ClipboardWorld

variable {σ C : Type} (world : ClipboardWorld σ C)

theorem spares_observed {C : Type} (pasteboard : Pasteboard C) :
    (ClipboardEvent.observed pasteboard).Spares := fun _ h => by cases h

theorem spares_wrote {C : Type} (result : Except AdapterError Bool) (pasteboard : Pasteboard C) :
    (ClipboardEvent.wrote result pasteboard).Spares := fun _ h => by cases h

theorem spares_verified {C : Type} (result : Except AdapterError Bool)
    (pasteboard : Pasteboard C) :
    (ClipboardEvent.verified result pasteboard).Spares := fun _ h => by cases h

/-- **After the clearing**: the write, the verification and the checks between them. -/
theorem writeAndVerify_sat (kind : String) (deadline mutationDeadline : Deadline)
    (first p₁ : Pasteboard C) :
    (world.writeAndVerify kind deadline mutationDeadline first.count).Sat (fun o events =>
      AfterClear first o (.observed p₁ :: events)) := by
  have hcleanup (checks : List (ClipboardEvent C)) (hchecks : ∀ event ∈ checks, event.Spares)
      (cause : AdapterError) :
      (world.postClearFailure first.count kind deadline cause).Sat (fun o events =>
        AfterClear first o (.observed p₁ :: (checks ++ events))) :=
    (world.postClearFailure_sat first.count kind deadline cause).mono (fun o events h =>
      h.afterClear (List.forall_mem_cons.mpr ⟨spares_observed p₁, hchecks⟩))
  have hfail (checks : List (ClipboardEvent C)) (hchecks : ∀ event ∈ checks, event.Spares)
      {error : AdapterError} (herror : error.disposition ≠ .notDelivered) :
      AfterClear first (.error error) (.observed p₁ :: checks) := by
    have h := (failsHonestly_of_disposition (C := C) first.count herror).afterClear
      (List.forall_mem_cons.mpr ⟨spares_observed p₁, hchecks⟩)
    rwa [List.append_nil] at h
  have hnone : ∀ event ∈ ([] : List (ClipboardEvent C)), event.Spares :=
    fun _ h => absurd h List.not_mem_nil
  refine (world.ensureBefore_sat mutationDeadline .notDelivered).attempt_bind
    (fun _ events h => ?_) (fun error events h => ?_)
    (fun _ h => by rcases h.2 with h | ⟨_, h, _⟩ <;> cases h)
  swap
  · rw [h.1]
    exact hcleanup [] hnone error
  rw [h.1]
  refine sat_result_bind (world.writeContent_sat mutationDeadline) (fun result p₂ => ?_)
  have hwrote : ∀ event ∈ [ClipboardEvent.wrote result p₂], event.Spares :=
    List.forall_mem_singleton.mpr (spares_wrote result p₂)
  match result with
  | .error error => exact hcleanup _ hwrote error
  | .ok false => exact hcleanup _ hwrote _
  | .ok true =>
    refine sat_call_bind world.changeCount_sat (fun p₃ => ?_)
    have hobserved : ∀ event ∈ [ClipboardEvent.wrote (.ok true) p₂, .observed p₃],
        event.Spares := List.forall_mem_cons.mpr
      ⟨spares_wrote _ p₂, List.forall_mem_singleton.mpr (spares_observed p₃)⟩
    split_ifs
    · exact Prog.sat_fail (hfail _ hobserved (by
        simp [clipboardDeliveredUnverified, clipboardDeliveryError]))
    · refine sat_result_bind (world.verifyContent_sat mutationDeadline) (fun intended p₄ => ?_)
      have hverified : ∀ event ∈ [ClipboardEvent.wrote (.ok true) p₂, .observed p₃,
          .verified intended p₄], event.Spares := List.forall_mem_cons.mpr
        ⟨spares_wrote _ p₂, List.forall_mem_cons.mpr
          ⟨spares_observed p₃, List.forall_mem_singleton.mpr (spares_verified intended p₄)⟩⟩
      match intended with
      | .error error =>
        exact Prog.sat_fail (hfail _ hverified (by
          simp [clipboardDeliveredUnverified, clipboardDeliveryError]))
      | .ok intended =>
        refine sat_call_bind world.changeCount_sat (fun p₅ => ?_)
        have hchecks : ∀ event ∈ [ClipboardEvent.wrote (.ok true) p₂, .observed p₃,
            .verified (.ok intended) p₄, .observed p₅], event.Spares := by
          intro event hevent
          rcases List.mem_append.mp (show event ∈ [ClipboardEvent.wrote (.ok true) p₂,
            .observed p₃, .verified (.ok intended) p₄] ++ [.observed p₅] from hevent) with h | h
          · exact hverified event h
          · rw [List.mem_singleton.mp h]
            exact spares_observed p₅
        split_ifs with howns hintended
        · exact Prog.sat_fail (hfail _ hchecks (by
            simp [clipboardDeliveredUnverified, clipboardDeliveryError]))
        · exact hcleanup _ hchecks _
        · have hcount : p₅.count = first.count := eq_of_owns (by simpa using howns)
          obtain rfl : intended = true := by simpa using hintended
          refine (world.ensureBefore_sat deadline .deliveredVerified).mono (fun o events h => ?_)
          rw [h.1]
          exact Or.inr ⟨p₁, p₂, p₃, p₄, p₅, rfl, hcount, h.2⟩

/-- **A replacement**, as it is recorded. -/
theorem replaceOn_sat (kind : String) (deadline : Deadline) :
    (world.replaceOn kind deadline).Sat Replaces := by
  have hbefore (error : AdapterError) :
      Replaces (.error error) ([] : List (ClipboardEvent C)) := Or.inl ⟨⟨error, rfl⟩, rfl⟩
  have hreserve : (world.reserveCleanupBudget deadline).Sat (fun o events => events = []
      ∧ o ≠ .running) := by
    refine Prog.sat_ask_bind (fun now => ?_)
    dsimp only
    split_ifs
    · exact Prog.sat_fail ⟨rfl, by simp⟩
    · exact Prog.sat_ask_bind (fun _ =>
        Prog.sat_ofExcept (fun _ _ => ⟨rfl, by simp⟩) (fun _ _ => ⟨rfl, by simp⟩))
  refine hreserve.bind (fun mutationDeadline events h => ?_) (fun error events h => ?_)
    (fun _ h => absurd rfl h.2)
  swap
  · rw [h.1]
    exact hbefore error
  rw [h.1]
  refine (world.ensureBefore_sat mutationDeadline .notDelivered).bind (fun _ events h => ?_)
    (fun error events h => ?_) (fun _ h => by rcases h.2 with h | ⟨_, h, _⟩ <;> cases h)
  swap
  · rw [h.1]
    exact hbefore error
  rw [h.1]
  refine sat_call_bind world.clearContents_sat (fun first => ?_)
  split_ifs
  · refine Prog.sat_fail (Or.inr ⟨first, [], rfl, ?_⟩)
    exact Or.inl ⟨[], [], rfl, fun _ h => absurd h List.not_mem_nil,
      failsHonestly_of_disposition _ (by
        simp [clipboardDeliveryUncertain, clipboardDeliveryError])⟩
  · refine sat_call_bind world.changeCount_sat (fun p₁ => ?_)
    split_ifs
    · refine Prog.sat_fail (Or.inr ⟨first, _, rfl, ?_⟩)
      exact Or.inl ⟨[.observed p₁], [], rfl,
        List.forall_mem_singleton.mpr (spares_observed p₁), failsHonestly_of_disposition _ (by
          simp [clipboardDeliveredUnverified, clipboardDeliveryError])⟩
    · exact (world.writeAndVerify_sat kind deadline mutationDeadline first p₁).mono
        (fun o events h => Or.inr ⟨first, _, rfl, h⟩)

end ClipboardWorld

/-! ## The clipboard from event to event -/

/-- An event leaves a later clipboard; and only a write, or a change of hands, changes the
content. -/
def Succeeds {C : Type} (before : Pasteboard C) (event : ClipboardEvent C) : Prop :=
  Pasteboard.Later before event.pasteboard
    ∧ ((∀ result pasteboard, event ≠ .wrote result pasteboard) →
      Pasteboard.Keeps before event.pasteboard)

/-- **The clipboard from event to event**: each one follows the one before it, and nothing happens
to the clipboard outside of them. -/
def Chained {C : Type} : Pasteboard C → List (ClipboardEvent C) → Pasteboard C → Prop
  | first, [], last => first = last
  | first, event :: rest, last => Succeeds first event ∧ Chained event.pasteboard rest last

theorem Chained.append {C : Type} {first mid last : Pasteboard C}
    {events events' : List (ClipboardEvent C)} (h : Chained first events mid)
    (h' : Chained mid events' last) : Chained first (events ++ events') last := by
  induction events generalizing first with
  | nil =>
    obtain rfl : first = mid := h
    exact h'
  | cons event rest ih => exact ⟨h.1, ih h.2⟩

theorem Chained.later {C : Type} {first last : Pasteboard C} {before : List (ClipboardEvent C)}
    {event : ClipboardEvent C} {after : List (ClipboardEvent C)}
    (h : Chained first (before ++ event :: after) last) :
    Pasteboard.Later first event.pasteboard := by
  induction before generalizing first with
  | nil => exact h.1.1
  | cons head rest ih => exact h.1.1.trans (ih h.2)

/-- **A program whose record is a chain.** -/
def KeepsChain {σ C α : Type} (p : ClipboardProg σ C α) : Prop :=
  ∀ s, Chained s.1 (p.events s) (p.state s).1

namespace KeepsChain

variable {σ C α β : Type}

theorem pure (a : α) : KeepsChain (pure a : ClipboardProg σ C α) := fun _ => rfl

theorem fail (error : AdapterError) : KeepsChain (Prog.fail error : ClipboardProg σ C α) :=
  fun _ => rfl

theorem ofExcept (x : Except AdapterError α) :
    KeepsChain (Prog.ofExcept x : ClipboardProg σ C α) := by
  cases x with
  | ok a => exact pure a
  | error error => exact fail error

theorem bind {p : ClipboardProg σ C α} {f : α → ClipboardProg σ C β} (hp : KeepsChain p)
    (hf : ∀ a, KeepsChain (f a)) : KeepsChain (p >>= f) := by
  intro s
  have hfirst := hp s
  have hrun : (p >>= f) s = Prog.andThen p f s := rfl
  unfold Prog.events Prog.state at hfirst ⊢
  rw [hrun]
  unfold Prog.andThen
  match h : p s with
  | (.ok a, s', events) =>
    rw [h] at hfirst
    exact hfirst.append (hf a s')
  | (.error e, s', events) =>
    rw [h] at hfirst
    exact hfirst
  | (.running, s', events) =>
    rw [h] at hfirst
    exact hfirst

theorem attempt {p : ClipboardProg σ C α} (hp : KeepsChain p) :
    KeepsChain (p.attempt : ClipboardProg σ C (Except AdapterError α)) := by
  intro s
  have hfirst := hp s
  unfold Prog.events Prog.state Prog.attempt at *
  match h : p s with
  | (.ok a, s', events) => rw [h] at hfirst; exact hfirst
  | (.error e, s', events) => rw [h] at hfirst; exact hfirst
  | (.running, s', events) => rw [h] at hfirst; exact hfirst

end KeepsChain

namespace ClipboardWorld

variable {σ C α : Type} (world : ClipboardWorld σ C)

/-- **A native call is one link of the chain**: other processes first, then the call. -/
theorem nativeCall_keepsChain {call : Pasteboard C → σ → (α × Pasteboard C) × σ}
    {event : α → Pasteboard C → ClipboardEvent C}
    (hevent : ∀ a pasteboard, (event a pasteboard).pasteboard = pasteboard)
    (hlater : ∀ pasteboard s, Pasteboard.Later pasteboard (call pasteboard s).1.2)
    (hkeeps : ∀ pasteboard s, (∀ result p,
        event (call pasteboard s).1.1 (call pasteboard s).1.2 ≠ .wrote result p) →
      Pasteboard.Keeps pasteboard (call pasteboard s).1.2) :
    KeepsChain (world.nativeCall call event) := by
  intro s
  have hothers : Pasteboard.Keeps s.1 (world.afterOthers s).1 :=
    Pasteboard.keeps_foldl (world.others s.2).1 s.1
  refine ⟨⟨?_, fun hwrote => ?_⟩, hevent _ _⟩
  · rw [hevent]
    exact hothers.later.trans (hlater _ _)
  · rw [hevent]
    exact hothers.trans (hkeeps _ _ hwrote)

theorem clearContents_keepsChain : KeepsChain world.clearContents :=
  (world.nativeCall_keepsChain (fun _ _ => rfl) (fun _ _ => Pasteboard.later_change _ _)
    (fun _ _ _ => Pasteboard.keeps_change _ _)).bind (fun _ => KeepsChain.pure _)

theorem changeCount_keepsChain : KeepsChain world.changeCount :=
  (world.nativeCall_keepsChain (fun _ _ => rfl) (fun _ _ => Pasteboard.Later.refl _)
    (fun _ _ _ => Pasteboard.Keeps.refl _)).bind (fun _ => KeepsChain.pure _)

theorem writeContent_keepsChain (deadline : Deadline) :
    KeepsChain (world.writeContent deadline) :=
  (world.nativeCall_keepsChain (fun _ _ => rfl) (fun _ _ => Pasteboard.later_foldl _ _)
    (fun _ _ hwrote => absurd rfl (hwrote _ _))).bind (fun _ => KeepsChain.pure _)

theorem verifyContent_keepsChain (deadline : Deadline) :
    KeepsChain (world.verifyContent deadline) :=
  (world.nativeCall_keepsChain (fun _ _ => rfl) (fun _ _ => (Pasteboard.keeps_foldl _ _).later)
    (fun _ _ _ => Pasteboard.keeps_foldl _ _)).bind (fun _ => KeepsChain.pure _)

theorem ensureBefore_keepsChain (deadline : Deadline) (disposition : DeliverySemantics) :
    KeepsChain (world.ensureBefore deadline disposition) := by
  refine KeepsChain.bind (fun _ => rfl) (fun now => ?_)
  split_ifs
  · exact KeepsChain.fail _
  · exact KeepsChain.pure _

theorem reserveCleanupBudget_keepsChain (deadline : Deadline) :
    KeepsChain (world.reserveCleanupBudget deadline) := by
  refine KeepsChain.bind (fun _ => rfl) (fun now => ?_)
  dsimp only
  split_ifs
  · exact KeepsChain.fail _
  · exact KeepsChain.bind (fun _ => rfl) (fun _ => KeepsChain.ofExcept _)

theorem clearIfOwned_keepsChain (ownership : ℤ) (deadline : Deadline) :
    KeepsChain (world.clearIfOwned ownership deadline) := by
  refine world.changeCount_keepsChain.bind (fun current => ?_)
  split_ifs
  · exact KeepsChain.pure _
  · refine (world.ensureBefore_keepsChain deadline _).bind (fun _ => ?_)
    refine world.clearContents_keepsChain.bind (fun cleanupOwnership => ?_)
    split_ifs
    · exact KeepsChain.fail _
    · refine world.changeCount_keepsChain.bind (fun current => ?_)
      split_ifs
      · exact KeepsChain.fail _
      · exact KeepsChain.pure _

theorem postClearFailure_keepsChain (ownership : ℤ) (kind : String) (deadline : Deadline)
    (cause : AdapterError) :
    KeepsChain (world.postClearFailure ownership kind deadline cause) := by
  refine (world.clearIfOwned_keepsChain ownership deadline).attempt.bind (fun cleaned => ?_)
  cases cleaned with
  | ok cleaned => exact KeepsChain.fail _
  | error error => exact KeepsChain.fail _

theorem writeAndVerify_keepsChain (kind : String) (deadline mutationDeadline : Deadline)
    (ownership : ℤ) :
    KeepsChain (world.writeAndVerify kind deadline mutationDeadline ownership) := by
  have hcleanup := world.postClearFailure_keepsChain ownership kind deadline
  refine (world.ensureBefore_keepsChain mutationDeadline _).attempt.bind (fun started => ?_)
  cases started with
  | error error => exact hcleanup error
  | ok _ =>
    refine (world.writeContent_keepsChain mutationDeadline).bind (fun result => ?_)
    match result with
    | .error error => exact hcleanup error
    | .ok false => exact hcleanup _
    | .ok true =>
      refine world.changeCount_keepsChain.bind (fun current => ?_)
      split_ifs
      · exact KeepsChain.fail _
      · refine (world.verifyContent_keepsChain mutationDeadline).bind (fun intended => ?_)
        cases intended with
        | error error => exact KeepsChain.fail _
        | ok intended =>
          refine world.changeCount_keepsChain.bind (fun current => ?_)
          split_ifs
          · exact KeepsChain.fail _
          · exact hcleanup _
          · exact world.ensureBefore_keepsChain deadline _

theorem replaceOn_keepsChain (kind : String) (deadline : Deadline) :
    KeepsChain (world.replaceOn kind deadline) := by
  refine (world.reserveCleanupBudget_keepsChain deadline).bind (fun mutationDeadline => ?_)
  refine (world.ensureBefore_keepsChain mutationDeadline _).bind (fun _ => ?_)
  refine world.clearContents_keepsChain.bind (fun ownership => ?_)
  split_ifs
  · exact KeepsChain.fail _
  · refine world.changeCount_keepsChain.bind (fun current => ?_)
    split_ifs
    · exact KeepsChain.fail _
    · exact world.writeAndVerify_keepsChain kind deadline mutationDeadline ownership

end ClipboardWorld

/-! ## The transaction -/

/-- **A guarded replacement.** -/
structure GuardedReplacement {C : Type} (o : Outcome AdapterError Unit)
    (events : List (ClipboardEvent C)) : Prop where
  /-- A success: the clipboard was cleared once, written, and verified; when it was looked at last,
  after the verification, it had not changed hands since it was cleared, and had the content that
  the write left. -/
  owned : o = .ok () → ∃ p₀ p₁ p₂ p₃ p₄ p₅, events = [.cleared p₀, .observed p₁,
      .wrote (.ok true) p₂, .observed p₃, .verified (.ok true) p₄, .observed p₅]
    ∧ p₅.count = p₀.count ∧ p₅.changes = p₀.changes ∧ p₅.content = p₂.content
  /-- A clearing is the first event, or the cleanup of a failure: then the clipboard was looked at
  just before it, had the count of the first clearing, and had not changed hands since. -/
  cleanup : ∀ before pasteboard after, events = before ++ .cleared pasteboard :: after →
    before = [] ∨ ∃ first checks last, before = .cleared first :: (checks ++ [.observed last])
      ∧ last.count = first.count ∧ last.changes = first.changes
  /-- After a clearing no failure says that nothing was delivered. -/
  honest : ∀ error, o = .error error → ∀ pasteboard, .cleared pasteboard ∈ events →
    error.disposition ≠ .notDelivered

theorem CleanupTail.cleared_split {C : Type} {ownership : ℤ}
    {tail before after : List (ClipboardEvent C)} {pasteboard : Pasteboard C}
    (h : CleanupTail ownership tail) (hsplit : tail = before ++ .cleared pasteboard :: after) :
    ∃ last, before = [.observed last] ∧ last.count = ownership := by
  cases h with
  | none => exact absurd hsplit (by simp)
  | left observed =>
    cases before with
    | nil => cases hsplit
    | cons head rest => exact absurd (List.cons.inj hsplit).2 (by simp)
  | @cleared observed empty looked hcount =>
    cases before with
    | nil => cases hsplit
    | cons head rest =>
      obtain ⟨rfl, hrest⟩ := List.cons.inj hsplit
      cases rest with
      | nil => exact ⟨observed, rfl, hcount⟩
      | cons next rest =>
        obtain ⟨-, hlooked⟩ := List.cons.inj hrest
        cases looked with
        | none => exact absurd hlooked (by simp)
        | some looked =>
          cases rest with
          | nil => cases hlooked
          | cons _ _ => exact absurd (List.cons.inj hlooked).2 (by simp)

/-- **What a replacement records is guarded**: its shape, and the clipboard from event to event. -/
theorem Replaces.guarded {C : Type} {o : Outcome AdapterError Unit}
    {events : List (ClipboardEvent C)} {start last : Pasteboard C} (h : Replaces o events)
    (hchain : Chained start events last) : GuardedReplacement o events := by
  rcases h with ⟨⟨error, rfl⟩, rfl⟩ | ⟨first, rest, rfl, hafter⟩
  · exact ⟨fun h => (by cases h), fun _ _ _ h => absurd h.symm (by simp),
      fun _ _ _ hmem => absurd hmem List.not_mem_nil⟩
  · have hrest : Chained first rest last := hchain.2
    rcases hafter with ⟨checks, tail, rfl, hspares, ⟨error, rfl, herror⟩, htail⟩
      | ⟨p₁, p₂, p₃, p₄, p₅, rfl, hcount, houtcome⟩
    · refine ⟨fun h => (by cases h), ?_, fun e he _ _ => by cases he; exact herror⟩
      intro before pasteboard after hsplit
      cases before with
      | nil => exact Or.inl rfl
      | cons head before =>
        obtain ⟨rfl, hsplit'⟩ := List.cons.inj hsplit
        rcases List.append_eq_append_iff.mp hsplit' with
          ⟨mid, rfl, htail'⟩ | ⟨mid, hchecks, hmid⟩
        · obtain ⟨seen, rfl, hseen⟩ := htail.cleared_split htail'
          refine Or.inr ⟨first, checks, seen, rfl, hseen, ?_⟩
          rw [htail', List.singleton_append] at hrest
          exact Pasteboard.Later.changes_eq hrest.later hseen
        · cases mid with
          | nil =>
            have htail' : tail = [] ++ .cleared pasteboard :: after := hmid.symm
            obtain ⟨seen, hnil, -⟩ := htail.cleared_split htail'
            exact absurd hnil (by simp)
          | cons head mid =>
            obtain ⟨rfl, -⟩ := List.cons.inj hmid
            exact absurd rfl (hspares _ (by rw [hchecks]; simp) pasteboard)
    · obtain ⟨⟨h₁, -⟩, ⟨h₂, -⟩, ⟨-, h₃⟩, ⟨-, h₄⟩, ⟨-, h₅⟩, -⟩ := hrest
      have hkeeps : Pasteboard.Keeps p₂ p₅ := ((h₃ (fun _ _ h => by cases h)).trans
        (h₄ (fun _ _ h => by cases h))).trans (h₅ (fun _ _ h => by cases h))
      have hlater : Pasteboard.Later first p₂ := h₁.trans h₂
      have hchanges : p₅.changes = first.changes :=
        (hlater.trans hkeeps.later).changes_eq hcount
      have hsame : p₅.changes = p₂.changes := by
        have := hlater.changes
        have := hkeeps.later.changes
        omega
      refine ⟨fun _ => ⟨first, p₁, p₂, p₃, p₄, p₅, rfl, hcount, hchanges, hkeeps.content hsame⟩,
        ?_, ?_⟩
      · intro before pasteboard after hsplit
        cases before with
        | nil => exact Or.inl rfl
        | cons head before =>
          have hmem : ClipboardEvent.cleared pasteboard ∈ [ClipboardEvent.observed p₁,
              .wrote (.ok true) p₂, .observed p₃, .verified (.ok true) p₄, .observed p₅] := by
            rw [show [ClipboardEvent.observed p₁, .wrote (.ok true) p₂, .observed p₃,
              .verified (.ok true) p₄, .observed p₅] = before ++ .cleared pasteboard :: after
              from (List.cons.inj hsplit).2]
            simp
          exact absurd hmem (by simp)
      · rintro error rfl pasteboard -
        rcases houtcome with h | ⟨error', h, hdisposition⟩
        · cases h
        · rw [Outcome.error.inj h, hdisposition]
          simp

/-- **The clipboard replacement is a guarded transaction.** For every write and verification, and
whatever other processes do to the clipboard in between – each change of hands makes the count
grow, by however much: a replacement succeeds only when the content was verified and the clipboard
had not changed hands since this call cleared it, and then has what was written; a cleanup clears
the clipboard only when its count, looked at just before, is the one of this call; and once the old
content is cleared no failure says that nothing was delivered. -/
theorem replaceOn_guarded {σ C : Type} (world : ClipboardWorld σ C) (kind : String)
    (deadline : Deadline) : (world.replaceOn kind deadline).Sat GuardedReplacement :=
  fun s => (world.replaceOn_sat kind deadline s).guarded
    (world.replaceOn_keepsChain kind deadline s)

end AgentDesktop
