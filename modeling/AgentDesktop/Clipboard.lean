import AgentDesktop.Deadline
import AgentDesktop.Util.Effect

/-!
# Replacing the clipboard

The content of the clipboard is replaced in steps that other processes may come
between: it is cleared, which makes it this call's own; it is written; and what
was written is read back. The clipboard counts how often it changed hands, and
the count that the clearing produced is the token of the ownership: before and
after the content is verified, and before a failure is cleaned up, the token is
compared with the count.

The clipboard here has a second count, which the code cannot see: how often it
changed hands, whatever the growth of the visible count. Other processes take it
over between any two calls, and while the content is written or verified.
-/

namespace AgentDesktop

/-- **The clipboard.** -/
structure Pasteboard (C : Type) where
  count : ℤ
  /-- How often it changed hands. -/
  changes : ℕ
  content : C

/-- The clipboard changes hands: the count grows, and there is a new content. -/
structure HandChange (C : Type) where
  /-- How much the count grows beyond one. -/
  growth : ℕ
  content : C

/-- What happens while the content is written. -/
inductive WriteStep (C : Type)
  /-- The clipboard changes hands. -/
  | change (change : HandChange C)
  /-- The content is written, by the owner. -/
  | edit (content : C)

namespace Pasteboard

variable {C : Type}

/-- The clipboard when it has changed hands. -/
def change (pasteboard : Pasteboard C) (change : HandChange C) : Pasteboard C :=
  ⟨pasteboard.count + change.growth + 1, pasteboard.changes + 1, change.content⟩

/-- The clipboard after a step of the writing. -/
def write (pasteboard : Pasteboard C) : WriteStep C → Pasteboard C
  | .change change => pasteboard.change change
  | .edit content => { pasteboard with content }

/-- A clipboard as it is found later. -/
structure Later (before after : Pasteboard C) : Prop where
  /-- It has changed hands no less often. -/
  changes : before.changes ≤ after.changes
  /-- The count has grown with each change. -/
  count : before.count + (after.changes - before.changes : ℤ) ≤ after.count

theorem Later.refl (pasteboard : Pasteboard C) : Later pasteboard pasteboard :=
  ⟨le_rfl, by omega⟩

theorem Later.trans {first second third : Pasteboard C} (h : Later first second)
    (h' : Later second third) : Later first third :=
  ⟨h.changes.trans h'.changes, by have := h.count; have := h'.count; omega⟩

/-- **The count tells the owner**: where it is the same, the clipboard has not changed hands. -/
theorem Later.changes_eq {before after : Pasteboard C} (h : Later before after)
    (hcount : after.count = before.count) : after.changes = before.changes := by
  have := h.changes
  have := h.count
  omega

theorem later_change (pasteboard : Pasteboard C) (change : HandChange C) :
    Later pasteboard (pasteboard.change change) :=
  ⟨Nat.le_succ _, by simp only [Pasteboard.change]; push_cast; omega⟩

theorem later_write (pasteboard : Pasteboard C) (step : WriteStep C) :
    Later pasteboard (pasteboard.write step) := by
  cases step with
  | change change => exact later_change pasteboard change
  | edit content => exact ⟨le_rfl, by show _ ≤ pasteboard.count; simp [write]⟩

/-- The clipboard is later, and has its content as long as it has not changed hands. -/
structure Keeps (before after : Pasteboard C) : Prop where
  later : Later before after
  /-- The content is kept with the ownership. -/
  content : after.changes = before.changes → after.content = before.content

theorem Keeps.refl (pasteboard : Pasteboard C) : Keeps pasteboard pasteboard :=
  ⟨Later.refl pasteboard, fun _ => rfl⟩

theorem Keeps.trans {first second third : Pasteboard C} (h : Keeps first second)
    (h' : Keeps second third) : Keeps first third := by
  refine ⟨h.later.trans h'.later, fun hsame => ?_⟩
  have hfirst := h.later.changes
  have hsecond := h'.later.changes
  have hmid : second.changes = first.changes := by omega
  rw [h'.content (by omega), h.content hmid]

theorem keeps_change (pasteboard : Pasteboard C) (change : HandChange C) :
    Keeps pasteboard (pasteboard.change change) :=
  ⟨later_change pasteboard change, fun hsame => absurd hsame (Nat.succ_ne_self _)⟩

theorem keeps_foldl (changes : List (HandChange C)) (pasteboard : Pasteboard C) :
    Keeps pasteboard (changes.foldl change pasteboard) := by
  induction changes generalizing pasteboard with
  | nil => exact Keeps.refl pasteboard
  | cons change rest ih => exact (keeps_change pasteboard change).trans (ih _)

theorem later_foldl (steps : List (WriteStep C)) (pasteboard : Pasteboard C) :
    Later pasteboard (steps.foldl write pasteboard) := by
  induction steps generalizing pasteboard with
  | nil => exact Later.refl pasteboard
  | cons step rest ih => exact (later_write pasteboard step).trans (ih _)

end Pasteboard

/-! ## The world -/

/-- **What a replacement meets**: the clock, the other processes, the write and the
verification. -/
structure ClipboardWorld (σ C : Type) where
  clock : σ → ℕ × σ
  /-- The deadline of the command, where there is one. -/
  inheritedDeadline : Option Deadline
  /-- What other processes do before the next call. -/
  others : σ → List (HandChange C) × σ
  /-- How much the count grows when this call clears the clipboard. -/
  clearGrowth : σ → ℕ × σ
  /-- The content of a clipboard that was cleared. -/
  noContent : C
  /-- The write: its answer, and what happened to the clipboard meanwhile. -/
  write : Deadline → Pasteboard C → σ → (Except AdapterError Bool × List (WriteStep C)) × σ
  /-- The verification: its answer, and what other processes did meanwhile. -/
  verify : Deadline → Pasteboard C → σ → (Except AdapterError Bool × List (HandChange C)) × σ

/-- **What is recorded of a replacement**: each native call, with the clipboard it left. -/
inductive ClipboardEvent (C : Type)
  /-- The clipboard was cleared. -/
  | cleared (pasteboard : Pasteboard C)
  /-- The count was read. -/
  | observed (pasteboard : Pasteboard C)
  /-- The content was written. -/
  | wrote (result : Except AdapterError Bool) (pasteboard : Pasteboard C)
  /-- The content was verified. -/
  | verified (result : Except AdapterError Bool) (pasteboard : Pasteboard C)

namespace ClipboardEvent

variable {C : Type}

/-- The clipboard an event left. -/
def pasteboard : ClipboardEvent C → Pasteboard C
  | cleared pasteboard | observed pasteboard | wrote _ pasteboard | verified _ pasteboard =>
    pasteboard

end ClipboardEvent

/-- A program that works on the clipboard. -/
abbrev ClipboardProg (σ C α : Type) : Type :=
  Prog (Pasteboard C × σ) (ClipboardEvent C) AdapterError α

/-! ## Errors -/

/-- `owns`. -/
def owns (ownership current : ℤ) : Bool := decide (0 ≤ ownership) && ownership == current

/-- An error about a delivery, with a reason. -/
def clipboardDeliveryError (message reason : String) (disposition : DeliverySemantics) :
    AdapterError :=
  (((AdapterError.new .appUnresponsive message).withPlatformDetail reason).withSuggestion
    "Inspect the clipboard state before deciding whether to repeat the write").withDisposition
    disposition

/-- `delivered_unverified`. -/
def clipboardDeliveredUnverified (kind reason : String) : AdapterError :=
  clipboardDeliveryError ("Clipboard " ++ kind ++ " delivery could not be verified") reason
    .deliveredUnverified

/-- `delivery_uncertain`. -/
def clipboardDeliveryUncertain (kind reason : String) : AdapterError :=
  clipboardDeliveryError ("Clipboard " ++ kind ++ " delivery is uncertain") reason
    .deliveryUncertain

/-- `Deadline::from_duration`, with the duration in nanoseconds. -/
def Deadline.fromDuration (inherited : Option Deadline) (now duration : ℕ) :
    Except AdapterError Deadline :=
  Deadline.after inherited now ((duration + (nanosPerMs - 1)) / nanosPerMs)

namespace ClipboardWorld

variable {σ C : Type} (world : ClipboardWorld σ C)

/-! ## Native calls -/

/-- The clipboard when the other processes have had their turn. -/
def afterOthers (state : Pasteboard C × σ) : Pasteboard C × σ :=
  ((world.others state.2).1.foldl Pasteboard.change state.1, (world.others state.2).2)

/-- A native call: other processes come before it, it leaves a clipboard, and is recorded. -/
def nativeCall {α : Type} (call : Pasteboard C → σ → (α × Pasteboard C) × σ)
    (event : α → Pasteboard C → ClipboardEvent C) : ClipboardProg σ C (α × Pasteboard C) := do
  let answer ← Prog.ask (fun state =>
    let (pasteboard, others) := world.afterOthers state
    ((call pasteboard others).1, ((call pasteboard others).1.2, (call pasteboard others).2)))
  Prog.emit (event answer.1 answer.2)
  return answer

/-- `clear_contents`. -/
def clearContents : ClipboardProg σ C ℤ := do
  let (_, pasteboard) ← world.nativeCall (fun pasteboard s =>
    (((), pasteboard.change ⟨(world.clearGrowth s).1, world.noContent⟩), (world.clearGrowth s).2))
    (fun _ => .cleared)
  return pasteboard.count

/-- `change_count`. -/
def changeCount : ClipboardProg σ C ℤ := do
  let (_, pasteboard) ← world.nativeCall (fun pasteboard s => (((), pasteboard), s))
    (fun _ => .observed)
  return pasteboard.count

/-- The write that is asked for. -/
def writeContent (deadline : Deadline) : ClipboardProg σ C (Except AdapterError Bool) := do
  let (result, _) ← world.nativeCall (fun pasteboard s =>
    let ((result, steps), s') := world.write deadline pasteboard s
    ((result, steps.foldl Pasteboard.write pasteboard), s')) .wrote
  return result

/-- The verification that is asked for. -/
def verifyContent (deadline : Deadline) : ClipboardProg σ C (Except AdapterError Bool) := do
  let (result, _) ← world.nativeCall (fun pasteboard s =>
    let ((result, changes), s') := world.verify deadline pasteboard s
    ((result, changes.foldl Pasteboard.change pasteboard), s')) .verified
  return result

/-- The clock. -/
def now : ClipboardProg σ C ℕ :=
  Prog.ask (fun state => ((world.clock state.2).1, (state.1, (world.clock state.2).2)))

/-! ## The transaction -/

/-- A deadline that must not be over, with what is known of the delivery if it is. -/
def ensureBefore (deadline : Deadline) (disposition : DeliverySemantics) :
    ClipboardProg σ C Unit := do
  let now ← world.now
  if deadline.isExpired now then
    Prog.fail ((deadline.timeoutError now).withDisposition disposition)
  else return ()

/-- `ensure_not_started`. -/
def ensureNotStarted (deadline : Deadline) : ClipboardProg σ C Unit :=
  world.ensureBefore deadline .notDelivered

/-- `ensure_verified_before_return`. -/
def ensureVerifiedBeforeReturn (deadline : Deadline) : ClipboardProg σ C Unit :=
  world.ensureBefore deadline .deliveredVerified

/-- `reserve_cleanup_budget`. -/
def reserveCleanupBudget (deadline : Deadline) : ClipboardProg σ C Deadline := do
  let now ← world.now
  let remaining := deadline.remaining now
  if remaining ≤ 2 * nanosPerMs then
    Prog.fail ((deadline.timeoutError now).withDisposition .notDelivered)
  else
    let reserve := min (remaining / 2) (250 * nanosPerMs)
    let now ← world.now
    Prog.ofExcept (Deadline.fromDuration world.inheritedDeadline now (remaining - reserve))

/-- `clear_if_owned`. -/
def clearIfOwned (ownership : ℤ) (deadline : Deadline) : ClipboardProg σ C Bool := do
  let current ← world.changeCount
  if !owns ownership current then return false
  else
    world.ensureNotStarted deadline
    let cleanupOwnership ← world.clearContents
    let unverified : AdapterError :=
      .new .appUnresponsive "Clipboard cleanup could not be verified"
    if cleanupOwnership < 0 then Prog.fail unverified
    else
      let current ← world.changeCount
      if !owns cleanupOwnership current then Prog.fail unverified else return true

/-- `post_clear_failure`: it fails with its answer. -/
def postClearFailure (ownership : ℤ) (kind : String) (deadline : Deadline)
    (cause : AdapterError) : ClipboardProg σ C Unit := do
  match ← (Prog.attempt (world.clearIfOwned ownership deadline) : ClipboardProg σ C _) with
  | .ok cleaned =>
    let error := (AdapterError.new cause.code ("Clipboard " ++ kind
      ++ " replacement failed after clearing prior content")).withPlatformDetail cause.message
    Prog.fail ((error.withDetails (.obj [("cleanup_verified", .bool cleaned),
      ("concurrent_change", .bool (!cleaned))])).withDisposition .deliveredUnverified)
  | .error cleanupError =>
    Prog.fail (clipboardDeliveryUncertain kind
      (cause.message ++ "; cleanup failed: " ++ cleanupError.message))

/-- The part of `replace_on` that follows the clearing. -/
def writeAndVerify (kind : String) (deadline mutationDeadline : Deadline) (ownership : ℤ) :
    ClipboardProg σ C Unit := do
  match ← (Prog.attempt (world.ensureNotStarted mutationDeadline) : ClipboardProg σ C _) with
  | .error error => world.postClearFailure ownership kind deadline error
  | .ok () =>
    match ← world.writeContent mutationDeadline with
    | .error error => world.postClearFailure ownership kind deadline error
    | .ok false =>
      world.postClearFailure ownership kind deadline
        (.new .actionFailed ("Clipboard " ++ kind ++ " write failed"))
    | .ok true =>
      let current ← world.changeCount
      if !owns ownership current then
        Prog.fail (clipboardDeliveredUnverified kind
          "clipboard ownership changed before verification")
      else
        match ← world.verifyContent mutationDeadline with
        | .error error =>
          Prog.fail (clipboardDeliveredUnverified kind
            ("content verification failed: " ++ error.message))
        | .ok intended =>
          let current ← world.changeCount
          if !owns ownership current then
            Prog.fail (clipboardDeliveredUnverified kind
              "clipboard ownership changed during verification")
          else if !intended then
            world.postClearFailure ownership kind deadline (.new .actionFailed
              ("Clipboard " ++ kind ++ " did not retain the intended content"))
          else world.ensureVerifiedBeforeReturn deadline

/-- `replace_on`. -/
def replaceOn (kind : String) (deadline : Deadline) : ClipboardProg σ C Unit := do
  let mutationDeadline ← world.reserveCleanupBudget deadline
  world.ensureNotStarted mutationDeadline
  let ownership ← world.clearContents
  if ownership < 0 then
    Prog.fail (clipboardDeliveryUncertain kind
      "clearContents returned an invalid ownership token")
  else
    let current ← world.changeCount
    if !owns ownership current then
      Prog.fail (clipboardDeliveredUnverified kind
        "clipboard ownership changed immediately after clearContents")
    else world.writeAndVerify kind deadline mutationDeadline ownership

/-- `clear_verified`. -/
def clearVerified (deadline : Deadline) : ClipboardProg σ C Unit := do
  world.ensureNotStarted deadline
  let ownership ← world.clearContents
  let uncertain := clipboardDeliveryUncertain "clear" "clipboard ownership could not be verified"
  if ownership < 0 then Prog.fail uncertain
  else
    let current ← world.changeCount
    if !owns ownership current then Prog.fail uncertain
    else world.ensureVerifiedBeforeReturn deadline

end ClipboardWorld

end AgentDesktop
