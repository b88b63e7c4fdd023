import AgentDesktop.Action
import AgentDesktop.ObservedTree
import AgentDesktop.Util.Effect

/-!
# The desktop

Everything outside the program is one environment with a state of its own: the
platform adapter, the clock, the sink of the trace, and the presentation of
actions and artifacts, which only ever reports to itself. Its operations may
answer anything at any time. What a ref action does to the target is recorded:
the target was resolved, found actionable, scrolled, acted on, read back, and
the interaction lease was taken and given back.
-/

namespace AgentDesktop

/-- `HitTestResult`. -/
inductive HitTestResult
  /-- The point reaches the target. -/
  | reachesTarget
  /-- Another element is in the way. -/
  | interceptedBy (role name : Option String) (bounds : Option Rect)
  /-- There is no answer. -/
  | unknown

/-- `ProcessState`. -/
inductive ProcessState
  | running
  | exited (code : Option ℤ)
  | crashed (signalOrCode : ℤ)
  | unresponsive
  deriving DecidableEq

/-- `ProcessState::label`. -/
def ProcessState.label : ProcessState → String
  | running => "running"
  | exited _ => "exited"
  | crashed _ => "crashed"
  | unresponsive => "unresponsive"

/-- `AppInfo`, as far as a ref action reads it. -/
structure AppInfo where
  name : String
  pid : ProcessId
  processInstance : Option String

/-- `InteractionLease`: the right to act, while it is held. -/
structure InteractionLease where
  deadline : Deadline
  /-- How often another holder was in the way. -/
  contentionCount : ℕ

/-- **The environment of a ref action**, with the handles `H` the platform gives
out. -/
structure Desktop (σ H : Type) where
  /-- The clock. -/
  now : σ → ℕ × σ
  /-- The deadline of the scope the command runs in. -/
  inheritedDeadline : Option Deadline
  sleep : ℕ → σ → Unit × σ
  resolveElementStrict : RefEntry → Deadline → σ → Except AdapterError H × σ
  getLiveElement : H → Deadline → σ → Except AdapterError LiveElement × σ
  getElementBounds : H → Deadline → σ → Except AdapterError (Option Rect) × σ
  /-- `get_text_selection`: the selected range, from and to. -/
  getTextSelection : H → Deadline → σ → Except AdapterError (Option (ℕ × ℕ)) × σ
  hitTest : H → Point → Deadline → σ → Except AdapterError HitTestResult × σ
  acquireInteractionLease : Deadline → σ → Except AdapterError InteractionLease × σ
  /-- Giving the lease back. -/
  releaseInteractionLease : InteractionLease → σ → Unit × σ
  scrollIntoView : H → InteractionLease → σ → Except AdapterError Unit × σ
  executeAction : H → ActionRequest → InteractionLease → σ →
    Except AdapterError ActionResult × σ
  resolveWindowStrict : WindowInfo → Deadline → σ → Except AdapterError WindowInfo × σ
  focusWindow : WindowInfo → InteractionLease → σ → Except AdapterError Unit × σ
  listSurfaces : ProcessIdentity → Deadline → σ → Except AdapterError (List SurfaceInfo) × σ
  processState : ProcessIdentity → Deadline → σ → Except AdapterError ProcessState × σ
  listApps : Deadline → σ → Except AdapterError (List AppInfo) × σ
  /-- `trace_lazy`: writing an event to the trace, which may fail when the trace
  is strict. -/
  traceLazy : String → Json → σ → Except AppError Unit × σ
  /-- The screenshots before and after an action, and the pointer shown for it: none
  of them reports anything. -/
  present : σ → Unit × σ

/-- **What a ref action does to its target.** -/
inductive RefActionEvent (H : Type)
  /-- The interaction lease was taken. -/
  | leaseAcquired
  /-- The lease was given back. -/
  | leaseReleased
  /-- The ref was resolved to a handle. -/
  | resolved (handle : H)
  /-- The target of the handle was found actionable. -/
  | preflighted (handle : H)
  /-- `scroll_into_view` was invoked, with this answer. -/
  | scrolled (handle : H) (answer : Except AdapterError Unit)
  /-- The event that announces the dispatch was written to the trace. -/
  | announced (answer : Except AppError Unit)
  /-- `execute_action` was invoked, with this answer. -/
  | executed (handle : H) (answer : Except AdapterError ActionResult)
  /-- The target was read back: what it says of the postcondition, or that it
  could not be read. -/
  | verified (verdict : Except AdapterError (Option Bool))

/-- A program that acts on a desktop. -/
abbrev RefProg (σ H ε α : Type) : Type := Prog σ (RefActionEvent H) ε α

namespace Desktop

variable {σ H ε : Type} (desktop : Desktop σ H)

/-- `Instant::now`. -/
def clock : RefProg σ H ε ℕ := Prog.ask desktop.now

/-- `is_expired`, now. -/
def isExpired (deadline : Deadline) : RefProg σ H ε Bool := do
  return deadline.isExpired (← desktop.clock)

/-- `timeout_error`, now. -/
def timeoutError (deadline : Deadline) : RefProg σ H ε AdapterError := do
  return deadline.timeoutError (← desktop.clock)

/-- `remaining_slice`, now. -/
def remainingSlice (deadline : Deadline) (maximum : ℕ) : RefProg σ H AdapterError ℕ := do
  Prog.ofExcept (deadline.remainingSlice (← desktop.clock) maximum)

/-- A trace event whose failure does not matter. -/
def traceBestEffort (event : String) (fields : Json) : RefProg σ H ε Unit := do
  let _ ← Prog.ask (desktop.traceLazy event fields)

/-- A trace event whose failure is an error. -/
def trace (event : String) (fields : Json) : RefProg σ H AppError Unit :=
  Prog.call (desktop.traceLazy event fields)

section

variable (deadline : Deadline)

theorem clock_sure : (desktop.clock : RefProg σ H ε ℕ).Sure := .ask _

theorem isExpired_sure : (desktop.isExpired deadline : RefProg σ H ε Bool).Sure :=
  desktop.clock_sure.bind (fun _ => .pure _)

theorem timeoutError_sure :
    (desktop.timeoutError deadline : RefProg σ H ε AdapterError).Sure :=
  desktop.clock_sure.bind (fun _ => .pure _)

theorem traceBestEffort_sure (event : String) (fields : Json) :
    (desktop.traceBestEffort event fields : RefProg σ H ε Unit).Sure :=
  (Prog.Sure.ask _).bind (fun _ => .pure _)

theorem remainingSlice_quiet (maximum : ℕ) : (desktop.remainingSlice deadline maximum).Quiet :=
  desktop.clock_sure.quiet.bind (fun _ => .ofExcept _)

theorem trace_quiet (event : String) (fields : Json) : (desktop.trace event fields).Quiet :=
  .call _

end

end Desktop

end AgentDesktop
