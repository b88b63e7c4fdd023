import AgentDesktop.DataIsland
import AgentDesktop.TraceEventSize
import AgentDesktop.Util.Runs

/-!
# Writing a trace

Every event of a trace is one line, appended to a file. The file may have many writers: the
threads of a process share one, a process may have several, and with `--trace` other processes
write to the same file. Before it writes, a writer takes the lock of the file; it looks whether
the file is empty, and then writes a header first; and it writes nothing that makes the file too
long. A write that fails may leave a part of a line behind, and so does a process that is killed.

Each step is a function of what the system answers to it. Between any two steps other writers go
on, and any process may be killed. What is recorded of a run is what was added to the file, line
by line, and what the emissions came to.

Numbers of 64 bits do not overflow here: an event is counted by one, and files are bounded.
-/

namespace AgentDesktop

namespace TraceWriter

/-! ## One event -/

/-- What a process says of itself. -/
structure WriterProcess where
  /-- `std::process::id()`. -/
  pid : ℕ
  /-- `process_start_ms`. -/
  procStartMs : ℕ
  /-- The version of the program. -/
  version : String
  /-- The operating system. -/
  os : String

/-- How an event is stamped by a process. -/
def WriterProcess.stamp (process : WriterProcess) (seq : ℕ) : TraceStamp :=
  ⟨seq, process.pid, process.procStartMs⟩

/-- What is emitted. -/
structure EmitRequest where
  /-- The name of the event. -/
  event : String
  /-- The session, if there is one. -/
  sessionId : Option String
  fields : Json

/-- `write_meta_header_locked`: what the header is written from. -/
def metaHeader (process : WriterProcess) (sessionId : Option String) : EmitRequest where
  event := "trace.meta"
  sessionId := sessionId
  fields := .obj [("schema", .num 1), ("version", .str process.version), ("os", .str process.os),
    ("pid", .num process.pid), ("proc_start_ms", .num process.procStartMs)]

/-- **`write_event_locked`, up to the value of its line**; the time may not be known. -/
def eventBody (now : Except String ℕ) (stamp : TraceStamp) (request : EmitRequest) :
    Except AppError Json := do
  let envelope := envelopeBytes request.event request.sessionId
  if maxTraceEventBytes ≤ envelope || !valueFits request.fields (maxTraceEventBytes - envelope) then
    throw (.invalidInputWithSuggestion "Trace event exceeds the maximum supported event size"
      "Emit bounded metadata and omit raw application content from trace fields.")
  let tsMs ← now.mapError AppError.internal
  return bodyOf tsMs stamp request.event request.sessionId request.fields

/-- **What is written of a request**: it is refused where its charge does not fit in what the envelope
leaves of the limit, and else the value of its line is made. -/
theorem eventBody_eq_ok_iff {tsMs : ℕ} {stamp : TraceStamp} {request : EmitRequest} {body : Json} :
    eventBody (.ok tsMs) stamp request = .ok body
      ↔ envelopeBytes request.event request.sessionId < maxTraceEventBytes
        ∧ ValueFits.charge request.fields
          ≤ maxTraceEventBytes - envelopeBytes request.event request.sessionId
        ∧ bodyOf tsMs stamp request.event request.sessionId request.fields = body := by
  unfold eventBody
  dsimp only
  split_ifs with hrefused
  · refine iff_of_false nofun ?_
    rintro ⟨hroom, hfits, -⟩
    rw [(valueFits_iff _ _).mpr hfits, decide_eq_false (Nat.not_le.mpr hroom)] at hrefused
    cases hrefused
  · rw [Bool.or_eq_true, not_or, decide_eq_true_eq, Nat.not_le, Bool.not_eq_true,
      Bool.not_eq_false', valueFits_iff] at hrefused
    exact ⟨fun h => ⟨hrefused.1, hrefused.2, Except.ok.inj h⟩, fun h => congrArg Except.ok h.2.2⟩

section Line

variable [FloatFormat]

/-- **The bytes of a line.** -/
def lineBytes (body : Json) : List UInt8 := body.text.flatMap String.utf8EncodeChar ++ [10]

theorem length_lineBytes (body : Json) : (lineBytes body).length = lineSize body := by
  have hutf8 : ∀ text : List Char,
      (text.flatMap String.utf8EncodeChar).length = (text.map Char.utf8Size).sum := by
    intro text
    rw [List.length_flatMap]
    simp only [String.length_utf8EncodeChar]
  unfold lineBytes lineSize
  rw [List.length_append, hutf8, Json.sum_utf8Size_text]
  rfl

/-- **The value of a line is that of `write_event_locked`**, if the file has room for it. -/
theorem writeEventLocked_eq_eventBody (length : ℕ) (now : Except String ℕ) (stamp : TraceStamp)
    (request : EmitRequest) :
    writeEventLocked length now stamp request.event request.sessionId request.fields
      = (do
        let body ← eventBody now stamp request
        rejectOversizedTrace length (lineSize body)
        return body) := by
  unfold writeEventLocked eventBody
  simp only [sanitized_eq_obj]
  split_ifs with hrefused
  · rfl
  · cases now with
    | error reason => rfl
    | ok tsMs =>
      unfold bodyOf
      cases request.sessionId with
      | none => rfl
      | some sid => rfl

end Line

/-! ## Writers -/

/-- `TracePending`; the path of the file is fixed. -/
inductive TracePending
  | none | file | segmentDir
  deriving DecidableEq

/-- `TraceWriterState`. -/
inductive TraceWriterState
  | unopened | opened | failed
  deriving DecidableEq

/-- `TraceConfig::build`: the sink of a writer and what it begins with, by what `open_trace_file`
answers for an explicit path, if one is given, and by whether the session has a segment directory. -/
def buildTraceConfig (explicitPath : Option (Except AppError Unit)) (sessionSegmentDir strict : Bool) :
    Except AppError (TracePending × TraceWriterState) :=
  if strict && explicitPath.isNone && !sessionSegmentDir then
    .error (.invalidInputWithSuggestion
      "--trace-strict requires --trace or an active trace-enabled session"
      "Provide --trace <path>, start a session with tracing, or remove --trace-strict.")
  else
    match explicitPath with
    | some (.ok ()) => .ok (.file, .opened)
    | some (.error err) =>
      if strict || err.code == "INVALID_ARGS" then .error err else .ok (.file, .failed)
    | none => .ok (if sessionSegmentDir then .segmentDir else .none, .unopened)

/-- **A strict writer that is built has a file**, which has not failed to open. -/
theorem buildTraceConfig_strict {explicitPath : Option (Except AppError Unit)}
    {sessionSegmentDir : Bool} {pending : TracePending} {writer : TraceWriterState}
    (h : buildTraceConfig explicitPath sessionSegmentDir true = .ok (pending, writer)) :
    pending ≠ .none ∧ writer ≠ .failed := by
  unfold buildTraceConfig at h
  cases explicitPath with
  | none =>
    cases sessionSegmentDir with
    | true =>
      obtain ⟨rfl, rfl⟩ := Prod.mk.inj (Except.ok.inj h)
      exact ⟨nofun, nofun⟩
    | false => cases h
  | some opened =>
    cases opened with
    | ok _ =>
      obtain ⟨rfl, rfl⟩ := Prod.mk.inj (Except.ok.inj h)
      exact ⟨nofun, nofun⟩
    | error err => cases h

/-- **The parameters**: the writers `ι` of the file, each a `TraceConfig`, and their processes
`π`. -/
structure TraceWorld (ι π : Type) where
  /-- The process of a writer. -/
  process : ι → π
  /-- What it says of itself. -/
  about : π → WriterProcess
  /-- `TraceConfig::strict`. -/
  strict : ι → Bool
  /-- `TraceState::pending`. -/
  pending : ι → TracePending

/-- **How far a writer is** in `emit_lazy`. -/
inductive EmitPhase
  /-- Nothing is emitted. -/
  | idle
  /-- It waits for the lock of the file. -/
  | locking (request : EmitRequest)
  /-- `ensure_meta_if_needed` comes next. -/
  | checkingMeta (request : EmitRequest)
  /-- `write_event_locked` comes next, of the header or of the event. -/
  | preparing (header : Bool) (request : EmitRequest)
  /-- `write_all` goes on: this was written, and this is left. -/
  | writing (header : Bool) (request : EmitRequest) (seq : ℕ) (body : Json)
    (written rest : List UInt8)
  /-- `unlock` comes next. -/
  | unlocking (request : EmitRequest) (result : Except AppError Unit)

/-- Whether a writer has the lock. -/
def EmitPhase.locked : EmitPhase → Bool
  | .idle | .locking _ => false
  | .checkingMeta _ | .preparing _ _ | .writing _ _ _ _ _ _ | .unlocking _ _ => true

/-- What a writer is adding to the file. -/
def EmitPhase.written : EmitPhase → List UInt8
  | .writing _ _ _ _ written _ => written
  | _ => []

/-- **What was added to the file**: a line, or a part of one that nothing is added to any more. -/
structure TraceRecord (ι : Type) where
  writer : ι
  header : Bool
  /-- The number of the event. -/
  seq : ℕ
  /-- The value of the line. -/
  body : Json
  bytes : List UInt8

/-- What is recorded of a run. -/
inductive TraceLog (ι : Type)
  /-- Something was added to the file. -/
  | wrote (record : TraceRecord ι)
  /-- `emit_lazy` returned. -/
  | returned (writer : ι) (request : EmitRequest) (result : Except AppError Unit)

/-- **A trace file and its writers.** -/
structure TraceFile (ι π : Type) where
  /-- The file; one that is not there is empty. -/
  content : List UInt8
  holder : Option ι
  /-- `EVENT_SEQ` of each process. -/
  seq : π → ℕ
  /-- Which processes run. -/
  alive : π → Bool
  /-- `TraceState::writer`. -/
  writer : ι → TraceWriterState
  /-- `TraceState::meta_written`. -/
  metaWritten : ι → Bool
  /-- How far each writer is. -/
  phase : ι → EmitPhase

/-- **What the system answers**, to whatever it is asked. -/
structure EmitAnswer where
  /-- What opening the file comes to. -/
  opened : Except AppError Unit
  /-- What `metadata` fails with, if it does. -/
  stat : Option AppError
  now : Except String ℕ
  /-- How many bytes a write takes. -/
  took : Except AppError ℕ
  /-- What `unlock` fails with, if it does. -/
  unlock : Option AppError

/-! ## Steps -/

variable {ι π : Type} [DecidableEq ι] [DecidableEq π]

namespace TraceFile

variable (s : TraceFile ι π) (i : ι)

/-- A writer goes on. -/
def goTo (phase : EmitPhase) : TraceFile ι π :=
  { s with phase := Function.update s.phase i phase }

/-- `meta_written.store(true)`. -/
def noteMeta : TraceFile ι π :=
  { s with metaWritten := Function.update s.metaWritten i true }

end TraceFile

/-- What `emit_lazy` makes of the result: an error is only returned if tracing is strict. -/
def settle (strict : Bool) : Except AppError Unit → Except AppError Unit
  | .ok () => .ok ()
  | .error error => if strict then .error error else .ok ()

/-- **`ensure_writer`**: what becomes of the writer, and whether there is one. -/
def ensureWriter (strict : Bool) (pending : TracePending) (opened : Except AppError Unit) :
    TraceWriterState → TraceWriterState × Except AppError Bool
  | .opened => (.opened, .ok true)
  | .failed => (.failed, .ok false)
  | .unopened =>
    match pending with
    | .none => (.failed, .ok false)
    | .file | .segmentDir =>
      match opened with
      | .ok () => (.opened, .ok true)
      | .error error =>
        if strict then (.unopened, .error error)
        else if error.code == "INVALID_ARGS" then (.unopened, .error error)
        else (.failed, .ok false)

section Advance

variable [FloatFormat] (world : TraceWorld ι π) (s : TraceFile ι π) (i : ι) (answer : EmitAnswer)

/-- The process of a writer. -/
def TraceWorld.aboutOf (i : ι) : WriterProcess := world.about (world.process i)

/-- `emit_lazy` up to the lock. -/
def beginEmit (request : EmitRequest) : TraceFile ι π × Option (TraceLog ι) :=
  let (writer, sink) :=
    ensureWriter (world.strict i) (world.pending i) answer.opened (s.writer i)
  let s := { s with writer := Function.update s.writer i writer }
  match sink with
  | .error error => (s, some (.returned i request (.error error)))
  | .ok false => (s, some (.returned i request (.ok ())))
  | .ok true => (s.goTo i (.locking request), none)

/-- `with_exclusive_file` and `emit_lazy` return. -/
def endEmit (request : EmitRequest) (result : Except AppError Unit) :
    TraceFile ι π × Option (TraceLog ι) :=
  (s.goTo i .idle, some (.returned i request (settle (world.strict i) result)))

/-- `ensure_meta_if_needed`, up to the header. -/
def ensureMetaIfNeeded (request : EmitRequest) : TraceFile ι π :=
  if s.metaWritten i then s.goTo i (.preparing false request)
  else
    match answer.stat with
    | some error => s.goTo i (.unlocking request (.error error))
    | none =>
      if 0 < s.content.length then (s.noteMeta i).goTo i (.preparing false request)
      else s.goTo i (.preparing true request)

/-- **`write_event_locked`, up to `write_all`**: the event is refused, or counted and given a line,
and the line is refused if the file has no room for it. -/
def prepareLine (header : Bool) (request : EmitRequest) : TraceFile ι π :=
  let process := world.process i
  let source := if header then metaHeader (world.aboutOf i) request.sessionId else request
  let seq := s.seq process
  match eventBody answer.now ((world.aboutOf i).stamp seq) source with
  | .error error => s.goTo i (.unlocking request (.error error))
  | .ok body =>
    let s := { s with seq := Function.update s.seq process (seq + 1) }
    match answer.stat with
    | some error => s.goTo i (.unlocking request (.error error))
    | none =>
      match rejectOversizedTrace s.content.length (lineSize body) with
      | .error error => s.goTo i (.unlocking request (.error error))
      | .ok () => s.goTo i (.writing header request seq body [] (lineBytes body))

/-- What comes after a whole line: the event after the header, and then the end. -/
def afterLine (header : Bool) (request : EmitRequest) : TraceFile ι π :=
  if header then (s.noteMeta i).goTo i (.preparing false request)
  else s.goTo i (.unlocking request (.ok ()))

/-- What is recorded of a write that stops. -/
def torn (header : Bool) (seq : ℕ) (body : Json) (written : List UInt8) : Option (TraceLog ι) :=
  if written.isEmpty then none else some (.wrote ⟨i, header, seq, body, written⟩)

/-- **One `write` of `write_all`**: it takes a part of what is left, or fails. -/
def writeSome (header : Bool) (request : EmitRequest) (seq : ℕ) (body : Json)
    (written rest : List UInt8) : TraceFile ι π × Option (TraceLog ι) :=
  match answer.took with
  | .error error =>
    (s.goTo i (.unlocking request (.error error)), torn i header seq body written)
  | .ok count =>
    let s := { s with content := s.content ++ rest.take count }
    let written := written ++ rest.take count
    let rest := rest.drop count
    if rest.isEmpty then
      (afterLine s i header request, some (.wrote ⟨i, header, seq, body, written⟩))
    else (s.goTo i (.writing header request seq body written rest), none)

/-- `unlock`; if it fails, the lock is still there. -/
def unlock (request : EmitRequest) (result : Except AppError Unit) :
    TraceFile ι π × Option (TraceLog ι) :=
  match answer.unlock with
  | none => endEmit world { s with holder := none } i request result
  | some error => endEmit world s i request (result.bind (fun _ => .error error))

/-- **A step of a writer** that has the lock. -/
def advance (phase : EmitPhase) : TraceFile ι π × Option (TraceLog ι) :=
  match phase with
  | .idle | .locking _ => (s, none)
  | .checkingMeta request => (ensureMetaIfNeeded s i answer request, none)
  | .preparing header request => (prepareLine world s i answer header request, none)
  | .writing header request seq body written rest =>
    writeSome s i answer header request seq body written rest
  | .unlocking request result => unlock world s i answer request result

/-- What a process leaves behind that is killed. -/
def tornByCrash (p : π) : Option (TraceLog ι) :=
  (s.holder.filter (fun i => world.process i = p)).bind (fun i =>
    match s.phase i with
    | .writing header _ seq body written _ => torn i header seq body written
    | _ => none)

/-- A process is killed: its writers stop, and its lock is gone. -/
def crash (p : π) : TraceFile ι π :=
  { s with
    alive := Function.update s.alive p false
    holder := s.holder.filter (fun i => world.process i ≠ p)
    phase := fun i => if world.process i = p then .idle else s.phase i }

end Advance

/-- **What may happen** to a trace file. -/
inductive TraceStep [FloatFormat] (world : TraceWorld ι π) (s : TraceFile ι π) :
    Option (TraceLog ι) → TraceFile ι π → Prop
  /-- An event is emitted. -/
  | begin (i : ι) (request : EmitRequest) (answer : EmitAnswer)
    (halive : s.alive (world.process i) = true) (hidle : s.phase i = .idle) :
    TraceStep world s (beginEmit world s i answer request).2
      (beginEmit world s i answer request).1
  /-- The writer gets the lock; one that could not unlock has it still. -/
  | lock (i : ι) (request : EmitRequest) (hphase : s.phase i = .locking request)
    (hfree : ∀ j ∈ s.holder, j = i) :
    TraceStep world s none ({ s with holder := some i }.goTo i (.checkingMeta request))
  /-- The lock fails. -/
  | refuse (i : ι) (request : EmitRequest) (error : AppError)
    (hphase : s.phase i = .locking request) :
    TraceStep world s (endEmit world s i request (.error error)).2
      (endEmit world s i request (.error error)).1
  /-- It makes a step. -/
  | move (i : ι) (answer : EmitAnswer) (hlocked : (s.phase i).locked = true)
    (htook : ∀ count ∈ answer.took.toOption, 0 < count) :
    TraceStep world s (advance world s i answer (s.phase i)).2
      (advance world s i answer (s.phase i)).1
  /-- A process writes an event elsewhere. -/
  | elsewhere (p : π) :
    TraceStep world s none { s with seq := Function.update s.seq p (s.seq p + 1) }
  /-- A process is killed. -/
  | crash (p : π) : TraceStep world s (tornByCrash world s p) (crash world s p)

/-- **Before the first event**, with what is in the file and what has become of its writers. -/
def TraceFile.initial (content : List UInt8) (writer : ι → TraceWriterState) (seq : π → ℕ) :
    TraceFile ι π where
  content := content
  holder := none
  seq := seq
  alive := fun _ => true
  writer := writer
  metaWritten := fun _ => false
  phase := fun _ => .idle

end TraceWriter

end AgentDesktop
