import AgentDesktop.TraceWriterRuns

/-!
# What emissions come to

An emission that nothing disturbs takes the lock, looks for the header and gives its event a
line. What it returns can be relied on if tracing is strict: an emission that succeeds has its
line in the file, and no two have the same one. If tracing is not strict, an emission succeeds
whatever happens to its line.

The first part is about the file, and rests on `TraceInvariant` alone. The second is about one
writer at a time; it has an invariant of its own, which compares what the writer has returned with
what it has written.
-/

namespace AgentDesktop

namespace TraceWriter

variable {ι π : Type} {world : TraceWorld ι π}

/-! ## Emissions that nothing disturbs

Where nobody else has the lock and no call fails, the steps of an emission follow one another, and
what they add to the file is known exactly: one line, whole, or as much of it as was written before
the process was killed. The runs below put together files in which both have happened. -/

/-- **A writer is ready**: its process runs, its file is open, nothing is emitted, and nobody has
the lock. -/
structure TraceFile.Ready (world : TraceWorld ι π) (s : TraceFile ι π) (i : ι) : Prop where
  /-- Its process runs. -/
  alive : s.alive (world.process i) = true
  /-- It emits nothing. -/
  idle : s.phase i = .idle
  /-- Its file is open. -/
  opened : s.writer i = .opened
  /-- It has not noted a header. -/
  unnoted : s.metaWritten i = false
  /-- The lock is free. -/
  free : s.holder = none

/-- **What an emission adds to a file**: its line, as far as it came, and what its writer has
counted and noted. -/
def TraceFile.grown [DecidableEq ι] [DecidableEq π] (world : TraceWorld ι π) (s : TraceFile ι π)
    (i : ι) (line : List UInt8) : TraceFile ι π :=
  { s with
    content := s.content ++ line
    seq := Function.update s.seq (world.process i) (s.seq (world.process i) + 1)
    metaWritten := Function.update s.metaWritten i (!s.content.isEmpty) }

theorem TraceFile.Ready.grown [DecidableEq ι] [DecidableEq π] {s : TraceFile ι π} {i j : ι}
    (h : s.Ready world j) (hne : j ≠ i) (line : List UInt8) :
    (s.grown world i line).Ready world j where
  alive := h.alive
  idle := h.idle
  opened := h.opened
  unnoted := (Function.update_of_ne hne _ _).trans h.unnoted
  free := h.free

theorem TraceFile.Ready.crash [DecidableEq π] {s : TraceFile ι π} {j : ι} (h : s.Ready world j)
    {p : π} (hne : world.process j ≠ p) : (TraceWriter.crash world s p).Ready world j where
  alive := (Function.update_of_ne hne _ _).trans h.alive
  idle := (if_neg hne).trans h.idle
  opened := h.opened
  unnoted := h.unnoted
  free := by
    show s.holder.filter _ = none
    rw [h.free]
    rfl

theorem eventBody_of_fits (now : ℕ) (stamp : TraceStamp) (request : EmitRequest)
    (henvelope : envelopeBytes request.event request.sessionId < maxTraceEventBytes)
    (hfits : valueFits request.fields
      (maxTraceEventBytes - envelopeBytes request.event request.sessionId) = true) :
    eventBody (.ok now) stamp request
      = .ok (bodyOf now stamp request.event request.sessionId request.fields) := by
  unfold eventBody
  dsimp only
  rw [hfits, decide_eq_false (Nat.not_le.mpr henvelope)]
  rfl

/-- A system that answers. -/
def EmitAnswer.fine (now took : ℕ) : EmitAnswer := ⟨.ok (), none, .ok now, .ok took, none⟩

theorem fine_took (now : ℕ) {took : ℕ} (h : 0 < took) :
    ∀ count ∈ (EmitAnswer.fine now took).took.toOption, 0 < count := by
  intro count hcount
  obtain rfl : took = count := Option.some.inj hcount
  exact h

section Emission

variable [DecidableEq ι] [DecidableEq π] [FloatFormat] {first s : TraceFile ι π}
  {events : List (TraceLog ι)} {i : ι}

theorem runs_move (h : Runs (TraceStep world) first events s) {phase : EmitPhase}
    (hphase : s.phase i = phase) (hlocked : phase.locked = true) {answer : EmitAnswer}
    (htook : ∀ count ∈ answer.took.toOption, 0 < count) {s' : TraceFile ι π}
    {event : Option (TraceLog ι)} (hadvance : advance world s i answer phase = (s', event)) :
    Runs (TraceStep world) first (events ++ event.toList) s' := by
  have hmove := h.snoc (.move i answer (hphase ▸ hlocked) htook)
  rw [hphase, hadvance] at hmove
  exact hmove

theorem runs_move_quiet (h : Runs (TraceStep world) first events s) {phase : EmitPhase}
    (hphase : s.phase i = phase) (hlocked : phase.locked = true) {answer : EmitAnswer}
    (htook : ∀ count ∈ answer.took.toOption, 0 < count) {s' : TraceFile ι π}
    (hadvance : advance world s i answer phase = (s', none)) :
    Runs (TraceStep world) first events s' := by
  have hmove := runs_move h hphase hlocked htook hadvance
  rw [Option.toList_none, List.append_nil] at hmove
  exact hmove

theorem runs_locked (h : Runs (TraceStep world) first events s) (hready : s.Ready world i)
    (request : EmitRequest) :
    Runs (TraceStep world) first events
      ({ s with holder := some i }.goTo i (.checkingMeta request)) := by
  have hbegin : beginEmit world s i (.fine 0 1) request = (s.goTo i (.locking request), none) := by
    have hwriter : Function.update s.writer i TraceWriterState.opened = s.writer := by
      rw [← hready.opened, Function.update_eq_self]
    unfold beginEmit
    rw [hready.opened]
    show (TraceFile.goTo { s with writer := Function.update s.writer i .opened } i
      (.locking request), none) = _
    rw [hwriter]
  have hbegun := h.snoc (.begin i request (.fine 0 1) hready.alive hready.idle)
  rw [hbegin, Option.toList_none, List.append_nil] at hbegun
  have hfree : ∀ j ∈ (s.goTo i (.locking request)).holder, j = i := by
    intro j hj
    have hj : j ∈ s.holder := hj
    rw [hready.free] at hj
    cases hj
  have hlocked := hbegun.snoc (.lock i request (Function.update_self _ _ _) hfree)
  rw [Option.toList_none, List.append_nil] at hlocked
  simpa only [TraceFile.goTo, Function.update_idem] using hlocked

theorem runs_checked (h : Runs (TraceStep world) first events s) (hready : s.Ready world i)
    (request : EmitRequest) :
    Runs (TraceStep world) first events
      (TraceFile.goTo { s with
        holder := some i
        metaWritten := Function.update s.metaWritten i (!s.content.isEmpty) } i
        (.preparing s.content.isEmpty request)) := by
  have hmove := runs_move_quiet (runs_locked h hready request) (Function.update_self _ _ _) rfl
    (fine_took 0 Nat.one_pos) (by rw [advance])
  simp only [ensureMetaIfNeeded, EmitAnswer.fine, TraceFile.noteMeta, TraceFile.goTo,
    Function.update_idem, hready.unnoted, Bool.false_eq_true, if_false] at hmove
  by_cases hlength : 0 < s.content.length
  · have hempty : s.content.isEmpty = false := by
      simpa using List.ne_nil_of_length_pos hlength
    rw [if_pos hlength] at hmove
    rw [hempty]
    exact hmove
  · have hempty : s.content.isEmpty = true := by simpa using hlength
    have hunnoted : Function.update s.metaWritten i false = s.metaWritten := by
      rw [← hready.unnoted, Function.update_eq_self]
    rw [if_neg hlength] at hmove
    rw [hempty, Bool.not_true, hunnoted]
    exact hmove

/-- **A line is prepared** where nothing disturbs: the header in an empty file, and else the
event. -/
theorem runs_prepared (h : Runs (TraceStep world) first events s) (hready : s.Ready world i)
    (request : EmitRequest) {now : ℕ} {body : Json}
    (hbody : eventBody (.ok now) ((world.aboutOf i).stamp (s.seq (world.process i)))
      (sourceOf world i s.content.isEmpty request) = .ok body)
    (hroom : s.content.length + lineSize body ≤ maxTraceFileBytes) :
    Runs (TraceStep world) first events
      (TraceFile.goTo { s.grown world i [] with holder := some i } i
        (.writing s.content.isEmpty request (s.seq (world.process i)) body []
          (lineBytes body))) := by
  have hmove := runs_move_quiet (runs_checked h hready request) (Function.update_self _ _ _) rfl
    (fine_took now Nat.one_pos) (by rw [advance])
  have hfits : rejectOversizedTrace s.content.length (lineSize body) = .ok () := by
    unfold rejectOversizedTrace
    rw [if_pos hroom]
  unfold sourceOf at hbody
  unfold prepareLine at hmove
  dsimp only [EmitAnswer.fine, TraceFile.goTo] at hmove
  rw [hbody] at hmove
  dsimp only at hmove
  rw [hfits] at hmove
  dsimp only at hmove
  rw [Function.update_idem] at hmove
  unfold TraceFile.grown
  rw [List.append_nil]
  exact hmove

/-- **An emission that nothing disturbs has its line in the file**, if there is something in it. -/
theorem runs_emitted (h : Runs (TraceStep world) first events s) (hready : s.Ready world i)
    (request : EmitRequest) {now : ℕ} {body : Json} (hcontent : s.content.isEmpty = false)
    (hbody : eventBody (.ok now) ((world.aboutOf i).stamp (s.seq (world.process i))) request
      = .ok body)
    (hroom : s.content.length + lineSize body ≤ maxTraceFileBytes) :
    Runs (TraceStep world) first (events
        ++ [.wrote ⟨i, false, s.seq (world.process i), body, lineBytes body⟩,
          .returned i request (.ok ())])
      (s.grown world i (lineBytes body)) := by
  have hprepared := runs_prepared h hready request (by rw [hcontent]; exact hbody) hroom
  rw [hcontent] at hprepared
  have hlength : 0 < (lineBytes body).length := by
    rw [length_lineBytes]
    exact Nat.succ_pos _
  -- one write takes the whole line
  have hwrite : ∀ t : TraceFile ι π, advance world t i (.fine now (lineBytes body).length)
      (.writing false request (s.seq (world.process i)) body [] (lineBytes body))
      = (TraceFile.goTo { t with content := t.content ++ lineBytes body } i
          (.unlocking request (.ok ())),
        some (.wrote ⟨i, false, s.seq (world.process i), body, lineBytes body⟩)) := by
    intro t
    rw [advance]
    unfold writeSome
    dsimp only [EmitAnswer.fine]
    rw [List.take_length, List.drop_length]
    rfl
  have hwritten := runs_move hprepared (Function.update_self _ _ _) rfl (fine_took now hlength)
    (hwrite _)
  have hunlock : ∀ t : TraceFile ι π, advance world t i (.fine now 1) (.unlocking request (.ok ()))
      = (TraceFile.goTo { t with holder := none } i .idle, some (.returned i request (.ok ()))) :=
    fun _ => rfl
  have hunlocked := runs_move hwritten (Function.update_self _ _ _) rfl
    (fine_took now Nat.one_pos) (hunlock _)
  have hidle : Function.update s.phase i EmitPhase.idle = s.phase := by
    rw [← hready.idle, Function.update_eq_self]
  simpa only [TraceFile.grown, TraceFile.goTo, Function.update_idem, hidle, hready.free,
    List.append_nil, List.append_assoc, Option.toList_some, List.singleton_append] using hunlocked

/-- **A process that is killed leaves a part of its line behind.** -/
theorem runs_torn (h : Runs (TraceStep world) first events s) (hready : s.Ready world i)
    (request : EmitRequest) {now : ℕ} {body : Json}
    (hbody : eventBody (.ok now) ((world.aboutOf i).stamp (s.seq (world.process i)))
      (sourceOf world i s.content.isEmpty request) = .ok body)
    (hroom : s.content.length + lineSize body ≤ maxTraceFileBytes) {count : ℕ}
    (hcount : 0 < count) (hpart : count < (lineBytes body).length) :
    Runs (TraceStep world) first (events
        ++ [.wrote ⟨i, s.content.isEmpty, s.seq (world.process i), body,
          (lineBytes body).take count⟩])
      (crash world (s.grown world i ((lineBytes body).take count)) (world.process i)) := by
  have hrest : ((lineBytes body).drop count).isEmpty = false := by
    simpa using hpart
  have htaken : ((lineBytes body).take count).isEmpty = false := by
    rw [List.isEmpty_eq_false_iff, ← List.length_pos_iff, List.length_take]
    exact Nat.lt_min.mpr ⟨hcount, hcount.trans hpart⟩
  have htaken' : (lineBytes body).take count ≠ [] := by simpa using htaken
  have hwrite : ∀ t : TraceFile ι π, advance world t i (.fine now count)
      (.writing s.content.isEmpty request (s.seq (world.process i)) body [] (lineBytes body))
      = (TraceFile.goTo { t with content := t.content ++ (lineBytes body).take count } i
          (.writing s.content.isEmpty request (s.seq (world.process i)) body
            ((lineBytes body).take count) ((lineBytes body).drop count)), none) := by
    intro t
    rw [advance]
    unfold writeSome
    dsimp only [EmitAnswer.fine]
    rw [hrest]
    rfl
  have hmoved := runs_move_quiet (runs_prepared h hready request hbody hroom)
    (Function.update_self _ _ _) rfl (fine_took now hcount) (hwrite _)
  have hcrashed := hmoved.snoc (.crash (world.process i))
  -- whose writer it was, it has stopped
  have hstopped : ∀ phase : EmitPhase, (fun j => if world.process j = world.process i
      then EmitPhase.idle else Function.update s.phase i phase j)
      = fun j => if world.process j = world.process i then EmitPhase.idle else s.phase j := by
    intro phase
    funext j
    split_ifs with hj
    · rfl
    · exact Function.update_of_ne (fun heq => hj (congrArg world.process heq)) _ _
  simpa [tornByCrash, crash, torn, TraceFile.grown, TraceFile.goTo, hready.free, hstopped,
    Option.filter_some, htaken'] using hcrashed

/-! ## The file -/

/-- **A trace file is what was recorded of it.** Whoever writes, whatever fails and whoever is
killed: the file is what it was at first, then the records in their order, each a line or the
beginning of one, and then the beginning of the line that is being written. Only the first record
is a header, and it is one just if the file was empty; the records of a process are numbered in
their order; and the file is within the limit if it was at first. -/
theorem trace_file_accounts {content : List UInt8} {writer : ι → TraceWriterState} {seq : π → ℕ}
    (h : Runs (TraceStep world) (.initial content writer seq) events s) :
    TraceAccount world content (recordsOf events) s.content s.seq s.unfinished
      ∧ (s.unfinished = [] ∨ ∃ body rest, rest ≠ [] ∧ s.unfinished ++ rest = lineBytes body) :=
  ⟨(TraceInvariant.of_runs h).account, (TraceInvariant.of_runs h).unfinished_begins⟩

end Emission

namespace Sample

attribute [local instance] AgentDesktop.Sample.halfFormat

/-- Writers that are processes of their own. -/
def separateWriters : TraceWorld ℕ ℕ where
  process := id
  about := fun pid => ⟨pid, 0, "1", "macos"⟩
  strict := fun _ => true
  pending := fun _ => .file

/-- A file that all have open. -/
def openFile : TraceFile ℕ ℕ := .initial [] (fun _ => .opened) (fun _ => 0)

theorem ready_openFile (i : ℕ) : openFile.Ready separateWriters i := ⟨rfl, rfl, rfl, rfl, rfl⟩

/-- An event without fields. -/
def started : EmitRequest := ⟨"start", none, .obj []⟩

/-- What is written of it. -/
def startedBody (pid : ℕ) : Json := bodyOf 0 ⟨0, pid, 0⟩ "start" none (.obj [])

/-- What is written of a header. -/
def headerBody : Json :=
  bodyOf 0 ⟨0, 0, 0⟩ "trace.meta" none (metaHeader ⟨0, 0, "1", "macos"⟩ none).fields

/-- The first process is killed when it has written one byte; two others emit an event each. -/
def tornEvents : List (TraceLog ℕ) :=
  [.wrote ⟨0, true, 0, headerBody, (lineBytes headerBody).take 1⟩]
    ++ [.wrote ⟨1, false, 0, startedBody 1, lineBytes (startedBody 1)⟩,
      .returned 1 started (.ok ())]
    ++ [.wrote ⟨2, false, 0, startedBody 2, lineBytes (startedBody 2)⟩,
      .returned 2 started (.ok ())]

theorem eventBody_started (pid : ℕ) :
    eventBody (.ok 0) ⟨0, pid, 0⟩ started = .ok (startedBody pid) :=
  eventBody_of_fits 0 ⟨0, pid, 0⟩ started (by decide) (by decide)

theorem eventBody_header :
    eventBody (.ok 0) ⟨0, 0, 0⟩ (metaHeader ⟨0, 0, "1", "macos"⟩ none) = .ok headerBody :=
  eventBody_of_fits 0 ⟨0, 0, 0⟩ _ (by decide) (by decide)

theorem lineSize_samples : lineSize headerBody ≤ 300 ∧ 1 < lineSize headerBody
    ∧ lineSize (startedBody 1) ≤ 300 ∧ lineSize (startedBody 2) ≤ 300 := by
  decide +kernel

theorem runs_started {events : List (TraceLog ℕ)} {s : TraceFile ℕ ℕ} {pid : ℕ}
    (h : Runs (TraceStep separateWriters) openFile events s) (hready : s.Ready separateWriters pid)
    (hseq : s.seq pid = 0) (hcontent : s.content.isEmpty = false)
    (hlength : s.content.length ≤ 1000) (hsize : lineSize (startedBody pid) ≤ 300) :
    Runs (TraceStep separateWriters) openFile (events
        ++ [.wrote ⟨pid, false, 0, startedBody pid, lineBytes (startedBody pid)⟩,
          .returned pid started (.ok ())])
      (s.grown separateWriters pid (lineBytes (startedBody pid))) := by
  have hroom : s.content.length + lineSize (startedBody pid) ≤ maxTraceFileBytes :=
    Nat.le_trans (Nat.add_le_add hlength hsize) (by decide)
  have hseq' : s.seq (separateWriters.process pid) = 0 := hseq
  have hbody : eventBody (.ok 0) ((separateWriters.aboutOf pid).stamp
      (s.seq (separateWriters.process pid))) started = .ok (startedBody pid) := by
    rw [hseq']
    exact eventBody_started pid
  have hemitted := runs_emitted h hready started hcontent hbody hroom
  rw [hseq'] at hemitted
  exact hemitted

theorem exists_tornEvents : ∃ s, Runs (TraceStep separateWriters) openFile tornEvents s := by
  obtain ⟨hheader, hlong, hone, htwo⟩ := lineSize_samples
  have htorn := runs_torn .refl (ready_openFile 0) started eventBody_header
    (Nat.le_trans (Nat.add_le_add_left hheader _) (by decide)) Nat.one_pos
    (by rw [length_lineBytes]; exact hlong)
  set s := crash separateWriters
    (openFile.grown separateWriters 0 ((lineBytes headerBody).take 1)) 0
  have hlength : s.content.length = 1 := by
    show ([] ++ (lineBytes headerBody).take 1).length = 1
    rw [List.nil_append, List.length_take, length_lineBytes]
    exact Nat.min_eq_left hlong.le
  have hready : ∀ j, j ≠ 0 → s.Ready separateWriters j := fun j hne =>
    ((ready_openFile j).grown hne _).crash hne
  have hstarted := runs_started htorn (hready 1 (by decide)) rfl
    (by simpa using List.ne_nil_of_length_pos (hlength ▸ Nat.one_pos))
    (hlength.le.trans (by decide)) hone
  set t := s.grown separateWriters 1 (lineBytes (startedBody 1))
  have hlength' : t.content.length = 1 + lineSize (startedBody 1) := by
    show (s.content ++ lineBytes (startedBody 1)).length = _
    rw [List.length_append, length_lineBytes, hlength]
  exact ⟨_, runs_started hstarted ((hready 2 (by decide)).grown (by decide) _) rfl
    (by simpa using List.ne_nil_of_length_pos (hlength' ▸ Nat.lt_add_right _ Nat.one_pos))
    (hlength'.le.trans (by omega)) htwo⟩

end Sample

theorem trace_file_accounts_torn : ∃ s : TraceFile ℕ ℕ,
    @TraceAccount _ _ AgentDesktop.Sample.halfFormat Sample.separateWriters []
        (recordsOf (@Sample.tornEvents)) s.content s.seq s.unfinished
      ∧ (s.unfinished = [] ∨ ∃ body rest, rest ≠ []
        ∧ s.unfinished ++ rest = @lineBytes AgentDesktop.Sample.halfFormat body) := by
  obtain ⟨s, hrun⟩ := Sample.exists_tornEvents
  exact ⟨s, @trace_file_accounts _ _ _ _ _ AgentDesktop.Sample.halfFormat _ _ _ _ _ hrun⟩

/-! ## Strict tracing

A strict emission fails when its line cannot be written, so its success says something. The
invariant pairs the successes of a writer with the whole lines of its events, in their order; a
line that is whole while the writer has not returned yet belongs to a success that it will report.
A crash takes away the report, never the line. -/

section Strict

/-- The request of an emission of a writer that succeeded. -/
def TraceLog.okOf [DecidableEq ι] (i : ι) : TraceLog ι → Option EmitRequest
  | .returned j request (.ok ()) => if j = i then some request else none
  | .returned _ _ (.error _) | .wrote _ => none

/-- **The emissions of a writer that succeeded.** -/
def okRequests [DecidableEq ι] (i : ι) (events : List (TraceLog ι)) : List EmitRequest :=
  events.filterMap (TraceLog.okOf i)

/-- Whether a record is the whole line of an event of a writer. -/
def TraceRecord.isEventOf [DecidableEq ι] [FloatFormat] (record : TraceRecord ι) (i : ι) : Bool :=
  decide (record.writer = i) && !record.header && record.whole

/-- **The events of a writer that have their whole line.** -/
def wholeEvents [DecidableEq ι] [FloatFormat] (i : ι) (events : List (TraceLog ι)) :
    List (TraceRecord ι) :=
  (recordsOf events).filter (fun record => record.isEventOf i)

/-- What a writer will say when it returns: an emission that has its line. -/
def EmitPhase.earned : EmitPhase → List EmitRequest
  | .unlocking request (.ok ()) => [request]
  | _ => []

variable [DecidableEq ι] [FloatFormat] {s : TraceFile ι π} {events : List (TraceLog ι)} {i : ι}

/-- **Each success of a writer has a line**, in their order, also one that it will report. The
lines are a part of those it has written, since a writer may be killed when its line is whole and
it has not returned. -/
structure Earned (world : TraceWorld ι π) (i : ι) (events : List (TraceLog ι))
    (s : TraceFile ι π) : Prop where
  /-- The writer has not given up its file. -/
  writer : s.writer i ≠ .failed
  lines : ∃ lines : List (TraceRecord ι), lines.Sublist (wholeEvents i events)
    ∧ List.Forall₂ (fun request record => TraceRecord.From world record request)
      (okRequests i events ++ (s.phase i).earned) lines

omit [FloatFormat] in
theorem okRequests_append (events : List (TraceLog ι)) (event : Option (TraceLog ι)) :
    okRequests i (events ++ event.toList)
      = okRequests i events ++ (event.bind (TraceLog.okOf i)).toList := by
  unfold okRequests
  rw [List.filterMap_append, filterMap_toList]

theorem wholeEvents_append (events : List (TraceLog ι)) (event : Option (TraceLog ι)) :
    wholeEvents i (events ++ event.toList)
      = wholeEvents i events ++ (event.bind TraceLog.record).toList.filter
        (fun record => record.isEventOf i) := by
  unfold wholeEvents
  rw [recordsOf_append, List.filter_append]

omit [FloatFormat] in
theorem ensureMetaIfNeeded_eq (s : TraceFile ι π) (i : ι) (answer : EmitAnswer)
    (request : EmitRequest) :
    ∃ (t : TraceFile ι π) (phase : EmitPhase),
      ensureMetaIfNeeded s i answer request = t.goTo i phase ∧ t.phase = s.phase
      ∧ t.writer = s.writer ∧ phase.earned = [] := by
  unfold ensureMetaIfNeeded
  by_cases hmeta : s.metaWritten i = true
  · rw [if_pos hmeta]
    exact ⟨_, _, rfl, rfl, rfl, rfl⟩
  · rw [if_neg hmeta]
    cases answer.stat with
    | some error => exact ⟨_, _, rfl, rfl, rfl, rfl⟩
    | none =>
      dsimp only
      split_ifs
      · exact ⟨_, _, rfl, rfl, rfl, rfl⟩
      · exact ⟨_, _, rfl, rfl, rfl, rfl⟩

theorem prepareLine_eq [DecidableEq π] (world : TraceWorld ι π) (s : TraceFile ι π) (i : ι)
    (answer : EmitAnswer) (header : Bool) (request : EmitRequest) :
    ∃ (t : TraceFile ι π) (phase : EmitPhase),
      prepareLine world s i answer header request = t.goTo i phase ∧ t.phase = s.phase
      ∧ t.writer = s.writer ∧ phase.earned = [] := by
  unfold prepareLine
  dsimp only
  split
  · exact ⟨_, _, rfl, rfl, rfl, rfl⟩
  · split
    · exact ⟨_, _, rfl, rfl, rfl, rfl⟩
    · split
      · exact ⟨_, _, rfl, rfl, rfl, rfl⟩
      · exact ⟨_, _, rfl, rfl, rfl, rfl⟩

omit [FloatFormat] in
theorem okOf_torn (i j : ι) (header : Bool) (seq : ℕ) (body : Json) (written : List UInt8) :
    (torn j header seq body written).bind (TraceLog.okOf i) = none := by
  unfold torn
  split_ifs
  · rfl
  · rfl

omit [FloatFormat] in
theorem okOf_tornByCrash [DecidableEq π] (world : TraceWorld ι π) (s : TraceFile ι π) (i : ι)
    (p : π) :
    (tornByCrash world s p).bind (TraceLog.okOf i) = none := by
  unfold tornByCrash
  cases s.holder.filter (fun j => world.process j = p) with
  | none => rfl
  | some j =>
    rw [Option.bind_some]
    cases s.phase j with
    | writing header request seq body written rest => exact okOf_torn i j header seq body written
    | idle | locking | checkingMeta | preparing | unlocking => rfl

namespace Earned

theorem keep (h : Earned world i events s) {event : Option (TraceLog ι)} {s' : TraceFile ι π}
    (hwriter : s'.writer i ≠ .failed)
    (hpromised : (event.bind (TraceLog.okOf i)).toList ++ (s'.phase i).earned
      <+: (s.phase i).earned) :
    Earned world i (events ++ event.toList) s' := by
  obtain ⟨lines, hlines, hall⟩ := h.lines
  have hsplit : okRequests i (events ++ event.toList) ++ (s'.phase i).earned
      = (okRequests i events ++ (s.phase i).earned).take
        (okRequests i (events ++ event.toList) ++ (s'.phase i).earned).length := by
    refine List.prefix_iff_eq_take.mp ?_
    rw [okRequests_append, List.append_assoc]
    exact (List.prefix_append_right_inj _).mpr hpromised
  refine ⟨hwriter, lines.take _, ?_, hsplit ▸ List.forall₂_take _ hall⟩
  rw [wholeEvents_append]
  exact (List.take_sublist _ _).trans (hlines.trans (List.sublist_append_left _ _))

/-- A writer that says nothing, and is where it was or has nothing to say, keeps what it has. -/
theorem keep_quiet (h : Earned world i events s) {event : Option (TraceLog ι)}
    {s' : TraceFile ι π} (hwriter : s'.writer i ≠ .failed)
    (hquiet : event.bind (TraceLog.okOf i) = none)
    (hphase : s'.phase i = s.phase i ∨ (s'.phase i).earned = []) :
    Earned world i (events ++ event.toList) s' := by
  refine h.keep hwriter ?_
  rw [hquiet]
  show (s'.phase i).earned <+: _
  rcases hphase with hsame | hnothing
  · rw [hsame]
  · rw [hnothing]
    exact List.nil_prefix

/-- **A line that becomes whole** is promised, and there. -/
theorem pay (h : Earned world i events s) {request : EmitRequest} {record : TraceRecord ι}
    {s' : TraceFile ι π} (hwriter : s'.writer i ≠ .failed) (hbefore : (s.phase i).earned = [])
    (hafter : (s'.phase i).earned = [request]) (hrecord : record.From world request)
    (hwhole : record.isEventOf i = true) :
    Earned world i (events ++ (some (TraceLog.wrote record)).toList) s' := by
  obtain ⟨lines, hlines, hall⟩ := h.lines
  rw [hbefore, List.append_nil] at hall
  refine ⟨hwriter, lines ++ [record], ?_, ?_⟩
  · rw [wholeEvents_append]
    refine hlines.append ?_
    show [record].Sublist ([record].filter (fun record => record.isEventOf i))
    rw [List.filter_cons_of_pos (p := fun record => TraceRecord.isEventOf record i) hwhole]
    exact List.Sublist.refl _
  · rw [okRequests_append, hafter]
    show List.Forall₂ _ (okRequests i events ++ [] ++ [request]) _
    rw [List.append_nil]
    exact List.rel_append hall (List.Forall₂.cons hrecord List.Forall₂.nil)

/-- **An emission begins**: a strict writer does not give up its file, and says nothing but
errors. -/
theorem begin (h : Earned world i events s) (hstrict : world.strict i = true)
    (hsink : world.pending i ≠ .none) (j : ι) (request : EmitRequest) (answer : EmitAnswer) :
    Earned world i (events ++ (beginEmit world s j answer request).2.toList)
      (beginEmit world s j answer request).1 := by
  rcases eq_or_ne j i with rfl | hne
  · obtain ⟨writer, sink, hensure, hwriter, hrefused⟩ : ∃ writer sink,
        ensureWriter (world.strict j) (world.pending j) answer.opened (s.writer j) = (writer, sink)
          ∧ writer ≠ .failed ∧ sink ≠ .ok false := by
      rw [hstrict]
      cases hstate : s.writer j with
      | opened => exact ⟨_, _, rfl, nofun, nofun⟩
      | failed => exact absurd hstate h.writer
      | unopened =>
        cases hpending : world.pending j with
        | none => exact absurd hpending hsink
        | file | segmentDir =>
          cases answer.opened with
          | ok _ => exact ⟨_, _, rfl, nofun, nofun⟩
          | error error => exact ⟨_, _, rfl, nofun, nofun⟩
    have hupdated : Function.update s.writer j writer j ≠ .failed := by
      rw [Function.update_self]
      exact hwriter
    unfold beginEmit
    rw [hensure]
    match sink, hrefused with
    | .error error, _ => exact h.keep_quiet hupdated rfl (Or.inl rfl)
    | .ok false, hrefused => exact absurd rfl hrefused
    | .ok true, _ =>
      refine h.keep_quiet hupdated rfl (Or.inr ?_)
      show (Function.update s.phase j _ j).earned = []
      rw [Function.update_self]
      rfl
  · unfold beginEmit
    obtain ⟨writer, sink⟩ :=
      ensureWriter (world.strict j) (world.pending j) answer.opened (s.writer j)
    have hwriter : Function.update s.writer j writer i ≠ .failed := by
      rw [Function.update_of_ne hne.symm]
      exact h.writer
    match sink with
    | .error error => exact h.keep_quiet hwriter rfl (Or.inl rfl)
    | .ok false => exact h.keep_quiet hwriter (if_neg hne) (Or.inl rfl)
    | .ok true =>
      exact h.keep_quiet hwriter rfl (Or.inl (Function.update_of_ne hne.symm _ _))

/-- **An emission ends**: it succeeds if its line was promised. -/
theorem endEmit (h : Earned world i events s) (hstrict : world.strict i = true) {j : ι}
    {request : EmitRequest} {result : Except AppError Unit}
    (hresult : j = i → result = .ok () → (s.phase i).earned = [request]) :
    Earned world i (events ++ (TraceWriter.endEmit world s j request result).2.toList)
      (TraceWriter.endEmit world s j request result).1 := by
  rcases eq_or_ne j i with rfl | hne
  · have hidle : (Function.update s.phase j EmitPhase.idle j).earned = [] := by
      rw [Function.update_self]
      rfl
    cases result with
    | error error =>
      refine h.keep_quiet h.writer ?_ (Or.inr hidle)
      show TraceLog.okOf j (.returned j request (settle (world.strict j) (.error error))) = none
      rw [hstrict]
      rfl
    | ok _ =>
      refine h.keep h.writer ?_
      show (TraceLog.okOf j (.returned j request (.ok ()))).toList
        ++ (Function.update s.phase j EmitPhase.idle j).earned <+: _
      rw [hidle, hresult rfl rfl]
      show (if j = j then some request else none).toList ++ [] <+: [request]
      rw [if_pos rfl]
      exact List.prefix_rfl
  · refine h.keep_quiet h.writer ?_ (Or.inl (Function.update_of_ne hne.symm _ _))
    show TraceLog.okOf i (.returned j request (settle (world.strict j) result)) = none
    cases settle (world.strict j) result with
    | ok _ => exact if_neg hne
    | error error => rfl

theorem of_goTo (h : Earned world i events s) {t : TraceFile ι π} {j : ι} {phase : EmitPhase}
    {event : Option (TraceLog ι)} (hphase : t.phase = s.phase) (hwriter : t.writer = s.writer)
    (hnothing : phase.earned = []) (hquiet : event.bind (TraceLog.okOf i) = none) :
    Earned world i (events ++ event.toList) (t.goTo j phase) := by
  refine h.keep_quiet (hwriter ▸ h.writer) hquiet ?_
  show Function.update t.phase j phase i = s.phase i
    ∨ (Function.update t.phase j phase i).earned = []
  rw [hphase]
  rcases eq_or_ne i j with rfl | hne
  · rw [Function.update_self]
    exact Or.inr hnothing
  · rw [Function.update_of_ne hne]
    exact Or.inl rfl

/-- **One write** promises a success when the line of an event is whole. -/
theorem writeSome {first : List UInt8} (h : Earned world i events s)
    (hinvariant : TraceInvariant world first (recordsOf events) s) {j : ι} {header : Bool}
    {request : EmitRequest} {seq : ℕ} {body : Json} {written rest : List UInt8}
    (answer : EmitAnswer)
    (hphase : s.phase j = .writing header request seq body written rest) :
    Earned world i (events ++ (writeSome s j answer header request seq body written rest).2.toList)
      (writeSome s j answer header request seq body written rest).1 := by
  have hlocked : (s.phase j).locked = true := by
    rw [hphase]
    rfl
  have hknows := (hinvariant.knows j hlocked).2
  rw [hphase] at hknows
  obtain ⟨hline, -, -, -, -, -, hsource⟩ := hknows
  unfold TraceWriter.writeSome
  cases answer.took with
  | error error => exact h.of_goTo rfl rfl rfl (okOf_torn i j header seq body written)
  | ok count =>
    dsimp only
    by_cases hdone : (rest.drop count).isEmpty = true
    · rw [if_pos hdone]
      unfold afterLine
      cases header with
      | true => exact h.of_goTo rfl rfl rfl rfl
      | false =>
        rcases eq_or_ne i j with rfl | hne
        · have hnothing : (s.phase i).earned = [] := by
            rw [hphase]
            rfl
          have hpromised : (Function.update s.phase i (.unlocking request (.ok ())) i).earned
              = [request] := by
            rw [Function.update_self]
            rfl
          refine h.pay h.writer hnothing hpromised hsource ?_
          have hdrop : rest.drop count = [] := List.isEmpty_iff.mp hdone
          have hwhole : written ++ rest.take count = lineBytes body := by
            rw [← hline, ← List.append_nil (rest.take count), ← hdrop, List.take_append_drop]
          unfold TraceRecord.isEventOf TraceRecord.whole
          rw [hwhole, beq_self_eq_true, decide_eq_true rfl]
          rfl
        · exact h.keep_quiet h.writer rfl (Or.inl (Function.update_of_ne hne _ _))
    · rw [if_neg hdone]
      exact h.of_goTo rfl rfl rfl rfl

theorem step [DecidableEq π] {first : List UInt8} {s' : TraceFile ι π} {event : Option (TraceLog ι)}
    (h : Earned world i events s) (hinvariant : TraceInvariant world first (recordsOf events) s)
    (hstrict : world.strict i = true) (hsink : world.pending i ≠ .none)
    (hstep : TraceStep world s event s') : Earned world i (events ++ event.toList) s' := by
  cases hstep with
  | begin j request answer halive hidle => exact h.begin hstrict hsink j request answer
  | lock j request hphase hfree => exact h.of_goTo rfl rfl rfl rfl
  | refuse j request error hphase => exact h.endEmit hstrict (fun _ hok => (by cases hok))
  | move j answer hlocked htook =>
    generalize hphase : s.phase j = phase at hlocked ⊢
    cases phase with
    | idle => cases hlocked
    | locking request => cases hlocked
    | checkingMeta request =>
      obtain ⟨t, phase, hgoTo, hsame, hwriter, hnothing⟩ := ensureMetaIfNeeded_eq s j answer request
      rw [advance, hgoTo]
      exact h.of_goTo hsame hwriter hnothing rfl
    | preparing header request =>
      obtain ⟨t, phase, hgoTo, hsame, hwriter, hnothing⟩ :=
        prepareLine_eq world s j answer header request
      rw [advance, hgoTo]
      exact h.of_goTo hsame hwriter hnothing rfl
    | writing header request seq body written rest => exact h.writeSome hinvariant answer hphase
    | unlocking request result =>
      have hearned : j = i → result = .ok () → (s.phase i).earned = [request] := by
        rintro rfl rfl
        rw [hphase]
        rfl
      rw [advance]
      unfold unlock
      cases answer.unlock with
      | none =>
        have hfree : Earned world i events { s with holder := none } := ⟨h.writer, h.lines⟩
        exact hfree.endEmit hstrict hearned
      | some error =>
        refine h.endEmit hstrict (fun _ hok => ?_)
        cases result with
        | ok _ => cases hok
        | error _ => cases hok
  | elsewhere p => exact h.keep_quiet h.writer rfl (Or.inl rfl)
  | crash p =>
    refine h.keep_quiet h.writer (okOf_tornByCrash world s i p) ?_
    show (if world.process i = p then EmitPhase.idle else s.phase i) = s.phase i
      ∨ (if world.process i = p then EmitPhase.idle else s.phase i).earned = []
    split_ifs
    · exact Or.inr rfl
    · exact Or.inl rfl

end Earned

/-- **A strict emission that succeeds has its line in the file.** Whatever fails and whoever is
killed: the emissions of a strict writer that succeeded are, in their order, those of some of its
lines that are whole, each of another. A strict writer that is built has a sink and has not failed
(`buildTraceConfig_strict`). -/
theorem strict_ok_written [DecidableEq π] {content : List UInt8} {writer : ι → TraceWriterState}
    {seq : π → ℕ}
    (h : Runs (TraceStep world) (.initial content writer seq) events s)
    (hstrict : world.strict i = true) (hsink : world.pending i ≠ .none)
    (hopen : writer i ≠ .failed) :
    ∃ lines : List (TraceRecord ι), lines.Sublist (wholeEvents i events)
      ∧ List.Forall₂ (fun request record => TraceRecord.From world record request)
        (okRequests i events) lines := by
  have hearned : TraceInvariant world content (recordsOf events) s ∧ Earned world i events s := by
    refine h.account (I := fun events s => TraceInvariant world content (recordsOf events) s
      ∧ Earned world i events s) ?_ ?_
    · exact ⟨TraceInvariant.initial world content writer seq, hopen, [], List.nil_sublist _,
        List.Forall₂.nil⟩
    · rintro events s event s' ⟨hinvariant, hearned⟩ hstep
      refine ⟨?_, hearned.step hinvariant hstrict hsink hstep⟩
      rw [recordsOf_append]
      exact hinvariant.step hstep
  obtain ⟨-, -, lines, hlines, hall⟩ := hearned
  have hall' := List.forall₂_take (okRequests i events).length hall
  rw [List.take_left] at hall'
  exact ⟨_, (List.take_sublist _ _).trans hlines, hall'⟩

end Strict

theorem strict_ok_written_torn : ∃ lines : List (TraceRecord ℕ),
    lines.Sublist (@wholeEvents _ _ AgentDesktop.Sample.halfFormat 1 Sample.tornEvents)
      ∧ List.Forall₂ (fun request record => TraceRecord.From Sample.separateWriters record request)
        (okRequests 1 Sample.tornEvents) lines := by
  obtain ⟨s, hrun⟩ := Sample.exists_tornEvents
  have hbuilt : buildTraceConfig (some (.ok ())) false true = .ok (.file, .opened) := rfl
  obtain ⟨hsink, hopen⟩ := buildTraceConfig_strict hbuilt
  exact @strict_ok_written _ _ _ _ AgentDesktop.Sample.halfFormat _ _ _ _ _ _ _ hrun rfl hsink hopen

end TraceWriter

end AgentDesktop
