import AgentDesktop.TraceWriter

/-!
# What a trace file holds

A trace file is what it was at first and what was recorded since, and at its end what the holder
of its lock is adding. The holder knows this: nobody else writes, so the file is as long as it
found it, and a header is written just when nothing was there before.

So the file never grows beyond the limit; only its first line is a header; the events of a
process are numbered in the order of their lines; and a strict emission that succeeds has its
line in the file.
-/

namespace AgentDesktop

namespace TraceWriter

variable {ι π : Type}

/-! ## Records

The events of a run tell what was added to the file, and a record keeps it: who wrote, under which
number, the value of the line, and the bytes that were written of it. A line that was cut short is a
record like the others. So what a file holds is read off the records, and never back from the file.
-/

/-- What an event says was added to the file. -/
def TraceLog.record : TraceLog ι → Option (TraceRecord ι)
  | .wrote record => some record
  | .returned _ _ _ => none

/-- What was added in a run. -/
def recordsOf (events : List (TraceLog ι)) : List (TraceRecord ι) :=
  events.filterMap TraceLog.record

theorem filterMap_toList {α β : Type} (f : α → Option β) (event : Option α) :
    event.toList.filterMap f = (event.bind f).toList := by
  cases event with
  | none => rfl
  | some event =>
    show (event :: []).filterMap f = (f event).toList
    rw [List.filterMap_cons, List.filterMap_nil]
    cases f event with
    | none => rfl
    | some value => rfl

theorem recordsOf_append (events : List (TraceLog ι)) (event : Option (TraceLog ι)) :
    recordsOf (events ++ event.toList)
      = recordsOf events ++ (event.bind TraceLog.record).toList := by
  unfold recordsOf
  rw [List.filterMap_append, filterMap_toList]

/-- What records come to in the file. -/
def contentOf (records : List (TraceRecord ι)) : List UInt8 := records.flatMap TraceRecord.bytes

theorem contentOf_append (records : List (TraceRecord ι)) (record : TraceRecord ι) :
    contentOf (records ++ [record]) = contentOf records ++ record.bytes := by
  unfold contentOf
  rw [List.flatMap_append, List.flatMap_singleton]

/-- **A record is from a request**: at some time the request was accepted, with the number of the
record, and the value of the line is what was made of it. -/
def TraceRecord.From (world : TraceWorld ι π) (record : TraceRecord ι) (request : EmitRequest) :
    Prop :=
  ∃ tsMs, eventBody (.ok tsMs) ((world.aboutOf record.writer).stamp record.seq) request
    = .ok record.body

/-- What a line is written from: the header of the process, or the event. -/
def sourceOf (world : TraceWorld ι π) (i : ι) (header : Bool) (request : EmitRequest) :
    EmitRequest :=
  if header then metaHeader (world.aboutOf i) request.sessionId else request

/-- **What a record is**: a line or the beginning of one, of a header or an event. -/
structure TraceRecord.Sound [FloatFormat] (world : TraceWorld ι π) (record : TraceRecord ι) :
    Prop where
  /-- It is the beginning of a line. -/
  begins : record.bytes <+: lineBytes record.body
  nonempty : record.bytes ≠ []
  /-- Its line was made from something. -/
  source : ∃ request, record.From world (sourceOf world record.writer record.header request)

/-- **Only the first record is a header**, and it is one if the file was empty. -/
def HeaderFirst (empty : Bool) : List (TraceRecord ι) → Prop
  | [] => True
  | record :: rest => record.header = empty ∧ ∀ other ∈ rest, other.header = false

theorem HeaderFirst.append {empty : Bool} {records : List (TraceRecord ι)}
    (h : HeaderFirst empty records) {record : TraceRecord ι}
    (hheader : record.header = (empty && records.isEmpty)) :
    HeaderFirst empty (records ++ [record]) := by
  cases records with
  | nil => exact ⟨hheader.trans (Bool.and_true empty), fun _ hother => (by cases hother)⟩
  | cons first rest =>
    refine ⟨h.1, fun other hother => ?_⟩
    rcases List.mem_append.mp hother with hbefore | hnew
    · exact h.2 other hbefore
    · obtain rfl := List.mem_singleton.mp hnew
      exact hheader.trans (Bool.and_false empty)

/-! ## The account of a file

An account is about the file, its records and the counters of the processes, and not about the phase
of any writer. Three things happen to it, and there is a lemma for each: bytes are added, an event
is counted, and what was being added becomes a record. -/

variable [FloatFormat]

/-- A record is whole if all of its line is there. -/
def TraceRecord.whole (record : TraceRecord ι) : Bool := record.bytes == lineBytes record.body

/-- **The account of a file**: it is what it was at first, with what was recorded and what is
being added. -/
structure TraceAccount (world : TraceWorld ι π) (first : List UInt8)
    (records : List (TraceRecord ι)) (content : List UInt8) (seq : π → ℕ) (part : List UInt8) :
    Prop where
  /-- What is in the file. -/
  parts : content = first ++ contentOf records ++ part
  /-- Every record is sound. -/
  sound : ∀ record ∈ records, record.Sound world
  /-- Only the first is a header. -/
  header : HeaderFirst first.isEmpty records
  /-- The records of a process are numbered in their order. -/
  numbered : records.Pairwise (fun record later =>
    world.process record.writer = world.process later.writer → record.seq < later.seq)
  /-- The process has counted them. -/
  counted : ∀ record ∈ records, record.seq < seq (world.process record.writer)
  /-- The file is not too long, unless it was at first. -/
  fits : content.length ≤ max first.length maxTraceFileBytes

namespace TraceAccount

variable {world : TraceWorld ι π} {first : List UInt8} {records : List (TraceRecord ι)}
  {content : List UInt8} {seq : π → ℕ} {part : List UInt8}

/-- **More is added** to a file that has room for it. -/
theorem grow (h : TraceAccount world first records content seq part) (more : List UInt8)
    (hfits : content.length + more.length ≤ maxTraceFileBytes) :
    TraceAccount world first records (content ++ more) seq (part ++ more) where
  parts := by rw [h.parts, List.append_assoc]
  sound := h.sound
  header := h.header
  numbered := h.numbered
  counted := h.counted
  fits := by
    rw [List.length_append]
    exact le_max_of_le_right hfits

theorem count [DecidableEq π] (h : TraceAccount world first records content seq part) (p : π) :
    TraceAccount world first records content (Function.update seq p (seq p + 1)) part where
  parts := h.parts
  sound := h.sound
  header := h.header
  numbered := h.numbered
  counted := by
    intro record hrecord
    have hcounted := h.counted record hrecord
    rcases eq_or_ne (world.process record.writer) p with hp | hp
    · rw [hp, Function.update_self]
      rw [hp] at hcounted
      exact Nat.lt_succ_of_lt hcounted
    · rw [Function.update_of_ne hp]
      exact hcounted
  fits := h.fits

theorem isEmpty_before (h : TraceAccount world first records content seq part) :
    (first ++ contentOf records).isEmpty = (first.isEmpty && records.isEmpty) := by
  cases records with
  | nil => simp [contentOf]
  | cons record rest =>
    have hne := (h.sound record List.mem_cons_self).nonempty
    simp [contentOf, hne]

/-- **What was being added is recorded**, as far as it came. -/
theorem close (h : TraceAccount world first records content seq part) (record : TraceRecord ι)
    (hsound : record.Sound world) (hbytes : record.bytes = part)
    (hheader : record.header = (first ++ contentOf records).isEmpty)
    (hcounted : record.seq < seq (world.process record.writer))
    (hlast : ∀ other ∈ records, world.process other.writer = world.process record.writer →
      other.seq < record.seq) :
    TraceAccount world first (records ++ [record]) content seq [] where
  parts := by rw [contentOf_append, hbytes, List.append_nil, ← List.append_assoc, h.parts]
  sound := by
    intro other hother
    rcases List.mem_append.mp hother with hbefore | hnew
    · exact h.sound other hbefore
    · rw [List.mem_singleton.mp hnew]
      exact hsound
  header := h.header.append (hheader.trans h.isEmpty_before)
  numbered := by
    refine List.pairwise_append.mpr ⟨h.numbered, List.pairwise_singleton _ _, ?_⟩
    intro other hother later hlater
    rw [List.mem_singleton.mp hlater]
    exact hlast other hother
  counted := by
    intro other hother
    rcases List.mem_append.mp hother with hbefore | hnew
    · exact h.counted other hbefore
    · rw [List.mem_singleton.mp hnew]
      exact hcounted
  fits := h.fits

end TraceAccount

/-! ## What the holder knows

The file is changed under its lock only, so what a writer has seen there stays true until it gives
the lock back. `Knows` says for each phase what that is. Each step of the writer is one lemma, from
what is known before it to what is known after it; whoever does not have the lock changes nothing
that is known. -/

/-- **What the holder of the lock knows**, of how far it is. Before it writes, it knows whether a
header is due. While it writes, what was written and what is left are its line, there is room
for the rest, and the number of the line is the largest one of its process. -/
def Knows (world : TraceWorld ι π) (first : List UInt8) (records : List (TraceRecord ι))
    (content : List UInt8) (seq : π → ℕ) (i : ι) : EmitPhase → Prop
  | .preparing header _ => content.isEmpty = header
  | .writing header request number body written rest =>
    written ++ rest = lineBytes body ∧ rest ≠ []
      ∧ content.length + rest.length ≤ maxTraceFileBytes
      ∧ header = (first ++ contentOf records).isEmpty
      ∧ number < seq (world.process i)
      ∧ (∀ record ∈ records, world.process record.writer = world.process i → record.seq < number)
      ∧ TraceRecord.From world ⟨i, header, number, body, written⟩ (sourceOf world i header request)
  | .idle | .locking _ | .checkingMeta _ | .unlocking _ _ => True

/-- What is being added to a file. -/
def TraceFile.unfinished (s : TraceFile ι π) : List UInt8 :=
  (s.holder.map (fun i => (s.phase i).written)).getD []

/-- **What holds of a file and its writers** at any time. The account speaks of the file with the
unfinished line of the holder, if there is one; whoever goes on is the holder, so there is at most
one such line. -/
structure TraceInvariant (world : TraceWorld ι π) (first : List UInt8)
    (records : List (TraceRecord ι)) (s : TraceFile ι π) : Prop where
  /-- The account of the file. -/
  account : TraceAccount world first records s.content s.seq s.unfinished
  /-- Who has noted a header has seen something in the file. -/
  noted : ∀ i, s.metaWritten i = true → s.content.isEmpty = false
  /-- Who goes on has the lock, and knows how far it is. -/
  knows : ∀ i, (s.phase i).locked = true →
    s.holder = some i ∧ Knows world first records s.content s.seq i (s.phase i)

namespace TraceInvariant

variable {world : TraceWorld ι π} {first : List UInt8} {records : List (TraceRecord ι)}
  {s : TraceFile ι π} {i : ι}

/-- **What is known of who has the lock**, of how far it is. -/
theorem of_phase (h : TraceInvariant world first records s) {phase : EmitPhase}
    (hphase : s.phase i = phase) (hlocked : phase.locked = true) :
    s.holder = some i ∧ Knows world first records s.content s.seq i phase
      ∧ TraceAccount world first records s.content s.seq phase.written := by
  subst hphase
  obtain ⟨hholder, hknows⟩ := h.knows i hlocked
  have hunfinished : s.unfinished = (s.phase i).written := by
    unfold TraceFile.unfinished
    rw [hholder]
    rfl
  exact ⟨hholder, hknows, hunfinished ▸ h.account⟩

theorem eq_of_holder (h : TraceInvariant world first records s) (hholder : s.holder = some i)
    {j : ι} (hother : (s.phase j).locked = true) : j = i := by
  rw [(h.knows j hother).1] at hholder
  exact Option.some.inj hholder

theorem quiet (h : TraceInvariant world first records s) {event : Option (TraceLog ι)}
    (hevent : event.bind TraceLog.record = none) :
    TraceInvariant world first (records ++ (event.bind TraceLog.record).toList) s := by
  rw [hevent]
  show TraceInvariant world first (records ++ []) s
  rw [List.append_nil]
  exact h

variable [DecidableEq ι]

theorem knows_goTo {phase : EmitPhase}
    (hothers : ∀ j, j ≠ i → (s.phase j).locked = true →
      s.holder = some j ∧ Knows world first records s.content s.seq j (s.phase j))
    (hself : phase.locked = true →
      s.holder = some i ∧ Knows world first records s.content s.seq i phase) (j : ι) :
    ((s.goTo i phase).phase j).locked = true →
      s.holder = some j
        ∧ Knows world first records s.content s.seq j ((s.goTo i phase).phase j) := by
  show (Function.update s.phase i phase j).locked = true → s.holder = some j
    ∧ Knows world first records s.content s.seq j (Function.update s.phase i phase j)
  rcases eq_or_ne j i with rfl | hne
  · rw [Function.update_self]
    exact hself
  · rw [Function.update_of_ne hne]
    exact hothers j hne

theorem goTo (h : TraceInvariant world first records s) {before phase : EmitPhase}
    (hphase : s.phase i = before) (hwritten : phase.written = before.written)
    (hself : phase.locked = true →
      s.holder = some i ∧ Knows world first records s.content s.seq i phase) :
    TraceInvariant world first records (s.goTo i phase) where
  account := by
    have hsame : (s.goTo i phase).unfinished = s.unfinished := by
      show (s.holder.map (fun j => (Function.update s.phase i phase j).written)).getD [] = _
      congr 2
      funext j
      rcases eq_or_ne j i with rfl | hne
      · rw [Function.update_self, hwritten, hphase]
      · rw [Function.update_of_ne hne]
    rw [hsame]
    exact h.account
  noted := h.noted
  knows := knows_goTo (fun j _ => h.knows j) hself

theorem lock (h : TraceInvariant world first records s) {request : EmitRequest}
    (hphase : s.phase i = .locking request) (hfree : ∀ j ∈ s.holder, j = i) :
    TraceInvariant world first records
      ({ s with holder := some i }.goTo i (.checkingMeta request)) := by
  -- nobody goes on, as whoever does has the lock
  have hnobody : ∀ j, (s.phase j).locked = false := by
    intro j
    refine Bool.eq_false_iff.mpr (fun hlocked => ?_)
    obtain rfl := hfree j (h.knows j hlocked).1
    rw [hphase] at hlocked
    cases hlocked
  have hunfinished : s.unfinished = [] := by
    unfold TraceFile.unfinished
    cases hholder : s.holder with
    | none => rfl
    | some j =>
      obtain rfl := hfree j hholder
      show (s.phase j).written = []
      rw [hphase]
      rfl
  have htaken : TraceInvariant world first records { s with holder := some i } := by
    refine ⟨?_, h.noted, fun j hlocked => ?_⟩
    · have hsame : TraceFile.unfinished { s with holder := some i } = s.unfinished := by
        rw [hunfinished]
        show (s.phase i).written = []
        rw [hphase]
        rfl
      rw [hsame]
      exact h.account
    · have hlocked : (s.phase j).locked = true := hlocked
      rw [hnobody j] at hlocked
      cases hlocked
  exact htaken.goTo hphase rfl (fun _ => ⟨rfl, trivial⟩)

theorem release (h : TraceInvariant world first records s) {before : EmitPhase}
    (hphase : s.phase i = before) (hlocked : before.locked = true)
    (hwritten : before.written = []) :
    TraceInvariant world first records ({ s with holder := none }.goTo i .idle) where
  account := by
    have haccount := (h.of_phase hphase hlocked).2.2
    rw [hwritten] at haccount
    exact haccount
  noted := h.noted
  knows := knows_goTo (s := { s with holder := none })
    (fun j hne hother => absurd (h.eq_of_holder (h.of_phase hphase hlocked).1 hother) hne)
    (fun hlocked => (by cases hlocked))

theorem begin (h : TraceInvariant world first records s) {request : EmitRequest}
    (answer : EmitAnswer) (hidle : s.phase i = .idle) :
    TraceInvariant world first
      (records ++ ((beginEmit world s i answer request).2.bind TraceLog.record).toList)
      (beginEmit world s i answer request).1 := by
  unfold beginEmit
  obtain ⟨writer, sink⟩ :=
    ensureWriter (world.strict i) (world.pending i) answer.opened (s.writer i)
  have hwriter : TraceInvariant world first records
      { s with writer := Function.update s.writer i writer } := ⟨h.account, h.noted, h.knows⟩
  match sink with
  | .error error => exact hwriter.quiet rfl
  | .ok false => exact hwriter.quiet rfl
  | .ok true =>
    refine (hwriter.goTo hidle ?_ (fun hlocked => (by cases hlocked))).quiet rfl
    rfl

theorem endEmit (h : TraceInvariant world first records s) {before : EmitPhase}
    (hphase : s.phase i = before) (hwritten : before.written = []) {request : EmitRequest}
    {result : Except AppError Unit} :
    TraceInvariant world first
      (records ++ ((endEmit world s i request result).2.bind TraceLog.record).toList)
      (TraceWriter.endEmit world s i request result).1 := by
  have hidle : TraceInvariant world first records (s.goTo i .idle) :=
    h.goTo hphase hwritten.symm (fun hlocked => (by cases hlocked))
  exact hidle.quiet rfl

/-- **The header is looked for.** -/
theorem ensureMetaIfNeeded (h : TraceInvariant world first records s) {request : EmitRequest}
    (answer : EmitAnswer) (hphase : s.phase i = .checkingMeta request) :
    TraceInvariant world first records (ensureMetaIfNeeded s i answer request) := by
  have hholder := (h.of_phase hphase rfl).1
  unfold TraceWriter.ensureMetaIfNeeded
  by_cases hmeta : s.metaWritten i = true
  · rw [if_pos hmeta]
    exact h.goTo hphase rfl (fun _ => ⟨hholder, h.noted i hmeta⟩)
  · rw [if_neg hmeta]
    cases answer.stat with
    | some error => exact h.goTo hphase rfl (fun _ => ⟨hholder, trivial⟩)
    | none =>
      dsimp only
      split_ifs with hlength
      · have hcontent : s.content.isEmpty = false := by
          simpa using List.ne_nil_of_length_pos hlength
        have hnoted : TraceInvariant world first records (s.noteMeta i) := by
          refine ⟨h.account, fun j hj => ?_, h.knows⟩
          exact hcontent
        exact hnoted.goTo hphase rfl (fun _ => ⟨hholder, hcontent⟩)
      · refine h.goTo hphase rfl (fun _ => ⟨hholder, ?_⟩)
        show s.content.isEmpty = true
        simpa using hlength

omit [DecidableEq ι] in
theorem Knows.count [DecidableEq π] {content : List UInt8} {seq : π → ℕ} {phase : EmitPhase}
    (h : Knows world first records content seq i phase) (p : π) :
    Knows world first records content (Function.update seq p (seq p + 1)) i phase := by
  cases phase with
  | writing header request number body written rest =>
    obtain ⟨hline, hrest, hfits, hheader, hnumber, hlast⟩ := h
    refine ⟨hline, hrest, hfits, hheader, ?_, hlast⟩
    rcases eq_or_ne (world.process i) p with hp | hp
    · rw [hp, Function.update_self]
      rw [hp] at hnumber
      exact Nat.lt_succ_of_lt hnumber
    · rw [Function.update_of_ne hp]
      exact hnumber
  | _ => exact h

omit [DecidableEq ι] in
theorem count [DecidableEq π] (h : TraceInvariant world first records s) (p : π) :
    TraceInvariant world first records
      { s with seq := Function.update s.seq p (s.seq p + 1) } where
  account := h.account.count p
  noted := h.noted
  knows := fun j hlocked => ⟨(h.knows j hlocked).1, Knows.count (h.knows j hlocked).2 p⟩

omit [FloatFormat] [DecidableEq ι] in
theorem exists_time_of_eventBody {now : Except String ℕ} {stamp : TraceStamp}
    {request : EmitRequest} {body : Json} (h : eventBody now stamp request = .ok body) :
    ∃ tsMs, eventBody (.ok tsMs) stamp request = .ok body := by
  cases now with
  | error reason =>
    unfold eventBody at h
    dsimp only at h
    split_ifs at h <;> cases h
  | ok tsMs => exact ⟨tsMs, h⟩

/-- **A line is prepared**: what is written then was counted last, and there is room for it. -/
theorem prepareLine [DecidableEq π] (h : TraceInvariant world first records s) {header : Bool}
    {request : EmitRequest} (answer : EmitAnswer)
    (hphase : s.phase i = .preparing header request) :
    TraceInvariant world first records (prepareLine world s i answer header request) := by
  obtain ⟨hholder, hknows, haccount⟩ := h.of_phase hphase rfl
  have hempty : s.content.isEmpty = header := hknows
  unfold TraceWriter.prepareLine
  dsimp only
  cases hbody : eventBody answer.now ((world.aboutOf i).stamp (s.seq (world.process i)))
      (if header then metaHeader (world.aboutOf i) request.sessionId else request) with
  | error error => exact h.goTo hphase rfl (fun _ => ⟨hholder, trivial⟩)
  | ok body =>
    have hcount := h.count (world.process i)
    dsimp only
    cases answer.stat with
    | some error => exact hcount.goTo hphase rfl (fun _ => ⟨hholder, trivial⟩)
    | none =>
      dsimp only
      cases hroom : rejectOversizedTrace s.content.length (lineSize body) with
      | error error => exact hcount.goTo hphase rfl (fun _ => ⟨hholder, trivial⟩)
      | ok _ =>
        have hfits : s.content.length + lineSize body ≤ maxTraceFileBytes := by
          unfold rejectOversizedTrace at hroom
          split_ifs at hroom with hfits
          exact hfits
        have hbefore : header = (first ++ contentOf records).isEmpty := by
          have hparts := haccount.parts
          rw [show EmitPhase.written (.preparing header request) = [] from rfl,
            List.append_nil] at hparts
          rw [← hparts, hempty]
        refine hcount.goTo hphase rfl (fun _ => ⟨hholder, ?_⟩)
        refine ⟨rfl, ?_, ?_, hbefore, ?_, ?_, exists_time_of_eventBody hbody⟩
        · unfold lineBytes
          exact List.append_ne_nil_of_right_ne_nil _ (List.cons_ne_nil _ _)
        · rw [length_lineBytes]
          exact hfits
        · show s.seq (world.process i) < Function.update s.seq (world.process i)
            (s.seq (world.process i) + 1) (world.process i)
          rw [Function.update_self]
          exact Nat.lt_succ_self _
        · intro record hrecord hprocess
          have hcounted := h.account.counted record hrecord
          rw [hprocess] at hcounted
          exact hcounted

omit [DecidableEq ι] in
/-- **A write that stops** is recorded as far as it came. -/
theorem account_torn (h : TraceInvariant world first records s) {header : Bool}
    {request : EmitRequest} {seq : ℕ} {body : Json} {written rest : List UInt8}
    (hphase : s.phase i = .writing header request seq body written rest) :
    TraceAccount world first
      (records ++ ((torn i header seq body written).bind TraceLog.record).toList) s.content s.seq
      [] := by
  obtain ⟨-, ⟨hline, -, -, hheader, hnumber, hlast, hsource⟩, haccount⟩ := h.of_phase hphase rfl
  unfold torn
  split_ifs with hnothing
  · have hnothing : written = [] := by simpa using hnothing
    subst hnothing
    show TraceAccount world first (records ++ []) s.content s.seq []
    rw [List.append_nil]
    exact haccount
  · refine haccount.close ⟨i, header, seq, body, written⟩ ⟨?_, ?_, request, hsource⟩ rfl hheader
      hnumber hlast
    · exact ⟨rest, hline⟩
    · simpa using hnothing

/-- **The holder goes on** from a file whose account is known. -/
theorem of_account {phase : EmitPhase}
    (haccount : TraceAccount world first records s.content s.seq phase.written)
    (hholder : s.holder = some i) (hothers : ∀ j, j ≠ i → (s.phase j).locked = false)
    (hnoted : ∀ j, s.metaWritten j = true → s.content.isEmpty = false)
    (hknows : Knows world first records s.content s.seq i phase) :
    TraceInvariant world first records (s.goTo i phase) where
  account := by
    have hsame : (s.goTo i phase).unfinished = phase.written := by
      unfold TraceFile.unfinished
      show (s.holder.map (fun j => (Function.update s.phase i phase j).written)).getD [] = _
      rw [hholder]
      show (Function.update s.phase i phase i).written = _
      rw [Function.update_self]
    rw [hsame]
    exact haccount
  noted := hnoted
  knows := knows_goTo (fun j hne hlocked => (by rw [hothers j hne] at hlocked; cases hlocked))
    (fun _ => ⟨hholder, hknows⟩)

/-- **One write**: the file grows by what it takes, and what was written is recorded when the line
is whole, or the write fails. -/
theorem writeSome (h : TraceInvariant world first records s) {header : Bool}
    {request : EmitRequest} {seq : ℕ} {body : Json} {written rest : List UInt8}
    (answer : EmitAnswer) (htook : ∀ count ∈ answer.took.toOption, 0 < count)
    (hphase : s.phase i = .writing header request seq body written rest) :
    TraceInvariant world first
      (records ++ ((writeSome s i answer header request seq body written rest).2.bind
        TraceLog.record).toList)
      (writeSome s i answer header request seq body written rest).1 := by
  obtain ⟨hholder, ⟨hline, hrest, hfits, hheader, hnumber, hlast, hsource⟩, haccount⟩ :=
    h.of_phase hphase rfl
  have hothers : ∀ j, j ≠ i → (s.phase j).locked = false := fun j hne =>
    Bool.eq_false_iff.mpr (fun hother => hne (h.eq_of_holder hholder hother))
  unfold TraceWriter.writeSome
  cases htaken : answer.took with
  | error error =>
    exact of_account (h.account_torn hphase) hholder hothers h.noted trivial
  | ok count =>
    have hcount : 0 < count := by
      refine htook count ?_
      rw [htaken]
      rfl
    have htake : (rest.take count).length + (rest.drop count).length = rest.length := by
      rw [← List.length_append, List.take_append_drop]
    -- the file has room for what is left, so for what is taken of it
    have hgrown := haccount.grow (rest.take count) (by omega)
    have hcontent : (s.content ++ rest.take count).isEmpty = false := by
      have hne : rest.take count ≠ [] := by
        rw [Ne, List.take_eq_nil_iff]
        exact not_or.mpr ⟨Nat.pos_iff_ne_zero.mp hcount, hrest⟩
      simp [hne]
    have hline' : (written ++ rest.take count) ++ rest.drop count = lineBytes body := by
      rw [List.append_assoc, List.take_append_drop, hline]
    dsimp only
    by_cases hdone : (rest.drop count).isEmpty = true
    · rw [if_pos hdone]
      have hdrop : rest.drop count = [] := List.isEmpty_iff.mp hdone
      rw [hdrop, List.append_nil] at hline'
      have hclosed := hgrown.close ⟨i, header, seq, body, written ++ rest.take count⟩
        ⟨⟨[], by rw [List.append_nil, hline']⟩, ?_, request, hsource⟩ rfl hheader hnumber hlast
      · unfold afterLine
        cases header with
        | true => exact of_account hclosed hholder hothers (fun _ _ => hcontent) hcontent
        | false => exact of_account hclosed hholder hothers (fun _ _ => hcontent) trivial
      · show written ++ rest.take count ≠ []
        rw [hline']
        unfold lineBytes
        exact List.append_ne_nil_of_right_ne_nil _ (List.cons_ne_nil _ _)
    · rw [if_neg hdone]
      refine quiet (of_account (s := { s with content := s.content ++ rest.take count }) hgrown
        hholder hothers (fun _ _ => hcontent) ?_) rfl
      refine ⟨hline', fun hnil => hdone (List.isEmpty_iff.mpr hnil), ?_, hheader, hnumber, hlast,
        hsource⟩
      show (s.content ++ rest.take count).length + (rest.drop count).length ≤ maxTraceFileBytes
      rw [List.length_append]
      omega

omit [DecidableEq ι] in
theorem crash_of_other [DecidableEq π] (h : TraceInvariant world first records s) {p : π}
    (hother : ∀ j ∈ s.holder, world.process j ≠ p) :
    TraceInvariant world first records (TraceWriter.crash world s p) := by
  have hholder : s.holder.filter (fun j => world.process j ≠ p) = s.holder := by
    cases hheld : s.holder with
    | none => rfl
    | some j => exact Option.filter_some_pos (by simpa using hother j hheld)
  refine ⟨?_, h.noted, fun j => ?_⟩
  · have hsame : (TraceWriter.crash world s p).unfinished = s.unfinished := by
      unfold TraceFile.unfinished TraceWriter.crash
      dsimp only
      rw [hholder]
      cases hheld : s.holder with
      | none => rfl
      | some j =>
        show (if world.process j = p then EmitPhase.idle else s.phase j).written = _
        rw [if_neg (hother j hheld)]
        rfl
    rw [hsame]
    exact h.account
  · show (if world.process j = p then EmitPhase.idle else s.phase j).locked = true →
      s.holder.filter (fun j => world.process j ≠ p) = some j ∧ Knows world first records s.content
        s.seq j (if world.process j = p then EmitPhase.idle else s.phase j)
    rw [hholder]
    split_ifs with hp
    · exact fun hlocked => (by cases hlocked)
    · exact h.knows j

omit [DecidableEq ι] in
/-- **A process is killed**: what it was adding is recorded as far as it came. -/
theorem crash [DecidableEq π] (h : TraceInvariant world first records s) (p : π) :
    TraceInvariant world first
      (records ++ ((tornByCrash world s p).bind TraceLog.record).toList) (crash world s p) := by
  by_cases hother : ∀ j ∈ s.holder, world.process j ≠ p
  · refine (h.crash_of_other hother).quiet ?_
    unfold tornByCrash
    cases hheld : s.holder with
    | none => rfl
    | some j =>
      rw [Option.filter_some_neg (by simpa using hother j hheld)]
      rfl
  · push Not at hother
    obtain ⟨i, hheld, hp⟩ := hother
    have hheld : s.holder = some i := hheld
    have haccount : TraceAccount world first
        (records ++ ((tornByCrash world s p).bind TraceLog.record).toList) s.content s.seq [] := by
      have hquiet : (s.phase i).written = [] →
          TraceAccount world first (records ++ []) s.content s.seq [] := by
        intro hwritten
        have hunfinished : s.unfinished = [] := by
          unfold TraceFile.unfinished
          rw [hheld]
          exact hwritten
        rw [List.append_nil, ← hunfinished]
        exact h.account
      unfold tornByCrash
      rw [hheld, Option.filter_some_pos (by simpa using hp), Option.bind_some]
      generalize hphase : s.phase i = phase at hquiet
      cases phase with
      | writing header request seq body written rest => exact h.account_torn hphase
      | idle | locking | checkingMeta | preparing | unlocking => exact hquiet rfl
    have hfree : (TraceWriter.crash world s p).holder = none := by
      show s.holder.filter (fun j => world.process j ≠ p) = none
      rw [hheld]
      exact Option.filter_some_neg (by simpa using hp)
    refine ⟨?_, h.noted, fun j hlocked => ?_⟩
    · have hsame : (TraceWriter.crash world s p).unfinished = [] := by
        unfold TraceFile.unfinished
        rw [hfree]
        rfl
      rw [hsame]
      exact haccount
    · -- nobody goes on, as whoever does has the lock, and was killed
      have hlocked : (if world.process j = p then EmitPhase.idle else s.phase j).locked = true :=
        hlocked
      split_ifs at hlocked with hj
      · cases hlocked
      · exact absurd (h.eq_of_holder hheld hlocked ▸ hp) hj

theorem step [DecidableEq π] (h : TraceInvariant world first records s)
    {event : Option (TraceLog ι)} {s' : TraceFile ι π} (hstep : TraceStep world s event s') :
    TraceInvariant world first (records ++ (event.bind TraceLog.record).toList) s' := by
  cases hstep with
  | begin i request answer halive hidle =>
    exact h.begin answer hidle
  | lock i request hphase hfree => exact (h.lock hphase hfree).quiet rfl
  | refuse i request error hphase => exact h.endEmit hphase rfl
  | move i answer hlocked htook =>
    generalize hphase : s.phase i = phase at hlocked ⊢
    cases phase with
    | idle => cases hlocked
    | locking request => cases hlocked
    | checkingMeta request => exact (h.ensureMetaIfNeeded answer hphase).quiet rfl
    | preparing header request =>
      have hprepared : TraceInvariant world first
          (records ++ ((none : Option (TraceLog ι)).bind TraceLog.record).toList)
          (TraceWriter.prepareLine world s i answer header request) :=
        (h.prepareLine answer hphase).quiet rfl
      rw [advance]
      dsimp only
      exact hprepared
    | writing header request seq body written rest => exact h.writeSome answer htook hphase
    | unlocking request result =>
      show TraceInvariant world first
        (records ++ ((unlock world s i answer request result).2.bind TraceLog.record).toList)
        (unlock world s i answer request result).1
      unfold unlock
      cases answer.unlock with
      | none => exact (h.release hphase rfl rfl).quiet rfl
      | some error => exact h.endEmit hphase rfl
  | elsewhere p => exact (h.count p).quiet rfl
  | crash p => exact h.crash p

omit [DecidableEq ι] in
theorem initial (world : TraceWorld ι π) (first : List UInt8) (writer : ι → TraceWriterState)
    (seq : π → ℕ) : TraceInvariant world first [] (TraceFile.initial first writer seq) where
  account := by
    refine ⟨?_, fun _ h => (by cases h), trivial, List.Pairwise.nil, fun _ h => (by cases h),
      le_max_left _ _⟩
    show first = first ++ [] ++ []
    rw [List.append_nil, List.append_nil]
  noted := fun _ h => (by cases h)
  knows := fun _ h => (by cases h)

theorem of_runs [DecidableEq π] {writer : ι → TraceWriterState} {seq : π → ℕ}
    {events : List (TraceLog ι)} (h : Runs (TraceStep world) (.initial first writer seq) events s) :
    TraceInvariant world first (recordsOf events) s := by
  refine h.account (I := fun events s => TraceInvariant world first (recordsOf events) s)
    (initial world first writer seq) (fun events s event s' hkept hstep => ?_)
  rw [recordsOf_append]
  exact hkept.step hstep

omit [DecidableEq ι] in
theorem unfinished_begins (h : TraceInvariant world first records s) :
    s.unfinished = [] ∨ ∃ body rest, rest ≠ [] ∧ s.unfinished ++ rest = lineBytes body := by
  by_cases hholder : ∃ i, (s.phase i).locked = true
  · obtain ⟨i, hlocked⟩ := hholder
    obtain ⟨hholder, hknows⟩ := h.knows i hlocked
    unfold TraceFile.unfinished
    rw [hholder]
    show (s.phase i).written = [] ∨ ∃ body rest, rest ≠ []
      ∧ (s.phase i).written ++ rest = lineBytes body
    generalize s.phase i = phase at hknows
    cases phase with
    | writing header request seq body written rest =>
      exact Or.inr ⟨body, rest, hknows.2.1, hknows.1⟩
    | idle | locking | checkingMeta | preparing | unlocking => exact Or.inl rfl
  · push Not at hholder
    refine Or.inl ?_
    unfold TraceFile.unfinished
    cases s.holder with
    | none => rfl
    | some j =>
      have hfree := hholder j
      show (s.phase j).written = []
      generalize s.phase j = phase at hfree
      cases phase with
      | writing header request seq body written rest => exact absurd rfl hfree
      | idle | locking | checkingMeta | preparing | unlocking => rfl

end TraceInvariant

end TraceWriter

end AgentDesktop
