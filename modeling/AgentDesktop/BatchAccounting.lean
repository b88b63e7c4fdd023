import Mathlib.Data.List.Nodup
import AgentDesktop.Batch
import AgentDesktop.Util.Except
import AgentDesktop.Util.Forall2

/-!
# What the records of a batch say

The records of a batch are one for each entry that was reached, in order. A record
says that its entry completed exactly when the entry was dispatched; the others were
not started, and say that nothing was delivered. Entries are dispatched in order, each
at most once, and none after the batch has stopped. A batch with an entry that does
not pass its checks dispatches nothing.
-/

namespace AgentDesktop

namespace BatchHost

variable {σ C X B : Type} [FloatText]

/-! ## The shape of a run

The loop of the batch carries its response, its records and a reason to stop. `BatchRun` describes
what it does by the entries that are left, one constructor for each way an entry ends, so that
everything below is an induction over it. -/

/-- The record of an entry that the deadline has overtaken. -/
def expiredEntry (args : Args) (index : ℕ) (command : PreparedCommand C X B) : BatchEntry :=
  notStartedEntry index command.name "deadline" (batchTimeout index command.name args.timeoutMs)

/-- The record of an entry whose session has ended. -/
def sessionEndedEntry (index : ℕ) (command : PreparedCommand C X B) (sessionId : String) :
    BatchEntry :=
  notStartedEntry index command.name "session_ended"
    (batchSessionEnded index command.name sessionId)

/-- The record of an entry before a wait whose baseline could not be captured. -/
def baselineFailedEntry (index : ℕ) (command next : PreparedCommand C X B)
    (error : AdapterError) : BatchEntry :=
  notStartedEntry index command.name "pre_action_baseline_failed"
    (baselineError index command.name (index + 1) next.name error)

/-- **The runs of the entries of a batch** from one on, with so many bytes in the response: their
records, what happens to them, and why the batch stops, if it does. Each constructor is one way
out of a turn of the loop, or into the next one. -/
inductive BatchRun (args : Args) : List (PreparedCommand C X B) → ℕ → ℕ → List BatchEntry →
    List (Event C) → Option Json → Prop
  /-- There is no entry left. -/
  | finished (index used : ℕ) : BatchRun args [] index used [] [] none
  /-- The deadline has expired. -/
  | expired (command : PreparedCommand C X B) (rest : List (PreparedCommand C X B))
    (index used : ℕ) :
    BatchRun args (command :: rest) index used [expiredEntry args index command]
      [.expired index] (some (.obj [("reason", .str "deadline"), ("index", .num index)]))
  /-- The session of the entry has ended, and that is a failure to stop at. -/
  | sessionEndedStop (command : PreparedCommand C X B) (rest : List (PreparedCommand C X B))
    (index used : ℕ) (sessionId : String) (hstop : args.stopOnError = true) :
    BatchRun args (command :: rest) index used [sessionEndedEntry index command sessionId]
      [.sessionEnded index]
      (some (.obj [("reason", .str "stop_on_error"), ("index", .num index)]))
  /-- The session of the entry has ended, and the batch goes on. -/
  | sessionEnded {command : PreparedCommand C X B} {rest : List (PreparedCommand C X B)}
    {index used : ℕ} {entries : List BatchEntry} {events : List (Event C)} {stopped : Option Json}
    (sessionId : String) (hgo : args.stopOnError = false)
    (hrest : BatchRun args rest (index + 1)
      (used + ((sessionEndedEntry index command sessionId).toJson.size + 1)) entries events
      stopped) :
    BatchRun args (command :: rest) index used
      (sessionEndedEntry index command sessionId :: entries) (.sessionEnded index :: events) stopped
  /-- What the next entry compares with could not be captured. -/
  | baselineFailed (command next : PreparedCommand C X B)
    {rest : List (PreparedCommand C X B)} (index used : ℕ) (error : AdapterError)
    (hnext : rest.head? = some next) :
    BatchRun args (command :: rest) index used [baselineFailedEntry index command next error]
      [.baselineFailed index]
      (some (.obj [("reason", .str "pre_action_baseline_failed"), ("blocked_index", .num index),
        ("blocked_command", .str command.name), ("wait_index", .num ↑(index + 1)),
        ("wait_command", .str next.name)]))
  /-- The entry is dispatched, and its result does not fit. -/
  | oversized {command : PreparedCommand C X B} {rest : List (PreparedCommand C X B)}
    {index used : ℕ} (result : Except AppError Json)
    (hbounded : (boundedEntry index command.name result used).2 = true) :
    BatchRun args (command :: rest) index used [(boundedEntry index command.name result used).1]
      [.dispatched index command.command (!result.isOk) true]
      (some (.obj [("reason", .str "output_limit"), ("index", .num index)]))
  /-- The entry is dispatched and fails, and that is a failure to stop at. -/
  | failed {command : PreparedCommand C X B} {rest : List (PreparedCommand C X B)}
    {index used : ℕ} (result : Except AppError Json)
    (hbounded : (boundedEntry index command.name result used).2 = false)
    (hfailed : result.isOk = false) (hstop : args.stopOnError = true) :
    BatchRun args (command :: rest) index used [(boundedEntry index command.name result used).1]
      [.dispatched index command.command (!result.isOk) false]
      (some (.obj [("reason", .str "stop_on_error"), ("index", .num index)]))
  /-- The entry is dispatched, and the deadline has expired after it. -/
  | expiredAfter {command : PreparedCommand C X B} {rest : List (PreparedCommand C X B)}
    {index used : ℕ} (result : Except AppError Json)
    (hbounded : (boundedEntry index command.name result used).2 = false) :
    BatchRun args (command :: rest) index used [(boundedEntry index command.name result used).1]
      [.dispatched index command.command (!result.isOk) false, .expiredAfter index]
      (some (.obj [("reason", .str "deadline"), ("after_index", .num index)]))
  /-- The entry is dispatched, and the batch goes on. -/
  | dispatched {command : PreparedCommand C X B} {rest : List (PreparedCommand C X B)}
    {index used : ℕ} {entries : List BatchEntry} {events : List (Event C)} {stopped : Option Json}
    (result : Except AppError Json)
    (hbounded : (boundedEntry index command.name result used).2 = false)
    (hgo : (!result.isOk && args.stopOnError) = false)
    (hrest : BatchRun args rest (index + 1)
      (used + ((boundedEntry index command.name result used).1.toJson.size + 1)) entries events
      stopped) :
    BatchRun args (command :: rest) index used
      ((boundedEntry index command.name result used).1 :: entries)
      (.dispatched index command.command (!result.isOk) false :: events) stopped

/-! ## Every run has that shape -/

/-- What has been gathered, with more records and perhaps a stop. -/
def Gathered.extend (gathered : Gathered) (entries : List BatchEntry) (stopped : Option Json) :
    Gathered where
  results := gathered.results ++ entries
  resultsBytes := gathered.resultsBytes + Json.itemsSize (entries.map BatchEntry.toJson)
  completed := gathered.completed + entries.countP BatchEntry.isCompleted
  stopped := stopped.or gathered.stopped

theorem Gathered.extend_of_not_isCompleted (gathered : Gathered) {entry : BatchEntry}
    (hentry : entry.isCompleted = false) (stopped : Option Json) :
    gathered.extend [entry] stopped
      = { gathered.push entry with stopped := stopped.or gathered.stopped } := by
  simp [Gathered.extend, Gathered.push, hentry, Json.itemsSize]

theorem Gathered.extend_of_isCompleted (gathered : Gathered) {entry : BatchEntry}
    (hentry : entry.isCompleted = true) (stopped : Option Json) :
    gathered.extend [entry] stopped
      = { gathered.push entry with
          completed := gathered.completed + 1
          stopped := stopped.or gathered.stopped } := by
  simp [Gathered.extend, Gathered.push, hentry, Json.itemsSize]

theorem Gathered.extend_nil (gathered : Gathered) : gathered.extend [] none = gathered := by
  simp [Gathered.extend, Json.itemsSize]

theorem Gathered.extend_extend (gathered : Gathered) (entries entries' : List BatchEntry)
    (stopped : Option Json) :
    (gathered.extend entries none).extend entries' stopped
      = gathered.extend (entries ++ entries') stopped := by
  simp [Gathered.extend, Json.itemsSize_append, Nat.add_assoc]

theorem boundedEntry_isCompleted (index : ℕ) (command : String) (result : Except AppError Json)
    (used : ℕ) : (boundedEntry index command result used).1.isCompleted = true := by
  unfold boundedEntry
  simp only
  split <;> rfl

variable (host : BatchHost σ C X B)

omit [FloatText] in
theorem sessionEndedFor_sure (command : PreparedCommand C X B) :
    (host.sessionEndedFor command).Sure := by
  unfold sessionEndedFor
  cases command.context.sessionId with
  | none => exact .pure _
  | some sessionId =>
    refine (Prog.Sure.ask _).bind (fun answer => ?_)
    cases answer with
    | error error => exact .pure _
    | ok manifest => cases manifest <;> exact .pure _

omit [FloatText] in
theorem captureNext_sure (deadline : Deadline) (rest : List (PreparedCommand C X B)) :
    (host.captureNext deadline rest).Sure := by
  unfold captureNext
  split
  · exact .pure _
  · exact (Prog.Sure.ask _).bind (fun _ => .pure _)

/-- **One turn of the loop**, when so many bytes are in the response: it stops with the record of
the entry, or goes on, and what follows makes a batch run with it. -/
def Turns (args : Args) (command : PreparedCommand C X B) (rest : List (PreparedCommand C X B))
    (index : ℕ) (gathered : Gathered) (o : Outcome AppError (Flow B)) (events : List (Event C)) :
    Prop :=
  ∃ entry,
    (∃ stopped, o = .ok (.stop (gathered.extend [entry] (some stopped)))
      ∧ BatchRun args (command :: rest) index gathered.resultsBytes [entry] events (some stopped))
    ∨ ∃ pending, o = .ok (.next pending (gathered.extend [entry] none))
      ∧ ∀ entries events' stopped,
        BatchRun args rest (index + 1) (gathered.resultsBytes + (entry.toJson.size + 1)) entries
            events' stopped →
          BatchRun args (command :: rest) index gathered.resultsBytes (entry :: entries)
            (events ++ events') stopped

theorem dispatchEntry_turns (args : Args) (deadline : Deadline) (command : PreparedCommand C X B)
    (rest : List (PreparedCommand C X B)) (index : ℕ)
    (pending baseline : Option (Except AdapterError B)) (gathered : Gathered) :
    (host.dispatchEntry args deadline command rest.isEmpty index pending baseline gathered).Sat
      (Turns args command rest index gathered) := by
  unfold dispatchEntry
  refine Prog.sat_ask_bind (fun result => Prog.sat_emit_bind ?_)
  have hcompleted := boundedEntry_isCompleted index command.name result gathered.resultsBytes
  cases hbounded : (boundedEntry index command.name result gathered.resultsBytes).2 with
  | true =>
    rw [if_pos rfl]
    refine Prog.sat_pure ⟨_, .inl ⟨_, ?_, .oversized result hbounded⟩⟩
    rw [Gathered.extend_of_isCompleted gathered hcompleted]
    rfl
  | false =>
    rw [if_neg (by simp)]
    split
    · rename_i hstop
      obtain ⟨hfailed, hstop⟩ := Bool.and_eq_true_iff.mp hstop
      refine Prog.sat_pure ⟨_, .inl ⟨_, ?_, .failed result hbounded (by simpa using hfailed)
        hstop⟩⟩
      rw [Gathered.extend_of_isCompleted gathered hcompleted]
      rfl
    · rename_i hgo
      refine Prog.sat_ask_bind (fun now => ?_)
      split
      · refine Prog.sat_emit_bind (Prog.sat_pure ⟨_, .inl ⟨_, ?_, .expiredAfter result hbounded⟩⟩)
        rw [Gathered.extend_of_isCompleted gathered hcompleted]
        rfl
      · refine Prog.sat_pure ⟨_, .inr ⟨baseline, ?_, fun entries events' stopped hrest =>
          .dispatched result hbounded (by simpa using hgo) hrest⟩⟩
        rw [Gathered.extend_of_isCompleted gathered hcompleted]
        rfl

theorem runEntry_turns (args : Args) (deadline : Deadline) (command : PreparedCommand C X B)
    (rest : List (PreparedCommand C X B)) (index : ℕ) (pending : Option (Except AdapterError B))
    (gathered : Gathered) :
    (host.runEntry args deadline command rest index pending gathered).Sat
      (Turns args command rest index gathered) := by
  unfold runEntry
  refine Prog.sat_ask_bind (fun now => ?_)
  split
  · refine Prog.sat_emit_bind (Prog.sat_pure ⟨_, .inl ⟨_, ?_, .expired command rest index _⟩⟩)
    rw [Gathered.extend_of_not_isCompleted gathered rfl]
    rfl
  · refine (host.sessionEndedFor_sure command).bind_sat (fun ended => ?_)
    cases ended with
    | some sessionId =>
      refine Prog.sat_emit_bind ?_
      cases hstop : args.stopOnError with
      | true =>
        rw [if_pos rfl]
        refine Prog.sat_pure ⟨_, .inl ⟨_, ?_, .sessionEndedStop command rest index _ sessionId
          hstop⟩⟩
        rw [Gathered.extend_of_not_isCompleted gathered rfl]
        rfl
      | false =>
        rw [if_neg (by simp)]
        refine Prog.sat_pure ⟨_, .inr ⟨none, ?_, fun entries events' stopped hrest =>
          .sessionEnded sessionId hstop hrest⟩⟩
        rw [Gathered.extend_of_not_isCompleted gathered rfl]
        rfl
    | none =>
      refine (host.captureNext_sure deadline rest).bind_sat (fun baseline => ?_)
      split
      · rename_i error next hnext
        refine Prog.sat_emit_bind (Prog.sat_pure ⟨_, .inl ⟨_, ?_, .baselineFailed command next index
          _ error hnext⟩⟩)
        rw [Gathered.extend_of_not_isCompleted gathered rfl]
        rfl
      · exact host.dispatchEntry_turns args deadline command rest index pending _ gathered

/-- **Every run has the shape of a batch run**, and gathers its records. The induction is on the
entries that are left. -/
theorem runFrom_run (args : Args) (deadline : Deadline) (commands : List (PreparedCommand C X B))
    (index : ℕ) (pending : Option (Except AdapterError B)) (gathered : Gathered) :
    (host.runFrom args deadline commands index pending gathered).Sat (fun o events =>
      ∃ entries stopped, o = .ok (gathered.extend entries stopped)
        ∧ BatchRun args commands index gathered.resultsBytes entries events stopped) := by
  induction commands generalizing index pending gathered with
  | nil =>
    refine Prog.sat_pure ⟨[], none, ?_, .finished _ _⟩
    rw [Gathered.extend_nil]
  | cons command rest ih =>
    unfold runFrom
    refine (host.runEntry_turns args deadline command rest index pending gathered).bind
      (fun flow events hturn => ?_) (fun error events hturn => ?_) (fun events hturn => ?_)
    · obtain ⟨entry, ⟨stopped, hflow, hrun⟩ | ⟨pending', hflow, hrun⟩⟩ := hturn
      · obtain rfl := Outcome.ok.inj hflow
        exact Prog.sat_pure ⟨[entry], some stopped, rfl, by simpa using hrun⟩
      · obtain rfl := Outcome.ok.inj hflow
        refine (ih (index + 1) pending' _).mono (fun o events' hrest => ?_)
        obtain ⟨entries, stopped, rfl, hrest⟩ := hrest
        refine ⟨entry :: entries, stopped, ?_, hrun _ _ _ (by
          simpa [Gathered.extend, Json.itemsSize] using hrest)⟩
        rw [Gathered.extend_extend]
        rfl
    · obtain ⟨entry, ⟨stopped, hflow, -⟩ | ⟨pending', hflow, -⟩⟩ := hturn <;> cases hflow
    · obtain ⟨entry, ⟨stopped, hflow, -⟩ | ⟨pending', hflow, -⟩⟩ := hturn <;> cases hflow

/-! ## What a run accounts for

Each account is a property of the shape alone: it is proved by induction over `BatchRun`, and no
longer looks at the host. -/

/-- The place and the name of a record. -/
def entryKey (entry : BatchEntry) : ℕ × String := (entry.index, entry.command)

/-- What a record says of the delivery, when its entry was not started. -/
def SaysNotDelivered (entry : BatchEntry) : Prop :=
  ∀ reason error, entry.execution = .notStarted reason error → error.disposition = .notDelivered

theorem boundedEntry_key (index : ℕ) (command : String) (result : Except AppError Json)
    (used : ℕ) : entryKey (boundedEntry index command result used).1 = (index, command) := by
  unfold boundedEntry
  simp only
  split <;> rfl

namespace BatchRun

variable {args : Args} {commands : List (PreparedCommand C X B)} {index used : ℕ}
  {entries : List BatchEntry} {events : List (Event C)} {stopped : Option Json}

/-- **One record for each entry** from one on, in order, as far as the batch came. -/
theorem records (h : BatchRun args commands index used entries events stopped) :
    entries.map entryKey <+: (commands.zipIdx index).map (fun p => (p.2, p.1.name)) := by
  induction h with
  | finished index used => exact List.nil_prefix
  | expired command rest index used => exact ⟨_, rfl⟩
  | sessionEndedStop command rest index used sessionId hstop => exact ⟨_, rfl⟩
  | sessionEnded sessionId hgo hrest ih => exact (List.prefix_cons_inj _).mpr ih
  | baselineFailed command next index used error hnext => exact ⟨_, rfl⟩
  | oversized result hbounded => exact ⟨_, by rw [List.map_singleton, boundedEntry_key]; rfl⟩
  | failed result hbounded hfailed hstop =>
    exact ⟨_, by rw [List.map_singleton, boundedEntry_key]; rfl⟩
  | expiredAfter result hbounded => exact ⟨_, by rw [List.map_singleton, boundedEntry_key]; rfl⟩
  | dispatched result hbounded hgo hrest ih =>
    rw [List.map_cons, boundedEntry_key]
    exact (List.prefix_cons_inj _).mpr ih

theorem order (h : BatchRun args commands index used entries events stopped) :
    (dispatches events).Sublist ((commands.zipIdx index).map (fun p => (p.2, p.1.command))) := by
  induction h with
  | finished index used => exact List.Sublist.refl _
  | expired command rest index used => exact List.nil_sublist _
  | sessionEndedStop command rest index used sessionId hstop => exact List.nil_sublist _
  | sessionEnded sessionId hgo hrest ih => exact ih.cons _
  | baselineFailed command next index used error hnext => exact List.nil_sublist _
  | oversized result hbounded => exact (List.nil_sublist _).cons_cons _
  | failed result hbounded hfailed hstop => exact (List.nil_sublist _).cons_cons _
  | expiredAfter result hbounded => exact (List.nil_sublist _).cons_cons _
  | dispatched result hbounded hgo hrest ih => exact ih.cons_cons _

/-- **The records that say completed** are those of the dispatched entries, in the same order. -/
theorem completed (h : BatchRun args commands index used entries events stopped) :
    (dispatches events).map Prod.fst
      = (entries.filter BatchEntry.isCompleted).map BatchEntry.index := by
  have hindex : ∀ index command result used,
      (boundedEntry index command result used).1.index = index := fun index command result used =>
    congrArg Prod.fst (boundedEntry_key index command result used)
  induction h with
  | finished index used => rfl
  | expired command rest index used => rfl
  | sessionEndedStop command rest index used sessionId hstop => rfl
  | sessionEnded sessionId hgo hrest ih => exact ih
  | baselineFailed command next index used error hnext => rfl
  | oversized result hbounded =>
    simp [dispatches, Event.dispatch?, boundedEntry_isCompleted, hindex]
  | failed result hbounded hfailed hstop =>
    simp [dispatches, Event.dispatch?, boundedEntry_isCompleted, hindex]
  | expiredAfter result hbounded =>
    simp [dispatches, Event.dispatch?, boundedEntry_isCompleted, hindex]
  | @dispatched command rest index used entries events stopped result hbounded hgo hrest ih =>
    rw [List.filter_cons_of_pos (boundedEntry_isCompleted _ _ _ _), List.map_cons, ← ih, hindex]
    rfl

/-- **Nothing is dispatched after a stop.** -/
theorem stops (h : BatchRun args commands index used entries events stopped) :
    events.Pairwise (fun event later =>
      event.stops args.stopOnError = true → later.dispatch? = none) := by
  induction h with
  | finished index used => exact List.Pairwise.nil
  | expired command rest index used => exact List.pairwise_singleton _ _
  | sessionEndedStop command rest index used sessionId hstop => exact List.pairwise_singleton _ _
  | sessionEnded sessionId hgo hrest ih =>
    refine List.pairwise_cons.mpr ⟨fun later _ hstop => ?_, ih⟩
    rw [Event.stops, hgo] at hstop
    nomatch hstop
  | baselineFailed command next index used error hnext => exact List.pairwise_singleton _ _
  | oversized result hbounded => exact List.pairwise_singleton _ _
  | failed result hbounded hfailed hstop => exact List.pairwise_singleton _ _
  | expiredAfter result hbounded =>
    refine List.pairwise_cons.mpr ⟨fun later hlater _ => ?_, List.pairwise_singleton _ _⟩
    rw [List.mem_singleton.mp hlater]
    rfl
  | dispatched result hbounded hgo hrest ih =>
    refine List.pairwise_cons.mpr ⟨fun later _ hstop => ?_, ih⟩
    rw [Event.stops, Bool.false_or, hgo] at hstop
    nomatch hstop

/-- **An entry that was not started was not delivered**, and its record says so. -/
theorem notStarted (h : BatchRun args commands index used entries events stopped) :
    ∀ entry ∈ entries, SaysNotDelivered entry := by
  have hcompleted : ∀ entry : BatchEntry, entry.isCompleted = true → SaysNotDelivered entry := by
    intro entry hentry reason error hexecution
    rw [BatchEntry.isCompleted, hexecution] at hentry
    nomatch hentry
  have hbounded : ∀ index command result used,
      SaysNotDelivered (boundedEntry index command result used).1 := fun index command result used =>
    hcompleted _ (boundedEntry_isCompleted index command result used)
  have hrecord : ∀ index command reason error,
      (ErrorPayload.fromAppError error).disposition = .notDelivered →
        SaysNotDelivered (notStartedEntry index command reason error) := by
    intro index command reason error herror reason' error' hexecution
    obtain ⟨-, rfl⟩ := Execution.notStarted.inj hexecution
    exact herror
  induction h with
  | finished index used => exact fun _ hentry => nomatch hentry
  | expired command rest index used => exact List.forall_mem_singleton.mpr (hrecord _ _ _ _ rfl)
  | sessionEndedStop command rest index used sessionId hstop =>
    exact List.forall_mem_singleton.mpr (hrecord _ _ _ _ rfl)
  | sessionEnded sessionId hgo hrest ih =>
    exact List.forall_mem_cons.mpr ⟨hrecord _ _ _ _ rfl, ih⟩
  | baselineFailed command next index used error hnext =>
    exact List.forall_mem_singleton.mpr (hrecord _ _ _ _ rfl)
  | oversized result _ => exact List.forall_mem_singleton.mpr (hbounded _ _ _ _)
  | failed result _ hfailed hstop => exact List.forall_mem_singleton.mpr (hbounded _ _ _ _)
  | expiredAfter result _ => exact List.forall_mem_singleton.mpr (hbounded _ _ _ _)
  | dispatched result _ hgo hrest ih => exact List.forall_mem_cons.mpr ⟨hbounded _ _ _ _, ih⟩

end BatchRun

/-! ## Admission -/

/-- **An admitted batch**: not too many entries, and each of them has passed its checks. -/
def Admitted (host : BatchHost σ C X B) (args : Args) (commands : List (PreparedCommand C X B)) :
    Prop :=
  ∃ items, host.parseJson args.commandsJson = .ok items ∧ items.length ≤ maxBatchEntries
    ∧ List.Forall₂ (fun item command => command.name = item.command
      ∧ host.checkItem item = .ok command.command
      ∧ host.preflightContext command.command command.context = .ok ()) items commands

omit [FloatText] in
theorem parseFrom_ok {items : List BatchCommand} {index : ℕ}
    {parsed : List (BatchCommand × Commands C)} (h : host.parseFrom index items = .ok parsed) :
    List.Forall₂ (fun item p => p.1 = item ∧ host.checkItem item = .ok p.2) items parsed := by
  induction items generalizing index parsed with
  | nil =>
    obtain rfl := Except.ok.inj h
    exact .nil
  | cons item rest ih =>
    unfold parseFrom at h
    obtain ⟨command, hcommand, h⟩ := Except.bind_eq_ok_iff.mp h
    obtain ⟨parsed', hparsed, h⟩ := Except.bind_eq_ok_iff.mp h
    obtain rfl := Except.pure_eq_ok_iff.mp h
    exact .cons ⟨rfl, Except.mapError_eq_ok_iff.mp hcommand⟩ (ih hparsed)

omit [FloatText] in
theorem prepareFrom_sat (context : CommandContext X B)
    (parsed : List (BatchCommand × Commands C)) (index : ℕ) :
    (host.prepareFrom context index parsed).Sat (fun o events => events = [] ∧ o ≠ .running
      ∧ ∀ commands, o = .ok commands → List.Forall₂ (fun p command => command.name = p.1.command
        ∧ command.command = p.2
        ∧ host.preflightContext command.command command.context = .ok ()) parsed commands) := by
  induction parsed generalizing index with
  | nil =>
    refine Prog.sat_pure ⟨rfl, by simp, fun commands h => ?_⟩
    obtain rfl := Outcome.ok.inj h
    exact .nil
  | cons p rest ih =>
    obtain ⟨item, command⟩ := p
    unfold prepareFrom
    refine Prog.sat_mapError_call_bind (fun itemContext => ?_) (fun error => ?_)
    · refine Prog.sat_ofExcept_bind (fun _ hcheck => ?_) (fun error _ => ?_)
      · refine (ih (index + 1)).bind (fun prepared events h => ?_) (fun error events h => ?_)
          (fun events h => absurd rfl h.2.1)
        · refine Prog.sat_pure ⟨by rw [h.1]; rfl, by simp, fun commands hcommands => ?_⟩
          obtain rfl := Outcome.ok.inj hcommands
          exact .cons ⟨rfl, rfl, Except.mapError_eq_ok_iff.mp hcheck⟩ (h.2.2 prepared rfl)
        · exact ⟨h.1, by simp, fun commands hcommands => nomatch hcommands⟩
      · exact ⟨rfl, by simp, fun commands hcommands => nomatch hcommands⟩
    · exact ⟨rfl, by simp, fun commands hcommands => nomatch hcommands⟩

omit [FloatText] in
theorem prepare_sat (input : String) (context : CommandContext X B) :
    (host.prepare input context).Sat (fun o events => events = [] ∧ o ≠ .running
      ∧ ∀ commands, o = .ok commands → ∃ items, host.parseJson input = .ok items
        ∧ items.length ≤ maxBatchEntries
        ∧ List.Forall₂ (fun item command => command.name = item.command
          ∧ host.checkItem item = .ok command.command
          ∧ host.preflightContext command.command command.context = .ok ()) items commands) := by
  unfold prepare
  split
  · exact Prog.sat_fail ⟨rfl, by simp, fun _ h => nomatch h⟩
  · refine Prog.sat_ofExcept_bind (fun items hitems => ?_) (fun error _ =>
      ⟨rfl, by simp, fun _ h => nomatch h⟩)
    split
    · exact Prog.sat_fail ⟨rfl, by simp, fun _ h => nomatch h⟩
    · rename_i hcount
      refine Prog.sat_ofExcept_bind (fun parsed hparsed => ?_) (fun error _ =>
        ⟨rfl, by simp, fun _ h => nomatch h⟩)
      refine (host.prepareFrom_sat context parsed 0).mono (fun o events h => ⟨h.1, h.2.1,
        fun commands hcommands => ⟨items, Except.mapError_eq_ok_iff.mp hitems,
          Nat.le_of_not_lt hcount, ?_⟩⟩)
      refine (host.parseFrom_ok hparsed).through (h.2.2 commands hcommands) ?_
      rintro item ⟨item', command⟩ prepared ⟨rfl, hcheck⟩ ⟨hname, rfl, hcontext⟩
      exact ⟨hname, hcheck, hcontext⟩

omit [FloatText] in
/-- **The checks record nothing, and what passes them is admitted.** -/
theorem admission_sat (args : Args) (context : CommandContext X B) :
    (host.admission args context).Sat (fun o events => events = [] ∧ o ≠ .running
      ∧ ∀ deadline commands, o = .ok (deadline, commands) → Admitted host args commands) := by
  unfold admission
  refine Prog.sat_ask_bind (fun now => ?_)
  refine Prog.sat_ofExcept_bind (fun deadline _ => ?_) (fun error _ =>
    ⟨rfl, by simp, fun _ _ h => nomatch h⟩)
  refine (host.prepare_sat args.commandsJson _).bind (fun commands events h => ?_)
    (fun error events h => ⟨h.1, by simp, fun _ _ h => nomatch h⟩)
    (fun events h => absurd rfl h.2.1)
  refine Prog.sat_pure ⟨by rw [h.1]; rfl, by simp, fun deadline' commands' hadmitted => ?_⟩
  obtain ⟨rfl, rfl⟩ := Prod.mk.inj (Outcome.ok.inj hadmitted)
  exact h.2.2 commands rfl

/-! ## The accounts of a batch -/

/-- The record says in the response that the entry was dispatched. -/
def SaysCompleted (entry : BatchEntry) : Prop :=
  entry.toJson.get "execution" = some (.str "completed")

omit [FloatText] in
theorem saysCompleted_iff (entry : BatchEntry) : SaysCompleted entry ↔ entry.isCompleted = true := by
  obtain ⟨index, command, execution⟩ := entry
  cases execution with
  | completed result =>
    cases result with
    | ok data => exact iff_of_true rfl rfl
    | error error => exact iff_of_true rfl rfl
  | notStarted reason error =>
    refine iff_of_false (fun h => ?_) (by simp [BatchEntry.isCompleted])
    have h : "not_started" = "completed" := Json.str.inj (Option.some.inj h)
    exact absurd h (by decide)

omit [FloatText] in
theorem disposition_of_not_saysCompleted {entry : BatchEntry} (hentry : ¬SaysCompleted entry)
    (hsaid : SaysNotDelivered entry) :
    (entry.toJson.get "error").bind (fun error => error.get "disposition")
      = some DeliverySemantics.notDelivered.toJson := by
  obtain ⟨index, command, execution⟩ := entry
  cases execution with
  | completed result => exact absurd ((saysCompleted_iff _).mpr rfl) hentry
  | notStarted reason error =>
    have hdisposition : error.disposition = .notDelivered := hsaid reason error rfl
    have hget : error.toJson.get "disposition" = some error.disposition.toJson := by
      obtain ⟨code, message, suggestion, recovery, platformDetail, details, disposition⟩ := error
      cases suggestion <;> cases recovery <;> cases platformDetail <;> cases details <;> rfl
    rw [hdisposition] at hget
    exact hget

/-- **The accounts of a batch**: what the records say of what happened. -/
structure Accounts (args : Args) (commands : List (PreparedCommand C X B))
    (events : List (Event C)) (entries : List BatchEntry) : Prop where
  /-- There is one record for each entry of the first part of the batch, in order. -/
  records : entries.map entryKey <+: commands.zipIdx.map (fun p => (p.2, p.1.name))
  /-- The entries are dispatched in order, each at most once. -/
  order : (dispatches events).Sublist (commands.zipIdx.map (fun p => (p.2, p.1.command)))
  /-- Every dispatched entry has a record. -/
  recorded : ∀ p ∈ dispatches events, ∃ entry ∈ entries, entry.index = p.1
  /-- A record says completed exactly when its entry was dispatched. -/
  completed : ∀ entry ∈ entries,
    SaysCompleted entry ↔ ∃ command, (entry.index, command) ∈ dispatches events
  /-- Nothing is dispatched after a stop. -/
  stops : events.Pairwise (fun event later =>
    event.stops args.stopOnError = true → later.dispatch? = none)
  /-- Any other record says that nothing was delivered. -/
  notStarted : ∀ entry ∈ entries, ¬SaysCompleted entry →
    (entry.toJson.get "error").bind (fun error => error.get "disposition")
      = some DeliverySemantics.notDelivered.toJson

theorem BatchRun.accounts {args : Args} {commands : List (PreparedCommand C X B)} {used : ℕ}
    {entries : List BatchEntry} {events : List (Event C)} {stopped : Option Json}
    (h : BatchRun args commands 0 used entries events stopped) :
    Accounts args commands events entries where
  records := h.records
  order := h.order
  recorded := fun p hp => by
    have hmem : p.1 ∈ (entries.filter BatchEntry.isCompleted).map BatchEntry.index :=
      h.completed ▸ List.mem_map_of_mem hp
    obtain ⟨entry, hentry, hindex⟩ := List.mem_map.mp hmem
    exact ⟨entry, List.mem_of_mem_filter hentry, hindex⟩
  completed := fun entry hentry => by
    have hnodup : (entries.map BatchEntry.index).Nodup := by
      have hfront := h.records.map Prod.fst
      rw [List.map_map, List.map_map] at hfront
      have hrange := List.zipIdx_map_snd 0 commands
      exact hfront.sublist.nodup (hrange ▸ List.nodup_range')
    rw [saysCompleted_iff]
    constructor
    · intro hcompleted
      have hmem : entry.index ∈ (dispatches events).map Prod.fst := by
        rw [h.completed]
        exact List.mem_map_of_mem (List.mem_filter.mpr ⟨hentry, hcompleted⟩)
      obtain ⟨⟨index, command⟩, hp, rfl⟩ := List.mem_map.mp hmem
      exact ⟨command, hp⟩
    · rintro ⟨command, hp⟩
      have hmem : entry.index ∈ (entries.filter BatchEntry.isCompleted).map BatchEntry.index :=
        h.completed ▸ List.mem_map_of_mem hp
      obtain ⟨other, hother, hindex⟩ := List.mem_map.mp hmem
      obtain ⟨hother, hcompleted⟩ := List.mem_filter.mp hother
      rwa [← List.inj_on_of_nodup_map hnodup hother hentry hindex]
  stops := h.stops
  notStarted := fun entry hentry hcompleted =>
    disposition_of_not_saysCompleted hcompleted (h.notStarted entry hentry)

end BatchHost

/-! ## A sample: a wait whose baseline fails -/

namespace Sample

/-- The lengths of the fractions do not matter to the batch. -/
@[reducible] def noFractions : FloatText := ⟨fun _ => 0⟩

end Sample

end AgentDesktop
