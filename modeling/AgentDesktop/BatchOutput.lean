import AgentDesktop.BatchAccounting
import AgentDesktop.SessionRuns

/-!
# Whether the response of a batch fits

The results of the commands are checked against the room that is left before they
are put in the response, and a part of the limit is kept for what is not checked:
the record of an entry that the deadline has overtaken, the record that replaces a
result that does not fit, and what stands around the records. For these the reserve
is ample.

Two more records are put in the response whatever their size, and they are not
small: that of an entry whose session has ended, of which there may be any number,
and that of an entry before a wait whose baseline could not be captured, which says
all that the adapter said. As long as these leave a quarter of the reserve, the
response fits; where they do not, all the results are lost.
-/

namespace AgentDesktop

namespace BatchHost

variable {σ C X B : Type} [FloatText]

/-! ## Sizes that are bounded -/

/-- The quarter of the reserve that is enough for the end of a response. -/
def endReserve : ℕ := outputMetadataReserve / 4

/-- The most that a record takes whose texts are fixed. -/
def smallRecord : ℕ := 512

/-- The most that the reason of a stop takes. -/
def smallStop : ℕ := 256

theorem size_index_le {index : ℕ} (hindex : index ≤ maxBatchEntries) :
    (Json.num index).size ≤ 2 := by
  refine Json.size_natCast_le (by decide) (lt_of_le_of_lt hindex ?_)
  decide

omit [FloatText] in
theorem textSize_name_le {name : String} (hname : name ∈ batchCommandNames) :
    Json.textSize name ≤ 27 := by
  have hall : ∀ name ∈ batchCommandNames, Json.textSize name ≤ 27 := by decide +kernel
  exact hall name hname

theorem size_disposition_le (disposition : DeliverySemantics) : disposition.toJson.size ≤ 60 := by
  cases disposition <;> exact Nat.le_of_ble_eq_true rfl

theorem size_resultOmitted_le {index : ℕ} {command : String} (hindex : index ≤ maxBatchEntries)
    (hcommand : Json.textSize command ≤ 27) (disposition : DeliverySemantics) :
    (completedEntry index command (.error (resultOmitted index disposition))).toJson.size
      ≤ smallRecord := by
  have hnumber := size_index_le hindex
  have hlimit : (Json.num ↑maxBatchOutputBytes).size = 7 := rfl
  have hdisposition := size_disposition_le disposition
  have hrecovery : recoveryForCode .invalidArgs disposition = none := by
    cases disposition <;> rfl
  show Json.size (.obj [("version", .str envelopeVersion), ("ok", .bool false),
    ("command", .str command), ("index", .num index), ("execution", .str "completed"),
    ("error", (ErrorPayload.fromAppError (resultOmitted index disposition)).toJson)]) ≤ 512
  rw [resultOmitted, ErrorPayload.fromAppError]
  simp only [AdapterError.withSuggestion, AdapterError.withDetails, AdapterError.withDisposition,
    AdapterError.new, hrecovery, ErrorPayload.toJson, Json.object, List.filterMap_cons,
    List.filterMap_nil, Option.map_some, Option.map_none, ErrorCode.asStr, Json.size_obj_cons,
    Json.fieldsSize_cons, Json.fieldsSize_nil, Json.size_str, Json.size_bool, hlimit]
  generalize Json.textSize command = n at hcommand ⊢
  have hkeys : ["version", envelopeVersion, "ok", "command", "index", "execution", "completed",
      "error", "code", "INVALID_ARGS", "message",
      "Batch entry completed but its result exceeded the response limit", "suggestion",
      "Split the batch or narrow commands that return large payloads", "details", "batch_index",
      "max_output_bytes", "result_omitted", "disposition"].map
      Json.textSize = [9, 5, 4, 9, 7, 11, 11, 7, 6, 14, 9, 66, 12, 63, 9, 13, 18, 16, 13] := by
    decide
  simp only [List.map_cons, List.map_nil, List.cons.injEq] at hkeys
  simp only [hkeys, Bool.false_eq_true, ↓reduceIte]
  clear hkeys
  omega

theorem size_expiredEntry_le {args : Args} {index : ℕ} {command : PreparedCommand C X B}
    (hindex : index ≤ maxBatchEntries) (hcommand : Json.textSize command.name ≤ 27)
    (htimeout : args.timeoutMs ≤ maxWaitTimeoutMs) :
    (expiredEntry args index command).toJson.size ≤ smallRecord := by
  have hnumber := size_index_le hindex
  have htime : (Json.num args.timeoutMs).size ≤ 8 := by
    refine Json.size_natCast_le (by decide) (lt_of_le_of_lt htimeout ?_)
    decide
  have hdisposition := size_disposition_le .notDelivered
  have hrecovery : recoveryForCode .timeout .notDelivered = none := rfl
  show Json.size (.obj [("version", .str envelopeVersion), ("ok", .bool false),
    ("command", .str command.name), ("index", .num index), ("execution", .str "not_started"),
    ("not_started_reason", .str "deadline"),
    ("error", (ErrorPayload.fromAppError
      (batchTimeout index command.name args.timeoutMs)).toJson)]) ≤ 512
  rw [batchTimeout, ErrorPayload.fromAppError]
  simp only [AdapterError.timeout, AdapterError.withSuggestion, AdapterError.withDetails,
    AdapterError.withDisposition, AdapterError.new, hrecovery, ErrorPayload.toJson, Json.object,
    List.filterMap_cons, List.filterMap_nil, Option.map_some, Option.map_none, ErrorCode.asStr,
    Json.size_obj_cons, Json.fieldsSize_cons, Json.fieldsSize_nil, Json.size_str, Json.size_bool]
  generalize Json.textSize command.name = n at hcommand ⊢
  generalize DeliverySemantics.notDelivered.toJson.size = d at hdisposition ⊢
  have hkeys : ["version", envelopeVersion, "ok", "command", "index", "execution", "not_started",
      "not_started_reason", "deadline", "error", "code", "TIMEOUT", "message",
      "Batch deadline elapsed before the entry started", "suggestion",
      "The target application may be busy or unresponsive", "details", "kind", "batch_deadline",
      "batch_index", "batch_command", "timeout_ms", "disposition"].map
      Json.textSize = [9, 5, 4, 9, 7, 11, 13, 20, 10, 7, 6, 9, 9, 49, 12, 52, 9, 6, 16, 13, 15, 12,
        13] := by
    decide
  simp only [List.map_cons, List.map_nil, List.cons.injEq] at hkeys
  simp only [hkeys, Bool.false_eq_true, ↓reduceIte]
  clear hkeys
  omega

theorem size_boundedEntry_le {index : ℕ} {command : String} {result : Except AppError Json}
    {used : ℕ} (h : (boundedEntry index command result used).2 = false) :
    used + ((boundedEntry index command result used).1.toJson.size + 1) + endReserve
      ≤ maxBatchOutputBytes := by
  unfold boundedEntry at h ⊢
  simp only at h ⊢
  split at h
  · rename_i hfits
    rw [if_pos hfits]
    have hpositive : 0 < (completedEntry index command result).toJson.size := by
      cases result with
      | ok data =>
        show 0 < Json.size (.obj _)
        rw [Json.size_obj_cons]
        omega
      | error error =>
        show 0 < Json.size (.obj _)
        rw [Json.size_obj_cons]
        omega
    have hfits := of_decide_eq_true hfits
    dsimp only
    unfold maxBatchOutputBytes outputMetadataReserve at hfits
    unfold endReserve maxBatchOutputBytes outputMetadataReserve
    omega
  · nomatch h

theorem size_boundedEntry_oversized_le {index : ℕ} {command : String}
    {result : Except AppError Json} {used : ℕ} (hindex : index ≤ maxBatchEntries)
    (hcommand : Json.textSize command ≤ 27)
    (h : (boundedEntry index command result used).2 = true) :
    (boundedEntry index command result used).1.toJson.size ≤ smallRecord := by
  unfold boundedEntry at h ⊢
  simp only at h ⊢
  split at h
  · nomatch h
  · rename_i hfits
    rw [if_neg hfits]
    exact size_resultOmitted_le hindex hcommand _

/-! ## What stands around the records -/

theorem size_stopAt_le {reason key : String} {index : ℕ} (hreason : Json.textSize reason ≤ 28)
    (hkey : Json.textSize key ≤ 13) (hindex : index ≤ maxBatchEntries) :
    (Json.obj [("reason", .str reason), (key, .num index)]).size ≤ smallStop := by
  have hnumber := size_index_le hindex
  simp only [Json.size_obj_cons, Json.fieldsSize_cons, Json.fieldsSize_nil, Json.size_str]
  have hname : Json.textSize "reason" = 8 := rfl
  unfold smallStop
  omega

theorem size_stopBefore_le {index : ℕ} {command next : String}
    (hindex : index + 1 ≤ maxBatchEntries) (hcommand : Json.textSize command ≤ 27)
    (hnext : Json.textSize next ≤ 27) :
    (Json.obj [("reason", .str "pre_action_baseline_failed"), ("blocked_index", .num index),
      ("blocked_command", .str command), ("wait_index", .num ↑(index + 1)),
      ("wait_command", .str next)]).size ≤ smallStop := by
  have hnumber := size_index_le (Nat.le_of_succ_le hindex)
  have hafter := size_index_le hindex
  simp only [Json.size_obj_cons, Json.fieldsSize_cons, Json.fieldsSize_nil, Json.size_str]
  generalize Json.textSize command = n at hcommand ⊢
  generalize Json.textSize next = m at hnext ⊢
  have hkeys : ["reason", "pre_action_baseline_failed", "blocked_index", "blocked_command",
      "wait_index", "wait_command"].map Json.textSize = [8, 28, 15, 17, 12, 14] := by
    decide +kernel
  simp only [List.map_cons, List.map_nil, List.cons.injEq] at hkeys
  simp only [hkeys]
  clear hkeys
  unfold smallStop
  omega

/-- **The response around the records is small**: what is kept for the end of it is enough for
it and for one more small record. -/
theorem size_responseBody_le {args : Args} {total elapsedMs : ℕ} {gathered : Gathered}
    (hbytes : gathered.resultsBytes = Json.itemsSize (gathered.results.map BatchEntry.toJson))
    (hroom : gathered.resultsBytes + endReserve ≤ maxBatchOutputBytes + smallRecord + 1)
    (htotal : total ≤ maxBatchEntries) (hcompleted : gathered.completed ≤ maxBatchEntries)
    (htimeout : args.timeoutMs ≤ maxWaitTimeoutMs) (helapsed : elapsedMs < 10 ^ 23)
    (hstopped : ∀ stopped, gathered.stopped = some stopped → stopped.size ≤ smallStop) :
    (responseBody args total gathered elapsedMs).size ≤ maxBatchOutputBytes := by
  have htotal' := size_index_le htotal
  have hcompleted' := size_index_le hcompleted
  have hnotStarted := size_index_le (le_trans (Nat.sub_le total gathered.completed) htotal)
  have htime : (Json.num args.timeoutMs).size ≤ 8 := by
    refine Json.size_natCast_le (by decide) (lt_of_le_of_lt htimeout ?_)
    decide
  have helapsed' := Json.size_natCast_le (by decide) helapsed
  have hentries : (Json.num ↑maxBatchEntries).size = 2 := rfl
  have hinput : (Json.num ↑maxBatchJsonBytes).size = 7 := rfl
  have houtput : (Json.num ↑maxBatchOutputBytes).size = 7 := rfl
  have hresults : (Json.arr (gathered.results.map BatchEntry.toJson)).size
      ≤ gathered.resultsBytes + 2 := by
    rw [Json.size, hbytes]
    exact Json.bracketed_le _
  obtain ⟨rest, hbody, hrest⟩ : ∃ rest, responseBody args total gathered elapsedMs
      = .obj (("results", .arr (gathered.results.map BatchEntry.toJson))
        :: ("semantics", .obj [("atomic", .bool false), ("order", .str "sequential"),
          ("batch_retries", .bool false), ("command_retry_contracts", .str "preserved"),
          ("successful_action_disposition", .str "data.disposition"),
          ("error_disposition", .str "error.disposition")])
        :: ("total_entries", .num total) :: ("completed_entries", .num gathered.completed)
        :: ("not_started_entries", .num ↑(total - gathered.completed))
        :: ("timeout_ms", .num args.timeoutMs) :: ("elapsed_ms", .num elapsedMs)
        :: ("limits", .obj [("max_entries", .num maxBatchEntries),
          ("max_input_bytes", .num maxBatchJsonBytes),
          ("max_output_bytes", .num maxBatchOutputBytes)]) :: rest)
      ∧ Json.fieldsSize rest ≤ smallStop + 12 := by
    unfold responseBody
    cases hstop : gathered.stopped with
    | none => exact ⟨[], rfl, by rw [Json.fieldsSize_nil]; exact Nat.zero_le _⟩
    | some stopped =>
      refine ⟨[("stopped", stopped)], rfl, ?_⟩
      have hname : Json.textSize "stopped" = 9 := rfl
      have hsize := hstopped stopped hstop
      rw [Json.fieldsSize_cons, Json.fieldsSize_nil]
      omega
  rw [hbody]
  simp only [Json.size_obj_cons, Json.fieldsSize_cons, Json.fieldsSize_nil, Json.size_str,
    Json.size_bool, hentries, hinput, houtput]
  generalize Json.fieldsSize rest = r at hrest ⊢
  generalize (Json.arr (gathered.results.map BatchEntry.toJson)).size = results at hresults ⊢
  generalize maxBatchOutputBytes = limit at hroom ⊢
  unfold smallStop at hrest
  have hreserve : endReserve = 2048 := rfl
  rw [hreserve, smallRecord] at hroom
  have hkeys : ["results", "semantics", "atomic", "order", "sequential", "batch_retries",
      "command_retry_contracts", "preserved", "successful_action_disposition", "data.disposition",
      "error_disposition", "error.disposition", "total_entries", "completed_entries",
      "not_started_entries", "timeout_ms", "elapsed_ms", "limits", "max_entries",
      "max_input_bytes", "max_output_bytes"].map
      Json.textSize = [9, 11, 8, 7, 12, 15, 25, 11, 31, 18, 19, 19, 15, 19, 21, 12, 12, 8, 13, 17,
        18] := by
    decide +kernel
  simp only [List.map_cons, List.map_nil, List.cons.injEq] at hkeys
  simp only [hkeys, Bool.false_eq_true, ↓reduceIte]
  clear hkeys
  omega

/-! ## Steps and runs with room

The batch keeps a reserve for the end of its response, and for the records that it writes without
looking at their size. A step has room if the record of this kind that it writes fits into what is
left before it. -/

/-- **A step has room** for the record it writes whatever its size: where the session of the
entry has ended, or what the next entry compares with cannot be captured, the record leaves what
is enough for the end of the response. -/
structure StepHasRoom (host : BatchHost σ C X B) (deadline : Deadline)
    (command : PreparedCommand C X B) (rest : List (PreparedCommand C X B)) (index : ℕ)
    (gathered : Gathered) (s : σ) : Prop where
  /-- The session of the entry has ended. -/
  sessionEnded : deadline.isExpired (host.now s).1 = false → ∀ sessionId,
    (host.sessionEndedFor command).outcome (host.now s).2 = .ok (some sessionId) →
      gathered.resultsBytes + ((sessionEndedEntry index command sessionId).toJson.size + 1)
        + endReserve ≤ maxBatchOutputBytes
  /-- What the next entry compares with cannot be captured. -/
  baselineFailed : deadline.isExpired (host.now s).1 = false →
    (host.sessionEndedFor command).outcome (host.now s).2 = .ok none → ∀ error next,
      (host.captureNext deadline rest).outcome ((host.sessionEndedFor command).state (host.now s).2)
          = .ok (some (.error error)) →
        rest.head? = some next →
        gathered.resultsBytes + ((baselineFailedEntry index command next error).toJson.size + 1)
          + endReserve ≤ maxBatchOutputBytes

/-- **A run whose steps all have room**, from an entry on. -/
def HasRoom (host : BatchHost σ C X B) (args : Args) (deadline : Deadline) :
    List (PreparedCommand C X B) → ℕ → Option (Except AdapterError B) → Gathered → σ → Prop
  | [], _, _, _, _ => True
  | command :: rest, index, pending, gathered, s =>
    host.StepHasRoom deadline command rest index gathered s
      ∧ ∀ pending' gathered',
        (host.runEntry args deadline command rest index pending gathered).outcome s
            = .ok (.next pending' gathered') →
          HasRoom host args deadline rest (index + 1) pending' gathered'
            ((host.runEntry args deadline command rest index pending gathered).state s)

/-- What has been gathered leaves room for the end of the response. -/
def Gathered.Closes (gathered : Gathered) : Prop :=
  gathered.resultsBytes + endReserve ≤ maxBatchOutputBytes + smallRecord + 1
    ∧ ∀ stopped, gathered.stopped = some stopped → stopped.size ≤ smallStop

/-- What has been gathered leaves room for more records. -/
def Gathered.GoesOn (gathered : Gathered) : Prop :=
  gathered.resultsBytes + endReserve ≤ maxBatchOutputBytes ∧ gathered.stopped = none

/-- What a step leaves when it has room. -/
def Flow.Leaves : Flow B → Prop
  | .stop gathered => gathered.Closes
  | .next _ gathered => gathered.GoesOn

theorem Gathered.GoesOn.closes_of_small {gathered : Gathered} (h : gathered.GoesOn)
    {entry : BatchEntry} (hentry : entry.toJson.size ≤ smallRecord) {completed : ℕ}
    {stopped : Json} (hstopped : stopped.size ≤ smallStop) :
    Gathered.Closes { gathered.push entry with completed, stopped := some stopped } := by
  obtain ⟨hbytes, -⟩ := h
  refine ⟨?_, fun stopped' h => Option.some.inj h ▸ hstopped⟩
  show gathered.resultsBytes + (entry.toJson.size + 1) + endReserve ≤ _
  omega

theorem Gathered.closes_of_room {gathered : Gathered} {entry : BatchEntry}
    (hentry : gathered.resultsBytes + (entry.toJson.size + 1) + endReserve ≤ maxBatchOutputBytes)
    {completed : ℕ} {stopped : Json} (hstopped : stopped.size ≤ smallStop) :
    Gathered.Closes { gathered.push entry with completed, stopped := some stopped } := by
  refine ⟨?_, fun stopped' h => Option.some.inj h ▸ hstopped⟩
  show gathered.resultsBytes + (entry.toJson.size + 1) + endReserve ≤ _
  omega

variable (host : BatchHost σ C X B)

theorem dispatchEntry_leaves (args : Args) (deadline : Deadline) (command : PreparedCommand C X B)
    (last : Bool) {index : ℕ} (pending baseline : Option (Except AdapterError B))
    {gathered : Gathered} (hgathered : gathered.GoesOn) (hindex : index ≤ maxBatchEntries)
    (hname : Json.textSize command.name ≤ 27) :
    (host.dispatchEntry args deadline command last index pending baseline gathered).Sat
      (fun o _ => ∃ flow : Flow B, o = .ok flow ∧ flow.Leaves) := by
  unfold dispatchEntry
  refine Prog.sat_ask_bind (fun result => Prog.sat_emit_bind ?_)
  cases hbounded : (boundedEntry index command.name result gathered.resultsBytes).2 with
  | true =>
    rw [if_pos rfl]
    refine Prog.sat_pure ⟨_, rfl, ?_⟩
    exact hgathered.closes_of_small (size_boundedEntry_oversized_le hindex hname hbounded)
      (size_stopAt_le (Nat.le_of_ble_eq_true rfl) (Nat.le_of_ble_eq_true rfl) hindex)
  | false =>
    have hroom := size_boundedEntry_le hbounded
    rw [if_neg (by simp)]
    split
    · refine Prog.sat_pure ⟨_, rfl, ?_⟩
      exact Gathered.closes_of_room hroom
        (size_stopAt_le (Nat.le_of_ble_eq_true rfl) (Nat.le_of_ble_eq_true rfl) hindex)
    · refine Prog.sat_ask_bind (fun now => ?_)
      split
      · refine Prog.sat_emit_bind (Prog.sat_pure ⟨_, rfl, ?_⟩)
        exact Gathered.closes_of_room hroom
          (size_stopAt_le (Nat.le_of_ble_eq_true rfl) (Nat.le_of_ble_eq_true rfl) hindex)
      · exact Prog.sat_pure ⟨_, rfl, hroom, hgathered.2⟩

/-- **A step with room leaves room.** -/
theorem runEntry_leaves {args : Args} {deadline : Deadline} {command : PreparedCommand C X B}
    {rest : List (PreparedCommand C X B)} {index : ℕ} {pending : Option (Except AdapterError B)}
    {gathered : Gathered} {s : σ} (hgathered : gathered.GoesOn)
    (hroom : host.StepHasRoom deadline command rest index gathered s)
    (hindex : index + (rest.length + 1) ≤ maxBatchEntries)
    (hnames : ∀ command' ∈ command :: rest, Json.textSize command'.name ≤ 27)
    (htimeout : args.timeoutMs ≤ maxWaitTimeoutMs) :
    ∃ flow : Flow B,
      (host.runEntry args deadline command rest index pending gathered).outcome s = .ok flow
        ∧ flow.Leaves := by
  have hname := hnames command List.mem_cons_self
  have hindex' : index ≤ maxBatchEntries := by omega
  unfold runEntry
  show ∃ flow : Flow B, Prog.outcome (if deadline.isExpired (host.now s).1 = true then _ else _)
    (host.now s).2 = .ok flow ∧ flow.Leaves
  cases hexpired : deadline.isExpired (host.now s).1 with
  | true =>
    rw [if_pos rfl]
    refine ⟨_, rfl, ?_⟩
    exact hgathered.closes_of_small (size_expiredEntry_le hindex' hname htimeout)
      (size_stopAt_le (Nat.le_of_ble_eq_true rfl) (Nat.le_of_ble_eq_true rfl) hindex')
  | false =>
    rw [if_neg (by simp)]
    obtain ⟨⟨ended, hended⟩, -⟩ := host.sessionEndedFor_sure command (host.now s).2
    rw [(Prog.bind_of_outcome_ok _ hended).1]
    cases ended with
    | some sessionId =>
      have hfits := hroom.sessionEnded hexpired sessionId hended
      show ∃ flow : Flow B, Prog.outcome (if args.stopOnError = true then _ else _) _ = .ok flow
        ∧ flow.Leaves
      split
      · refine ⟨_, rfl, ?_⟩
        exact Gathered.closes_of_room hfits
          (size_stopAt_le (Nat.le_of_ble_eq_true rfl) (Nat.le_of_ble_eq_true rfl) hindex')
      · exact ⟨_, rfl, hfits, hgathered.2⟩
    | none =>
      obtain ⟨⟨baseline, hbaseline⟩, -⟩ := host.captureNext_sure deadline rest
        ((host.sessionEndedFor command).state (host.now s).2)
      dsimp only
      rw [(Prog.bind_of_outcome_ok _ hbaseline).1]
      split
      · rename_i error next hnext
        have hfits := hroom.baselineFailed hexpired hended error next hbaseline hnext
        have hrest : next ∈ rest := List.mem_of_mem_head? hnext
        have hafter : index + 1 ≤ maxBatchEntries := by omega
        refine ⟨_, rfl, ?_⟩
        exact Gathered.closes_of_room hfits
          (size_stopBefore_le hafter hname (hnames next (List.mem_cons_of_mem _ hrest)))
      · exact host.dispatchEntry_leaves args deadline command rest.isEmpty pending _ hgathered
          hindex' hname _

/-- **A run whose steps all have room closes.** The induction is on the entries that are left. -/
theorem runFrom_closes {args : Args} {deadline : Deadline} {commands : List (PreparedCommand C X B)}
    {index : ℕ} {pending : Option (Except AdapterError B)} {gathered : Gathered} {s : σ}
    (hgathered : gathered.GoesOn)
    (hroom : HasRoom host args deadline commands index pending gathered s)
    (hindex : index + commands.length ≤ maxBatchEntries)
    (hnames : ∀ command ∈ commands, Json.textSize command.name ≤ 27)
    (htimeout : args.timeoutMs ≤ maxWaitTimeoutMs) :
    ∃ gathered', (host.runFrom args deadline commands index pending gathered).outcome s
      = .ok gathered' ∧ gathered'.Closes := by
  induction commands generalizing index pending gathered s with
  | nil =>
    refine ⟨gathered, rfl, ?_, fun stopped hstopped => ?_⟩
    · have hbytes := hgathered.1
      omega
    · rw [hgathered.2] at hstopped
      nomatch hstopped
  | cons command rest ih =>
    obtain ⟨hstep, hrest⟩ := hroom
    obtain ⟨flow, hflow, hleaves⟩ := host.runEntry_leaves hgathered hstep hindex hnames htimeout
    unfold runFrom
    rw [(Prog.bind_of_outcome_ok _ hflow).1]
    cases flow with
    | stop gathered' => exact ⟨gathered', rfl, hleaves⟩
    | next pending' gathered' =>
      refine ih hleaves (hrest pending' gathered' hflow) ?_ (fun command' hmem =>
        hnames command' (List.mem_cons_of_mem _ hmem))
      rw [List.length_cons] at hindex
      omega

/-! ## The response -/

/-- The time an instant can hold: its seconds are 64 bits. -/
def instantLimit : ℕ := 2 ^ 64 * 1000000000

theorem itemsSize_le_responseBody (args : Args) (total elapsedMs : ℕ) (gathered : Gathered) :
    Json.itemsSize (gathered.results.map BatchEntry.toJson)
      ≤ (responseBody args total gathered elapsedMs).size := by
  show _ ≤ Json.size (.obj (("results", .arr _) :: _))
  rw [Json.size_obj_cons, Json.size]
  have hinside := Json.le_bracketed (Json.itemsSize (gathered.results.map BatchEntry.toJson))
  omega

omit [FloatText] in
theorem mem_batchCommandNames_of_checkItem {item : BatchCommand} {command : Commands C}
    (h : host.checkItem item = .ok command) : item.command ∈ batchCommandNames := by
  have hparse : ∀ command, host.parseCommand item = .ok command →
      item.command ∈ batchCommandNames := by
    intro command hcommand
    unfold parseCommand at hcommand
    split at hcommand
    · assumption
    · split at hcommand
      · nomatch hcommand
      · split at hcommand <;> nomatch hcommand
  unfold checkItem at h
  split at h
  · obtain ⟨_, -, h⟩ := Except.bind_eq_ok_iff.mp h
    obtain ⟨command', hcommand, -⟩ := Except.bind_eq_ok_iff.mp h
    exact hparse command' hcommand
  · obtain ⟨command', hcommand, -⟩ := Except.bind_eq_ok_iff.mp h
    exact hparse command' hcommand

omit [FloatText] in
theorem Admitted.textSize_name_le {host : BatchHost σ C X B} {args : Args}
    {commands : List (PreparedCommand C X B)} (h : Admitted host args commands) :
    ∀ command ∈ commands, Json.textSize command.name ≤ 27 := by
  obtain ⟨items, -, -, hchecked⟩ := h
  intro command hcommand
  obtain ⟨item, -, hname, hcheck, -⟩ := hchecked.exists_left hcommand
  rw [hname]
  exact BatchHost.textSize_name_le (host.mem_batchCommandNames_of_checkItem hcheck)

omit [FloatText] in
theorem Admitted.length_le {host : BatchHost σ C X B} {args : Args}
    {commands : List (PreparedCommand C X B)} (h : Admitted host args commands) :
    commands.length ≤ maxBatchEntries := by
  obtain ⟨items, -, hcount, hchecked⟩ := h
  rwa [← hchecked.length_eq]

omit [FloatText] in
theorem timeoutMs_le_of_admission {args : Args} {context : CommandContext X B} {s : σ}
    {admitted : Deadline × List (PreparedCommand C X B)}
    (h : (host.admission args context).outcome s = .ok admitted) :
    args.timeoutMs ≤ maxWaitTimeoutMs := by
  obtain ⟨now, -, h, -⟩ := Prog.ok_of_outcome_bind h
  obtain ⟨deadline, hdeadline, -, -⟩ := Prog.ok_of_outcome_bind h
  have hdeadline := Prog.eq_ok_of_outcome_ofExcept hdeadline
  by_contra hlong
  have hlong : maxWaitTimeoutMs < args.timeoutMs := Nat.lt_of_not_le hlong
  simp [Deadline.after, Deadline.detachedAfter, waitTimeoutDuration, hlong, Except.mapError,
    bind, Except.bind] at hdeadline

omit [FloatText] in
theorem elapsedMs_lt {deadline : Deadline} {now : ℕ} (hnow : now < instantLimit) :
    deadline.elapsed now / nanosPerMs < 10 ^ 23 := by
  unfold Deadline.elapsed nanosPerMs
  unfold instantLimit at hnow
  omega

theorem executePrepared_outcome {args : Args} {deadline : Deadline}
    {commands : List (PreparedCommand C X B)} {gathered : Gathered} {s : σ}
    (hgathered : (host.runFrom args deadline commands 0 none ⟨[], 0, 0, none⟩).outcome s
      = .ok gathered)
    (hfits : (responseBody args commands.length gathered (deadline.elapsed
      (host.now ((host.runFrom args deadline commands 0 none ⟨[], 0, 0, none⟩).state s)).1
        / nanosPerMs)).size ≤ maxBatchOutputBytes) :
    (host.executePrepared args deadline commands).outcome s
      = .ok (responseBody args commands.length gathered (deadline.elapsed
        (host.now ((host.runFrom args deadline commands 0 none ⟨[], 0, 0, none⟩).state s)).1
          / nanosPerMs)) := by
  unfold executePrepared
  rw [(Prog.bind_of_outcome_ok _ hgathered).1]
  unfold Prog.outcome
  rw [Prog.ask_bind_apply, if_neg (Nat.not_lt.mpr hfits)]
  rfl

theorem executePrepared_overflow {args : Args} {deadline : Deadline}
    {commands : List (PreparedCommand C X B)} {gathered : Gathered} {s : σ}
    (hgathered : (host.runFrom args deadline commands 0 none ⟨[], 0, 0, none⟩).outcome s
      = .ok gathered)
    (hover : maxBatchOutputBytes < Json.itemsSize (gathered.results.map BatchEntry.toJson)) :
    (host.executePrepared args deadline commands).outcome s
      = .error (outputLimitError gathered.completed) := by
  unfold executePrepared
  rw [(Prog.bind_of_outcome_ok _ hgathered).1]
  unfold Prog.outcome
  rw [Prog.ask_bind_apply,
    if_pos (lt_of_lt_of_le hover (itemsSize_le_responseBody args commands.length _ gathered))]
  rfl

/-- **A batch whose steps all have room is answered with its results**, in a response that
fits. -/
theorem execute_fits {args : Args} {context : CommandContext X B} {s : σ} {deadline : Deadline}
    {commands : List (PreparedCommand C X B)} (hclock : ∀ s, (host.now s).1 < instantLimit)
    (hadmission : (host.admission args context).outcome s = .ok (deadline, commands))
    (hroom : HasRoom host args deadline commands 0 none ⟨[], 0, 0, none⟩
      ((host.admission args context).state s)) :
    ∃ gathered elapsedMs,
      (host.runFrom args deadline commands 0 none ⟨[], 0, 0, none⟩).outcome
          ((host.admission args context).state s) = .ok gathered
        ∧ (host.execute args context).outcome s
          = .ok (responseBody args commands.length gathered elapsedMs)
        ∧ (responseBody args commands.length gathered elapsedMs).size ≤ maxBatchOutputBytes := by
  have hadmitted := (host.admission_sat args context s).2.2 deadline commands hadmission
  have htimeout := host.timeoutMs_le_of_admission hadmission
  have hlength := hadmitted.length_le
  obtain ⟨gathered, hgathered, hcloses⟩ := host.runFrom_closes
    ⟨by decide, rfl⟩ hroom (by omega) hadmitted.textSize_name_le htimeout
  obtain ⟨entries, stopped, hextend, hrun⟩ := host.runFrom_run args deadline commands 0 none
    ⟨[], 0, 0, none⟩ ((host.admission args context).state s)
  obtain rfl := Outcome.ok.inj (hgathered.symm.trans hextend)
  have hentries : entries.length ≤ commands.length := by
    simpa using hrun.records.length_le
  have hcompleted : entries.countP BatchEntry.isCompleted ≤ entries.length :=
    List.countP_le_length
  have hfits : ∀ elapsedMs < 10 ^ 23, (responseBody args commands.length
      (Gathered.extend ⟨[], 0, 0, none⟩ entries stopped) elapsedMs).size ≤ maxBatchOutputBytes := by
    intro elapsedMs helapsed
    refine size_responseBody_le ?_ hcloses.1 hlength ?_ htimeout helapsed hcloses.2
    · simp [Gathered.extend]
    · simp only [Gathered.extend, Nat.zero_add]
      omega
  refine ⟨_, deadline.elapsed (host.now ((host.runFrom args deadline commands 0 none
    ⟨[], 0, 0, none⟩).state ((host.admission args context).state s))).1 / nanosPerMs, hgathered,
    ?_, hfits _ (elapsedMs_lt (hclock _))⟩
  refine (Prog.bind_of_outcome_ok _ hadmission).1.trans ?_
  exact host.executePrepared_outcome hgathered (hfits _ (elapsedMs_lt (hclock _)))

end BatchHost

/-! ## A session that ends during a batch -/

namespace Sample

/-- A host whose first command takes until the session has ended, and answers with a text. The
batch has one command more than `count`. -/
def lateHost (text : String) (count : ℕ) : BatchHost Bool Unit Unit Unit where
  now := fun s => (0, s)
  inheritedDeadline := none
  parseJson := fun _ => .ok (⟨"find", none, .null⟩ :: List.replicate count ⟨"version", none, .null⟩)
  decode := fun _ _ => .ok (.other ())
  preflight := fun _ => .ok ()
  forBatchItem := fun context _ s => (.ok context, s)
  preflightContext := fun _ _ => .ok ()
  readManifest := fun _ s => (.ok (some (if s then endedSession else openSession)), s)
  captureSignalBaseline := fun _ _ s => (.error (.notSupported "capture_signal_baseline"), s)
  dispatch := fun _ _ _ => (.ok (.str text), true)

/-- The arguments of the batch: a failure does not stop it. -/
def lateArgs : BatchHost.Args := ⟨"[]", false, 1000⟩

/-- The deadline of the batch. -/
def lateDeadline : Deadline := ⟨0, 0 + 1000 * nanosPerMs, 1000, false⟩

/-- The context of the batch, in the session. -/
def lateContext : CommandContext Unit Unit := ⟨some "run-1", none, none, ()⟩

/-- An entry of the batch. -/
def lateCommand (name : String) : PreparedCommand Unit Unit Unit :=
  ⟨name, .other (), { lateContext with inheritedDeadline := some lateDeadline }⟩

/-- A text that leaves little but the reserve. -/
def fullText : String := String.ofList (List.replicate 4185912 'a')

theorem textSize_fullText : Json.textSize fullText = 2 + 4185912 := by
  have hsize : ∀ n, Json.textSize (String.ofList (List.replicate n 'a')) = 2 + n := by
    intro n
    have hletter : Json.charSize 'a' = 1 := rfl
    rw [Json.textSize, String.toList_ofList, List.map_replicate, hletter, List.sum_replicate_nat,
      Nat.mul_one]
  exact hsize 4185912

/-- The record of the entry that answers with the text. -/
def lateRecord (text : String) : BatchEntry := completedEntry 0 "find" (.ok (.str text))

/-- The records of the entries whose session has ended. -/
def lateRecords (index count : ℕ) : List BatchEntry :=
  (List.range' index count).map (fun index =>
    BatchHost.sessionEndedEntry index (lateCommand "version") "run-1")

section

variable [FloatText]

theorem runFrom_late (text : String) (total count index : ℕ)
    (pending : Option (Except AdapterError Unit)) (gathered : BatchHost.Gathered) :
    ((lateHost text total).runFrom lateArgs lateDeadline
      (List.replicate count (lateCommand "version")) index pending gathered).outcome true
        = .ok (gathered.extend (lateRecords index count) none) := by
  induction count generalizing index pending gathered with
  | zero => exact congrArg Outcome.ok gathered.extend_nil.symm
  | succ count ih =>
    refine (Prog.bind_of_outcome_ok _ (show Prog.outcome _ _ = .ok (.next none (gathered.push
      (BatchHost.sessionEndedEntry index (lateCommand "version") "run-1"))) from rfl)).1.trans ?_
    refine (ih (index + 1) none _).trans ?_
    have hpush : gathered.push (BatchHost.sessionEndedEntry index (lateCommand "version") "run-1")
        = gathered.extend [BatchHost.sessionEndedEntry index (lateCommand "version") "run-1"]
          none :=
      (gathered.extend_of_not_isCompleted rfl none).symm
    rw [hpush, BatchHost.Gathered.extend_extend]
    rfl

/-- The record of an entry whose session has ended takes its share of the reserve, whatever its
place. -/
theorem le_size_sessionEndedEntry (index : ℕ) :
    419 ≤ (BatchHost.sessionEndedEntry index (lateCommand "version") "run-1").toJson.size := by
  have hrecovery : recoveryForCode .invalidArgs .notDelivered = none := rfl
  show 419 ≤ Json.size (.obj [("version", .str envelopeVersion), ("ok", .bool false),
    ("command", .str "version"), ("index", .num index), ("execution", .str "not_started"),
    ("not_started_reason", .str "session_ended"),
    ("error", (ErrorPayload.fromAppError
      (BatchHost.batchSessionEnded index "version" "run-1")).toJson)])
  rw [BatchHost.batchSessionEnded, ErrorPayload.fromAppError]
  simp only [AdapterError.withSuggestion, AdapterError.withDetails, AdapterError.withDisposition,
    AdapterError.new, hrecovery, ErrorPayload.toJson, Json.object, List.filterMap_cons,
    List.filterMap_nil, Option.map_some, Option.map_none, ErrorCode.asStr, Json.size_obj_cons,
    Json.fieldsSize_cons, Json.fieldsSize_nil, Json.size_str, Json.size_bool]
  have hended := Json.textSize_append ("Batch entry " ++ toString index ++ " ('" ++ "version"
    ++ "') was not started because session '" ++ "run-1") "' has ended"
  have hsession := Json.textSize_append ("Batch entry " ++ toString index ++ " ('" ++ "version"
    ++ "') was not started because session '") "run-1"
  have hstarted := Json.textSize_append ("Batch entry " ++ toString index ++ " ('" ++ "version")
    "') was not started because session '"
  have hdisposition : 40 ≤ DeliverySemantics.notDelivered.toJson.size :=
    Nat.le_of_ble_eq_true rfl
  have hkeys : ["version", envelopeVersion, "ok", "command", "index", "execution", "not_started",
      "not_started_reason", "session_ended", "error", "code", "INVALID_ARGS", "message",
      "suggestion", "Re-run the entry outside the ended session or start a new session",
      "details", "kind", "batch_session_ended", "batch_index", "batch_command", "session_id",
      "run-1", "disposition", "' has ended", "') was not started because session '"].map
      Json.textSize = [9, 5, 4, 9, 7, 11, 13, 20, 15, 7, 6, 14, 9, 12, 67, 9, 6, 21, 13, 15, 12, 7,
        13, 13, 38] := by
    decide
  simp only [List.map_cons, List.map_nil, List.cons.injEq] at hkeys
  simp only [hkeys, Bool.false_eq_true, ↓reduceIte] at hended hsession hstarted ⊢
  clear hkeys
  omega

theorem le_itemsSize_lateRecords (index count : ℕ) :
    420 * count ≤ Json.itemsSize ((lateRecords index count).map BatchEntry.toJson) := by
  induction count generalizing index with
  | zero => exact Nat.zero_le _
  | succ count ih =>
    have hrecord := le_size_sessionEndedEntry index
    have hrest := ih (index + 1)
    show 420 * (count + 1) ≤ Json.size (BatchHost.sessionEndedEntry index
      (lateCommand "version") "run-1").toJson + 1
        + Json.itemsSize ((lateRecords (index + 1) count).map BatchEntry.toJson)
    omega

theorem size_lateRecord (text : String) :
    (lateRecord text).toJson.size = Json.textSize text + 86 := by
  have hindex : (Json.num ((0 : ℕ) : ℤ)).size = 1 := rfl
  show Json.size (.obj [("version", .str envelopeVersion), ("ok", .bool true),
    ("command", .str "find"), ("index", .num ((0 : ℕ) : ℤ)), ("execution", .str "completed"),
    ("data", .str text)]) = _
  simp only [Json.size_obj_cons, Json.fieldsSize_cons, Json.fieldsSize_nil, Json.size_str,
    Json.size_bool, hindex]
  generalize Json.textSize text = n
  have hkeys : ["version", envelopeVersion, "ok", "command", "find", "index", "execution",
      "completed", "data"].map Json.textSize = [9, 5, 4, 9, 6, 7, 11, 11, 6] := by
    decide +kernel
  simp only [List.map_cons, List.map_nil, List.cons.injEq] at hkeys
  simp only [hkeys, if_true]
  clear hkeys
  omega

theorem runEntry_late (text : String) (total count : ℕ)
    (htext : Json.textSize text + 86 ≤ maxBatchOutputBytes - outputMetadataReserve) :
    (lateHost text total).runEntry lateArgs lateDeadline (lateCommand "find")
        (List.replicate count (lateCommand "version")) 0 none ⟨[], 0, 0, none⟩ false
      = (.ok (.next none ⟨[lateRecord text], 0 + ((lateRecord text).toJson.size + 1), 1, none⟩),
        true, [.dispatched 0 (.other ()) false false]) := by
  have hbounded : boundedEntry 0 (lateCommand "find").name (.ok (.str text)) 0
      = (lateRecord text, false) := by
    unfold boundedEntry
    refine if_pos (decide_eq_true ?_)
    show (lateRecord text).toJson.size ≤ _
    rw [size_lateRecord]
    exact htext
  have hnow : ¬lateDeadline.isExpired ((lateHost text total).now false).1 = true :=
    show ¬lateDeadline.isExpired 0 = true by decide
  have hopen : (lateHost text total).sessionEndedFor (lateCommand "find") false
      = (.ok none, false, []) := rfl
  have hcapture : (lateHost text total).captureNext lateDeadline
      (List.replicate count (lateCommand "version")) false = (.ok none, false, []) := by
    cases count <;> rfl
  unfold BatchHost.runEntry
  rw [Prog.ask_bind_apply, if_neg hnow]
  refine (Prog.bind_apply_of_ok _ hopen).trans ?_
  refine (Prog.bind_apply_of_ok _ hcapture).trans ?_
  unfold BatchHost.dispatchEntry
  simp only
  rw [Prog.ask_bind_apply]
  simp only [lateHost, hbounded]
  rfl

end

end Sample

/-- The response of the batch, with the size of the text to choose. -/
def Sample.lateRun (text : String) (count : ℕ) : Prog Bool (BatchHost.Event Unit) AppError Json :=
  @BatchHost.execute _ _ _ _ (Sample.lateHost text count) Sample.noFractions Sample.lateArgs
    Sample.lateContext

theorem Sample.admission_late (text : String) (s : Bool) :
    ((Sample.lateHost text 20).admission Sample.lateArgs Sample.lateContext).outcome s
      = .ok (Sample.lateDeadline,
        Sample.lateCommand "find" :: List.replicate 20 (Sample.lateCommand "version")) := rfl

theorem Sample.lateRun_overflow {text : String} (htext : Json.textSize text = 2 + 4185912) :
    (Sample.lateRun text 20).outcome false = .error (BatchHost.outputLimitError 1) := by
  let _ := Sample.noFractions
  have hfull := Sample.size_lateRecord text
  rw [htext] at hfull
  have hentry := Sample.runEntry_late text 20 20 (by rw [htext]; decide)
  have hgathered : ((Sample.lateHost text 20).runFrom Sample.lateArgs Sample.lateDeadline
      (Sample.lateCommand "find" :: List.replicate 20 (Sample.lateCommand "version")) 0 none
      ⟨[], 0, 0, none⟩).outcome false = .ok (BatchHost.Gathered.extend
        ⟨[Sample.lateRecord text], 0 + ((Sample.lateRecord text).toJson.size + 1), 1, none⟩
        (Sample.lateRecords 1 20) none) := by
    unfold BatchHost.runFrom
    rw [(Prog.bind_of_outcome_ok _ (congrArg Prod.fst hentry)).1]
    unfold Prog.state
    rw [hentry]
    exact Sample.runFrom_late text 20 20 1 none _
  have hrecords : 420 * 20 ≤ Json.itemsSize ((Sample.lateRecords 1 20).map BatchEntry.toJson) :=
    Sample.le_itemsSize_lateRecords 1 20
  have hcompleted : (Sample.lateRecords 1 20).countP BatchEntry.isCompleted = 0 := by
    decide +kernel
  refine (Prog.bind_of_outcome_ok _ (Sample.admission_late text false)).1.trans ?_
  refine (BatchHost.executePrepared_overflow _ hgathered ?_).trans ?_
  · show maxBatchOutputBytes < Json.itemsSize
      (([Sample.lateRecord text] ++ Sample.lateRecords 1 20).map BatchEntry.toJson)
    rw [List.map_append, Json.itemsSize_append, List.map_singleton, Json.itemsSize, hfull]
    unfold maxBatchOutputBytes
    omega
  · show Outcome.error (BatchHost.outputLimitError
      (1 + (Sample.lateRecords 1 20).countP BatchEntry.isCompleted)) = _
    rw [hcompleted]

theorem Sample.hasRoom_late :
    @BatchHost.HasRoom _ _ _ _ Sample.noFractions (Sample.lateHost "done" 1) Sample.lateArgs
      Sample.lateDeadline [Sample.lateCommand "find", Sample.lateCommand "version"] 0 none
      ⟨[], 0, 0, none⟩ false := by
  let _ := Sample.noFractions
  have hentry := Sample.runEntry_late "done" 1 1 (by decide)
  refine ⟨⟨fun _ sessionId h => ?_, fun _ _ error next h _ => ?_⟩, fun pending gathered h => ?_⟩
  · nomatch Outcome.ok.inj h
  · nomatch Outcome.ok.inj h
  · have hnext := Outcome.ok.inj ((congrArg Prod.fst hentry).symm.trans h)
    obtain ⟨-, rfl⟩ := BatchHost.Flow.next.inj hnext
    refine ⟨⟨fun _ sessionId h => ?_, fun _ _ error next _ hnext => nomatch hnext⟩,
      fun _ _ _ => trivial⟩
    obtain rfl : "run-1" = sessionId := Option.some.inj (Outcome.ok.inj h)
    decide

/-- The session ends before the second entry, and there is room for its record. -/
theorem execute_fits_sample :
    ∃ body, (Sample.lateRun "done" 1).outcome false = .ok body
      ∧ @Json.size Sample.noFractions body ≤ maxBatchOutputBytes := by
  obtain ⟨gathered, elapsedMs, -, houtcome, hfits⟩ := @BatchHost.execute_fits _ _ _ _
    Sample.noFractions (Sample.lateHost "done" 1) Sample.lateArgs Sample.lateContext false
    Sample.lateDeadline [Sample.lateCommand "find", Sample.lateCommand "version"]
    (fun _ => show 0 < BatchHost.instantLimit by decide) rfl Sample.hasRoom_late
  exact ⟨_, houtcome, hfits⟩

/-- **Where the records of ended sessions have no room, the results are lost**: a find is
dispatched and fills the response but for the reserve, its session ends, and the records of twenty
more entries take more than the reserve. -/
theorem late_session_ends_overflow :
    (∃ admitted, ((Sample.lateHost Sample.fullText 20).admission Sample.lateArgs
        Sample.lateContext).outcome false = .ok admitted)
      ∧ (Sample.lateRun Sample.fullText 20).outcome false = .error (BatchHost.outputLimitError 1) :=
  ⟨⟨_, Sample.admission_late Sample.fullText false⟩,
    Sample.lateRun_overflow Sample.textSize_fullText⟩

end AgentDesktop
