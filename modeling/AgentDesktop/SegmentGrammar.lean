import Mathlib.Data.Rat.Cast.Order
import AgentDesktop.TraceRead

/-!
# The grammar of a segment

A segment is a file of lines, and what is on a line is an event when it is a JSON
object. The reader goes through the file once, with counters of its own; the grammar
says the same of the file as a whole: what is between two line feeds, what follows
the last one, and which of it is an event.

The two agree on every file (`readSegmentEvents_events`). They part at the schema.
The number that a segment announces is cut down to 32 bits before it is compared, so
a number that is too large for them may pass for a known one
(`readsItsGrammar_iff`).
-/

namespace AgentDesktop

/-! ## What a file holds -/

/-- The lines that a line feed ends, without it. -/
def terminatedLines (bytes : List UInt8) : List (List UInt8) := (bytes.splitOn 10).dropLast

/-- What follows the last line feed. -/
def tornTail (bytes : List UInt8) : List UInt8 := (bytes.splitOn 10).getLastD []

/-- The time an event tells, `0` where it tells none. -/
def tsMsOf (value : Json) : ℕ := (((value.get "ts_ms").bind Json.asU64).map UInt64.toNat).getD 0

/-- The number that an event gives as its schema, whatever number it is. -/
def schemaNumber (value : Json) : Option ℚ :=
  match value.get "schema" with
  | some (.num number) => some number
  | some (.real number) => some number
  | _ => none

/-- Whether an event gives a schema that is newer than the known ones. -/
def GivesNewerSchema (value : Json) : Prop :=
  ∃ number, schemaNumber value = some number ∧ (knownSchemaMax : ℚ) < number

variable [JsonText]

/-- **The object on a line**: the line fits the limit, and is the UTF-8 text of an object. -/
def objectOnLine (line : List UInt8) : Option Json :=
  if line.isEmpty || decide (maxLineBytes < line.length) then none
  else ((String.fromUTF8? ⟨line.toArray⟩).bind JsonText.fromStr).filter Json.isObject

/-- The events on lines, the first of which has this number. -/
def eventsFrom (position : ℕ) (lines : List (List UInt8)) : List ParsedEvent :=
  (lines.zipIdx position).filterMap (fun numbered =>
    (objectOnLine numbered.1).map (fun value => ⟨value, tsMsOf value, numbered.2⟩))

/-- Whether something is on a line, and no object. -/
def isSkipped (line : List UInt8) : Bool := !line.isEmpty && (objectOnLine line).isNone

/-- **The events of a file.** -/
def grammarEvents (bytes : List UInt8) : List ParsedEvent := eventsFrom 1 (terminatedLines bytes)

/-- How many lines of a file are none of its events. -/
def grammarSkipped (bytes : List UInt8) : ℕ :=
  (terminatedLines bytes).countP isSkipped + if (tornTail bytes).isEmpty then 0 else 1

/-- The first event that may announce the schema. -/
def firstMeta (events : List ParsedEvent) : Option ParsedEvent :=
  events.find? (fun event => SegmentRead.isTraceMeta event.value)

/-! ## The lines of a file -/

omit [JsonText] in
theorem splitOn_cons (byte : UInt8) (rest : List UInt8) :
    (byte :: rest).splitOn 10
      = if byte = 10 then [] :: rest.splitOn 10 else (rest.splitOn 10).modifyHead (List.cons byte) := by
  rw [List.splitOn_cons_eq_if_modifyHead]
  by_cases hbyte : byte = 10
  · rw [if_pos hbyte, if_pos (by simpa using hbyte)]
  · rw [if_neg hbyte, if_neg (by simpa using hbyte)]

omit [JsonText] in
/-- **The lines that are read** are those that a line feed ends, with it, and what follows the last
one, if anything does. -/
theorem readLines_eq (bytes : List UInt8) :
    readLines bytes = (terminatedLines bytes).map (· ++ [10])
      ++ if (tornTail bytes).isEmpty then [] else [tornTail bytes] := by
  unfold terminatedLines tornTail
  induction bytes with
  | nil => rfl
  | cons byte rest ih =>
    have hne : rest.splitOn 10 ≠ [] := List.splitOnP_ne_nil _ _
    obtain ⟨first, others, hsplit⟩ := List.exists_cons_of_ne_nil hne
    rw [hsplit] at ih
    rw [splitOn_cons, hsplit, readLines]
    by_cases hbyte : byte = 10
    · rw [if_pos hbyte, if_pos hbyte, ih, hbyte]
      rfl
    · rw [if_neg hbyte, if_neg hbyte, ih]
      cases others with
      | nil =>
        -- nothing was ended yet: the byte goes to what follows the last line feed
        cases first <;> rfl
      | cons second others => rfl

omit [JsonText] in
theorem lineFeed_notMem_splitOn (bytes : List UInt8) : ∀ line ∈ bytes.splitOn 10, 10 ∉ line := by
  induction bytes with
  | nil =>
    intro line hline
    rw [List.splitOn_nil, List.mem_singleton] at hline
    rw [hline]
    exact List.not_mem_nil
  | cons byte rest ih =>
    have hne : rest.splitOn 10 ≠ [] := List.splitOn_ne_nil _ _
    obtain ⟨first, others, hsplit⟩ := List.exists_cons_of_ne_nil hne
    rw [hsplit] at ih
    rw [splitOn_cons, hsplit]
    intro line hline
    by_cases hbyte : byte = 10
    · rw [if_pos hbyte] at hline
      rcases List.mem_cons.mp hline with rfl | hline
      · exact List.not_mem_nil
      · exact ih line hline
    · rw [if_neg hbyte] at hline
      rcases List.mem_cons.mp hline with rfl | hline
      · rw [List.mem_cons, not_or]
        exact ⟨Ne.symm hbyte, ih first List.mem_cons_self⟩
      · exact ih line (List.mem_cons_of_mem _ hline)

omit [JsonText] in
theorem lineFeed_notMem_tornTail (bytes : List UInt8) : 10 ∉ tornTail bytes := by
  refine lineFeed_notMem_splitOn bytes _ ?_
  unfold tornTail
  rw [List.getLastD_eq_getLast?, List.getLast?_eq_some_getLast (List.splitOn_ne_nil _ _)]
  exact List.getLast_mem _

/-! ## One line -/

namespace SegmentRead

/-- A line is begun. -/
def advance (state : SegmentRead) : SegmentRead := { state with position := state.position + 1 }

/-- **A line that a line feed ends** is an event, is empty, or is left out. -/
theorem next_terminated (state : SegmentRead) (line : List UInt8) :
    state.next (line ++ [10])
      = match objectOnLine line with
        | some value => state.advance.push value
        | none => if isSkipped line then state.advance.skip else state.advance := by
  have hlast : ((line ++ [10]).getLast? == some 10) = true := by
    rw [List.getLast?_concat]
    rfl
  unfold next isSkipped objectOnLine
  simp only [hlast, if_true, List.dropLast_concat, Bool.not_true, Bool.false_eq_true, if_false]
  by_cases hempty : line.isEmpty
  · simp only [hempty, if_true, Bool.true_or, Bool.not_true, Bool.false_and, Bool.false_eq_true,
      if_false]
    rfl
  · rw [Bool.not_eq_true] at hempty
    simp only [hempty, Bool.false_or, Bool.false_eq_true, if_false, Bool.not_false, Bool.true_and,
      decide_eq_true_eq]
    by_cases hlong : maxLineBytes < line.length
    · rw [if_pos hlong, if_pos hlong]
      rfl
    · rw [if_neg hlong, if_neg hlong]
      cases String.fromUTF8? ⟨line.toArray⟩ with
      | none => rfl
      | some text =>
        dsimp only
        rw [Option.bind_some]
        cases JsonText.fromStr text with
        | none => rfl
        | some value =>
          dsimp only
          rw [Option.filter_some]
          cases value.isObject <;> rfl

/-- **A line that nothing ends is torn**: it is left out, whatever is on it. -/
theorem next_torn (state : SegmentRead) (line : List UInt8) (hne : line ≠ []) (hfeed : 10 ∉ line) :
    state.next line = state.advance.skip := by
  have hlast : (line.getLast? == some 10) = false := by
    rw [beq_eq_false_iff_ne]
    exact fun h => hfeed (List.mem_of_getLast? h)
  have hempty : line.isEmpty = false := by simpa using hne
  unfold next
  simp only [hlast, hempty, Bool.false_eq_true, if_false, Bool.not_false, if_true, ite_self]
  rfl

omit [JsonText] in
theorem noteMeta_counts (stats : SegmentReadStats) (value : Json) :
    (noteMeta stats value).eventCount = stats.eventCount
      ∧ (noteMeta stats value).skippedLines = stats.skippedLines := by
  unfold noteMeta
  split
  · cases schemaOf value with
    | none => exact ⟨rfl, rfl⟩
    | some schema =>
      show (if knownSchemaMax < asU32 schema then _ else _ : SegmentReadStats).eventCount = _
        ∧ (if knownSchemaMax < asU32 schema then _ else _ : SegmentReadStats).skippedLines = _
      by_cases hnewer : knownSchemaMax < asU32 schema
      · rw [if_pos hnewer]
        exact ⟨rfl, rfl⟩
      · rw [if_neg hnewer]
        exact ⟨rfl, rfl⟩
  · exact ⟨rfl, rfl⟩

/-- What is said of the schema that an event announces. -/
def warningOf (value : Json) : Option String :=
  (schemaOf value).bind (fun schema =>
    if knownSchemaMax < asU32 schema then some (schemaMessage schema) else none)

/-- **What is known of the schema** is what the first event says that may announce it. -/
def MetaNoted (state : SegmentRead) : Prop :=
  state.stats.metaSeen = (firstMeta state.events).isSome
    ∧ state.stats.schemaWarning = (firstMeta state.events).bind (fun event => warningOf event.value)

omit [JsonText] in
theorem noteMeta_of_seen {stats : SegmentReadStats} {value : Json}
    (hseen : (isTraceMeta value && !stats.metaSeen) = false) : noteMeta stats value = stats := by
  unfold noteMeta
  rw [if_neg (by rw [hseen]; exact Bool.false_ne_true)]

omit [JsonText] in
theorem noteMeta_first {stats : SegmentReadStats} {value : Json}
    (hfirst : (isTraceMeta value && !stats.metaSeen) = true) (hnone : stats.schemaWarning = none) :
    (noteMeta stats value).metaSeen = true
      ∧ (noteMeta stats value).schemaWarning = warningOf value := by
  unfold noteMeta warningOf
  rw [if_pos hfirst]
  cases schemaOf value with
  | none => exact ⟨rfl, hnone⟩
  | some schema =>
    show (if knownSchemaMax < asU32 schema then _ else _ : SegmentReadStats).metaSeen = _
      ∧ (if knownSchemaMax < asU32 schema then _ else _ : SegmentReadStats).schemaWarning
        = if knownSchemaMax < asU32 schema then _ else _
    by_cases hnewer : knownSchemaMax < asU32 schema
    · rw [if_pos hnewer, if_pos hnewer]
      exact ⟨rfl, rfl⟩
    · rw [if_neg hnewer, if_neg hnewer]
      exact ⟨rfl, hnone⟩

omit [JsonText] in
theorem MetaNoted.push {state : SegmentRead} (hnoted : state.MetaNoted) (value : Json) :
    (state.push value).MetaNoted := by
  obtain ⟨hseen, hwarning⟩ := hnoted
  have hevents : firstMeta (state.push value).events
      = (firstMeta state.events).or
        (if isTraceMeta value then some ⟨value, tsMsOf value, state.position⟩ else none) := by
    show (state.events ++ [_]).find? _ = _
    rw [List.find?_append]
    cases hmeta : isTraceMeta value <;> simp only [List.find?_cons, hmeta] <;> rfl
  show (noteMeta state.stats value).metaSeen = _ ∧ (noteMeta state.stats value).schemaWarning = _
  rw [hevents]
  cases hfirst : firstMeta state.events with
  | some event =>
    -- the schema was noted before, and stays what it was
    rw [hfirst] at hseen hwarning
    have hskip : (isTraceMeta value && !state.stats.metaSeen) = false := by
      rw [hseen]
      exact Bool.and_false _
    rw [noteMeta_of_seen hskip]
    exact ⟨hseen, hwarning⟩
  | none =>
    rw [hfirst] at hseen hwarning
    cases hmeta : isTraceMeta value with
    | false =>
      rw [noteMeta_of_seen (by rw [hmeta]; rfl)]
      exact ⟨hseen, hwarning⟩
    | true => exact noteMeta_first (by rw [hmeta, hseen]; rfl) hwarning

/-- **The lines that a line feed ends**, read one after the other: the events are those on the
lines, the others are counted, and the first schema is noted. -/
theorem foldl_terminated (lines : List (List UInt8)) (state : SegmentRead)
    (hcount : state.stats.eventCount = state.events.length) (hnoted : state.MetaNoted) :
    ((lines.map (· ++ [10])).foldl next state).events
        = state.events ++ eventsFrom (state.position + 1) lines
      ∧ ((lines.map (· ++ [10])).foldl next state).stats.skippedLines
        = state.stats.skippedLines + lines.countP isSkipped
      ∧ ((lines.map (· ++ [10])).foldl next state).stats.eventCount
        = ((lines.map (· ++ [10])).foldl next state).events.length
      ∧ ((lines.map (· ++ [10])).foldl next state).MetaNoted := by
  induction lines generalizing state with
  | nil => exact ⟨(List.append_nil _).symm, rfl, hcount, hnoted⟩
  | cons line rest ih =>
    rw [List.map_cons, List.foldl_cons, next_terminated]
    unfold eventsFrom at ih ⊢
    rw [List.zipIdx_cons, List.filterMap_cons, List.countP_cons]
    cases hobject : objectOnLine line with
    | some value =>
      have hskipped : isSkipped line = false := by
        unfold isSkipped
        rw [hobject]
        exact Bool.and_false _
      have hcounts := noteMeta_counts state.stats value
      have hcount' : (state.advance.push value).stats.eventCount
          = (state.advance.push value).events.length := by
        show (noteMeta state.stats value).eventCount + 1 = (state.events ++ [_]).length
        rw [hcounts.1, hcount, List.length_append]
        rfl
      have hnoted' : state.advance.MetaNoted := hnoted
      obtain ⟨hevents, hskips, hrest⟩ :=
        ih (state.advance.push value) hcount' (hnoted'.push value)
      refine ⟨?_, ?_, hrest⟩
      · rw [hevents]
        show (state.events ++ [_]) ++ _ = _
        rw [List.append_assoc]
        rfl
      · rw [hskips, hskipped]
        show (noteMeta state.stats value).skippedLines + _ = _
        rw [hcounts.2]
        rfl
    | none =>
      cases hskipped : isSkipped line with
      | true =>
        obtain ⟨hevents, hskips, hrest⟩ := ih state.advance.skip hcount hnoted
        refine ⟨hevents, ?_, hrest⟩
        show (List.foldl next state.advance.skip _).stats.skippedLines = _
        rw [hskips]
        exact Nat.add_right_comm _ _ _
      | false =>
        obtain ⟨hevents, hskips, hrest⟩ := ih state.advance hcount hnoted
        exact ⟨hevents, hskips, hrest⟩

end SegmentRead

/-! ## A whole file -/

/-- **The reader agrees with the grammar**: its events are those of the file, what else is in the
file is counted, and the first schema is noted. -/
theorem readSegmentEvents_spec (bytes : List UInt8) :
    ∃ stats, readSegmentEvents (.ok bytes) = .ok (grammarEvents bytes, stats)
      ∧ stats.eventCount = (grammarEvents bytes).length
      ∧ stats.skippedLines = grammarSkipped bytes
      ∧ stats.schemaWarning
        = (firstMeta (grammarEvents bytes)).bind (fun event => SegmentRead.warningOf event.value) := by
  obtain ⟨hevents, hskips, hcount, hnoted⟩ := SegmentRead.foldl_terminated (terminatedLines bytes)
    .start rfl ⟨rfl, rfl⟩
  set before := ((terminatedLines bytes).map (· ++ [10])).foldl SegmentRead.next .start
  have hevents' : before.events = grammarEvents bytes := hevents
  -- what follows the last line feed is one more line that is left out
  obtain ⟨final, hfinal, hsame, hcount', hskips', hwarning⟩ :
      ∃ final, (readLines bytes).foldl SegmentRead.next .start = final
        ∧ final.events = before.events ∧ final.stats.eventCount = before.stats.eventCount
        ∧ final.stats.skippedLines = grammarSkipped bytes
        ∧ final.stats.schemaWarning = before.stats.schemaWarning := by
    refine ⟨_, rfl, ?_⟩
    rw [readLines_eq, List.foldl_append]
    unfold grammarSkipped
    cases hempty : (tornTail bytes).isEmpty with
    | true =>
      refine ⟨rfl, rfl, ?_, rfl⟩
      show before.stats.skippedLines = _
      rw [hskips]
      exact Nat.zero_add _
    | false =>
      have hne : tornTail bytes ≠ [] := by simpa using hempty
      show (before.next (tornTail bytes)).events = _ ∧ (before.next (tornTail bytes)).stats.eventCount = _
        ∧ (before.next (tornTail bytes)).stats.skippedLines = _
        ∧ (before.next (tornTail bytes)).stats.schemaWarning = _
      rw [SegmentRead.next_torn before _ hne (lineFeed_notMem_tornTail bytes)]
      refine ⟨rfl, rfl, ?_, rfl⟩
      show before.stats.skippedLines + 1 = _
      rw [hskips]
      exact congrArg (· + 1) (Nat.zero_add _)
  have hread : readSegmentEvents (.ok bytes)
      = .ok (final.events, if !final.stats.metaSeen then { final.stats with schema := 0 }
        else final.stats) := by
    rw [← hfinal]
    rfl
  rw [hread, hsame, hevents']
  refine ⟨_, rfl, ?_⟩
  have hnoted' := hnoted.2
  rw [hevents'] at hnoted'
  have hcounted : final.stats.eventCount = (grammarEvents bytes).length := by
    rw [hcount', hcount, hevents']
  cases !final.stats.metaSeen with
  | true => exact ⟨hcounted, hskips', hwarning.trans hnoted'⟩
  | false => exact ⟨hcounted, hskips', hwarning.trans hnoted'⟩

/-- What it would be to read a file by its grammar: the events and the count of what is left out
are those of the file, and a newer schema is reported exactly when the first event that may
announce one gives a number that is greater than the known ones. -/
def ReadsItsGrammar (bytes : List UInt8) : Prop :=
  ∃ events stats, readSegmentEvents (.ok bytes) = .ok (events, stats)
    ∧ events = grammarEvents bytes ∧ stats.eventCount = events.length
    ∧ stats.skippedLines = grammarSkipped bytes
    ∧ (stats.schemaWarning.isSome
      ↔ ∃ event, firstMeta (grammarEvents bytes) = some event ∧ GivesNewerSchema event.value)

omit [JsonText] in
theorem asU64_toNat_iff {value : Json} {number : ℕ} :
    (value.asU64.map UInt64.toNat = some number) ↔ value = .num number ∧ number < 2 ^ 64 := by
  cases value with
  | num whole =>
    show Option.map UInt64.toNat
      (if 0 ≤ whole ∧ whole < 2 ^ 64 then some (UInt64.ofNat whole.toNat) else none) = _ ↔ _
    by_cases hfits : 0 ≤ whole ∧ whole < 2 ^ 64
    · obtain ⟨natural, rfl⟩ := Int.eq_ofNat_of_zero_le hfits.1
      have hlt : natural < 2 ^ 64 := by exact_mod_cast hfits.2
      rw [if_pos hfits, Option.map_some, Int.toNat_natCast, UInt64.toNat_ofNat_of_lt' hlt]
      constructor
      · intro h
        rw [← Option.some.inj h]
        exact ⟨rfl, hlt⟩
      · rintro ⟨hnum, -⟩
        have hsame : (natural : ℤ) = number := Json.num.inj hnum
        exact congrArg some (by exact_mod_cast hsame)
    · rw [if_neg hfits]
      constructor
      · rintro ⟨⟩
      · rintro ⟨hnum, hlt⟩
        refine absurd ?_ hfits
        rw [Json.num.inj hnum]
        exact ⟨Int.natCast_nonneg _, by exact_mod_cast hlt⟩
  | _ =>
    constructor
    · rintro ⟨⟩
    · rintro ⟨⟨⟩, -⟩

omit [JsonText] in
/-- **When something is said of a schema**: it is a whole number of 64 bits, and what its lowest
32 bits stand for is greater than the known ones. -/
theorem warningOf_isSome_iff (value : Json) :
    (SegmentRead.warningOf value).isSome ↔ ∃ number : ℕ, value.get "schema" = some (.num number)
      ∧ number < 2 ^ 64 ∧ knownSchemaMax < number % 2 ^ 32 := by
  unfold SegmentRead.warningOf
  rw [Option.isSome_bind, Option.any_eq_true]
  constructor
  · rintro ⟨number, hschema, hsaid⟩
    unfold SegmentRead.schemaOf at hschema
    rw [Option.map_bind] at hschema
    obtain ⟨schema, hget, hnumber⟩ := Option.bind_eq_some_iff.mp hschema
    obtain ⟨rfl, hlt⟩ := asU64_toNat_iff.mp hnumber
    refine ⟨number, hget, hlt, ?_⟩
    by_contra hnot
    unfold SegmentRead.asU32 at hsaid
    rw [if_neg hnot] at hsaid
    cases hsaid
  · rintro ⟨number, hget, hlt, hnewer⟩
    refine ⟨number, ?_, ?_⟩
    · unfold SegmentRead.schemaOf
      rw [hget, Option.bind_some]
      exact asU64_toNat_iff.mpr ⟨rfl, hlt⟩
    · unfold SegmentRead.asU32
      rw [if_pos hnewer]
      rfl

/-- **A file that is read by its grammar** gives a newer schema only as a number whose lowest 32
bits tell it. -/
theorem ReadsItsGrammar.schema_told {bytes : List UInt8} (hreads : ReadsItsGrammar bytes)
    {event : ParsedEvent} (hfirst : firstMeta (grammarEvents bytes) = some event)
    (hnewer : GivesNewerSchema event.value) :
    ∃ number : ℕ, event.value.get "schema" = some (.num number)
      ∧ number < 2 ^ 64 ∧ knownSchemaMax < number % 2 ^ 32 := by
  obtain ⟨stats, hread, -, -, hwarning⟩ := readSegmentEvents_spec bytes
  obtain ⟨events, stats', hread', rfl, -, -, hreports⟩ := hreads
  obtain ⟨-, rfl⟩ := Prod.mk.inj (Except.ok.inj (hread.symm.trans hread'))
  have hsome := hreports.mpr ⟨event, hfirst, hnewer⟩
  rw [hwarning, hfirst] at hsome
  exact (warningOf_isSome_iff event.value).mp hsome

/-- **The grammar is read whole except for one kind of schema.** The events, their count and what is
left out are those of every file. A newer schema is reported exactly when it should be, if and only
if the first number given as one, where it is greater than the known ones, is a whole number of 64
bits with such a number in its lowest 32. -/
theorem readsItsGrammar_iff :
    (∀ bytes, ∃ stats, readSegmentEvents (.ok bytes) = .ok (grammarEvents bytes, stats)
      ∧ stats.eventCount = (grammarEvents bytes).length
      ∧ stats.skippedLines = grammarSkipped bytes)
    ∧ ∀ bytes, ReadsItsGrammar bytes
      ↔ ∀ event, firstMeta (grammarEvents bytes) = some event → GivesNewerSchema event.value →
        ∃ number : ℕ, event.value.get "schema" = some (.num number)
          ∧ number < 2 ^ 64 ∧ knownSchemaMax < number % 2 ^ 32 := by
  refine ⟨fun bytes => ?_, fun bytes => ⟨fun h _ => h.schema_told, fun hkept => ?_⟩⟩
  · obtain ⟨stats, hread, hcount, hskips, -⟩ := readSegmentEvents_spec bytes
    exact ⟨stats, hread, hcount, hskips⟩
  · obtain ⟨stats, hread, hcount, hskips, hwarning⟩ := readSegmentEvents_spec bytes
    refine ⟨_, stats, hread, rfl, hcount, hskips, ?_⟩
    rw [hwarning]
    constructor
    · intro hsome
      obtain ⟨message, hmessage⟩ := Option.isSome_iff_exists.mp hsome
      obtain ⟨event, hfirst, hsaid⟩ := Option.bind_eq_some_iff.mp hmessage
      obtain ⟨number, hnumber, -, hlow⟩ :=
        (warningOf_isSome_iff event.value).mp (by rw [hsaid]; rfl)
      refine ⟨event, hfirst, number, ?_, ?_⟩
      · unfold schemaNumber
        rw [hnumber]
        rfl
      · exact_mod_cast Nat.lt_of_lt_of_le hlow (Nat.mod_le _ _)
    · rintro ⟨event, hfirst, hnewer⟩
      rw [hfirst]
      exact (warningOf_isSome_iff event.value).mpr (hkept event hfirst hnewer)

/-! ### A schema whose lowest 32 bits are zero -/

/-- The bytes of a text. -/
def bytesOf (text : String) : List UInt8 := text.toUTF8.data.toList

theorem objectOnLine_bytesOf {text : String} (hne : bytesOf text ≠ [])
    (hfits : (bytesOf text).length ≤ maxLineBytes) :
    objectOnLine (bytesOf text) = (JsonText.fromStr text).filter Json.isObject := by
  have hempty : (bytesOf text).isEmpty = false := by simpa using hne
  have hshort : decide (maxLineBytes < (bytesOf text).length) = false :=
    decide_eq_false (Nat.not_lt.mpr hfits)
  have hbytes : (⟨(bytesOf text).toArray⟩ : ByteArray) = text.toUTF8 := rfl
  have htext : String.fromUTF8? text.toUTF8 = some text := dif_pos text.isValidUTF8
  unfold objectOnLine
  rw [hempty, hshort, if_neg (by rintro ⟨⟩), hbytes, htext]
  rfl

theorem grammarEvents_one {line : List UInt8} {value : Json} (hfeed : 10 ∉ line)
    (hobject : objectOnLine line = some value) :
    grammarEvents (line ++ [10]) = [⟨value, tsMsOf value, 1⟩] := by
  have hlines : terminatedLines (line ++ [10]) = [line] := by
    unfold terminatedLines
    rw [List.splitOn_append_cons_self_of_not_mem hfeed, List.splitOn_nil]
    rfl
  unfold grammarEvents eventsFrom
  rw [hlines]
  show [(line, 1)].filterMap _ = _
  rw [List.filterMap_cons, hobject]
  rfl

/-- An event that announces the schema `2 ^ 32`. -/
def sampleWideSchema : Json := .obj [("event", .str "trace.meta"), ("schema", .num 4294967296)]

omit [JsonText] in
/-- **A schema of `2 ^ 32` is not reported**, since nothing of it is left in 32 bits. -/
theorem readSegmentEvents_misses_wide_schema :
    ¬ ∀ [JsonText] (bytes : List UInt8), ReadsItsGrammar bytes := by
  intro hclaim
  let text := "\x7b\"event\":\"trace.meta\",\"schema\":4294967296\x7d"
  let _ : JsonText := ⟨fun line => if line = text then some sampleWideSchema else none⟩
  have hobject : objectOnLine (bytesOf text) = some sampleWideSchema := by
    rw [objectOnLine_bytesOf (by decide) (by decide)]
    show (if text = text then some sampleWideSchema else none).filter _ = _
    rw [if_pos rfl]
    rfl
  have hevents := grammarEvents_one (by decide) hobject
  have hfirst : firstMeta (grammarEvents (bytesOf text ++ [10]))
      = some ⟨sampleWideSchema, tsMsOf sampleWideSchema, 1⟩ := by
    rw [hevents]
    rfl
  have hnewer : GivesNewerSchema sampleWideSchema := ⟨4294967296, rfl, by norm_num [knownSchemaMax]⟩
  obtain ⟨number, hnumber, -, hlow⟩ := (hclaim (bytesOf text ++ [10])).schema_told hfirst hnewer
  have hwide : (4294967296 : ℤ) = number := Json.num.inj (Option.some.inj hnumber)
  have hnumber' : number = 4294967296 := by exact_mod_cast hwide.symm
  rw [hnumber'] at hlow
  exact absurd hlow (by decide)

end AgentDesktop
