import Mathlib.Data.Prod.Lex
import Mathlib.Data.String.Basic
import Mathlib.Algebra.Ring.Nat
import AgentDesktop.Util.AssocMap
import AgentDesktop.Util.Interleave
import AgentDesktop.Util.SortByKey
import AgentDesktop.RefMap

/-!
# Reading a trace back

Every process writes its own segment of a trace, a file with one event on a line.
A reader goes through the files of the trace directory, leaves out what is no
segment and says so, and merges the events of the segments by their times. What it
returns is cut off at limits: the last events, the first segments and the first
warnings.

The text of a line is a JSON value; how it is read is the business of the JSON
library. What an artifact export makes of a trace is left out.
-/

namespace AgentDesktop

/-- **The JSON library**: the value a text stands for. -/
class JsonText where
  fromStr : String → Option Json

/-! ## Segments -/

/-- `MAX_LINE_BYTES`. -/
def maxLineBytes : ℕ := 8 * 1024 * 1024

/-- `KNOWN_SCHEMA_MAX`. -/
def knownSchemaMax : ℕ := 1

/-- `ParsedSegmentName`. -/
structure ParsedSegmentName where
  /-- The name without its ending. -/
  stem : String
  /-- The process that wrote the segment. -/
  pid : ℕ
  /-- When that process was started. -/
  procStartMs : ℕ
  deriving DecidableEq

/-- `ParsedEvent`. -/
structure ParsedEvent where
  value : Json
  tsMs : ℕ
  /-- The number of its line. -/
  position : ℕ

/-- `SegmentReadStats`. -/
structure SegmentReadStats where
  /-- How many events there are. -/
  eventCount : ℕ
  /-- How many lines were left out. -/
  skippedLines : ℕ
  /-- The schema the segment announces. -/
  schema : ℕ
  /-- What is said of a schema that is not known. -/
  schemaWarning : Option String
  /-- Whether the segment announced one. -/
  metaSeen : Bool

/-- `strip_suffix`. -/
def stripSuffix (suffix l : List Char) : Option (List Char) :=
  if suffix.isSuffixOf l then some (l.take (l.length - suffix.length)) else none

/-- `str::parse::<u64>` of digits. -/
def parseU64 (digits : List Char) : Option ℕ :=
  let number := digits.foldl (fun number digit => number * 10 + (digit.toNat - 48)) 0
  if number < 2 ^ 64 then some number else none

/-- `parse_segment_filename`. -/
def parseSegmentFilename (name : String) : Option ParsedSegmentName :=
  match stripSuffix ".jsonl".toList name.toList with
  | none => none
  | some stem =>
    if ".tmp".toList.isSuffixOf stem then none
    else
      match rsplitOnce ['-'] stem with
      | none => none
      | some (pidStr, tsStr) =>
        if pidStr.isEmpty || tsStr.isEmpty then none
        else if !pidStr.all isAsciiDigit then none
        else if !tsStr.all isAsciiDigit then none
        else
          match parseU32 pidStr, parseU64 tsStr with
          | some pid, some procStartMs => some ⟨String.ofList stem, pid, procStartMs⟩
          | _, _ => none

/-- The lines of a file, each with the line feed that ends it; the last one may have none. -/
def readLines : List UInt8 → List (List UInt8)
  | [] => []
  | byte :: rest =>
    if byte = 10 then [byte] :: readLines rest
    else
      match readLines rest with
      | [] => [[byte]]
      | line :: more => (byte :: line) :: more

/-- The variables of `read_segment_events`. -/
structure SegmentRead where
  events : List ParsedEvent
  stats : SegmentReadStats
  /-- How many lines were read. -/
  position : ℕ

namespace SegmentRead

/-- Before the first line. -/
def start : SegmentRead := ⟨[], ⟨0, 0, 0, none, false⟩, 0⟩

/-- A line is left out. -/
def skip (state : SegmentRead) : SegmentRead :=
  { state with stats := { state.stats with skippedLines := state.stats.skippedLines + 1 } }

/-- What a number of a schema is worth as `u32`. -/
def asU32 (number : ℕ) : ℕ := number % 2 ^ 32

/-- What is said of a schema that is not known. -/
def schemaMessage (schema : ℕ) : String :=
  "Segment schema " ++ toString schema ++ " exceeds reader maximum " ++ toString knownSchemaMax

/-- Whether an event is one that may announce the schema. -/
def isTraceMeta (value : Json) : Bool :=
  (value.get "event").bind Json.asStr == some "trace.meta"

/-- The schema an event announces. -/
def schemaOf (value : Json) : Option ℕ :=
  ((value.get "schema").bind Json.asU64).map UInt64.toNat

/-- What the first event that may announce the schema is remembered as. -/
def noteMeta (stats : SegmentReadStats) (value : Json) : SegmentReadStats :=
  if isTraceMeta value && !stats.metaSeen then
    let stats := { stats with metaSeen := true }
    match schemaOf value with
    | some schema =>
      let stats := { stats with schema := asU32 schema }
      if knownSchemaMax < stats.schema then
        { stats with schemaWarning := some (schemaMessage schema) }
      else stats
    | none => stats
  else stats

/-- A line with an object on it. -/
def push (state : SegmentRead) (value : Json) : SegmentRead :=
  let stats := noteMeta state.stats value
  let tsMs := (((value.get "ts_ms").bind Json.asU64).map UInt64.toNat).getD 0
  { state with
    events := state.events ++ [⟨value, tsMs, state.position⟩]
    stats := { stats with eventCount := stats.eventCount + 1 } }

variable [JsonText]

/-- One line of `read_segment_events`. -/
def next (state : SegmentRead) (raw : List UInt8) : SegmentRead :=
  let state := { state with position := state.position + 1 }
  let hasTrailingNewline := raw.getLast? == some 10
  let lineBytes := if hasTrailingNewline then raw.dropLast else raw
  if lineBytes.isEmpty then state
  else if maxLineBytes < lineBytes.length then state.skip
  else if !hasTrailingNewline then state.skip
  else
    match String.fromUTF8? ⟨lineBytes.toArray⟩ with
    | none => state.skip
    | some lineBody =>
      match JsonText.fromStr lineBody with
      | none => state.skip
      | some parsed => if parsed.isObject then state.push parsed else state.skip

end SegmentRead

variable [JsonText]

/-- `read_segment_events`, on a file whose content is there or cannot be read. -/
def readSegmentEvents (content : Except String (List UInt8)) :
    Except String (List ParsedEvent × SegmentReadStats) := do
  let state := (readLines (← content)).foldl SegmentRead.next .start
  let stats := state.stats
  return (state.events, if !stats.metaSeen then { stats with schema := 0 } else stats)

/-! ## Merging -/

/-- The events of a segment, the process that wrote it, and its name. -/
structure MergeSource where
  events : List ParsedEvent
  writerPid : ℕ
  segment : String

/-- `MergeItem`. -/
structure MergeItem where
  event : ParsedEvent
  /-- The process that wrote it. -/
  writerPid : ℕ
  /-- The segment it is from. -/
  segment : String

/-- What the next events of the streams are ordered by: the time, the process, the line and the
stream. -/
abbrev HeapKey : Type := ℕ ×ₗ ℕ ×ₗ ℕ ×ₗ ℕ

/-- The stream of a key. -/
def HeapKey.streamIdx (key : HeapKey) : ℕ := (ofLex (ofLex (ofLex key).2).2).2

/-- `stream_head_key`; a stream is what is left of a source. -/
def streamHeadKey (stream : MergeSource) (streamIdx : ℕ) : Option HeapKey :=
  stream.events.head?.map (fun event =>
    toLex (event.tsMs, toLex (stream.writerPid, toLex (event.position, streamIdx))))

/-- How many events are left. -/
def remainingEvents (streams : List MergeSource) : ℕ :=
  (streams.map (fun stream => stream.events.length)).sum

omit [JsonText] in
theorem remainingEvents_set (streams : List MergeSource) (index : ℕ) (stream : MergeSource)
    (event : ParsedEvent) (rest : List ParsedEvent) (hget : streams[index]? = some stream)
    (hevents : stream.events = event :: rest) :
    remainingEvents (streams.set index { stream with events := rest }) + 1
      = remainingEvents streams := by
  induction streams generalizing index with
  | nil => nomatch hget
  | cons first others ih =>
    cases index with
    | zero =>
      obtain rfl : first = stream := by simpa using hget
      show rest.length + (others.map _).sum + 1 = first.events.length + (others.map _).sum
      rw [hevents, List.length_cons, Nat.add_right_comm]
    | succ index =>
      have hothers := ih index (by simpa using hget)
      show first.events.length + remainingEvents (others.set index _) + 1
        = first.events.length + remainingEvents others
      rw [Nat.add_assoc, hothers]

/-- The loop of `merge_segments`: the least key is taken from the heap, and the next one of its
stream is put there. -/
def mergeLoop (streams : List MergeSource) (heap : List HeapKey) : List MergeItem :=
  match heap.min? with
  | none => []
  | some key =>
    match _hget : streams[key.streamIdx]? with
    | none => []
    | some stream =>
      match _hevents : stream.events with
      | [] => []
      | event :: rest =>
        let left := { stream with events := rest }
        ⟨event, stream.writerPid, stream.segment⟩
          :: mergeLoop (streams.set key.streamIdx left)
            (heap.erase key ++ (streamHeadKey left key.streamIdx).toList)
termination_by remainingEvents streams
decreasing_by
  rw [← remainingEvents_set streams _ stream event rest _hget _hevents]
  exact Nat.lt_succ_self _

/-- What the next events of all the streams are ordered by. -/
def headKeys (streams : List MergeSource) : List HeapKey :=
  streams.zipIdx.filterMap (fun source => streamHeadKey source.1 source.2)

/-- `merge_segments`. -/
def mergeSegments (sources : List MergeSource) : List MergeItem :=
  mergeLoop sources (headKeys sources)

omit [JsonText] in
theorem headKeys_split (before after : List MergeSource) (stream : MergeSource) :
    headKeys (before ++ stream :: after)
      = headKeys before ++ ((streamHeadKey stream before.length).toList
        ++ (after.zipIdx (before.length + 1)).filterMap
          (fun source => streamHeadKey source.1 source.2)) := by
  unfold headKeys
  rw [List.zipIdx_append, List.filterMap_append, Nat.zero_add, List.zipIdx_cons,
    List.filterMap_cons]
  cases streamHeadKey stream before.length <;> rfl

omit [JsonText] in
/-- **A key is that of the next event of its stream.** -/
theorem mem_headKeys {streams : List MergeSource} {key : HeapKey} (hkey : key ∈ headKeys streams) :
    ∃ before stream after event rest, streams = before ++ stream :: after
      ∧ key.streamIdx = before.length ∧ stream.events = event :: rest
      ∧ streamHeadKey stream before.length = some key := by
  obtain ⟨⟨stream, index⟩, hmem, hhead⟩ := List.mem_filterMap.mp hkey
  have hget : streams[index]? = some stream := List.mem_zipIdx_iff_getElem?.mp hmem
  obtain ⟨hlt, hget⟩ := List.getElem?_eq_some_iff.mp hget
  have hsplit : streams = streams.take index ++ stream :: streams.drop (index + 1) := by
    rw [← hget, List.getElem_cons_drop, List.take_append_drop]
  have hlength : (streams.take index).length = index := by
    rw [List.length_take, Nat.min_eq_left (Nat.le_of_lt hlt)]
  have hhead' := hhead
  unfold streamHeadKey at hhead'
  cases hevents : stream.events with
  | nil => rw [hevents] at hhead'; nomatch hhead'
  | cons event rest =>
    rw [hevents] at hhead'
    refine ⟨_, stream, _, event, rest, hsplit, ?_, hevents, by rw [hlength]; exact hhead⟩
    rw [hlength, ← Option.some.inj hhead']
    rfl

omit [JsonText] in
theorem heap_after_take {before after : List MergeSource} {stream : MergeSource} {key : HeapKey}
    {heap : List HeapKey} (hheap : heap.Perm (headKeys (before ++ stream :: after)))
    (hhead : streamHeadKey stream before.length = some key) (left : MergeSource) :
    (heap.erase key ++ (streamHeadKey left before.length).toList).Perm
      (headKeys (before ++ left :: after)) := by
  rw [headKeys_split, hhead] at hheap
  rw [headKeys_split]
  have herase := (hheap.trans List.perm_middle).erase key
  rw [List.erase_cons_head] at herase
  refine (herase.append_right _).trans ?_
  rw [List.append_assoc]
  exact (List.perm_append_comm).append_left _

/-- What a source has to merge. -/
def MergeSource.items (source : MergeSource) : List MergeItem :=
  source.events.map (fun event => ⟨event, source.writerPid, source.segment⟩)

omit [JsonText] in
theorem events_eq_nil_of_headKeys {streams : List MergeSource} (hnone : headKeys streams = []) :
    ∀ stream ∈ streams, stream.events = [] := by
  intro stream hstream
  obtain ⟨before, after, rfl⟩ := List.append_of_mem hstream
  rw [headKeys_split] at hnone
  have hhead := (List.append_eq_nil_iff.mp (List.append_eq_nil_iff.mp hnone).2).1
  unfold streamHeadKey at hhead
  cases hevents : stream.events with
  | nil => rfl
  | cons event rest => rw [hevents] at hhead; nomatch hhead

omit [JsonText] in
/-- **What holds of a merge**: nothing is merged when no stream has an event left, and else the
event of the least key comes first, with what is left merged after it. -/
theorem mergeLoop_rule {motive : List MergeSource → List MergeItem → Prop}
    (done : ∀ streams, (∀ stream ∈ streams, stream.events = []) → motive streams [])
    (take : ∀ (before after : List MergeSource) (stream : MergeSource) (event : ParsedEvent)
      (rest : List ParsedEvent) (key : HeapKey) (others : List HeapKey),
      stream.events = event :: rest → streamHeadKey stream before.length = some key →
      (∀ other ∈ headKeys (before ++ stream :: after), key ≤ other) →
      others.Perm (headKeys (before ++ { stream with events := rest } :: after)) →
      motive (before ++ { stream with events := rest } :: after)
        (mergeLoop (before ++ { stream with events := rest } :: after) others) →
      motive (before ++ stream :: after) (⟨event, stream.writerPid, stream.segment⟩
        :: mergeLoop (before ++ { stream with events := rest } :: after) others))
    (streams : List MergeSource) (heap : List HeapKey) (hheap : heap.Perm (headKeys streams)) :
    motive streams (mergeLoop streams heap) := by
  induction streams, heap using mergeLoop.induct with
  | case1 streams heap hmin =>
    rw [mergeLoop, hmin]
    rw [List.min?_eq_none_iff.mp hmin] at hheap
    exact done streams (events_eq_nil_of_headKeys hheap.symm.eq_nil)
  | case2 streams heap key hmin hget =>
    obtain ⟨before, stream, after, event, rest, rfl, hindex, -, -⟩ :=
      mem_headKeys (hheap.mem_iff.mp (List.min?_mem hmin))
    rw [hindex, List.getElem?_append_right (Nat.le_refl _), Nat.sub_self] at hget
    nomatch hget
  | case3 streams heap key hmin stream hget hevents =>
    obtain ⟨before, other, after, event, rest, rfl, hindex, hother, -⟩ :=
      mem_headKeys (hheap.mem_iff.mp (List.min?_mem hmin))
    rw [hindex, List.getElem?_append_right (Nat.le_refl _), Nat.sub_self] at hget
    obtain rfl : other = stream := Option.some.inj hget
    rw [hevents] at hother
    nomatch hother
  | case4 streams heap key hmin stream hget event rest hevents left ih =>
    obtain ⟨before, other, after, event', rest', rfl, hindex, hother, hhead⟩ :=
      mem_headKeys (hheap.mem_iff.mp (List.min?_mem hmin))
    have hget' := hget
    rw [hindex, List.getElem?_append_right (Nat.le_refl _), Nat.sub_self] at hget'
    obtain rfl : other = stream := Option.some.inj hget'
    have hset : (before ++ other :: after).set key.streamIdx left = before ++ left :: after := by
      rw [hindex, List.set_append_right _ _ (Nat.le_refl _), Nat.sub_self]
      rfl
    rw [hset, hindex] at ih
    have hrest := ih (heap_after_take hheap hhead left)
    have hstep : mergeLoop (before ++ other :: after) heap
        = ⟨event, other.writerPid, other.segment⟩ :: mergeLoop (before ++ left :: after)
          (heap.erase key ++ (streamHeadKey left before.length).toList) := by
      rw [mergeLoop, hmin]
      dsimp only
      split
      · next hnone => rw [hget] at hnone; nomatch hnone
      · next found hfound =>
        obtain rfl := Option.some.inj (hget.symm.trans hfound)
        split
        · next hnil => rw [hevents] at hnil; nomatch hnil
        · next first others hfirst =>
          obtain ⟨rfl, rfl⟩ := List.cons.inj (hevents.symm.trans hfirst)
          rw [← hset, ← hindex]
    rw [hstep]
    have hleast : ∀ other' ∈ headKeys (before ++ other :: after), key ≤ other' :=
      fun other' hmem => (List.min?_eq_some_iff.mp hmin).2 other' (hheap.mem_iff.mpr hmem)
    exact take before after other event rest key _ hevents hhead hleast
      (heap_after_take hheap hhead left) hrest

omit [JsonText] in
/-- **The merge is an interleaving of what the sources have.** -/
theorem mergeLoop_interleave (streams : List MergeSource) (heap : List HeapKey)
    (hheap : heap.Perm (headKeys streams)) :
    Interleave (streams.map MergeSource.items) (mergeLoop streams heap) := by
  refine mergeLoop_rule (motive := fun streams merged =>
    Interleave (streams.map MergeSource.items) merged) ?_ ?_ streams heap hheap
  · intro streams hempty
    refine .done (fun items hitems => ?_)
    obtain ⟨stream, hstream, rfl⟩ := List.mem_map.mp hitems
    unfold MergeSource.items
    rw [hempty stream hstream, List.map_nil]
  · intro before after stream event rest key others hevents _ _ _ hrest
    have hitems : stream.items = ⟨event, stream.writerPid, stream.segment⟩
        :: { stream with events := rest }.items := by
      unfold MergeSource.items
      rw [hevents, List.map_cons]
    rw [List.map_append, List.map_cons] at hrest ⊢
    rw [hitems]
    exact hrest.take

omit [JsonText] in
/-- **No event is lost, and none is made up**: what is merged is what the streams hold. -/
theorem mergeSegments_perm (sources : List MergeSource) :
    ((mergeSegments sources).map MergeItem.event).Perm (sources.flatMap MergeSource.events) := by
  have hperm := (mergeLoop_interleave sources _ (List.Perm.refl _)).perm.map MergeItem.event
  have hevents : ((sources.map MergeSource.items).flatten).map MergeItem.event
      = sources.flatMap MergeSource.events := by
    rw [← List.flatMap_def, List.map_flatMap]
    refine List.flatMap_congr (fun source _ => ?_)
    show (source.events.map _).map _ = source.events
    rw [List.map_map]
    exact List.map_id _
  rwa [hevents] at hperm

/-- `annotate_provenance`. -/
def annotateProvenance (item : MergeItem) : Json :=
  let orInsert := fun (value : Json) (key : String) (field : Json) =>
    if (value.get key).isSome then value else value.insert key field
  orInsert (orInsert item.event.value "writer_pid" (.num item.writerPid)) "segment"
    (.str item.segment)

/-- `filter_by_event_prefix`. -/
def filterByEventPrefix (events : List Json) (eventPrefix : Option String) : List Json :=
  match eventPrefix.filter (fun text => !text.isEmpty) with
  | none => events
  | some text =>
    events.filter (fun event =>
      ((event.get "event").bind Json.asStr).any (fun name => text.toList.isPrefixOf name.toList))

/-- `apply_tail_limit`. -/
def applyTailLimit (events : List Json) (limit : ℕ) : List Json × Bool :=
  if limit = 0 || events.length ≤ limit then (events, false)
  else (events.drop (events.length - limit), true)

/-- The variables of `detect_unpaired_commands`. -/
structure CommandPairs where
  /-- The commands that were started, with their segments. -/
  started : AssocMap String (String × String)
  warnings : List String

/-- One event of `detect_unpaired_commands`. -/
def CommandPairs.next (pairs : CommandPairs) (event : Json) : CommandPairs :=
  match (event.get "event").bind Json.asStr with
  | none => pairs
  | some name =>
    let segment := ((event.get "segment").bind Json.asStr).getD ""
    let writerPid := (((event.get "writer_pid").bind Json.asU64).map UInt64.toNat).getD 0
    let command := ((event.get "command").bind Json.asStr).getD "unknown"
    let key := segment ++ ":" ++ toString writerPid ++ ":" ++ command
    if name = "command.start" then
      { pairs with started := pairs.started.insert key (command, segment) }
    else if name = "command.end" then
      if (pairs.started.get key).isSome then
        { pairs with started := pairs.started.retain (fun other _ => other ≠ key) }
      else
        { pairs with
          warnings := pairs.warnings
            ++ ["Unpaired command.end for '" ++ command ++ "' in segment " ++ segment] }
    else pairs

/-- `detect_unpaired_commands`; the commands that were not ended are told in the order of their
keys. -/
def detectUnpairedCommands (events : List Json) : List String :=
  let pairs := events.foldl CommandPairs.next ⟨AssocMap.empty, []⟩
  pairs.warnings ++ (sortByKey Prod.fst pairs.started.entries).map (fun binding =>
    "Unpaired command.start for '" ++ binding.2.1 ++ "' in segment " ++ binding.2.2)

/-! ## Reading a directory -/

/-- `ReadOptions`. -/
structure ReadOptions where
  /-- How many events are returned, all of them where it is `0`. -/
  limit : ℕ
  /-- What the names of the events begin with. -/
  eventPrefix : Option String

/-- `TraceWarningKind`. -/
inductive TraceWarningKind
  | foreignFile | unreadableSegment | symlinkedSegment | schemaUnknown | unpairedCommand
  deriving DecidableEq

/-- `TraceWarning`. -/
structure TraceWarning where
  kind : TraceWarningKind
  message : String
  deriving DecidableEq

/-- `SegmentInfo`. -/
structure SegmentInfo where
  /-- The name of the segment. -/
  segment : String
  /-- The process that wrote it. -/
  pid : ℕ
  /-- The schema it announces. -/
  schema : ℕ
  eventCount : ℕ
  /-- How many of its lines were left out. -/
  skippedLines : ℕ

/-- `MergedTrace`. -/
structure MergedTrace where
  /-- The events that are returned. -/
  events : List Json
  segments : List SegmentInfo
  /-- What is said of the directory. -/
  warnings : List TraceWarning
  /-- How many events there are. -/
  totalEvents : ℕ
  /-- How many of them match, where a match is asked for. -/
  matchedEvents : Option ℕ
  returnedEvents : ℕ
  /-- Whether some that match are not. -/
  truncated : Bool

/-- What an entry of a directory is. -/
inductive FileKind
  | file | directory | symlink
  deriving DecidableEq

/-- An entry of the trace directory. -/
structure DirEntry where
  /-- Its name, where it is a text. -/
  name : Option String
  /-- What it is, where that can be read. -/
  kind : Option FileKind
  /-- Its bytes, or why they cannot be read. -/
  content : Except String (List UInt8)

/-- `METADATA_LIST_CAP`. -/
def metadataListCap : ℕ := 500

/-- `is_managed_artifact_dir`. -/
def isManagedArtifactDir (entry : DirEntry) (name : String) : Bool :=
  (name == "screens" || name == "refmaps") && entry.kind == some .directory

/-- `segment_info_from_stats`. -/
def segmentInfoFromStats (parsed : ParsedSegmentName) (stats : SegmentReadStats) : SegmentInfo :=
  ⟨parsed.stem, parsed.pid, stats.schema, stats.eventCount, stats.skippedLines⟩

/-- What an entry adds to the variables of `read_merged`. -/
structure EntryReading where
  warning : Option TraceWarning
  /-- To the segments and to what is merged. -/
  segment : Option (SegmentInfo × MergeSource)

/-- One entry of `read_merged`. -/
def readEntry (entry : DirEntry) : EntryReading :=
  match entry.name with
  | none => ⟨none, none⟩
  | some name =>
    if ".jsonl.tmp".toList.isSuffixOf name.toList then ⟨none, none⟩
    else if isManagedArtifactDir entry name then ⟨none, none⟩
    else
      match parseSegmentFilename name with
      | none =>
        if ".".toList.isPrefixOf name.toList then ⟨none, none⟩
        else ⟨some ⟨.foreignFile, "Ignoring foreign file in trace directory: " ++ name⟩, none⟩
      | some parsedName =>
        if entry.kind = some .symlink then
          ⟨some ⟨.symlinkedSegment, "Skipping symlinked segment: " ++ name⟩, none⟩
        else
          match readSegmentEvents entry.content with
          | .ok (events, stats) =>
            ⟨stats.schemaWarning.map (fun message => ⟨.schemaUnknown, message⟩),
              some (segmentInfoFromStats parsedName stats,
                ⟨events, parsedName.pid, parsedName.stem⟩)⟩
          | .error err =>
            ⟨some ⟨.unreadableSegment, "Skipping unreadable segment " ++ name ++ ": " ++ err⟩,
              none⟩

/-- **`read_merged`**, on the entries of the trace directory in the order they are enumerated in,
where there is such a directory. -/
def readMerged (traceDir : Option (List DirEntry)) (options : ReadOptions) :
    Except AppError MergedTrace := do
  let some entries := traceDir
    | throw (.invalidInputWithSuggestion "Trace directory does not exist"
        "Run `session start` with tracing enabled, or pass `--session <id>`.")
  let readings := entries.map readEntry
  let found := readings.filterMap EntryReading.segment
  let segmentInfos := sortByKey SegmentInfo.segment (found.map Prod.fst)
  let mergeSources := sortByKey MergeSource.segment (found.map Prod.snd)
  let allEvents := (mergeSegments mergeSources).map annotateProvenance
  let warnings := readings.filterMap EntryReading.warning
    ++ (detectUnpairedCommands allEvents).map (fun message => ⟨.unpairedCommand, message⟩)
  let filteredEvents := filterByEventPrefix allEvents options.eventPrefix
  let (returnedEvents, truncated) := applyTailLimit filteredEvents options.limit
  return {
    events := returnedEvents
    segments := segmentInfos.take metadataListCap
    warnings := warnings.take metadataListCap
    totalEvents := allEvents.length
    matchedEvents := options.eventPrefix.map (fun _ => filteredEvents.length)
    returnedEvents := returnedEvents.length
    truncated }

end AgentDesktop
