import Mathlib.Data.List.Pairwise
import AgentDesktop.RefIds
import AgentDesktop.SegmentGrammar

/-!
# The order of a trace directory

A file system enumerates a directory in an order of its own. The events and the
segments that are read from a trace do not show it: they are sorted before anything
is cut off. What is said of the directory is not sorted, and so shows it as soon as
two different things are said (`readMerged_eq_of_perm_iff`).
-/

namespace AgentDesktop

/-- **A trace directory**: no two entries have one name. -/
structure TraceDirectory where
  entries : List DirEntry
  /-- Their names differ. -/
  nodup : entries.Pairwise (fun first second => ∀ name, first.name = some name →
    second.name ≠ some name)

/-! ## The names of segments -/

theorem eq_append_of_stripSuffix {suffix l stem : List Char}
    (hstrip : stripSuffix suffix l = some stem) : l = stem ++ suffix := by
  unfold stripSuffix at hstrip
  split at hstrip
  · next hsuffix =>
    obtain ⟨front, rfl⟩ := List.isSuffixOf_iff_suffix.mp hsuffix
    rw [List.length_append, Nat.add_sub_cancel, List.take_left] at hstrip
    rw [Option.some.inj hstrip]
  · nomatch hstrip

/-- **The name of a segment** is its stem and an ending, and it has no colon. -/
theorem parseSegmentFilename_eq_some {name : String} {parsed : ParsedSegmentName}
    (hparse : parseSegmentFilename name = some parsed) :
    name.toList = parsed.stem.toList ++ ".jsonl".toList ∧ ':' ∉ name.toList := by
  unfold parseSegmentFilename at hparse
  split at hparse
  · nomatch hparse
  next stem hstrip =>
  split at hparse
  · nomatch hparse
  split at hparse
  · nomatch hparse
  next pidStr tsStr hsplit =>
  split at hparse
  · nomatch hparse
  split at hparse
  · nomatch hparse
  next hpid =>
  split at hparse
  · nomatch hparse
  next hts =>
  split at hparse
  · obtain rfl := Option.some.inj hparse
    have hname := eq_append_of_stripSuffix hstrip
    refine ⟨by rw [String.toList_ofList]; exact hname, ?_⟩
    rw [hname, eq_append_of_rsplitOnce hsplit]
    -- what is not a separator is a digit, and so no colon
    have hdigit : ∀ {l : List Char}, l.all isAsciiDigit → ':' ∉ l := fun hall hmem =>
      absurd (List.all_eq_true.mp hall _ hmem) (by decide)
    simp only [Bool.not_eq_true, Bool.not_eq_false'] at hpid hts
    simp only [List.mem_append, not_or]
    exact ⟨⟨⟨hdigit hpid, by decide⟩, hdigit hts⟩, by decide⟩
  · nomatch hparse

theorem isSuffixOf_tmp_of_parseSegmentFilename {name : String} {parsed : ParsedSegmentName}
    (hparse : parseSegmentFilename name = some parsed) :
    ".jsonl.tmp".toList.isSuffixOf name.toList = false := by
  rw [Bool.eq_false_iff]
  intro htmp
  obtain ⟨front, hfront⟩ := List.isSuffixOf_iff_suffix.mp htmp
  have hlast := congrArg List.getLast? (hfront.trans (parseSegmentFilename_eq_some hparse).1)
  rw [show ".jsonl.tmp".toList = ".jsonl.tm".toList ++ ['p'] from by decide,
    show ".jsonl".toList = ".json".toList ++ ['l'] from by decide, ← List.append_assoc,
    ← List.append_assoc, List.getLast?_concat, List.getLast?_concat] at hlast
  exact absurd hlast (by decide)

theorem isManagedArtifactDir_of_parseSegmentFilename {name : String} {parsed : ParsedSegmentName}
    (entry : DirEntry) (hparse : parseSegmentFilename name = some parsed) :
    isManagedArtifactDir entry name = false := by
  have hother : ∀ other, parseSegmentFilename other = none → (name == other) = false := by
    intro other hnone
    rw [beq_eq_false_iff_ne]
    rintro rfl
    rw [hnone] at hparse
    nomatch hparse
  unfold isManagedArtifactDir
  rw [hother "screens" (by decide), hother "refmaps" (by decide)]
  rfl

/-! ## The schema of a segment -/

/-- **The schema that the events of a segment announce**: what the first event says that may. -/
def announcedSchema (events : List ParsedEvent) : Option ℕ :=
  (events.find? (fun event => SegmentRead.isTraceMeta event.value)).bind
    (fun event => SegmentRead.schemaOf event.value)

/-- Whether a schema is one that the reader does not know. -/
def isUnknownSchema (schema : ℕ) : Bool := knownSchemaMax < SegmentRead.asU32 schema

namespace SegmentRead

/-- What is remembered of the schema is what the events so far announce. -/
def Noted (state : SegmentRead) : Prop :=
  state.stats.metaSeen = state.events.any (fun event => isTraceMeta event.value)
    ∧ state.stats.schemaWarning
      = ((announcedSchema state.events).filter isUnknownSchema).map schemaMessage

theorem Noted.push {state : SegmentRead} (hnoted : state.Noted) (value : Json) :
    (state.push value).Noted := by
  obtain ⟨hseen, hwarning⟩ := hnoted
  unfold Noted SegmentRead.push
  simp only [List.any_append, List.any_cons, List.any_nil, Bool.or_false]
  unfold announcedSchema at hwarning ⊢
  rw [List.find?_append]
  unfold noteMeta
  by_cases hmeta : isTraceMeta value = true
  · cases hfirst : state.stats.metaSeen with
    | true =>
      -- an earlier event announced the schema
      rw [hfirst] at hseen
      obtain ⟨event, hmem, hevent⟩ := List.any_eq_true.mp hseen.symm
      have hsome : (state.events.find? (fun event => isTraceMeta event.value)).isSome :=
        List.find?_isSome.mpr ⟨event, hmem, hevent⟩
      obtain ⟨found, hfound⟩ := Option.isSome_iff_exists.mp hsome
      rw [hfound] at hwarning ⊢
      simp only [hmeta, hfirst, Bool.not_true, Bool.and_false, Bool.false_eq_true, if_false,
        Option.some_or]
      exact ⟨by rw [← hseen, Bool.true_or], hwarning⟩
    | false =>
      rw [hfirst] at hseen
      have hnone : state.events.find? (fun event => isTraceMeta event.value) = none := by
        rw [List.find?_eq_none]
        intro event hmem hevent
        exact Bool.false_ne_true (hseen.trans (List.any_eq_true.mpr ⟨event, hmem, hevent⟩))
      rw [hnone] at hwarning ⊢
      simp only [Option.bind_none, Option.filter_none, Option.map_none] at hwarning
      simp only [hmeta, Bool.not_false, Bool.and_self, if_true, Option.none_or,
        List.find?_cons_of_pos, Option.bind_some]
      cases hschema : schemaOf value with
      | none => exact ⟨by simp, hwarning⟩
      | some schema =>
        by_cases hunknown : knownSchemaMax < asU32 schema
        · simp [hunknown, isUnknownSchema, Option.filter]
        · simp [hunknown, isUnknownSchema, Option.filter, hwarning]
  · simp only [hmeta, Bool.false_and, Bool.false_eq_true, if_false, Bool.or_false]
    refine ⟨hseen, ?_⟩
    rw [hwarning, List.find?_cons_of_neg (by simpa using hmeta), List.find?_nil, Option.or_none]

variable [JsonText]

theorem Noted.next {state : SegmentRead} (hnoted : state.Noted) (raw : List UInt8) :
    (state.next raw).Noted := by
  unfold SegmentRead.next
  dsimp only
  generalize (if raw.getLast? == some 10 then raw.dropLast else raw) = lineBytes
  split
  · exact hnoted
  split
  · exact hnoted
  split
  · exact hnoted
  split
  · exact hnoted
  split
  · exact hnoted
  split
  · have hpassed : ({ state with position := state.position + 1 } : SegmentRead).Noted := hnoted
    exact hpassed.push _
  · exact hnoted

theorem noted_foldl (lines : List (List UInt8)) (state : SegmentRead) (hnoted : state.Noted) :
    (lines.foldl SegmentRead.next state).Noted := by
  induction lines generalizing state with
  | nil => exact hnoted
  | cons raw lines ih => exact ih _ (hnoted.next raw)

end SegmentRead

variable [JsonText]

/-- **A reader warns of the schema that a segment announces**, when it does not know it. -/
theorem schemaWarning_of_readSegmentEvents {content : Except String (List UInt8)}
    {events : List ParsedEvent} {stats : SegmentReadStats}
    (hread : readSegmentEvents content = .ok (events, stats)) :
    stats.schemaWarning
      = ((announcedSchema events).filter isUnknownSchema).map SegmentRead.schemaMessage := by
  cases content with
  | error err => nomatch hread
  | ok bytes =>
    have hnoted := SegmentRead.noted_foldl (readLines bytes) .start ⟨rfl, rfl⟩
    unfold readSegmentEvents at hread
    simp only [pure, Except.pure, bind, Except.bind, Except.ok.injEq,
      Prod.mk.injEq] at hread
    obtain ⟨rfl, rfl⟩ := hread
    split
    · exact hnoted.2
    · exact hnoted.2

/-! ## What is said of an entry

What is said of an entry names it, with one exception: the warning about a schema says which schema
it is, and not which segment. So equal warnings about two entries are of this kind. -/

namespace DirEntry

/-- An entry that is no segment, and none of the files a reader passes over. -/
def IsForeign (entry : DirEntry) : Prop :=
  ∃ name, entry.name = some name ∧ parseSegmentFilename name = none
    ∧ ".jsonl.tmp".toList.isSuffixOf name.toList = false
    ∧ isManagedArtifactDir entry name = false ∧ ".".toList.isPrefixOf name.toList = false

/-- An entry with the name of a segment. -/
def IsSegment (entry : DirEntry) (name : String) : Prop :=
  entry.name = some name ∧ (parseSegmentFilename name).isSome

/-- A segment that is a symbolic link. -/
def IsSymlinkedSegment (entry : DirEntry) : Prop :=
  ∃ name, entry.IsSegment name ∧ entry.kind = some .symlink

/-- A segment that cannot be read. -/
def IsUnreadableSegment (entry : DirEntry) : Prop :=
  ∃ name, entry.IsSegment name ∧ entry.kind ≠ some .symlink ∧ ∃ err, entry.content = .error err

/-- A segment that announces a schema the reader does not know. -/
def Announces (entry : DirEntry) (schema : ℕ) : Prop :=
  ∃ name, entry.IsSegment name ∧ entry.kind ≠ some .symlink
    ∧ ∃ events stats, readSegmentEvents entry.content = .ok (events, stats)
      ∧ announcedSchema events = some schema ∧ isUnknownSchema schema = true

/-- **An entry a reader has something to say about.** -/
def Reported (entry : DirEntry) : Prop :=
  entry.IsForeign ∨ entry.IsSymlinkedSegment ∨ entry.IsUnreadableSegment
    ∨ ∃ schema, entry.Announces schema

/-- What is said, with what it is said about. -/
inductive SaidOf (entry : DirEntry) : TraceWarning → Prop
  /-- An entry that is no segment. -/
  | foreign (name : String) (hname : entry.name = some name) :
    SaidOf entry ⟨.foreignFile, "Ignoring foreign file in trace directory: " ++ name⟩
  /-- A segment that is a symbolic link. -/
  | symlinked (name : String) (hname : entry.name = some name) :
    SaidOf entry ⟨.symlinkedSegment, "Skipping symlinked segment: " ++ name⟩
  /-- A segment that cannot be read. -/
  | unreadable (name err : String) (hname : entry.name = some name) (hcolon : ':' ∉ name.toList) :
    SaidOf entry ⟨.unreadableSegment, "Skipping unreadable segment " ++ name ++ ": " ++ err⟩
  /-- A segment with a schema that is not known. -/
  | schema (schema : ℕ) (hschema : entry.Announces schema) :
    SaidOf entry ⟨.schemaUnknown, SegmentRead.schemaMessage schema⟩

end DirEntry

theorem readEntry_of_segment {entry : DirEntry} {name : String} {parsed : ParsedSegmentName}
    (hname : entry.name = some name) (hparse : parseSegmentFilename name = some parsed) :
    readEntry entry =
      if entry.kind = some .symlink then
        ⟨some ⟨.symlinkedSegment, "Skipping symlinked segment: " ++ name⟩, none⟩
      else
        match readSegmentEvents entry.content with
        | .ok (events, stats) =>
          ⟨stats.schemaWarning.map (fun message => ⟨.schemaUnknown, message⟩),
            some (segmentInfoFromStats parsed stats, ⟨events, parsed.pid, parsed.stem⟩)⟩
        | .error err =>
          ⟨some ⟨.unreadableSegment, "Skipping unreadable segment " ++ name ++ ": " ++ err⟩,
            none⟩ := by
  unfold readEntry
  rw [hname]
  dsimp only
  rw [isSuffixOf_tmp_of_parseSegmentFilename hparse,
    isManagedArtifactDir_of_parseSegmentFilename entry hparse, hparse]
  rfl

theorem readEntry_of_other {entry : DirEntry} {name : String} (hname : entry.name = some name)
    (hparse : parseSegmentFilename name = none) :
    (readEntry entry).segment = none ∧ (readEntry entry).warning =
      if ".jsonl.tmp".toList.isSuffixOf name.toList = false
          ∧ isManagedArtifactDir entry name = false ∧ ".".toList.isPrefixOf name.toList = false then
        some ⟨.foreignFile, "Ignoring foreign file in trace directory: " ++ name⟩
      else none := by
  unfold readEntry
  rw [hname]
  dsimp only
  rw [hparse]
  cases ".jsonl.tmp".toList.isSuffixOf name.toList
  · cases isManagedArtifactDir entry name
    · cases ".".toList.isPrefixOf name.toList <;> exact ⟨rfl, rfl⟩
    · exact ⟨rfl, rfl⟩
  · exact ⟨rfl, rfl⟩

/-- **What is said of an entry tells what it is said about.** -/
theorem saidOf_of_warning {entry : DirEntry} {warning : TraceWarning}
    (hwarning : (readEntry entry).warning = some warning) :
    entry.Reported ∧ entry.SaidOf warning := by
  cases hname : entry.name with
  | none =>
    unfold readEntry at hwarning
    rw [hname] at hwarning
    nomatch hwarning
  | some name =>
    cases hparse : parseSegmentFilename name with
    | none =>
      rw [(readEntry_of_other hname hparse).2] at hwarning
      split at hwarning
      · next hforeign =>
        obtain rfl := Option.some.inj hwarning
        exact ⟨Or.inl ⟨name, hname, hparse, hforeign⟩, .foreign name hname⟩
      · nomatch hwarning
    | some parsed =>
      have hsegment : entry.IsSegment name := ⟨hname, by rw [hparse]; rfl⟩
      rw [readEntry_of_segment hname hparse] at hwarning
      by_cases hlink : entry.kind = some .symlink
      · rw [if_pos hlink] at hwarning
        obtain rfl := Option.some.inj hwarning
        exact ⟨Or.inr (Or.inl ⟨name, hsegment, hlink⟩), .symlinked name hname⟩
      · rw [if_neg hlink] at hwarning
        cases hread : readSegmentEvents entry.content with
        | error err =>
          rw [hread] at hwarning
          obtain rfl := Option.some.inj hwarning
          have herror : ∃ err, entry.content = .error err := by
            cases hcontent : entry.content with
            | error err => exact ⟨err, rfl⟩
            | ok bytes => rw [hcontent] at hread; nomatch hread
          exact ⟨Or.inr (Or.inr (Or.inl ⟨name, hsegment, hlink, herror⟩)),
            .unreadable name err hname (parseSegmentFilename_eq_some hparse).2⟩
        | ok found =>
          obtain ⟨events, stats⟩ := found
          rw [hread] at hwarning
          dsimp only at hwarning
          rw [schemaWarning_of_readSegmentEvents hread] at hwarning
          simp only [Option.map_map, Option.map_eq_some_iff, Option.filter_eq_some_iff] at hwarning
          obtain ⟨schema, ⟨hschema, hunknown⟩, rfl⟩ := hwarning
          have hannounces : entry.Announces schema :=
            ⟨name, hsegment, hlink, events, stats, hread, hschema, hunknown⟩
          exact ⟨Or.inr (Or.inr (Or.inr ⟨schema, hannounces⟩)), .schema schema hannounces⟩

theorem warning_of_announces {entry : DirEntry} {schema : ℕ} (hannounces : entry.Announces schema) :
    (readEntry entry).warning = some ⟨.schemaUnknown, SegmentRead.schemaMessage schema⟩ := by
  obtain ⟨name, ⟨hname, hsome⟩, hlink, events, stats, hread, hschema, hunknown⟩ := hannounces
  obtain ⟨parsed, hparse⟩ := Option.isSome_iff_exists.mp hsome
  rw [readEntry_of_segment hname hparse, if_neg hlink, hread]
  dsimp only
  rw [schemaWarning_of_readSegmentEvents hread, hschema]
  simp [Option.filter, hunknown]

theorem reported_iff (entry : DirEntry) :
    entry.Reported ↔ ∃ warning, (readEntry entry).warning = some warning := by
  refine ⟨fun hreported => ?_, fun ⟨_, hwarning⟩ => (saidOf_of_warning hwarning).1⟩
  rcases hreported with hforeign | hlinked | hunreadable | ⟨schema, hannounces⟩
  · obtain ⟨name, hname, hparse, hother⟩ := hforeign
    exact ⟨_, by rw [(readEntry_of_other hname hparse).2, if_pos hother]⟩
  · obtain ⟨name, ⟨hname, hsome⟩, hlink⟩ := hlinked
    obtain ⟨parsed, hparse⟩ := Option.isSome_iff_exists.mp hsome
    exact ⟨_, by rw [readEntry_of_segment hname hparse, if_pos hlink]⟩
  · obtain ⟨name, ⟨hname, hsome⟩, hlink, err, herr⟩ := hunreadable
    obtain ⟨parsed, hparse⟩ := Option.isSome_iff_exists.mp hsome
    refine ⟨_, by rw [readEntry_of_segment hname hparse, if_neg hlink, herr]; rfl⟩
  · exact ⟨_, warning_of_announces hannounces⟩

theorem name_of_readEntry_segment {entry : DirEntry} {info : SegmentInfo} {source : MergeSource}
    (hsegment : (readEntry entry).segment = some (info, source)) :
    info.segment = source.segment
      ∧ entry.name = some (String.ofList (source.segment.toList ++ ".jsonl".toList)) := by
  cases hname : entry.name with
  | none =>
    unfold readEntry at hsegment
    rw [hname] at hsegment
    nomatch hsegment
  | some name =>
    cases hparse : parseSegmentFilename name with
    | none =>
      rw [(readEntry_of_other hname hparse).1] at hsegment
      nomatch hsegment
    | some parsed =>
      rw [readEntry_of_segment hname hparse] at hsegment
      split at hsegment
      · nomatch hsegment
      split at hsegment
      · obtain ⟨rfl, rfl⟩ := Prod.mk.inj (Option.some.inj hsegment)
        refine ⟨rfl, congrArg some ?_⟩
        show name = String.ofList (parsed.stem.toList ++ ".jsonl".toList)
        rw [← (parseSegmentFilename_eq_some hparse).1, String.ofList_toList]
      · nomatch hsegment

/-! ## The order of the entries -/

/-- What is said of the entries, in their order. -/
def entryWarnings (entries : List DirEntry) : List TraceWarning :=
  entries.filterMap (fun entry => (readEntry entry).warning)

/-- The segments that are found, in the order of the entries. -/
def foundSegments (entries : List DirEntry) : List (SegmentInfo × MergeSource) :=
  entries.filterMap (fun entry => (readEntry entry).segment)

/-- **No two segments that are found have one name.** -/
theorem nodup_foundSegments (dir : TraceDirectory) :
    ((foundSegments dir.entries).map (fun found => found.2.segment)).Nodup := by
  unfold foundSegments
  rw [List.Nodup, List.pairwise_map, List.pairwise_filterMap]
  refine dir.nodup.imp fun {first second} hnames found hfound other hother heq => ?_
  have hfirst := (name_of_readEntry_segment hfound).2
  have hsecond := (name_of_readEntry_segment hother).2
  rw [heq] at hfirst
  exact hnames _ hfirst hsecond

/-- **Nothing but the order of what is said shows the order of the entries.** For every
enumeration the events, the segments and what is counted are the same, and so is what is said
after the entries are gone through. -/
theorem readMerged_of_perm (dir : TraceDirectory) (options : ReadOptions) :
    ∃ (trace : MergedTrace) (unpaired : List TraceWarning),
      ∀ entries : List DirEntry, entries.Perm dir.entries →
        readMerged (some entries) options
          = .ok { trace with
              warnings := (entryWarnings entries ++ unpaired).take metadataListCap } := by
  -- segments have different names, so sorting forgets the order they were found in
  have hsegments : ∀ entries : List DirEntry, entries.Perm dir.entries →
      sortByKey SegmentInfo.segment ((foundSegments entries).map Prod.fst)
          = sortByKey SegmentInfo.segment ((foundSegments dir.entries).map Prod.fst)
        ∧ sortByKey MergeSource.segment ((foundSegments entries).map Prod.snd)
          = sortByKey MergeSource.segment ((foundSegments dir.entries).map Prod.snd) := by
    intro entries hperm
    have hfound : (foundSegments entries).Perm (foundSegments dir.entries) :=
      hperm.filterMap _
    have hnodup := (hfound.map (fun found => found.2.segment)).nodup_iff.mpr
      (nodup_foundSegments dir)
    have hinfos : (foundSegments entries).map (fun found => found.1.segment)
        = (foundSegments entries).map (fun found => found.2.segment) := by
      refine List.map_congr_left fun found hmem => ?_
      obtain ⟨entry, -, hentry⟩ := List.mem_filterMap.mp hmem
      exact (name_of_readEntry_segment hentry).1
    refine ⟨sortByKey_eq_of_perm _ (hfound.map _) ?_, sortByKey_eq_of_perm _ (hfound.map _) ?_⟩
    · rw [List.map_map]
      exact hinfos ▸ hnodup
    · rw [List.map_map]
      exact hnodup
  let segmentInfos := sortByKey SegmentInfo.segment ((foundSegments dir.entries).map Prod.fst)
  let allEvents := (mergeSegments
    (sortByKey MergeSource.segment ((foundSegments dir.entries).map Prod.snd))).map
      annotateProvenance
  let filteredEvents := filterByEventPrefix allEvents options.eventPrefix
  refine ⟨⟨(applyTailLimit filteredEvents options.limit).1, segmentInfos.take metadataListCap, [],
    allEvents.length, options.eventPrefix.map (fun _ => filteredEvents.length),
    (applyTailLimit filteredEvents options.limit).1.length,
    (applyTailLimit filteredEvents options.limit).2⟩,
    (detectUnpairedCommands allEvents).map (fun message => ⟨.unpairedCommand, message⟩), ?_⟩
  intro entries hperm
  obtain ⟨hinfos, hsources⟩ := hsegments entries hperm
  unfold readMerged
  simp only [List.filterMap_map, Function.comp_def]
  show Except.ok _ = _
  rw [show entries.filterMap (fun entry => (readEntry entry).segment) = foundSegments entries
    from rfl, hinfos, hsources]
  rfl

theorem exists_perm_head (dir : TraceDirectory) {entry : DirEntry} (hentry : entry ∈ dir.entries)
    {warning : TraceWarning} (hwarning : (readEntry entry).warning = some warning) :
    ∃ entries : List DirEntry, entries.Perm dir.entries
      ∧ ∃ rest, entryWarnings entries = warning :: rest := by
  obtain ⟨before, after, hsplit⟩ := List.append_of_mem hentry
  refine ⟨entry :: (before ++ after), ?_, entryWarnings (before ++ after), ?_⟩
  · rw [hsplit]
    exact List.perm_middle.symm
  · unfold entryWarnings
    rw [List.filterMap_cons, hwarning]

/-- **One thing is said of two entries of a directory** only where they are segments that announce
one schema. -/
theorem eq_or_announces_of_saidOf (dir : TraceDirectory) {first second : DirEntry}
    (hfirst : first ∈ dir.entries) (hsecond : second ∈ dir.entries) {warning : TraceWarning}
    (hsaid : first.SaidOf warning) (hsaid' : second.SaidOf warning) :
    first = second ∨ ∃ schema, first.Announces schema ∧ second.Announces schema := by
  have hnames : ∀ {name name' : String}, first.name = some name → second.name = some name' →
      name = name' → first = second := by
    rintro name _ hname hname' rfl
    by_contra hne
    have : Std.Symm (fun left right : DirEntry =>
        ∀ name, left.name = some name → right.name ≠ some name) :=
      ⟨fun left right h name hright hleft => h name hleft hright⟩
    exact dir.nodup.forall hfirst hsecond hne name hname hname'
  cases hsaid with
  | foreign name hname =>
    generalize hmessage : "Ignoring foreign file in trace directory: " ++ name = message at hsaid'
    cases hsaid' with
    | foreign name' hname' =>
      exact Or.inl (hnames hname hname' (String.append_right_inj _ |>.mp hmessage))
  | symlinked name hname =>
    generalize hmessage : "Skipping symlinked segment: " ++ name = message at hsaid'
    cases hsaid' with
    | symlinked name' hname' =>
      exact Or.inl (hnames hname hname' (String.append_right_inj _ |>.mp hmessage))
  | unreadable name err hname hcolon =>
    generalize hmessage : "Skipping unreadable segment " ++ name ++ ": " ++ err = message at hsaid'
    cases hsaid' with
    | unreadable name' err' hname' hcolon' =>
      refine Or.inl (hnames hname hname' ?_)
      have hlists := congrArg String.toList hmessage
      simp only [String.toList_append, List.append_assoc, List.append_cancel_left_eq,
        show ": ".toList = [':', ' '] from rfl, List.cons_append] at hlists
      -- the name ends at the first colon
      have hfront : ∀ {chars rest : List Char}, ':' ∉ chars →
          (chars ++ ':' :: rest).takeWhile (· ≠ ':') = chars := by
        intro chars rest hnot
        rw [List.takeWhile_append_of_pos (fun c hc => decide_eq_true (ne_of_mem_of_not_mem hc hnot)),
          List.takeWhile_cons_of_neg (by simp), List.append_nil]
      have htake := congrArg (List.takeWhile (· ≠ ':')) hlists
      rw [hfront hcolon, hfront hcolon'] at htake
      exact String.toList_inj.mp htake
  | schema schema hannounces =>
    generalize hmessage : SegmentRead.schemaMessage schema = message at hsaid'
    cases hsaid' with
    | schema schema' hannounces' =>
      have hnumber : "@e" ++ toString schema = "@e" ++ toString schema' := by
        unfold SegmentRead.schemaMessage at hmessage
        simp only [String.append_assoc, String.append_right_inj] at hmessage
        rw [(String.append_left_inj _).mp hmessage]
      obtain rfl := refIdOf_injective hnumber
      exact Or.inr ⟨schema, hannounces, hannounces'⟩

/-- **When the order of a directory does not show.** A trace is read the same for every order the
entries are enumerated in exactly when any two entries that something is said of are one entry, or
segments that announce one and the same schema that is not known. -/
theorem readMerged_eq_of_perm_iff (dir : TraceDirectory) (options : ReadOptions) :
    (∀ entries : List DirEntry, entries.Perm dir.entries →
        readMerged (some entries) options = readMerged (some dir.entries) options)
      ↔ ∀ first ∈ dir.entries, ∀ second ∈ dir.entries, first.Reported → second.Reported →
          first = second ∨ ∃ schema, first.Announces schema ∧ second.Announces schema := by
  obtain ⟨trace, unpaired, hread⟩ := readMerged_of_perm dir options
  constructor
  · intro hsame first hfirst second hsecond hreported hreported'
    obtain ⟨warning, hwarning⟩ := (reported_iff first).mp hreported
    obtain ⟨warning', hwarning'⟩ := (reported_iff second).mp hreported'
    obtain ⟨entries, hperm, rest, hhead⟩ := exists_perm_head dir hfirst hwarning
    obtain ⟨entries', hperm', rest', hhead'⟩ := exists_perm_head dir hsecond hwarning'
    -- each of the two can be enumerated first, and then it is what is said first
    have heq := (hsame entries hperm).trans (hsame entries' hperm').symm
    rw [hread entries hperm, hread entries' hperm', hhead, hhead'] at heq
    have hwarnings := congrArg MergedTrace.warnings (Except.ok.inj heq)
    have hone : warning = warning' := (List.cons.inj hwarnings).1
    exact eq_or_announces_of_saidOf dir hfirst hsecond (saidOf_of_warning hwarning).2
      (hone ▸ (saidOf_of_warning hwarning').2)
  · intro hone entries hperm
    have hall : ∀ warning ∈ entryWarnings dir.entries, ∀ warning' ∈ entryWarnings dir.entries,
        warning = warning' := by
      intro warning hwarning warning' hwarning'
      obtain ⟨first, hfirst, hsaid⟩ := List.mem_filterMap.mp hwarning
      obtain ⟨second, hsecond, hsaid'⟩ := List.mem_filterMap.mp hwarning'
      rcases hone first hfirst second hsecond (saidOf_of_warning hsaid).1
        (saidOf_of_warning hsaid').1 with rfl | ⟨schema, hannounces, hannounces'⟩
      · exact Option.some.inj (hsaid.symm.trans hsaid')
      · rw [warning_of_announces hannounces] at hsaid
        rw [warning_of_announces hannounces'] at hsaid'
        exact Option.some.inj (hsaid.symm.trans hsaid')
    have hwarnings : entryWarnings entries = entryWarnings dir.entries := by
      have hpermWarnings : (entryWarnings entries).Perm (entryWarnings dir.entries) :=
        hperm.filterMap _
      cases hlist : entryWarnings dir.entries with
      | nil => exact List.perm_nil.mp (hlist ▸ hpermWarnings)
      | cons warning rest =>
        have hreplicate : entryWarnings dir.entries
            = List.replicate (entryWarnings dir.entries).length warning :=
          List.eq_replicate_of_mem fun other hother =>
            hall other hother warning (hlist ▸ List.mem_cons_self)
        rw [hreplicate] at hpermWarnings
        rw [List.perm_replicate.mp hpermWarnings, ← hreplicate, hlist]
    rw [hread entries hperm, hread dir.entries (List.Perm.refl _), hwarnings]

namespace Sample

/-- An event that announces a schema. -/
def metaEvent (schema : ℕ) : Json := .obj [("event", .str "trace.meta"), ("schema", .num schema)]

/-- The line it is written on. -/
def metaLine (schema : ℕ) : String :=
  "\x7b\"event\":\"trace.meta\",\"schema\":" ++ toString schema ++ "\x7d"

/-- A parser that reads the lines of the schemas 2 and 3. -/
@[reducible] def metaTexts : JsonText where
  fromStr text :=
    if text = metaLine 2 then some (metaEvent 2)
    else if text = metaLine 3 then some (metaEvent 3)
    else none

/-- A segment with one event, which announces a schema. -/
def metaSegment (name : String) (schema : ℕ) : DirEntry :=
  ⟨some name, some .file, .ok (bytesOf (metaLine schema) ++ [10])⟩

/-- Two segments that announce different schemas, neither of which is known. -/
def newerSegments : TraceDirectory where
  entries := [metaSegment "100-1000.jsonl" 2, metaSegment "200-2000.jsonl" 3]
  nodup := by simp [metaSegment]

omit [JsonText] in
theorem metaSegment_announces (name : String) (schema : ℕ)
    (hname : (parseSegmentFilename name).isSome)
    (hobject : @objectOnLine metaTexts (bytesOf (metaLine schema)) = some (metaEvent schema))
    (hfeed : 10 ∉ bytesOf (metaLine schema))
    (hmeta : SegmentRead.isTraceMeta (metaEvent schema) = true)
    (hschema : SegmentRead.schemaOf (metaEvent schema) = some schema)
    (hunknown : isUnknownSchema schema = true) :
    @DirEntry.Announces metaTexts (metaSegment name schema) schema := by
  let _ : JsonText := metaTexts
  obtain ⟨stats, hread, -⟩ := readSegmentEvents_spec (bytesOf (metaLine schema) ++ [10])
  refine ⟨name, ⟨rfl, hname⟩, by rintro ⟨⟩, _, stats, hread, ?_, hunknown⟩
  unfold announcedSchema
  rw [grammarEvents_one hfeed hobject,
    List.find?_cons_of_pos (p := fun event : ParsedEvent => SegmentRead.isTraceMeta event.value) hmeta]
  exact (Option.bind_some _ _).trans hschema

end Sample

omit [JsonText] in
/-- **The order shows**: of two segments that announce different schemas, neither of which is known,
the reader tells in the order they are enumerated in. -/
theorem newerSegments_order_shows :
    ¬ ∀ [JsonText] (dir : TraceDirectory) (options : ReadOptions) (entries : List DirEntry),
      entries.Perm dir.entries →
        readMerged (some entries) options = readMerged (some dir.entries) options := by
  intro hsame
  let _ : JsonText := Sample.metaTexts
  have hobject (schema : ℕ) (hshort : (bytesOf (Sample.metaLine schema)).length ≤ maxLineBytes)
      (hne : bytesOf (Sample.metaLine schema) ≠ [])
      (hparsed : Sample.metaTexts.fromStr (Sample.metaLine schema)
        = some (Sample.metaEvent schema)) :
      objectOnLine (bytesOf (Sample.metaLine schema)) = some (Sample.metaEvent schema) := by
    rw [objectOnLine_bytesOf hne hshort]
    show (Sample.metaTexts.fromStr _).filter _ = _
    rw [hparsed]
    rfl
  have htwo : Sample.metaTexts.fromStr (Sample.metaLine 2) = some (Sample.metaEvent 2) := if_pos rfl
  have hthree : Sample.metaTexts.fromStr (Sample.metaLine 3) = some (Sample.metaEvent 3) :=
    (if_neg (by decide)).trans (if_pos rfl)
  have hfirst := warning_of_announces (Sample.metaSegment_announces "100-1000.jsonl" 2
    (by decide) (hobject 2 (by decide) (by decide) htwo) (by decide) (by decide) (by decide)
      (by decide))
  have hsecond := warning_of_announces (Sample.metaSegment_announces "200-2000.jsonl" 3
    (by decide) (hobject 3 (by decide) (by decide) hthree) (by decide) (by decide) (by decide)
      (by decide))
  have hperm : Sample.newerSegments.entries.reverse.Perm Sample.newerSegments.entries :=
    List.reverse_perm _
  have heq := hsame Sample.newerSegments ⟨0, none⟩ _ hperm
  obtain ⟨trace, unpaired, hread⟩ := readMerged_of_perm Sample.newerSegments ⟨0, none⟩
  rw [hread _ hperm, hread _ (List.Perm.refl _)] at heq
  have hwarnings := congrArg MergedTrace.warnings (Except.ok.inj heq)
  have hentries : entryWarnings Sample.newerSegments.entries
      = [⟨.schemaUnknown, SegmentRead.schemaMessage 2⟩,
        ⟨.schemaUnknown, SegmentRead.schemaMessage 3⟩] := by
    show [_, _].filterMap (fun entry => (readEntry entry).warning) = _
    simp only [List.filterMap_cons, List.filterMap_nil, hfirst, hsecond]
  have hreversed : entryWarnings Sample.newerSegments.entries.reverse
      = [⟨.schemaUnknown, SegmentRead.schemaMessage 3⟩,
        ⟨.schemaUnknown, SegmentRead.schemaMessage 2⟩] := by
    show [_, _].filterMap (fun entry => (readEntry entry).warning) = _
    simp only [List.filterMap_cons, List.filterMap_nil, hfirst, hsecond]
  rw [hentries, hreversed] at hwarnings
  have hhead : TraceWarning.mk .schemaUnknown (SegmentRead.schemaMessage 3)
      = ⟨.schemaUnknown, SegmentRead.schemaMessage 2⟩ := (List.cons.inj hwarnings).1
  exact absurd hhead (by decide)

end AgentDesktop
