import AgentDesktop.SegmentGrammar

/-!
# The merge of the segments

The events of the segments are merged by a heap that holds, of every segment that is
not used up, what its next event is ordered by. Whatever the segments hold, the
result is an interleaving of them: nothing is lost, nothing is made up, and the
events of a segment keep their order.

In what order they come is another matter. A segment is read in the order of its
lines, so its positions grow; when its times do not go back either, its next event
is the least that it has left, and the least of the heap is the least of all that is
left. That makes the result sorted by time, process and position
(`mergeSegments_sorted`).
-/

namespace AgentDesktop

/-- What the events of a trace are sorted by: the time, the process and the line. -/
abbrev SortKey : Type := ℕ ×ₗ ℕ ×ₗ ℕ

/-- What an event of a process is sorted by. -/
def sortKeyOf (writerPid : ℕ) (event : ParsedEvent) : SortKey :=
  toLex (event.tsMs, toLex (writerPid, event.position))

/-- What an event is sorted by. -/
def MergeItem.sortKey (item : MergeItem) : SortKey := sortKeyOf item.writerPid item.event

/-- The lines of the events of a segment come one after the other. -/
def PositionsIncrease (events : List ParsedEvent) : Prop :=
  events.Pairwise (fun earlier later => earlier.position < later.position)

/-- The times of the events of a segment do not go back. -/
def SortedByTime (events : List ParsedEvent) : Prop :=
  events.Pairwise (fun earlier later => earlier.tsMs ≤ later.tsMs)

/-! ## The order of the heap -/

theorem sortKeyOf_le_of_key_le {stream stream' : MergeSource} {event event' : ParsedEvent}
    {rest rest' : List ParsedEvent} {index index' : ℕ} {key key' : HeapKey}
    (hevents : stream.events = event :: rest) (hevents' : stream'.events = event' :: rest')
    (hkey : streamHeadKey stream index = some key)
    (hkey' : streamHeadKey stream' index' = some key') (hle : key ≤ key') :
    sortKeyOf stream.writerPid event ≤ sortKeyOf stream'.writerPid event' := by
  unfold streamHeadKey at hkey hkey'
  rw [hevents] at hkey
  rw [hevents'] at hkey'
  rw [← Option.some.inj hkey, ← Option.some.inj hkey', Prod.Lex.toLex_le_toLex] at hle
  unfold sortKeyOf
  rw [Prod.Lex.toLex_le_toLex]
  refine hle.imp_right (fun ⟨hts, hle⟩ => ⟨hts, ?_⟩)
  show toLex (stream.writerPid, event.position) ≤ toLex (stream'.writerPid, event'.position)
  have hle' := Prod.Lex.toLex_le_toLex.mp hle
  rw [Prod.Lex.toLex_le_toLex]
  exact hle'.imp_right (fun ⟨hpid, hle⟩ => ⟨hpid, Prod.Lex.monotone_fst _ _ hle⟩)

/-- **The next event of a segment is the least that it has left.** -/
theorem sortKeyOf_head_le {events rest : List ParsedEvent} {event other : ParsedEvent} (pid : ℕ)
    (hevents : events = event :: rest) (hpositions : PositionsIncrease events)
    (hsorted : SortedByTime events) (hother : other ∈ events) :
    sortKeyOf pid event ≤ sortKeyOf pid other := by
  unfold PositionsIncrease at hpositions
  unfold SortedByTime at hsorted
  rw [hevents] at hpositions hsorted hother
  rcases List.mem_cons.mp hother with rfl | hother
  · exact le_refl _
  · have hposition := (List.pairwise_cons.mp hpositions).1 other hother
    have htime := (List.pairwise_cons.mp hsorted).1 other hother
    unfold sortKeyOf
    rw [Prod.Lex.toLex_le_toLex]
    refine (Nat.lt_or_eq_of_le htime).imp_right (fun hts => ⟨hts, ?_⟩)
    rw [Prod.Lex.toLex_le_toLex]
    exact Or.inr ⟨rfl, Nat.le_of_lt hposition⟩

theorem headKey_mem {streams : List MergeSource} {stream : MergeSource} {event : ParsedEvent}
    {rest : List ParsedEvent} (hstream : stream ∈ streams) (hevents : stream.events = event :: rest) :
    ∃ index key, streamHeadKey stream index = some key ∧ key ∈ headKeys streams := by
  obtain ⟨before, after, rfl⟩ := List.append_of_mem hstream
  have hsome : ∃ key, streamHeadKey stream before.length = some key := by
    unfold streamHeadKey
    rw [hevents]
    exact ⟨_, rfl⟩
  obtain ⟨key, hkey⟩ := hsome
  refine ⟨before.length, key, hkey, ?_⟩
  rw [headKeys_split, hkey]
  exact List.mem_append_right _ List.mem_cons_self

/-- **The least key of the heap is that of the least event that is left.** -/
theorem sortKeyOf_least {streams : List MergeSource} {stream : MergeSource} {event : ParsedEvent}
    {rest : List ParsedEvent} {index : ℕ} {key : HeapKey}
    (hsources : ∀ source ∈ streams, PositionsIncrease source.events ∧ SortedByTime source.events)
    (hevents : stream.events = event :: rest) (hkey : streamHeadKey stream index = some key)
    (hleast : ∀ other ∈ headKeys streams, key ≤ other) :
    ∀ source ∈ streams, ∀ other ∈ source.events,
      sortKeyOf stream.writerPid event ≤ sortKeyOf source.writerPid other := by
  intro source hsource other hother
  obtain ⟨first, others, hfirst⟩ := List.exists_cons_of_ne_nil (List.ne_nil_of_mem hother)
  obtain ⟨index', key', hkey', hmem⟩ := headKey_mem hsource hfirst
  obtain ⟨hpositions, hsorted⟩ := hsources source hsource
  calc sortKeyOf stream.writerPid event
      ≤ sortKeyOf source.writerPid first :=
        sortKeyOf_le_of_key_le hevents hfirst hkey hkey' (hleast key' hmem)
    _ ≤ sortKeyOf source.writerPid other :=
        sortKeyOf_head_le source.writerPid hfirst hpositions hsorted hother

/-! ## The result -/

theorem mergeSegments_interleave (sources : List MergeSource) :
    Interleave (sources.map MergeSource.items) (mergeSegments sources) :=
  mergeLoop_interleave sources _ (List.Perm.refl _)

theorem inOrder_tail {before after : List MergeSource} {stream : MergeSource} {event : ParsedEvent}
    {rest : List ParsedEvent} (hevents : stream.events = event :: rest)
    (hsources : ∀ source ∈ before ++ stream :: after,
      PositionsIncrease source.events ∧ SortedByTime source.events) :
    ∀ source ∈ before ++ { stream with events := rest } :: after,
      PositionsIncrease source.events ∧ SortedByTime source.events := by
  intro source hsource
  rcases List.mem_append.mp hsource with hbefore | hsource
  · exact hsources source (List.mem_append_left _ hbefore)
  · rcases List.mem_cons.mp hsource with rfl | hafter
    · obtain ⟨hpositions, hsorted⟩ :=
        hsources stream (List.mem_append_right _ List.mem_cons_self)
      rw [hevents] at hpositions hsorted
      exact ⟨(List.pairwise_cons.mp hpositions).2, (List.pairwise_cons.mp hsorted).2⟩
    · exact hsources source (List.mem_append_right _ (List.mem_cons_of_mem _ hafter))

theorem mergeLoop_sorted (streams : List MergeSource) (heap : List HeapKey)
    (hheap : heap.Perm (headKeys streams))
    (hsources : ∀ source ∈ streams,
      PositionsIncrease source.events ∧ SortedByTime source.events) :
    (mergeLoop streams heap).Pairwise (fun earlier later => earlier.sortKey ≤ later.sortKey) := by
  revert hsources
  refine mergeLoop_rule (motive := fun streams merged =>
    (∀ source ∈ streams, PositionsIncrease source.events ∧ SortedByTime source.events) →
    merged.Pairwise (fun earlier later => earlier.sortKey ≤ later.sortKey))
    ?_ ?_ streams heap hheap
  · intro streams _ _
    exact List.Pairwise.nil
  · intro before after stream event rest key others hevents hkey hleast hothers ih hsources
    refine List.pairwise_cons.mpr ⟨?_, ih (inOrder_tail hevents hsources)⟩
    intro item hitem
    -- what comes later was left in one of the segments, and the least key was taken
    have hleft := (mergeLoop_interleave _ _ hothers).perm.mem_iff.mp hitem
    obtain ⟨items, hitems, hmem⟩ := List.mem_flatten.mp hleft
    obtain ⟨source, hsource, rfl⟩ := List.mem_map.mp hitems
    obtain ⟨other, hother, rfl⟩ := List.mem_map.mp hmem
    obtain ⟨source', hsource', hpid, hother'⟩ : ∃ source' ∈ before ++ stream :: after,
        source'.writerPid = source.writerPid ∧ other ∈ source'.events := by
      rcases List.mem_append.mp hsource with hbefore | hsource
      · exact ⟨source, List.mem_append_left _ hbefore, rfl, hother⟩
      · rcases List.mem_cons.mp hsource with rfl | hafter
        · refine ⟨stream, List.mem_append_right _ List.mem_cons_self, rfl, ?_⟩
          rw [hevents]
          exact List.mem_cons_of_mem _ hother
        · exact ⟨source, List.mem_append_right _ (List.mem_cons_of_mem _ hafter), rfl, hother⟩
    have hle := sortKeyOf_least hsources hevents hkey hleast source' hsource' other hother'
    rw [hpid] at hle
    exact hle

variable [JsonText]

/-- **A segment is read in the order of its lines.** -/
theorem positionsIncrease_of_read {content : Except String (List UInt8)}
    {events : List ParsedEvent} {stats : SegmentReadStats}
    (hread : readSegmentEvents content = .ok (events, stats)) : PositionsIncrease events := by
  cases content with
  | error err => cases hread
  | ok bytes =>
    obtain ⟨stats', hread', -⟩ := readSegmentEvents_spec bytes
    obtain ⟨rfl, -⟩ := Prod.mk.inj (Except.ok.inj (hread'.symm.trans hread))
    unfold PositionsIncrease grammarEvents eventsFrom
    rw [List.pairwise_filterMap]
    have hnumbers : ((terminatedLines bytes).zipIdx 1).Pairwise
        (fun earlier later => earlier.2 < later.2) := by
      rw [← List.pairwise_map, List.zipIdx_map_snd]
      exact List.pairwise_lt_range'
    refine hnumbers.imp ?_
    intro earlier later hlt first hfirst second hsecond
    obtain ⟨value, -, rfl⟩ := Option.map_eq_some_iff.mp hfirst
    obtain ⟨value', -, rfl⟩ := Option.map_eq_some_iff.mp hsecond
    exact hlt

/-- **The merge loses nothing and reorders nothing.** For all segments the result is a permutation
of their events, and an interleaving of them, in which the events of each segment keep their order.
Where the segments are sorted by time, and their positions grow, it is sorted by time, process and
position; and the positions of a segment that is read do grow. -/
theorem mergeSegments_correct :
    (∀ sources, (mergeSegments sources).Perm (sources.flatMap MergeSource.items)
      ∧ Interleave (sources.map MergeSource.items) (mergeSegments sources))
    ∧ (∀ sources, (∀ source ∈ sources, PositionsIncrease source.events) →
      (∀ source ∈ sources, SortedByTime source.events) →
      (mergeSegments sources).Pairwise (fun earlier later => earlier.sortKey ≤ later.sortKey))
    ∧ ∀ content events stats, readSegmentEvents content = .ok (events, stats) →
      PositionsIncrease events := by
  refine ⟨fun sources => ?_, fun sources hpositions hsorted => ?_, fun _ _ _ hread =>
    positionsIncrease_of_read hread⟩
  · have hinterleave := mergeSegments_interleave sources
    refine ⟨?_, hinterleave⟩
    rw [List.flatMap_def]
    exact hinterleave.perm
  · exact mergeLoop_sorted sources _ (List.Perm.refl _)
      (fun source hsource => ⟨hpositions source hsource, hsorted source hsource⟩)

/-- An event of this time on this line. -/
def sampleParsedEvent (tsMs position : ℕ) : ParsedEvent := ⟨.obj [], tsMs, position⟩

/-- Two segments with events of one time, and a third without any. -/
def sampleSources : List MergeSource :=
  [⟨[sampleParsedEvent 5 1, sampleParsedEvent 7 2], 20, "b"⟩, ⟨[], 30, "c"⟩,
    ⟨[sampleParsedEvent 5 1, sampleParsedEvent 5 3, sampleParsedEvent 9 4], 10, "a"⟩]

omit [JsonText] in
theorem mergeSegments_correct_sample :
    (mergeSegments sampleSources).Pairwise
      (fun earlier later => earlier.sortKey ≤ later.sortKey) := by
  let _ : JsonText := ⟨fun _ => none⟩
  refine mergeSegments_correct.2.1 sampleSources ?_ ?_
  · intro source hsource
    simp only [sampleSources, List.mem_cons, List.not_mem_nil, or_false] at hsource
    rcases hsource with rfl | rfl | rfl <;> simp [PositionsIncrease, sampleParsedEvent]
  · intro source hsource
    simp only [sampleSources, List.mem_cons, List.not_mem_nil, or_false] at hsource
    rcases hsource with rfl | rfl | rfl <;> simp [SortedByTime, sampleParsedEvent]

end AgentDesktop
