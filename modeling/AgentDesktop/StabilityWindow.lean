import Mathlib.Data.List.Chain
import Mathlib.Tactic.Ring
import Mathlib.Tactic.Linarith
import AgentDesktop.Preflight

/-!
# What it means that a target is at rest

Before a target is acted on, its bounds are sampled until they have been at rest for
a while. The sampler keeps the last bounds, how many samples agree, and since when
they do. A sample that is missing, or that does not match the one before it, begins
anew.

So the samples that agree are the longest run at the end in which each matches the
one before it (`restWindow_run`). A sample is never compared with the first of them:
what is known of two samples is that they differ by no more than the tolerance for
each step between them (`isStable_window`), and a target that drifts by less than
the tolerance from sample to sample is reported at rest.
-/

namespace AgentDesktop

/-- Whether two rectangles differ by at most this much in each number. -/
def matchesWithin (tolerance : ℚ) (left right : Rect) : Bool :=
  let near : F64 → F64 → Bool := F64.both (fun left right => |left - right| ≤ tolerance)
  near left.x right.x && near left.y right.y && near left.width right.width
    && near left.height right.height

namespace StabilitySampler

/-- A sample: the bounds, where there are any, and when they were read. -/
abbrev Sample : Type := Option Rect × ℕ

/-- The sampler after a list of samples. -/
def run (samples : List Sample) : StabilitySampler :=
  samples.foldl (fun sampler sample => sampler.sample sample.1 sample.2) .new

theorem run_concat (samples : List Sample) (bounds : Option Rect) (elapsed : ℕ) :
    run (samples ++ [(bounds, elapsed)]) = (run samples).sample bounds elapsed := by
  unfold run
  rw [List.foldl_concat]

/-- A sample with bounds. -/
def seen (sample : Rect × ℕ) : Sample := (some sample.1, sample.2)

/-- A sample matches the one before it. -/
def Follows (earlier : Sample) (later : Rect × ℕ) : Prop :=
  ∃ bounds, earlier.1 = some bounds ∧ Gates.geometryMatches bounds later.1 = true

/-- **The samples at rest**: the last samples, each of which matches the one before it, and the first
of which does not. -/
structure RestWindow (samples : List Sample) (window : List (Rect × ℕ)) : Prop where
  /-- They are the last samples, and the one before them is not matched. -/
  last : ∃ before, samples = before ++ window.map seen
    ∧ ∀ earlier ∈ before.getLast?, ∀ first ∈ window.head?, ¬ Follows earlier first
  /-- Each matches the one before it. -/
  near : window.IsChain (fun earlier later => Gates.geometryMatches earlier.1 later.1 = true)

/-- **What the sampler keeps of the samples at rest**: how many they are, when the first was read, and
what the last one was. -/
structure Keeps (sampler : StabilitySampler) (window : List (Rect × ℕ)) : Prop where
  /-- The last bounds. -/
  previous : sampler.previous = window.getLast?.map Prod.fst
  /-- How many agree. -/
  consecutive : sampler.consecutive = window.length
  /-- Since when. -/
  stableSince : ∀ first ∈ window.head?, sampler.stableSince = first.2

/-! ## One sample -/

theorem restWindow_missing (samples : List Sample) (elapsed : ℕ) :
    RestWindow (samples ++ [(none, elapsed)]) [] := by
  refine ⟨⟨samples ++ [(none, elapsed)], (List.append_nil _).symm, ?_⟩, List.isChain_nil⟩
  intro earlier _ first hfirst
  cases hfirst

theorem RestWindow.extend {samples : List Sample} {window : List (Rect × ℕ)}
    (hrest : RestWindow samples window) {previous : Rect × ℕ}
    (hprevious : window.getLast? = some previous) {bounds : Rect}
    (hnear : Gates.geometryMatches previous.1 bounds = true) (elapsed : ℕ) :
    RestWindow (samples ++ [(some bounds, elapsed)]) (window ++ [(bounds, elapsed)]) := by
  obtain ⟨⟨before, hsamples, hfirst⟩, hchain⟩ := hrest
  have hne : window ≠ [] := by
    rintro rfl
    cases hprevious
  refine ⟨⟨before, ?_, ?_⟩, ?_⟩
  · rw [hsamples, List.map_append, List.append_assoc]
    rfl
  · intro earlier hearlier first hmem
    rw [List.head?_append_of_ne_nil _ hne] at hmem
    exact hfirst earlier hearlier first hmem
  · refine hchain.append (List.isChain_singleton _) ?_
    intro last hlast next hnext
    obtain rfl : last = previous := Option.some.inj ((Option.mem_def.mp hlast).symm.trans hprevious)
    obtain rfl : (bounds, elapsed) = next := Option.some.inj hnext
    exact hnear

theorem restWindow_single {samples : List Sample} {window : List (Rect × ℕ)}
    (hrest : RestWindow samples window) {bounds : Rect}
    (hfar : ∀ previous ∈ window.getLast?, ¬ Gates.geometryMatches previous.1 bounds = true)
    (hmissing : window = [] → ∀ earlier ∈ samples.getLast?, earlier.1 = none) (elapsed : ℕ) :
    RestWindow (samples ++ [(some bounds, elapsed)]) [(bounds, elapsed)] := by
  refine ⟨⟨samples, rfl, ?_⟩, List.isChain_singleton _⟩
  rintro earlier hearlier first hfirst ⟨seenBounds, hseen, hnear⟩
  obtain rfl : (bounds, elapsed) = first := Option.some.inj hfirst
  obtain ⟨before, hsamples, -⟩ := hrest.last
  cases hwindow : window.getLast? with
  | none =>
    rw [hmissing (List.getLast?_eq_none_iff.mp hwindow) earlier hearlier] at hseen
    cases hseen
  | some previous =>
    have hlast : samples.getLast? = some (seen previous) := by
      rw [hsamples, List.getLast?_append, List.getLast?_map, hwindow]
      rfl
    obtain rfl : seen previous = earlier := Option.some.inj (hlast.symm.trans hearlier)
    obtain rfl : previous.1 = seenBounds := Option.some.inj hseen
    exact hfar previous hwindow hnear

/-! ## A run of samples -/

/-- **The sampler keeps the samples at rest**, after every list of samples; none are at rest only
after a sample that is missing. -/
theorem restWindow_run (samples : List Sample) :
    ∃ window, RestWindow samples window ∧ Keeps (run samples) window
      ∧ (window = [] → ∀ earlier ∈ samples.getLast?, earlier.1 = none) := by
  induction samples using List.reverseRecOn with
  | nil =>
    refine ⟨[], ⟨⟨[], rfl, ?_⟩, List.isChain_nil⟩, ⟨rfl, rfl, ?_⟩, ?_⟩
    · intro earlier hearlier
      cases hearlier
    · intro first hfirst
      cases hfirst
    · intro _ earlier hearlier
      cases hearlier
  | append_singleton samples sample ih =>
    obtain ⟨window, hrest, hkeeps, hmissing⟩ := ih
    obtain ⟨bounds, elapsed⟩ := sample
    rw [run_concat]
    cases bounds with
    | none =>
      refine ⟨[], restWindow_missing samples elapsed, ⟨rfl, rfl, ?_⟩, ?_⟩
      · intro first hfirst
        cases hfirst
      · intro _ earlier hearlier
        rw [List.getLast?_concat] at hearlier
        rw [← Option.some.inj hearlier]
    | some bounds =>
      show ∃ window, _ ∧ Keeps (if (run samples).previous.any
        (fun previous => Gates.geometryMatches previous bounds) then _ else _) window ∧ _
      rw [hkeeps.previous, Option.any_map]
      by_cases hnear : window.getLast?.any
          (fun previous => Gates.geometryMatches previous.1 bounds) = true
      · -- the sample agrees with the last one
        obtain ⟨previous, hprevious, hmatch⟩ := (Option.any_eq_true _ _).mp hnear
        have hne : window ≠ [] := by
          rintro rfl
          cases hprevious
        rw [if_pos hnear]
        refine ⟨window ++ [(bounds, elapsed)], hrest.extend hprevious hmatch elapsed,
          ⟨?_, ?_, ?_⟩, fun h => absurd h (by simp)⟩
        · show some bounds = _
          rw [List.getLast?_concat]
          rfl
        · show (run samples).consecutive + 1 = _
          rw [hkeeps.consecutive, List.length_append]
          rfl
        · intro first hfirst
          rw [List.head?_append_of_ne_nil _ hne] at hfirst
          exact hkeeps.stableSince first hfirst
      · rw [if_neg hnear]
        have hfar : ∀ previous ∈ window.getLast?,
            ¬ Gates.geometryMatches previous.1 bounds = true := by
          intro previous hprevious hmatch
          exact hnear ((Option.any_eq_true _ _).mpr ⟨previous, hprevious, hmatch⟩)
        refine ⟨[(bounds, elapsed)], restWindow_single hrest hfar hmissing elapsed,
          ⟨rfl, rfl, ?_⟩, fun h => absurd h (by simp)⟩
        intro first hfirst
        rw [← Option.some.inj hfirst]

/-! ## How far two samples are apart -/

theorem both_within_trans {tolerance tolerance' : ℚ} {left middle right : F64}
    (h : F64.both (fun left right => |left - right| ≤ tolerance) left middle = true)
    (h' : F64.both (fun left right => |left - right| ≤ tolerance') middle right = true) :
    F64.both (fun left right => |left - right| ≤ tolerance + tolerance') left right = true := by
  cases left with
  | notFinite => cases h
  | finite left =>
    cases middle with
    | notFinite => cases h
    | finite middle =>
      cases right with
      | notFinite => cases h'
      | finite right =>
        have hleft : |left - middle| ≤ tolerance := of_decide_eq_true h
        have hright : |middle - right| ≤ tolerance' := of_decide_eq_true h'
        refine decide_eq_true ?_
        calc |left - right| ≤ |left - middle| + |middle - right| := abs_sub_le left middle right
          _ ≤ tolerance + tolerance' := add_le_add hleft hright

theorem matchesWithin_trans {tolerance tolerance' : ℚ} {left middle right : Rect}
    (h : matchesWithin tolerance left middle = true)
    (h' : matchesWithin tolerance' middle right = true) :
    matchesWithin (tolerance + tolerance') left right = true := by
  unfold matchesWithin at h h' ⊢
  simp only [Bool.and_eq_true] at h h' ⊢
  obtain ⟨⟨⟨hx, hy⟩, hwidth⟩, hheight⟩ := h
  obtain ⟨⟨⟨hx', hy'⟩, hwidth'⟩, hheight'⟩ := h'
  exact ⟨⟨⟨both_within_trans hx hx', both_within_trans hy hy'⟩,
    both_within_trans hwidth hwidth'⟩, both_within_trans hheight hheight'⟩

/-- **Two samples of a run differ by at most the tolerance for each step between them.** -/
theorem matchesWithin_of_chain {window : List (Rect × ℕ)}
    (hchain : window.IsChain
      (fun earlier later => Gates.geometryMatches earlier.1 later.1 = true))
    {position steps : ℕ} {earlier later : Rect × ℕ} (hearlier : window[position]? = some earlier)
    (hlater : window[position + (steps + 1)]? = some later) :
    matchesWithin ((steps + 1 : ℕ) * Gates.geometryTolerance) earlier.1 later.1 = true := by
  have hstep : ∀ index (sample next : Rect × ℕ), window[index]? = some sample →
      window[index + 1]? = some next →
      matchesWithin Gates.geometryTolerance sample.1 next.1 = true := by
    intro index sample next hsample hnext
    obtain ⟨hlt, hget⟩ := List.getElem?_eq_some_iff.mp hsample
    obtain ⟨hlt', hget'⟩ := List.getElem?_eq_some_iff.mp hnext
    rw [← hget, ← hget']
    exact List.isChain_iff_getElem.mp hchain index hlt'
  induction steps generalizing later with
  | zero =>
    rw [Nat.zero_add, Nat.cast_one, one_mul]
    exact hstep position earlier later hearlier hlater
  | succ steps ih =>
    have hlt : position + (steps + 1) < window.length := by
      have := (List.getElem?_eq_some_iff.mp hlater).1
      omega
    have hmiddle : window[position + (steps + 1)]? = some (window[position + (steps + 1)]) :=
      List.getElem?_eq_getElem hlt
    have hsum := matchesWithin_trans (ih hmiddle)
      (hstep (position + (steps + 1)) _ later hmiddle hlater)
    have htolerance : ((steps + 1 : ℕ) : ℚ) * Gates.geometryTolerance + Gates.geometryTolerance
        = ((steps + 1 + 1 : ℕ) : ℚ) * Gates.geometryTolerance := by
      push_cast
      ring
    rwa [htolerance] at hsum

/-- **When a target is reported at rest** after a sample, the samples at rest are three or more, they
all have bounds and span the time that is asked for, each matches the one before it, and any two of
them differ by at most the tolerance for each step between them. -/
theorem isStable_window (samples : List Sample) (bounds : Option Rect) (elapsed : ℕ)
    (hstable : (run (samples ++ [(bounds, elapsed)])).isStable elapsed = true) :
    ∃ window, RestWindow (samples ++ [(bounds, elapsed)]) window
      ∧ 3 ≤ window.length
      ∧ (∃ first ∈ window.head?, minStabilitySpan ≤ elapsed - first.2)
      ∧ ∀ position steps earlier later, window[position]? = some earlier →
        window[position + (steps + 1)]? = some later →
        matchesWithin ((steps + 1 : ℕ) * Gates.geometryTolerance) earlier.1 later.1 = true := by
  obtain ⟨window, hrest, hkeeps, -⟩ := restWindow_run (samples ++ [(bounds, elapsed)])
  unfold isStable at hstable
  simp only [Bool.and_eq_true, decide_eq_true_eq] at hstable
  obtain ⟨⟨-, hcount⟩, hspan⟩ := hstable
  rw [hkeeps.consecutive] at hcount
  refine ⟨window, hrest, hcount, ?_, fun position steps earlier later hearlier hlater =>
    matchesWithin_of_chain hrest.near hearlier hlater⟩
  obtain ⟨first, others, hwindow⟩ := List.exists_cons_of_length_pos
    (Nat.lt_of_lt_of_le (by decide) hcount)
  have hfirst : first ∈ window.head? := by
    rw [hwindow]
    rfl
  rw [hkeeps.stableSince first hfirst] at hspan
  exact ⟨first, hfirst, hspan⟩

/-- A rectangle that is moved to the right. -/
def sampleDriftRect (x : ℚ) : Rect := ⟨.finite x, .finite 0, .finite 100, .finite 20⟩

/-- A target that drifts by half a point from sample to sample. -/
def sampleDrift : List Sample :=
  [(some (sampleDriftRect 0), 0), (some (sampleDriftRect (1 / 2)), 17 * nanosPerMs)]

theorem isStable_window_sample :
    ∃ window, RestWindow (sampleDrift ++ [(some (sampleDriftRect 1), 34 * nanosPerMs)]) window
      ∧ 3 ≤ window.length
      ∧ (∃ first ∈ window.head?, minStabilitySpan ≤ 34 * nanosPerMs - first.2)
      ∧ ∀ position steps earlier later, window[position]? = some earlier →
        window[position + (steps + 1)]? = some later →
        matchesWithin ((steps + 1 : ℕ) * Gates.geometryTolerance) earlier.1 later.1 = true :=
  isStable_window sampleDrift (some (sampleDriftRect 1)) (34 * nanosPerMs) (by decide +kernel)

/-- **A slow drift is reported at rest**: the first and the last sample of the three are a whole point
apart. -/
theorem isStable_of_drift :
    ¬ ∀ (samples : List Sample) (bounds : Option Rect) (elapsed : ℕ),
      (run (samples ++ [(bounds, elapsed)])).isStable elapsed = true →
      ∃ window, RestWindow (samples ++ [(bounds, elapsed)]) window ∧ 3 ≤ window.length
        ∧ (∃ first ∈ window.head?, minStabilitySpan ≤ elapsed - first.2)
        ∧ ∀ earlier ∈ window, ∀ later ∈ window,
          Gates.geometryMatches earlier.1 later.1 = true := by
  intro hclaim
  obtain ⟨window, hrest, hcount, -, hpairs⟩ := hclaim sampleDrift (some (sampleDriftRect 1))
    (34 * nanosPerMs) (by decide +kernel)
  obtain ⟨before, hsamples, -⟩ := hrest.last
  -- three samples at rest are all there are
  have hlength := congrArg List.length hsamples
  have hbefore : before = [] := by
    rw [← List.length_eq_zero_iff]
    have hthree : 3 = (before ++ window.map seen).length := hlength
    rw [List.length_append, List.length_map] at hthree
    omega
  rw [hbefore, List.nil_append] at hsamples
  have hmem : ∀ bounds elapsed, (some bounds, elapsed) ∈ window.map seen →
      (bounds, elapsed) ∈ window := by
    intro bounds elapsed hmap
    obtain ⟨sample, hsample, heq⟩ := List.mem_map.mp hmap
    obtain ⟨hfst, rfl⟩ := Prod.mk.inj heq
    obtain rfl := Option.some.inj hfst
    exact hsample
  rw [← hsamples] at hmem
  have hfar := hpairs _ (hmem (sampleDriftRect 0) 0 (by simp [sampleDrift]))
    _ (hmem (sampleDriftRect 1) (34 * nanosPerMs) (by simp [sampleDrift]))
  revert hfar
  decide +kernel

end StabilitySampler

end AgentDesktop
