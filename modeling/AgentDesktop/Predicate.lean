import AgentDesktop.Evidence
import AgentDesktop.LocatorQuery
import AgentDesktop.MatchVerdict

/-!
# What one element's evidence says of a query

The verdicts of a query's own predicates – role, texts, identifier, states –
on the evidence of one element. Each is steady: fuller evidence settles an
unknown verdict and leaves the others alone.
-/

namespace AgentDesktop

/-- `LocatorIdentifierStats`, the counts the evaluation moves. -/
structure LocatorIdentifierStats where
  /-- Matches on the preferred identifier. -/
  preferredMatches : ℕ
  /-- Matches on another identifier. -/
  fallbackMatches : ℕ
  deriving DecidableEq

/-- Which identifier a query matched on. -/
inductive IdentifierMatch
  | preferred | fallback
  deriving DecidableEq

variable [UnicodeLowercase]

/-- `role_verdict`. -/
def roleVerdict (expected : Option String) (actual : LocatorField String) : MatchVerdict :=
  match expected with
  | none => .matched
  | some expected =>
    match actual with
    | .known actual => .ofBool (actual == expected)
    | .absent => .noMatch
    | .unknown => .unknown

/-- `text_matches`: whole when the query is exact, else by containment. -/
def textMatches (actual expected : String) (exact : Bool) : Bool :=
  if exact then SearchText.normalize actual == expected
  else SearchText.contains actual expected

/-- `text_verdict`. -/
def textVerdict (expected : Option String) (actual : LocatorField String) (exact : Bool) :
    MatchVerdict :=
  match expected with
  | none => .matched
  | some expected =>
    match actual with
    | .known actual => .ofBool (textMatches actual expected exact)
    | .absent => .noMatch
    | .unknown => .unknown

/-- `identifier_verdict`. -/
def identifierVerdict (expected : Option String) (evidence : LocatorEvidence) :
    MatchVerdict × Option IdentifierMatch :=
  match expected with
  | none => (.matched, none)
  | some expected =>
    if evidence.identifiers.preferredValue = some expected then
      (.matched, some .preferred)
    else if evidence.identifiers.identifiers.any (fun actual => actual.value == expected) then
      (.matched, some .fallback)
    else (if !evidence.identifiers.complete then .unknown else .noMatch, none)

/-- `states_verdict`. -/
def statesVerdict (query : LocatorQuery) (evidence : LocatorEvidence) : MatchVerdict :=
  if query.states.isEmpty then .matched
  else
    match evidence.states with
    | .known states => .ofBool (query.states.all (fun predicate =>
        State.hasState states predicate.token == predicate.expected.getD true))
    | .absent => .ofBool (query.states.all (fun predicate => predicate.expected == some false))
    | .unknown => .unknown

/-- The predicates `self_verdict` looks at first. -/
def screenVerdict (query : LocatorQuery) (evidence : LocatorEvidence) : MatchVerdict :=
  ((roleVerdict query.identity.role evidence.role).and
    (identifierVerdict query.identity.nativeId evidence).1).and (statesVerdict query evidence)

/-- The texts `self_verdict` looks at next. -/
def textsVerdict (query : LocatorQuery) (evidence : LocatorEvidence)
    (screen : MatchVerdict) : MatchVerdict :=
  ((screen.and (textVerdict query.identity.name evidence.name query.exact)).and
    (textVerdict query.identity.description evidence.description query.exact)).and
    (textVerdict query.identity.value evidence.value query.exact)

/-- The count a match on an identifier moves. -/
def LocatorIdentifierStats.countMatch (stats : LocatorIdentifierStats) :
    Option IdentifierMatch → LocatorIdentifierStats
  | some .preferred => { stats with preferredMatches := stats.preferredMatches + 1 }
  | some .fallback => { stats with fallbackMatches := stats.fallbackMatches + 1 }
  | none => stats

/-- `self_verdict`. -/
def selfVerdict (query : LocatorQuery) (evidence : LocatorEvidence)
    (stats : LocatorIdentifierStats) : MatchVerdict × LocatorIdentifierStats :=
  let identifierMatch := (identifierVerdict query.identity.nativeId evidence).2
  let screen := screenVerdict query evidence
  if screen = .noMatch then (screen, stats)
  else
    let verdict := textsVerdict query evidence screen
    (verdict, if verdict = .matched then stats.countMatch identifierMatch else stats)

/-- The loop of `self_text_verdict` over the fields still to look at. -/
def selfTextLoop (expected : String) (exact : Bool) (verdict : MatchVerdict) :
    List (LocatorField String) → MatchVerdict
  | [] => verdict
  | field :: rest =>
    let verdict := verdict.or (textVerdict (some expected) field exact)
    if verdict = .matched then verdict else selfTextLoop expected exact verdict rest

/-- `self_text_verdict`. -/
def selfTextVerdict (expected : Option String) (evidence : LocatorEvidence)
    (exact : Bool) : MatchVerdict :=
  match expected with
  | none => .matched
  | some expected =>
    selfTextLoop expected exact .noMatch
      [evidence.name, evidence.description, evidence.value]

/-! ## The early exits change nothing -/

/-- The verdict of `self_verdict` is the conjunction of all its predicates. -/
theorem selfVerdict_fst (query : LocatorQuery) (evidence : LocatorEvidence)
    (stats : LocatorIdentifierStats) :
    (selfVerdict query evidence stats).1
      = textsVerdict query evidence (screenVerdict query evidence) := by
  simp only [selfVerdict]
  split_ifs with h
  · rw [h]
    exact (MatchVerdict.and_eq_noMatch_iff.mpr (Or.inl (MatchVerdict.and_eq_noMatch_iff.mpr
      (Or.inl (MatchVerdict.and_eq_noMatch_iff.mpr (Or.inl rfl)))))).symm
  all_goals rfl

/-- The loop of `self_text_verdict` is the disjunction over its fields. -/
theorem selfTextLoop_eq_foldl (expected : String) (exact : Bool)
    (fields : List (LocatorField String)) (verdict : MatchVerdict) :
    selfTextLoop expected exact verdict fields
      = (fields.map (fun field => textVerdict (some expected) field exact)).foldl .or
          verdict := by
  induction fields generalizing verdict with
  | nil => rfl
  | cons field rest ih =>
    rw [selfTextLoop, List.map_cons, List.foldl_cons]
    split_ifs with h
    · rw [h]
      exact (MatchVerdict.foldl_or_eq_matched_iff.mpr (Or.inl rfl)).symm
    · exact ih _

/-! ## Steadiness -/

variable {evidence fuller : LocatorEvidence}

omit [UnicodeLowercase] in
theorem roleVerdict_steady (expected : Option String) : Steady (roleVerdict expected) := by
  cases expected with
  | none => exact fun _ _ _ => Informs.refl _
  | some expected => exact Steady.of_strict rfl

theorem textVerdict_steady (expected : Option String) (exact : Bool) :
    Steady (fun field => textVerdict expected field exact) := by
  cases expected with
  | none => exact fun _ _ _ => Informs.refl _
  | some expected => exact Steady.of_strict rfl

omit [UnicodeLowercase] in
/-- An identifier matches when one of the element's identifiers is the expected
one, preferred or not. -/
theorem identifierVerdict_eq_matched_iff {expected : String} :
    (identifierVerdict (some expected) evidence).1 = .matched
      ↔ ∃ id ∈ evidence.identifiers.identifiers, id.value = expected := by
  have hany : evidence.identifiers.identifiers.any (fun actual => actual.value == expected) = true
      ↔ ∃ id ∈ evidence.identifiers.identifiers, id.value = expected := by
    simp
  unfold identifierVerdict
  simp only
  split_ifs with hpref hmem hcomplete
  · -- the preferred identifier is one of them
    obtain ⟨id, hid, hvalue⟩ := Option.map_eq_some_iff.mp hpref
    simp only [true_iff]
    exact ⟨id, IdentifierEvidence.preferredIdentifier_mem hid, hvalue⟩
  · simpa using hany.mp hmem
  all_goals
    simp only [false_iff]
    exact fun h => hmem (hany.mpr h)

omit [UnicodeLowercase] in
theorem identifierVerdict_eq_noMatch_iff {expected : String} :
    (identifierVerdict (some expected) evidence).1 = .noMatch
      ↔ evidence.identifiers.complete = true
        ∧ ¬∃ id ∈ evidence.identifiers.identifiers, id.value = expected := by
  rw [← identifierVerdict_eq_matched_iff]
  unfold identifierVerdict
  simp only
  split_ifs with hpref hmem hcomplete <;> simp_all

omit [UnicodeLowercase] in
/-- **The identifier verdict is steady**: an incomplete set never says no
match. -/
theorem identifierVerdict_steady (expected : Option String)
    (h : evidence.identifiers.Refines fuller.identifiers) :
    Informs (identifierVerdict expected evidence).1
      (identifierVerdict expected fuller).1 := by
  cases expected with
  | none => exact Informs.refl _
  | some expected =>
    rw [MatchVerdict.informs_iff]
    constructor
    · rw [identifierVerdict_eq_matched_iff, identifierVerdict_eq_matched_iff]
      rintro ⟨id, hid, hvalue⟩
      exact ⟨id, h.keeps id hid, hvalue⟩
    · rw [identifierVerdict_eq_noMatch_iff, identifierVerdict_eq_noMatch_iff]
      rintro ⟨hcomplete, hnone⟩
      rw [h.settled hcomplete]
      exact ⟨hcomplete, hnone⟩

omit [UnicodeLowercase] in
theorem statesVerdict_steady (query : LocatorQuery)
    (h : Informs evidence.states fuller.states) :
    Informs (statesVerdict query evidence) (statesVerdict query fuller) := by
  unfold statesVerdict
  split_ifs with hempty
  · exact Informs.refl _
  · rcases h with h | h
    · rw [h]
      exact Informs.unknown _
    · rw [h]
      exact Informs.refl _

/-- **The verdict of a query's own predicates is steady.** -/
theorem selfVerdict_steady (query : LocatorQuery) (h : evidence.Refines fuller)
    (stats stats' : LocatorIdentifierStats) :
    Informs (selfVerdict query evidence stats).1 (selfVerdict query fuller stats').1 := by
  rw [selfVerdict_fst, selfVerdict_fst]
  have hscreen : Informs (screenVerdict query evidence) (screenVerdict query fuller) :=
    MatchVerdict.and_steady _ _ _ _
      (MatchVerdict.and_steady _ _ _ _ (roleVerdict_steady _ _ _ h.role)
        (identifierVerdict_steady _ h.identifiers))
      (statesVerdict_steady query h.states)
  have hname := textVerdict_steady query.identity.name query.exact _ _ h.name
  have hdescription :=
    textVerdict_steady query.identity.description query.exact _ _ h.description
  have hvalue := textVerdict_steady query.identity.value query.exact _ _ h.value
  exact MatchVerdict.and_steady _ _ _ _
    (MatchVerdict.and_steady _ _ _ _ (MatchVerdict.and_steady _ _ _ _ hscreen hname)
      hdescription) hvalue

theorem selfTextVerdict_steady (expected : Option String) (exact : Bool)
    (h : evidence.Refines fuller) :
    Informs (selfTextVerdict expected evidence exact)
      (selfTextVerdict expected fuller exact) := by
  cases expected with
  | none => exact Informs.refl _
  | some expected =>
    have hsteady := textVerdict_steady (some expected) exact
    show Informs (selfTextLoop _ _ _ _) (selfTextLoop _ _ _ _)
    rw [selfTextLoop_eq_foldl, selfTextLoop_eq_foldl]
    refine MatchVerdict.or_steady _ _ _ _ (MatchVerdict.or_steady _ _ _ _
      (MatchVerdict.or_steady _ _ _ _ (Informs.refl _) (hsteady _ _ h.name))
      (hsteady _ _ h.description)) (hsteady _ _ h.value)

end AgentDesktop
