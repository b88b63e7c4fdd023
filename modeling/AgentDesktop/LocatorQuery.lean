import AgentDesktop.Error
import AgentDesktop.Role
import AgentDesktop.State

/-!
# Locator queries

A query asks of an element its role, its texts, its identifier and its states,
and of the elements below it that one matches a nested query, or that none
does. Nested queries nest without bound, up to the limits the validation sets.
-/

namespace AgentDesktop

/-- `IdentityPredicate`. -/
structure IdentityPredicate where
  role : Option String
  name : Option String
  description : Option String
  /-- The native identifier. -/
  nativeId : Option String
  value : Option String
  deriving DecidableEq

/-- `StatePredicate`. -/
structure StatePredicate where
  token : String
  /-- Whether the state should be present; it should when nothing is said. -/
  expected : Option Bool
  deriving DecidableEq

/-- `LocatorQuery`; the two containment predicates stand directly in it. -/
structure LocatorQuery where
  /-- What the element itself is. -/
  identity : IdentityPredicate
  /-- A text that the element or one below it carries. -/
  hasText : Option String
  /-- Whether texts are compared whole. -/
  exact : Bool
  states : List StatePredicate
  /-- A query some element below matches. -/
  has : Option LocatorQuery
  /-- A query no element below matches. -/
  hasNot : Option LocatorQuery

namespace LocatorQuery

/-- **Induction over queries**: what holds of a query as soon as it holds of the
queries nested in it holds of all. -/
theorem induction {P : LocatorQuery → Prop}
    (step : ∀ query, (∀ nested, query.has = some nested → P nested) →
      (∀ nested, query.hasNot = some nested → P nested) → P query) :
    ∀ query, P query := by
  intro query
  refine LocatorQuery.rec (motive_1 := P) (motive_2 := fun q => ∀ nested, q = some nested → P nested)
    ?_ ?_ ?_ query
  · intro identity hasText exact states has hasNot ihHas ihHasNot
    exact step ⟨identity, hasText, exact, states, has, hasNot⟩ ihHas ihHasNot
  · intro nested h
    exact absurd h (by simp)
  · intro nested ih other h
    exact Option.some.inj h ▸ ih

/-! ## Validation -/

/-- `MAX_QUERY_CLAUSES`. -/
def maxQueryClauses : ℕ := 64

/-- `MAX_QUERY_FIELD_BYTES`. -/
def maxQueryFieldBytes : ℕ := 4096

/-- `MAX_QUERY_TOTAL_BYTES`. -/
def maxQueryTotalBytes : ℕ := 65536

/-- The error for a state token outside the vocabulary. -/
def unknownStateToken (token : String) : AdapterError :=
  (AdapterError.new .invalidArgs ("Unknown state token '" ++ token ++ "'")).withSuggestion
    ("Use one of: " ++ String.intercalate ", " State.vocabulary)

/-- The states of one clause are in the vocabulary. -/
def validateOwnStates (states : List StatePredicate) : Except AdapterError Unit :=
  states.forM (fun predicate =>
    if State.vocabulary.contains predicate.token then .ok ()
    else .error (unknownStateToken predicate.token))

mutual

/-- `validate_states`. -/
def validateStates : LocatorQuery → Except AdapterError Unit
  | ⟨_, _, _, states, has, hasNot⟩ => do
    validateOwnStates states
    validateNestedStates has
    validateNestedStates hasNot

/-- `validate_states` of a nested query, if there is one. -/
def validateNestedStates : Option LocatorQuery → Except AdapterError Unit
  | none => .ok ()
  | some nested => validateStates nested

end

/-- What `validate_clause` counts. -/
structure ClauseCounts where
  clauses : ℕ
  /-- The bytes of their texts. -/
  totalBytes : ℕ

/-- One text of a clause: its own limit, then the limit on all of them. -/
def validateField (totalBytes : ℕ) (value : String) : Except AdapterError ℕ :=
  if maxQueryFieldBytes < value.utf8ByteSize then
    .error (.new .invalidArgs
      ("Locator query field exceeds " ++ toString maxQueryFieldBytes ++ " bytes"))
  else
    let totalBytes := min (totalBytes + value.utf8ByteSize) usizeMax
    if maxQueryTotalBytes < totalBytes then
      .error (.new .invalidArgs
        ("Locator query exceeds " ++ toString maxQueryTotalBytes ++ " aggregate bytes"))
    else .ok totalBytes

/-- What `validate_clause` checks of one clause, before the nested ones. -/
def validateOwnClause (identity : IdentityPredicate) (hasText : Option String)
    (counts : ClauseCounts) : Except AdapterError ClauseCounts :=
  if maxQueryClauses < counts.clauses + 1 then
    .error (.new .invalidArgs
      ("LocatorQuery may contain at most " ++ toString maxQueryClauses ++ " recursive clauses"))
  else if identity.role.any (fun role => !Roles.isValidRoleQuery role) then
    .error (.new .invalidArgs ("Unknown role query '" ++ identity.role.getD "" ++ "'"))
  else do
    let totalBytes ← ([identity.role, identity.name, identity.description, identity.nativeId,
      identity.value, hasText].filterMap id).foldlM validateField counts.totalBytes
    return ⟨counts.clauses + 1, totalBytes⟩

mutual

/-- `validate_clause`. -/
def validateClause (counts : ClauseCounts) : LocatorQuery → Except AdapterError ClauseCounts
  | ⟨identity, hasText, _, _, has, hasNot⟩ => do
    let counts ← validateOwnClause identity hasText counts
    let counts ← validateNestedClause counts has
    validateNestedClause counts hasNot

/-- `validate_clause` of a nested query, if there is one. -/
def validateNestedClause (counts : ClauseCounts) :
    Option LocatorQuery → Except AdapterError ClauseCounts
  | none => .ok counts
  | some nested => validateClause counts nested

end

/-- `validate_query`. -/
def validateQuery (query : LocatorQuery) : Except AdapterError Unit := do
  query.validateStates
  let _ ← validateClause ⟨0, 0⟩ query

/-! ## Normalization -/

variable [UnicodeLowercase]

/-- The identity part of `normalize_query`. -/
def normalizeIdentity (identity : IdentityPredicate) : IdentityPredicate where
  role := identity.role.map Roles.normalizeRoleQuery
  name := identity.name.map SearchText.normalize
  description := identity.description.map SearchText.normalize
  nativeId := identity.nativeId
  value := identity.value.map SearchText.normalize

mutual

/-- `normalize_query`. -/
def normalizeQuery : LocatorQuery → LocatorQuery
  | ⟨identity, hasText, exact, states, has, hasNot⟩ =>
    ⟨normalizeIdentity identity, hasText.map SearchText.normalize, exact, states,
      normalizeNested has, normalizeNested hasNot⟩

/-- `normalize_query` of a nested query, if there is one. -/
def normalizeNested : Option LocatorQuery → Option LocatorQuery
  | none => none
  | some nested => some (normalizeQuery nested)

end

@[simp] theorem normalizeNested_eq_map (nested : Option LocatorQuery) :
    normalizeNested nested = nested.map normalizeQuery := by
  cases nested <;> rfl

/-! ### What the normalization leaves -/

section

variable (query : LocatorQuery)

@[simp] theorem normalizeQuery_identity :
    (normalizeQuery query).identity = normalizeIdentity query.identity := by
  cases query; rfl

@[simp] theorem normalizeQuery_hasText :
    (normalizeQuery query).hasText = query.hasText.map SearchText.normalize := by
  cases query; rfl

@[simp] theorem normalizeQuery_exact : (normalizeQuery query).exact = query.exact := by
  cases query; rfl

@[simp] theorem normalizeQuery_states : (normalizeQuery query).states = query.states := by
  cases query; rfl

@[simp] theorem normalizeQuery_has :
    (normalizeQuery query).has = query.has.map normalizeQuery := by
  cases query; exact normalizeNested_eq_map _

@[simp] theorem normalizeQuery_hasNot :
    (normalizeQuery query).hasNot = query.hasNot.map normalizeQuery := by
  cases query; exact normalizeNested_eq_map _

end

end LocatorQuery

end AgentDesktop
