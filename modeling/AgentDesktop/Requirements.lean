import AgentDesktop.Evidence
import AgentDesktop.LocatorQuery

/-!
# What a query has to read

The evidence of a node is read field by field, and only the fields that are
asked for. What a locator query asks for is computed from the query alone,
before anything is read: a field is required as soon as one clause of the
query looks at it.
-/

namespace AgentDesktop

/-- `RefEvidenceRequirements`. -/
structure RefEvidenceRequirements where
  /-- Whether the bounds are read. -/
  bounds : Bool
  /-- Whether the actions are read. -/
  actions : Bool
  deriving DecidableEq

/-- `EvidenceRequirements`: what is read of a node. -/
structure EvidenceRequirements where
  /-- Whether the role is read. -/
  role : Bool
  /-- Whether the name is read. -/
  name : Bool
  /-- Whether the description is read. -/
  description : Bool
  /-- Whether the value is read. -/
  value : Bool
  /-- Whether the identifiers are read. -/
  identifiers : Bool
  /-- Whether the states are read. -/
  states : Bool
  /-- What is read for a ref. -/
  refEvidence : RefEvidenceRequirements
  deriving DecidableEq

/-- **The part of the evidence that is asked for**; the rest is unknown. -/
def LocatorEvidence.requested (evidence : LocatorEvidence)
    (requirements : EvidenceRequirements) : LocatorEvidence where
  role := if requirements.role then evidence.role else .unknown
  name := if requirements.name then evidence.name else .unknown
  description := if requirements.description then evidence.description else .unknown
  value := if requirements.value then evidence.value else .unknown
  identifiers :=
    if requirements.identifiers then evidence.identifiers
    else { IdentifierEvidence.unknown with retainedObject := evidence.identifiers.retainedObject }
  states := if requirements.states then evidence.states else .unknown
  refEvidence :=
    { bounds := if requirements.refEvidence.bounds then evidence.refEvidence.bounds else .unknown
      availableActions :=
        if requirements.refEvidence.actions then evidence.refEvidence.availableActions
        else .unknown }

/-- `LocatorEvidence::satisfies`. -/
def LocatorEvidence.satisfies (evidence : LocatorEvidence)
    (requirements : EvidenceRequirements) : Bool :=
  (!requirements.role || !evidence.role.isUnknown)
    && (!requirements.name || !evidence.name.isUnknown)
    && (!requirements.description || !evidence.description.isUnknown)
    && (!requirements.value || !evidence.value.isUnknown)
    && (!requirements.identifiers || evidence.identifiers.complete)
    && (!requirements.states || !evidence.states.isUnknown)
    && (!requirements.refEvidence.bounds || !evidence.refEvidence.bounds.isUnknown)
    && (!requirements.refEvidence.actions || !evidence.refEvidence.availableActions.isUnknown)

namespace EvidenceRequirements

/-- `RefEvidenceRequirements::union`. -/
def unionRef (self other : RefEvidenceRequirements) : RefEvidenceRequirements where
  bounds := self.bounds || other.bounds
  actions := self.actions || other.actions

/-- `union`. -/
def union (self other : EvidenceRequirements) : EvidenceRequirements where
  role := self.role || other.role
  name := self.name || other.name
  description := self.description || other.description
  value := self.value || other.value
  identifiers := self.identifiers || other.identifiers
  states := self.states || other.states
  refEvidence := unionRef self.refEvidence other.refEvidence

/-- `covers`. -/
def covers (self other : EvidenceRequirements) : Bool := self.union other == self

/-- `EvidenceRequirements::snapshot`. -/
def snapshot : EvidenceRequirements := ⟨true, true, true, true, true, true, ⟨true, true⟩⟩

/-- What `EvidenceRequirements::query` asks for on account of a query itself. -/
def ofClause (identity : IdentityPredicate) (hasText : Option String)
    (states : List StatePredicate) : EvidenceRequirements where
  role := true
  name := identity.name.isSome || hasText.isSome
  description := identity.description.isSome || hasText.isSome
  value := identity.value.isSome || hasText.isSome
  identifiers := identity.nativeId.isSome
  states := !states.isEmpty
  refEvidence := ⟨false, false⟩

mutual

/-- `EvidenceRequirements::query`. -/
def query : LocatorQuery → EvidenceRequirements
  | ⟨identity, hasText, _, states, has, hasNot⟩ =>
    withNested (withNested (ofClause identity hasText states) has) hasNot

/-- The loop of `EvidenceRequirements::query` over a nested query, if there is one. -/
def withNested (requirements : EvidenceRequirements) :
    Option LocatorQuery → EvidenceRequirements
  | none => requirements
  | some nested => requirements.union (query nested)

end

/-! ## What the normalization of a query requires -/

section

variable [UnicodeLowercase]

theorem ofClause_normalizeIdentity (identity : IdentityPredicate) (hasText : Option String)
    (states : List StatePredicate) :
    ofClause (LocatorQuery.normalizeIdentity identity) (hasText.map SearchText.normalize) states
      = ofClause identity hasText states := by
  simp only [ofClause, LocatorQuery.normalizeIdentity, Option.isSome_map]

mutual

theorem query_normalizeQuery (q : LocatorQuery) : query q.normalizeQuery = query q := by
  obtain ⟨identity, hasText, exact', states, has, hasNot⟩ := q
  rw [LocatorQuery.normalizeQuery, query, query, ofClause_normalizeIdentity,
    withNested_normalizeNested, withNested_normalizeNested]

theorem withNested_normalizeNested (requirements : EvidenceRequirements)
    (nested : Option LocatorQuery) :
    withNested requirements (LocatorQuery.normalizeNested nested)
      = withNested requirements nested := by
  cases nested with
  | none => rfl
  | some q => rw [LocatorQuery.normalizeNested, withNested, withNested, query_normalizeQuery]

end

end

end EvidenceRequirements

end AgentDesktop
