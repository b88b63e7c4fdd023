import AgentDesktop.Evidence
import AgentDesktop.Number

/-!
# The identity of an element

A ref recorded what identified its element. Whether an element found later is
the same one is answered in three values: by the token of a retained object
where there is one, else by the native identifier, else by the texts that stay
the same while the element is used.
-/

namespace AgentDesktop

/-- `is_mutable_value_role`: using the control changes its value. -/
def Roles.isMutableValueRole (role : String) : Bool :=
  match Role.fromToken role with
  | .comboBox | .checkbox | .handle | .incrementor | .listBox | .radioButton | .scrollBar
  | .slider | .switch | .textField => true
  | _ => false

/-- `IdentityMatch`. -/
inductive IdentityMatch
  | matched | noMatch | unknown
  deriving DecidableEq

/-! ## Texts that identify -/

/-- `meaningful_text`: a text that is not blank. -/
def meaningfulText (value : Option String) : Option String :=
  value.filter (fun text => !isBlank text)

/-- `value_matches_name`. -/
def valueMatchesName (value : Option String) (name : String) : Bool :=
  value == some name
    || (match value.bind numericText, numericText name with
      | some value, some name => value == name
      | _, _ => false)

/-- `stable_name`: a name that only repeats a changing value does not identify. -/
def stableName (role : String) (name value : Option String) : Option String :=
  (meaningfulText name).filter (fun name =>
    !(Roles.isMutableValueRole role && valueMatchesName (meaningfulText value) name))

/-- `stable_value`. -/
def stableValue (role : String) (value : Option String) : Option String :=
  if Roles.isMutableValueRole role then none else meaningfulText value

/-- `meaningful_field`. -/
def meaningfulField : LocatorField String → LocatorField String
  | .known value => if isBlank value then .absent else .known value
  | .absent => .absent
  | .unknown => .unknown

/-- `stable_name_field`. -/
def stableNameField (role : String) (name value : LocatorField String) :
    LocatorField String :=
  match Roles.isMutableValueRole role, meaningfulField name with
  | true, .known name =>
    match meaningfulField value with
    | .known value => if valueMatchesName (some value) name then .absent else .known name
    | .absent => .known name
    | .unknown => .unknown
  | _, name => name

/-- `stable_value_field`. -/
def stableValueField (role : String) (value : LocatorField String) : LocatorField String :=
  if Roles.isMutableValueRole role then .absent else meaningfulField value

/-! ## Comparing -/

/-- `equality_match`. -/
def equalityMatch (expected actual : String) : IdentityMatch :=
  if actual == expected then .matched else .noMatch

/-- `match_primary_identity`. -/
def matchPrimaryIdentity (expected : String) (actualPrimary actualFallback : LocatorField String) :
    IdentityMatch :=
  match actualPrimary with
  | .known actual => equalityMatch expected actual
  | .unknown => .unknown
  | .absent =>
    match actualFallback with
    | .known actual => equalityMatch expected actual
    | .unknown => .unknown
    | .absent => .noMatch

/-- `empty_identity_match`. -/
def emptyIdentityMatch (fields : List (LocatorField String)) : IdentityMatch :=
  if fields.any LocatorField.isUnknown then .unknown
  else if fields.any (fun field => field.known?.isSome) then .noMatch
  else .unknown

/-- `stable_text_match`. -/
def stableTextMatch (entry : RefEntry) (name value description : LocatorField String) :
    IdentityMatch :=
  let role := entry.identity.role
  let actualName := stableNameField role name value
  let actualValue := stableValueField role value
  let actualDescription := meaningfulField description
  match stableName role entry.identity.name entry.identity.value with
  | some expected => matchPrimaryIdentity expected actualName actualValue
  | none =>
    match stableValue role entry.identity.value with
    | some expected => matchPrimaryIdentity expected actualValue actualName
    | none =>
      match meaningfulText entry.identity.description with
      | some expected => matchPrimaryIdentity expected actualDescription actualName
      | none =>
        if Roles.isMutableValueRole role then .unknown
        else emptyIdentityMatch [actualName, actualValue, actualDescription]

/-- `identity_match`. -/
def identityMatch (entry : RefEntry) (name value description : LocatorField String)
    (identifiers : IdentifierEvidence) : IdentityMatch :=
  match entry.identity.retainedObject with
  | some expected =>
    match meaningfulText (some expected), identifiers.retainedObject with
    | some expected, some actual => equalityMatch expected actual
    | _, _ => .unknown
  | none =>
    match entry.identity.nativeId with
    | some expected =>
      match meaningfulText (some expected.value) with
      | none => .unknown
      | some _ =>
        if identifiers.identifiers.any (fun actual => actual == expected) then .matched
        else if !identifiers.complete then .unknown
        else .noMatch
    | none => stableTextMatch entry name value description

/-- `has_stable_text_identity`. -/
def hasStableTextIdentity (entry : RefEntry) : Bool :=
  (stableName entry.identity.role entry.identity.name entry.identity.value).isSome
    || (stableValue entry.identity.role entry.identity.value).isSome
    || (meaningfulText entry.identity.description).isSome

/-- `has_meaningful_identity`. -/
def hasMeaningfulIdentity (entry : RefEntry) : Bool :=
  entry.identity.retainedObject.isSome
    || entry.identity.nativeId.any (fun identifier => (meaningfulText (some identifier.value)).isSome)
    || hasStableTextIdentity entry

end AgentDesktop
