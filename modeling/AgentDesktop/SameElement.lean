import AgentDesktop.AccessibilityNode
import AgentDesktop.Identity
import AgentDesktop.RefAlloc
import AgentDesktop.Materialize

/-!
# Finding the same element again

The comparison of a recorded entry with live evidence is held to three laws. An
element that did not change is never taken for another one. What is settled by
partial evidence is not taken back by fuller evidence. And what the user types
into a control does not decide – which the code keeps except where the live
value happens to repeat the control's own name.
-/

namespace AgentDesktop

instance : HasUnknown IdentityMatch := ⟨.unknown⟩

@[simp] theorem IdentityMatch.hasUnknown_unknown :
    (HasUnknown.unknown : IdentityMatch) = .unknown := rfl

/-- `match_native_or_text_identity`. -/
def matchNativeOrTextIdentity (entry : RefEntry) (evidence : LocatorEvidence) : IdentityMatch :=
  identityMatch entry evidence.name evidence.value evidence.description evidence.identifiers

/-! ## The comparison and the order of information -/

theorem meaningfulField_known (value : String) :
    meaningfulField (.known value) = if isBlank value then .absent else .known value := rfl

theorem meaningfulText_some (value : String) :
    meaningfulText (some value) = if isBlank value then none else some value := by
  unfold meaningfulText
  rw [Option.filter_some]
  cases isBlank value <;> rfl

theorem meaningfulField_steady : Steady meaningfulField := Steady.of_strict rfl

theorem stableValueField_steady (role : String) : Steady (stableValueField role) := by
  rintro value value' (rfl | rfl)
  · unfold stableValueField
    split_ifs
    · exact Informs.refl _
    · exact Informs.unknown _
  · exact Informs.refl _

theorem stableNameField_known {role name : String} (hrole : Roles.isMutableValueRole role = true)
    {field : LocatorField String} (hname : meaningfulField field = .known name)
    (value : LocatorField String) :
    stableNameField role field value = match meaningfulField value with
      | .known value => if valueMatchesName (some value) name then .absent else .known name
      | .absent => .known name
      | .unknown => .unknown := by
  unfold stableNameField
  cases hvalue : meaningfulField value <;> simp only [hrole, hname]

theorem stableNameField_of_not_known {role : String} {field : LocatorField String}
    (hname : ∀ name, meaningfulField field ≠ .known name) (value : LocatorField String) :
    stableNameField role field value = meaningfulField field := by
  unfold stableNameField
  cases hfield : meaningfulField field with
  | known name => exact absurd hfield (hname name)
  | absent => cases Roles.isMutableValueRole role <;> rfl
  | unknown => cases Roles.isMutableValueRole role <;> rfl

theorem stableNameField_of_not_mutable {role : String}
    (hrole : Roles.isMutableValueRole role = false) (field value : LocatorField String) :
    stableNameField role field value = meaningfulField field := by
  unfold stableNameField
  rw [hrole]

theorem stableNameField_steady (role : String) : Steady₂ (stableNameField role) := by
  rintro name name' value value' (rfl | rfl) hvalue
  · show Informs (stableNameField role .unknown value) _
    rw [stableNameField_of_not_known (by intro n h; cases h)]
    exact Informs.unknown _
  · rcases hvalue with rfl | rfl
    · by_cases hknown : ∃ n, meaningfulField name = .known n
      · obtain ⟨n, hn⟩ := hknown
        cases hrole : Roles.isMutableValueRole role with
        | true =>
          show Informs (stableNameField role name .unknown) _
          rw [stableNameField_known hrole hn]
          exact Informs.unknown _
        | false =>
          rw [stableNameField_of_not_mutable hrole, stableNameField_of_not_mutable hrole]
          exact Informs.refl _
      · have hnot : ∀ n, meaningfulField name ≠ .known n := fun n h => hknown ⟨n, h⟩
        rw [stableNameField_of_not_known hnot, stableNameField_of_not_known hnot]
        exact Informs.refl _
    · exact Informs.refl _

theorem matchPrimaryIdentity_steady (expected : String) :
    Steady₂ (matchPrimaryIdentity expected) := by
  rintro primary primary' fallback fallback' (rfl | rfl) hfallback
  · exact Informs.unknown _
  · cases primary with
    | known actual => exact Informs.refl _
    | unknown => exact Informs.unknown _
    | absent =>
      rcases hfallback with rfl | rfl
      · exact Informs.unknown _
      · exact Informs.refl _

theorem emptyIdentityMatch_steady {name name' value value' description description' :
      LocatorField String}
    (hname : Informs name name') (hvalue : Informs value value')
    (hdescription : Informs description description') :
    Informs (emptyIdentityMatch [name, value, description])
      (emptyIdentityMatch [name', value', description']) := by
  by_cases hunknown : [name, value, description].any LocatorField.isUnknown = true
  · rw [emptyIdentityMatch, if_pos hunknown]
    exact Informs.unknown _
  · have hfields : name ≠ .unknown ∧ value ≠ .unknown ∧ description ≠ .unknown := by
      refine ⟨?_, ?_, ?_⟩ <;> · rintro rfl; simp [LocatorField.isUnknown] at hunknown
    rw [hname.settled hfields.1, hvalue.settled hfields.2.1, hdescription.settled hfields.2.2]
    exact Informs.refl _

theorem stableTextMatch_steady (entry : RefEntry) {name name' value value' description
      description' : LocatorField String}
    (hname : Informs name name') (hvalue : Informs value value')
    (hdescription : Informs description description') :
    Informs (stableTextMatch entry name value description)
      (stableTextMatch entry name' value' description') := by
  have hn := stableNameField_steady entry.identity.role name name' value value' hname hvalue
  have hv := stableValueField_steady entry.identity.role value value' hvalue
  have hd := meaningfulField_steady description description' hdescription
  unfold stableTextMatch
  dsimp only
  split
  · exact matchPrimaryIdentity_steady _ _ _ _ _ hn hv
  · split
    · exact matchPrimaryIdentity_steady _ _ _ _ _ hv hn
    · split
      · exact matchPrimaryIdentity_steady _ _ _ _ _ hd hn
      · split_ifs
        · exact Informs.refl _
        · exact emptyIdentityMatch_steady hn hv hd

/-- **What partial evidence settles, fuller evidence does not take back**: the verdict on
an entry is an approximation of the verdict from any completion of the evidence. -/
theorem matchNativeOrTextIdentity_steady (entry : RefEntry) {evidence fuller : LocatorEvidence}
    (h : evidence.Refines fuller)
    (hretained : entry.identity.retainedObject ≠ none → ∀ token,
      evidence.identifiers.retainedObject = some token →
        fuller.identifiers.retainedObject = some token) :
    Informs (matchNativeOrTextIdentity entry evidence)
      (matchNativeOrTextIdentity entry fuller) := by
  unfold matchNativeOrTextIdentity identityMatch
  split
  · -- by the retained object: without a live token nothing is said
    rename_i expected hentry
    cases meaningfulText (some expected) with
    | none => exact Informs.refl _
    | some expected =>
      cases hactual : evidence.identifiers.retainedObject with
      | none => exact Informs.unknown _
      | some actual =>
        rw [hretained (by rw [hentry]; exact Option.some_ne_none _) actual hactual]
        exact Informs.refl _
  · split
    · -- by the native identifier: found ones stay, and a complete set is final
      rename_i expected _
      split
      · exact Informs.refl _
      · by_cases hfound : evidence.identifiers.identifiers.any (fun actual => actual == expected)
        · obtain ⟨actual, hmem, heq⟩ := List.any_eq_true.mp hfound
          rw [if_pos hfound, if_pos (List.any_eq_true.mpr
            ⟨actual, h.identifiers.keeps actual hmem, heq⟩)]
          exact Informs.refl _
        · cases hcomplete : evidence.identifiers.complete with
          | true =>
            rw [h.identifiers.settled hcomplete, hcomplete]
            exact Informs.refl _
          | false =>
            rw [if_neg hfound]
            exact Informs.unknown _
    · exact stableTextMatch_steady entry h.name h.value h.description

/-- **Identity verdicts are monotone in the evidence**: a match or a mismatch stays what it is
in every refinement of the evidence. -/
theorem identity_verdict_settled (entry : RefEntry) (evidence fuller : LocatorEvidence)
    (h : evidence.Refines fuller)
    (hretained : ∀ token, evidence.identifiers.retainedObject = some token →
      fuller.identifiers.retainedObject = some token)
    (hverdict : matchNativeOrTextIdentity entry evidence ≠ .unknown) :
    matchNativeOrTextIdentity entry fuller = matchNativeOrTextIdentity entry evidence :=
  (matchNativeOrTextIdentity_steady entry h (fun _ => hretained)).settled hverdict

/-! A text field labelled `Search`, and the ref to it. -/

namespace Sample

/-- What is read of the text field, by what has been typed into it. -/
def searchField (value : LocatorField String) : LocatorEvidence where
  role := .known "textfield"
  name := .known "Search"
  description := .unknown
  value := value
  identifiers := .absent
  states := .absent
  refEvidence := ⟨.absent, .absent⟩

/-- The entry of a ref to it. -/
def searchEntry : RefEntry where
  process := ⟨7, some "7-1"⟩
  identity := ⟨none, "textfield", some "Search", none, none, none⟩
  geometry := ⟨none, none⟩
  capabilities := ⟨[], []⟩
  source := ⟨none, none, none, none, .window⟩
  scope := ⟨none, false, [0]⟩

end Sample

/-- The field matches although its description was not read; so it does once it is. -/
theorem identity_verdict_settled_sample :
    matchNativeOrTextIdentity Sample.searchEntry
        { Sample.searchField (.known "cats") with description := .known "Finds notes" }
      = .matched :=
  (identity_verdict_settled Sample.searchEntry (Sample.searchField (.known "cats"))
    { Sample.searchField (.known "cats") with description := .known "Finds notes" }
    ⟨.refl _, .refl _, .unknown _, .refl _, .refl _, .refl _, .refl _, .refl _⟩
    (fun _ h => h) (by decide)).trans (by decide)

/-! ## An element that did not change -/

/-- **An entry captured from evidence**: the texts are the meaningful ones, the retained object
is the observed one, and a native identifier is one of those observed. -/
structure CapturedFrom (evidence : LocatorEvidence) (entry : RefEntry) : Prop where
  /-- The token of the retained object. -/
  retainedObject : entry.identity.retainedObject = evidence.identifiers.retainedObject
  name : entry.identity.name = evidence.name.meaningfulString
  value : entry.identity.value = evidence.value.meaningfulString
  description : entry.identity.description = evidence.description.meaningfulString
  /-- The native identifier. -/
  nativeId : ∀ id, entry.identity.nativeId = some id → id ∈ evidence.identifiers.identifiers

/-- The capture drops empty texts and the comparison blank ones; what is left is the same. -/
theorem known?_meaningfulField (field : LocatorField String) :
    (meaningfulField field).known? = meaningfulText field.meaningfulString := by
  cases field with
  | absent => rfl
  | unknown => rfl
  | known value =>
    rw [meaningfulField_known]
    unfold LocatorField.meaningfulString meaningfulText
    by_cases hblank : isBlank value = true
    · rw [if_pos hblank]
      cases hempty : value.isEmpty <;>
        simp [LocatorField.known?, Option.filter_some, hempty, hblank]
    · have hempty : value.isEmpty = false := by
        cases hempty : value.isEmpty with
        | false => rfl
        | true => rw [String.isEmpty_iff.mp hempty] at hblank; exact absurd rfl hblank
      rw [if_neg hblank]
      simp [LocatorField.known?, Option.filter_some, hempty, hblank]

theorem known?_stableValueField (role : String) (value : LocatorField String) :
    (stableValueField role value).known? = stableValue role value.meaningfulString := by
  unfold stableValueField stableValue
  split_ifs
  · rfl
  · exact known?_meaningfulField value

/-- Capture and comparison agree on which name identifies, unless it cannot be told because the
value was not read. -/
theorem known?_stableNameField {role : String} {name value : LocatorField String}
    (h : stableNameField role name value ≠ .unknown) :
    (stableNameField role name value).known?
      = stableName role name.meaningfulString value.meaningfulString := by
  unfold stableName
  rw [← known?_meaningfulField name, ← known?_meaningfulField value]
  cases hname : meaningfulField name with
  | absent =>
    rw [stableNameField_of_not_known (by rw [hname]; intro n h; cases h), hname]
    rfl
  | unknown =>
    rw [stableNameField_of_not_known (by rw [hname]; intro n h; cases h), hname]
    rfl
  | known n =>
    cases hrole : Roles.isMutableValueRole role with
    | false =>
      rw [stableNameField_of_not_mutable hrole, hname]
      simp [LocatorField.known?, Option.filter_some]
    | true =>
      rw [stableNameField_known hrole hname] at h ⊢
      cases hvalue : meaningfulField value with
      | unknown => rw [hvalue] at h; exact absurd rfl h
      | absent => simp [LocatorField.known?, Option.filter_some, valueMatchesName]
      | known v =>
        cases hmatches : valueMatchesName (some v) n <;>
          simp [LocatorField.known?, Option.filter_some, hmatches]

theorem stableNameField_ne_unknown {role : String} {name value : LocatorField String}
    (hname : name ≠ .unknown) (hvalue : value ≠ .unknown) :
    stableNameField role name value ≠ .unknown := by
  have hsettled : ∀ field : LocatorField String, field ≠ .unknown →
      meaningfulField field ≠ .unknown := by
    rintro (value | _ | _) hfield
    · rw [meaningfulField_known]
      split_ifs <;> exact fun h => nomatch h
    · exact fun h => nomatch h
    · exact absurd rfl hfield
  by_cases hknown : ∃ n, meaningfulField name = .known n
  · obtain ⟨n, hn⟩ := hknown
    cases hrole : Roles.isMutableValueRole role with
    | false =>
      rw [stableNameField_of_not_mutable hrole]
      exact hsettled name hname
    | true =>
      rw [stableNameField_known hrole hn]
      have hv := hsettled value hvalue
      split
      · split_ifs <;> exact fun h => nomatch h
      · exact fun h => nomatch h
      · rename_i heq
        exact absurd heq hv
  · rw [stableNameField_of_not_known (fun n h => hknown ⟨n, h⟩)]
    exact hsettled name hname

theorem LocatorField.eq_known_of_known? {field : LocatorField String} {value : String}
    (h : field.known? = some value) : field = .known value := by
  cases field <;> cases h
  rfl

theorem equalityMatch_self (expected : String) : equalityMatch expected expected = .matched := by
  simp [equalityMatch]

theorem matchPrimaryIdentity_of_known? {expected : String}
    {primary fallback : LocatorField String} (h : primary.known? = some expected) :
    matchPrimaryIdentity expected primary fallback = .matched := by
  rw [LocatorField.eq_known_of_known? h]
  exact equalityMatch_self expected

theorem emptyIdentityMatch_of_none {name value description : LocatorField String}
    (hname : name.known? = none) (hvalue : value.known? = none)
    (hdescription : description.known? = none) :
    emptyIdentityMatch [name, value, description] = .unknown := by
  unfold emptyIdentityMatch
  simp [hname, hvalue, hdescription]

theorem CapturedFrom.stableTextMatch {evidence : LocatorEvidence} {entry : RefEntry}
    (h : CapturedFrom evidence entry) :
    (stableNameField entry.identity.role evidence.name evidence.value ≠ .unknown →
        hasStableTextIdentity entry = true →
        stableTextMatch entry evidence.name evidence.value evidence.description = .matched)
      ∧ stableTextMatch entry evidence.name evidence.value evidence.description ≠ .noMatch := by
  have hname := @known?_stableNameField entry.identity.role evidence.name evidence.value
  have hvalue := known?_stableValueField entry.identity.role evidence.value
  have hdescription := known?_meaningfulField evidence.description
  rw [← h.name, ← h.value] at hname
  rw [← h.value] at hvalue
  rw [← h.description] at hdescription
  unfold AgentDesktop.stableTextMatch hasStableTextIdentity
  dsimp only
  split
  · rename_i expected hexpected
    by_cases hunknown : stableNameField entry.identity.role evidence.name evidence.value
        = .unknown
    · rw [hunknown]
      exact ⟨fun h => absurd rfl h, fun h => nomatch h⟩
    · rw [matchPrimaryIdentity_of_known? ((hname hunknown).trans hexpected)]
      exact ⟨fun _ _ => rfl, fun h => nomatch h⟩
  · rename_i hnone
    split
    · rename_i expected hexpected
      rw [matchPrimaryIdentity_of_known? (hvalue.trans hexpected)]
      exact ⟨fun _ _ => rfl, fun h => nomatch h⟩
    · rename_i hnoValue
      split
      · rename_i expected hexpected
        rw [matchPrimaryIdentity_of_known? (hdescription.trans hexpected)]
        exact ⟨fun _ _ => rfl, fun h => nomatch h⟩
      · -- nothing identifies: no field can be known, and nothing is said
        rename_i hnoDescription
        rw [hnone, hnoValue, hnoDescription]
        refine ⟨fun _ h => by simp at h, ?_⟩
        split_ifs
        · exact fun h => nomatch h
        · by_cases hunknown : stableNameField entry.identity.role evidence.name evidence.value
              = .unknown
          · rw [hunknown]
            exact fun h => nomatch h
          · rw [emptyIdentityMatch_of_none ((hname hunknown).trans hnone)
              (hvalue.trans hnoValue) (hdescription.trans hnoDescription)]
            exact fun h => nomatch h

/-- **An unchanged element**: its verdict is never a mismatch, and it is a match when every
text was read, the entry identifies and no identifier is blank. -/
theorem CapturedFrom.verdict {evidence : LocatorEvidence} {entry : RefEntry}
    (h : CapturedFrom evidence entry) :
    matchNativeOrTextIdentity entry evidence ≠ .noMatch
      ∧ ((∀ token, evidence.identifiers.retainedObject = some token → isBlank token = false) →
        (∀ id ∈ evidence.identifiers.identifiers, isBlank id.value = false) →
        evidence.name ≠ .unknown → evidence.value ≠ .unknown →
        hasMeaningfulIdentity entry = true →
          matchNativeOrTextIdentity entry evidence = .matched) := by
  unfold matchNativeOrTextIdentity identityMatch
  rw [h.retainedObject]
  cases hretained : evidence.identifiers.retainedObject with
  | some token =>
    by_cases hblank : isBlank token = true
    · refine ⟨by simp [meaningfulText_some, hblank], fun htoken => ?_⟩
      rw [htoken token rfl] at hblank
      cases hblank
    · simp [meaningfulText_some, hblank, equalityMatch]
  | none =>
    cases hnative : entry.identity.nativeId with
    | some id =>
      have hfound : evidence.identifiers.identifiers.any (fun actual => actual == id) = true :=
        List.any_eq_true.mpr ⟨id, h.nativeId id hnative, by simp⟩
      by_cases hblank : isBlank id.value = true
      · refine ⟨by simp [meaningfulText_some, hblank], fun _ hids => ?_⟩
        rw [hids id (h.nativeId id hnative)] at hblank
        cases hblank
      · simp [meaningfulText_some, hblank, hfound]
    | none =>
      obtain ⟨hmatched, hnever⟩ := h.stableTextMatch
      refine ⟨hnever, fun _ _ hname hvalue hmeaningful => ?_⟩
      refine hmatched (stableNameField_ne_unknown hname hvalue) ?_
      simpa [hasMeaningfulIdentity, h.retainedObject, hretained, hnative] using hmeaningful

section

variable [BoundsHasher]

theorem applySource_identity (entry : RefEntry) (source : ObservationSource) (path : RefPath) :
    (applySource entry source path).identity = entry.identity := by
  cases source <;> rfl

omit [BoundsHasher] in
theorem mem_of_selectedIdentifier {evidence : LocatorEvidence} {expected : Option String}
    {id : ElementIdentifier} (h : selectedIdentifier evidence expected = some id) :
    id ∈ evidence.identifiers.identifiers := by
  unfold selectedIdentifier at h
  split at h
  · split at h
    · rename_i preferred hpreferred
      cases h
      exact IdentifierEvidence.preferredIdentifier_mem (Option.filter_eq_some_iff.mp hpreferred).1
    · exact List.mem_of_find?_eq_some h
  · exact IdentifierEvidence.preferredIdentifier_mem h

theorem capturedFrom_refEntryOf (node : ObservedNode) (source : ObservationSource)
    (query : LocatorQuery) : CapturedFrom node.evidence (refEntryOf node source query) := by
  unfold refEntryOf
  dsimp only
  refine ⟨?_, ?_, ?_, ?_, fun id hid => ?_⟩
  iterate 4 rw [applySource_identity]
  rw [applySource_identity] at hid
  exact mem_of_selectedIdentifier hid

theorem capturedFrom_refEntryFromNode (node : ObservedNode) (children : List AccessibilityNode)
    (config : RefAllocConfig) (rootRef : Option String) (path : RefPath) :
    CapturedFrom node.evidence
      (refEntryFromNode (projectNode node children) config rootRef path) := by
  have htext : ∀ field : LocatorField String,
      nonEmptyString field.meaningfulString = field.meaningfulString := by
    intro field
    unfold nonEmptyString LocatorField.meaningfulString
    rw [Option.filter_filter]
    simp
  refine ⟨rfl, htext _, htext _, htext _, fun id hid => ?_⟩
  exact IdentifierEvidence.preferredIdentifier_mem (Option.filter_eq_some_iff.mp hid).1

/-- **No false stale**: the entry a locator captures from evidence, whatever its source, is
never told from that evidence by identity, and matches it when the texts were read, the entry
identifies and the token of a retained object, if any, is not blank. -/
theorem refEntryOf_identity_verdict (node : ObservedNode) (source : ObservationSource)
    (query : LocatorQuery) (hbuilt : node.evidence.identifiers.Built) :
    matchNativeOrTextIdentity (refEntryOf node source query) node.evidence ≠ .noMatch
      ∧ ((∀ token, node.evidence.identifiers.retainedObject = some token →
          isBlank token = false) →
        node.evidence.name ≠ .unknown → node.evidence.value ≠ .unknown →
        hasMeaningfulIdentity (refEntryOf node source query) = true →
          matchNativeOrTextIdentity (refEntryOf node source query) node.evidence = .matched) := by
  obtain ⟨hnever, hmatched⟩ := (capturedFrom_refEntryOf node source query).verdict
  exact ⟨hnever, fun htoken => hmatched htoken hbuilt.not_blank⟩

theorem refEntryFromNode_identity_verdict (node : ObservedNode)
    (children : List AccessibilityNode) (config : RefAllocConfig) (rootRef : Option String)
    (path : RefPath) (hbuilt : node.evidence.identifiers.Built) :
    matchNativeOrTextIdentity (refEntryFromNode (projectNode node children) config rootRef path)
        node.evidence ≠ .noMatch
      ∧ ((∀ token, node.evidence.identifiers.retainedObject = some token →
          isBlank token = false) →
        node.evidence.name ≠ .unknown → node.evidence.value ≠ .unknown →
        hasMeaningfulIdentity
            (refEntryFromNode (projectNode node children) config rootRef path) = true →
          matchNativeOrTextIdentity
              (refEntryFromNode (projectNode node children) config rootRef path) node.evidence
            = .matched) := by
  obtain ⟨hnever, hmatched⟩ :=
    (capturedFrom_refEntryFromNode node children config rootRef path).verdict
  exact ⟨hnever, fun htoken => hmatched htoken hbuilt.not_blank⟩

end

namespace Sample

/-- A node with this evidence, the root of what was observed. -/
def rootNode (evidence : LocatorEvidence) : ObservedNode :=
  ⟨evidence, [], [], 0, ⟨true, true⟩, none, none⟩

/-- The text field, with a blank token of a retained object. -/
def blankToken : LocatorEvidence :=
  { searchField .absent with
    description := .absent
    identifiers := { IdentifierEvidence.absent with retainedObject := some " " } }

/-- The window the text field is in. -/
def notesWindow : ObservationSource :=
  .window ⟨"w1", "Notes", "Notes", 7, some "7-1", none, ⟨true, true, none, none⟩⟩ .window

/-- A query that asks nothing. -/
def anyQuery : LocatorQuery := ⟨⟨none, none, none, none, none⟩, none, false, [], none, none⟩

end Sample

/-- **A blank token settles nothing**: all is read, the entry counts as identifying, and still
the unchanged element does not match. -/
theorem refEntryOf_identity_verdict_blank_token :
    Sample.blankToken.identifiers.Built
      ∧ Sample.blankToken.name ≠ .unknown ∧ Sample.blankToken.value ≠ .unknown
      ∧ Sample.blankToken.description ≠ .unknown
      ∧ Sample.blankToken.identifiers.complete = true
      ∧ hasMeaningfulIdentity (@refEntryOf Sample.noBoundsHash (Sample.rootNode Sample.blankToken)
        Sample.notesWindow Sample.anyQuery) = true
      ∧ matchNativeOrTextIdentity (@refEntryOf Sample.noBoundsHash
        (Sample.rootNode Sample.blankToken) Sample.notesWindow Sample.anyQuery)
          Sample.blankToken ≠ .matched :=
  ⟨⟨[], none, true, some " ", rfl⟩, by decide, by decide, by decide, rfl, by decide,
    by decide⟩

/-- The text field matches the entry captured from it. -/
theorem refEntryOf_identity_verdict_sample :
    matchNativeOrTextIdentity (@refEntryOf Sample.noBoundsHash
        (Sample.rootNode (Sample.searchField .absent)) Sample.notesWindow Sample.anyQuery)
      (Sample.searchField .absent) = .matched :=
  (@refEntryOf_identity_verdict Sample.noBoundsHash (Sample.rootNode (Sample.searchField .absent))
    Sample.notesWindow Sample.anyQuery ⟨[], none, true, none, rfl⟩).2
    (fun _ h => nomatch h) (by decide) (by decide) (by decide)

/-! ## What the user types

For a control whose value changes, the value is not compared. It is still looked at to see
whether the name is a label or only repeats the value. -/

/-- Whether a live value repeats a name. -/
def valueRepeats (value : LocatorField String) (name : String) : Bool :=
  (meaningfulField value).known?.any (fun value => valueMatchesName (some value) name)

/-- The recorded text that the live name of a control with a changing value is compared with:
the recorded name, or the recorded description where none is live. An entry with a
retained object or a native identifier is compared by that. -/
def textComparedWithName (entry : RefEntry) (evidence : LocatorEvidence) : Option String :=
  if entry.identity.retainedObject.isSome || entry.identity.nativeId.isSome then none
  else
    match stableName entry.identity.role entry.identity.name entry.identity.value with
    | some expected => some expected
    | none =>
      if meaningfulField evidence.description = .absent then
        meaningfulText entry.identity.description
      else none

/-- **Two live values count the same** for the identity of an entry: where the live name is
compared, both were read or neither, and if it is the recorded text, both repeat it or neither
does. -/
def SameToName (entry : RefEntry) (evidence : LocatorEvidence)
    (value₁ value₂ : LocatorField String) : Prop :=
  ∀ expected, textComparedWithName entry evidence = some expected →
    ∀ name, meaningfulField evidence.name = .known name →
      (value₁ = .unknown ↔ value₂ = .unknown)
        ∧ (expected = name → valueRepeats value₁ name = valueRepeats value₂ name)

/-- The comparison of a live name with a recorded text, by the live value. -/
def nameVerdict (expected name : String) (value : LocatorField String) : IdentityMatch :=
  if value = .unknown then .unknown
  else if valueRepeats value name then .noMatch
  else equalityMatch expected name

/-- **Where the live name is compared, its verdict reads the live value.** -/
theorem matchPrimaryIdentity_stableNameField {role expected name : String}
    (hrole : Roles.isMutableValueRole role = true) {field : LocatorField String}
    (hname : meaningfulField field = .known name) (value : LocatorField String) :
    matchPrimaryIdentity expected (stableNameField role field value) .absent
        = nameVerdict expected name value
      ∧ matchPrimaryIdentity expected .absent (stableNameField role field value)
        = nameVerdict expected name value := by
  rw [stableNameField_known hrole hname]
  unfold nameVerdict valueRepeats
  cases value with
  | unknown => exact ⟨rfl, rfl⟩
  | absent => simp [meaningfulField, LocatorField.known?, matchPrimaryIdentity]
  | known value =>
    rw [meaningfulField_known, if_neg (show LocatorField.known value ≠ .unknown by simp)]
    by_cases hblank : isBlank value = true
    · rw [if_pos hblank]
      exact ⟨rfl, rfl⟩
    · rw [if_neg hblank]
      cases hmatches : valueMatchesName (some value) name <;>
        simp [hmatches, LocatorField.known?, matchPrimaryIdentity]

theorem nameVerdict_eq_iff (expected name : String) (value₁ value₂ : LocatorField String) :
    nameVerdict expected name value₁ = nameVerdict expected name value₂
      ↔ ((value₁ = .unknown ↔ value₂ = .unknown)
        ∧ (expected = name → valueRepeats value₁ name = valueRepeats value₂ name)) := by
  have hunread : valueRepeats .unknown name = false := rfl
  have hequal : equalityMatch expected name = .matched ∧ expected = name
      ∨ equalityMatch expected name = .noMatch ∧ expected ≠ name := by
    unfold equalityMatch
    by_cases heq : name = expected
    · simp [heq]
    · simp [heq, Ne.symm heq]
  unfold nameVerdict
  by_cases h₁ : value₁ = .unknown <;> by_cases h₂ : value₂ = .unknown
  · simp [h₁, h₂]
  · simp only [h₁, h₂, if_true, if_false]
    rcases hequal with ⟨hv, heq⟩ | ⟨hv, heq⟩ <;> split_ifs <;> simp [hv]
  · simp only [h₁, h₂, if_true, if_false]
    rcases hequal with ⟨hv, heq⟩ | ⟨hv, heq⟩ <;> split_ifs <;> simp [hv]
  · simp only [h₁, h₂, if_false]
    rcases hequal with ⟨hv, heq⟩ | ⟨hv, heq⟩ <;> rw [hv] <;>
      cases valueRepeats value₁ name <;> cases valueRepeats value₂ name <;> simp [heq]

/-- **The live value of a control enters its identity exactly through its name**: two
evidences that differ in the live value get the same verdict if and only if the values count
the same for the name. -/
theorem mutable_value_verdict_iff (entry : RefEntry)
    (hrole : Roles.isMutableValueRole entry.identity.role = true) (evidence : LocatorEvidence)
    (value₁ value₂ : LocatorField String) :
    matchNativeOrTextIdentity entry { evidence with value := value₁ }
        = matchNativeOrTextIdentity entry { evidence with value := value₂ }
      ↔ SameToName entry evidence value₁ value₂ := by
  unfold matchNativeOrTextIdentity identityMatch SameToName textComparedWithName
  cases entry.identity.retainedObject with
  | some token => simp
  | none =>
    cases entry.identity.nativeId with
    | some id => simp
    | none =>
      have hvalue : ∀ value, stableValueField entry.identity.role value = .absent := by
        intro value
        rw [stableValueField, if_pos hrole]
      have hrecorded : stableValue entry.identity.role entry.identity.value = none := by
        rw [stableValue, if_pos hrole]
      simp only [stableTextMatch, hvalue, hrecorded, Option.isSome_none, Bool.or_self,
        Bool.false_eq_true, if_false, hrole, if_true]
      -- a name that is not known is the same whatever the value
      have hunnamed : ∀ value, (∀ n, meaningfulField evidence.name ≠ .known n) →
          stableNameField entry.identity.role evidence.name value
            = meaningfulField evidence.name :=
        fun value h => stableNameField_of_not_known h value
      cases stableName entry.identity.role entry.identity.name entry.identity.value with
      | some expected =>
        by_cases hnamed : ∃ n, meaningfulField evidence.name = .known n
        · obtain ⟨n, hn⟩ := hnamed
          dsimp only
          rw [(matchPrimaryIdentity_stableNameField hrole hn value₁).1,
            (matchPrimaryIdentity_stableNameField hrole hn value₂).1, nameVerdict_eq_iff]
          simp [hn]
        · have hnot : ∀ n, meaningfulField evidence.name ≠ .known n :=
            fun n h => hnamed ⟨n, h⟩
          simp [hunnamed _ hnot, hnot]
      | none =>
        cases meaningfulText entry.identity.description with
        | none => simp
        | some expected =>
          cases hdescription : meaningfulField evidence.description with
          | known actual => simp [matchPrimaryIdentity]
          | unknown => simp [matchPrimaryIdentity]
          | absent =>
            by_cases hnamed : ∃ n, meaningfulField evidence.name = .known n
            · obtain ⟨n, hn⟩ := hnamed
              dsimp only
              rw [(matchPrimaryIdentity_stableNameField hrole hn value₁).2,
                (matchPrimaryIdentity_stableNameField hrole hn value₂).2, nameVerdict_eq_iff]
              simp [hn]
            · have hnot : ∀ n, meaningfulField evidence.name ≠ .known n :=
                fun n h => hnamed ⟨n, h⟩
              simp [hunnamed _ hnot, hnot]

/-- **Typing the label**: once the text typed into the field is the field's own name, the ref
that matched it is told from it. -/
theorem mutable_value_verdict_of_typed_label :
    Roles.isMutableValueRole Sample.searchEntry.identity.role = true
      ∧ matchNativeOrTextIdentity Sample.searchEntry (Sample.searchField (.known "cats"))
        = .matched
      ∧ matchNativeOrTextIdentity Sample.searchEntry (Sample.searchField (.known "Search"))
        = .noMatch :=
  ⟨by decide, by decide, by decide⟩

/-- Other texts leave it the same. -/
theorem mutable_value_verdict_iff_sample :
    matchNativeOrTextIdentity Sample.searchEntry (Sample.searchField (.known "cats"))
      = matchNativeOrTextIdentity Sample.searchEntry (Sample.searchField (.known "dogs")) :=
  (mutable_value_verdict_iff Sample.searchEntry (by decide)
    (Sample.searchField .absent) (.known "cats") (.known "dogs")).mpr (by
      rintro expected - name hname
      obtain rfl : "Search" = name := by
        have hlive : meaningfulField (Sample.searchField .absent).name = .known "Search" := by
          decide
        exact LocatorField.known.inj (hlive.symm.trans hname)
      exact ⟨by decide, fun _ => by decide⟩)

end AgentDesktop
