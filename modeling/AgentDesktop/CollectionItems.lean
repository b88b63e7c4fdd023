import AgentDesktop.CollectionOwner

/-!
# The items of a collection that match

What there is to be read in a collection is its elements, by their children, and of each element
what decides whether it matches. Where all of it is read, the parents lead back the way the
children led, and the limits are kept, each element that matches is a part of an item or of none,
and this is what the search finds for it – except at the last depth, from where the walk up does
not come to an end.
-/

namespace AgentDesktop

namespace CollectionFacts

variable {E Object : Type} (facts : CollectionFacts E Object)

/-! ## What is there to be read -/

/-- **The elements of a collection**, by the children that are read. -/
inductive Reaches (root : E) : E → Prop
  /-- The collection itself. -/
  | root : Reaches root root
  | child {element child : E} {children : List E} (h : Reaches root element)
    (hread : facts.children (facts.object element) = .ok children) (hchild : child ∈ children) :
    Reaches root child

/-- Evidence that settles whether an element has a name: the actions are known, and where they
have a click, the name and the description are known as well. -/
def SettlesName (evidence : LocatorEvidence) : Prop :=
  ∃ actions, evidence.refEvidence.availableActions.known? = some actions
    ∧ (actions.contains Capability.click = true →
      evidence.name.isUnknown = false ∧ evidence.description.isUnknown = false)

/-- **What decides whether an element matches is read**: the element is there, its evidence
settles its name, and the text of a text field is read where the name does not match. -/
def Decided (value : String) (element : E) : Prop :=
  ∃ read, facts.node (facts.object element) = .ok read ∧ read.invalidElement = false
    ∧ SettlesName read.evidence
    ∧ (evidenceMatches read value = .ok false → read.isTextField = true →
      ∃ text, facts.text (facts.object element) = .ok text)

/-- The role in the evidence of an element is known. -/
def RoleKnown (element : E) : Prop :=
  ∀ read, facts.node (facts.object element) = .ok read → read.evidence.role.isUnknown = false

/-- **A readable element.** -/
structure Readable (value : String) (element : E) : Prop where
  /-- What decides whether it matches is read. -/
  decided : facts.Decided value element
  roleKnown : facts.RoleKnown element
  /-- Its children are read. -/
  children : ∃ children, facts.children (facts.object element) = .ok children

theorem matchesEvidence_ok_iff (evidence : LocatorEvidence) (value : String) :
    (∃ named, matchesEvidence evidence value = .ok named) ↔ SettlesName evidence := by
  unfold matchesEvidence SettlesName
  cases evidence.refEvidence.availableActions.known? with
  | none => exact ⟨fun ⟨_, h⟩ => (by cases h), fun ⟨_, h, _⟩ => (by cases h)⟩
  | some actions =>
    have hactions : (∃ actions', some actions = some actions'
        ∧ (actions'.contains Capability.click = true →
          evidence.name.isUnknown = false ∧ evidence.description.isUnknown = false))
        ↔ (actions.contains Capability.click = true →
          evidence.name.isUnknown = false ∧ evidence.description.isUnknown = false) := by
      refine ⟨fun ⟨actions', hsome, h⟩ => ?_, fun h => ⟨actions, rfl, h⟩⟩
      rw [Option.some.inj hsome]
      exact h
    rw [hactions]
    dsimp only
    cases actions.contains Capability.click with
    | false => exact ⟨fun _ h => (by cases h), fun _ => ⟨false, rfl⟩⟩
    | true =>
      rw [if_neg (by decide)]
      cases evidence.name.isUnknown with
      | true => exact ⟨fun ⟨_, h⟩ => (by cases h), fun h => (by cases (h rfl).1)⟩
      | false =>
        cases evidence.description.isUnknown with
        | true => exact ⟨fun ⟨_, h⟩ => (by cases h), fun h => (by cases (h rfl).2)⟩
        | false => exact ⟨fun _ _ => ⟨rfl, rfl⟩, fun _ => ⟨_, rfl⟩⟩

theorem evidenceMatches_eq_ok_iff {read : CandidateRead} {value : String} {named : Bool} :
    evidenceMatches read value = .ok named ↔ matchesEvidence read.evidence value = .ok named := by
  unfold evidenceMatches
  cases matchesEvidence read.evidence value with
  | error error => exact ⟨fun h => (by cases h), fun h => (by cases h)⟩
  | ok named' => exact Iff.rfl

/-- **It is decided whether an element matches** if and only if what decides it is read. -/
theorem decided_iff_matching (value : String) (element : E) :
    facts.Decided value element
      ↔ ∃ matched, facts.matching value (facts.object element) = .ok matched := by
  unfold Decided matching candidate
  cases facts.node (facts.object element) with
  | error error => exact ⟨fun ⟨_, h, _⟩ => (by cases h), fun ⟨_, h⟩ => (by cases h)⟩
  | ok read =>
    have hread : (∃ read', (Except.ok read : Except AdapterError _) = .ok read'
        ∧ read'.invalidElement = false ∧ SettlesName read'.evidence
        ∧ (evidenceMatches read' value = .ok false → read'.isTextField = true →
          ∃ text, facts.text (facts.object element) = .ok text))
        ↔ (read.invalidElement = false ∧ SettlesName read.evidence
        ∧ (evidenceMatches read value = .ok false → read.isTextField = true →
          ∃ text, facts.text (facts.object element) = .ok text)) := by
      refine ⟨fun ⟨read', hok, h⟩ => ?_, fun h => ⟨read, rfl, h⟩⟩
      rw [Except.ok.inj hok]
      exact h
    rw [hread, ← matchesEvidence_ok_iff read.evidence value]
    dsimp only [bind, Except.bind]
    cases read.invalidElement with
    | true => exact ⟨fun h => (by cases h.1), fun ⟨_, h⟩ => (by cases h)⟩
    | false =>
      rw [if_neg Bool.false_ne_true]
      dsimp only
      cases hnamed : evidenceMatches read value with
      | error error =>
        refine ⟨fun ⟨_, ⟨named, hok⟩, _⟩ => ?_, fun ⟨_, h⟩ => (by cases h)⟩
        rw [evidenceMatches_eq_ok_iff.mpr hok] at hnamed
        cases hnamed
      | ok named =>
        have hsettled : ∃ named, matchesEvidence read.evidence value = .ok named :=
          ⟨named, evidenceMatches_eq_ok_iff.mp hnamed⟩
        cases named with
        | true => exact ⟨fun _ => ⟨_, rfl⟩, fun _ => ⟨rfl, hsettled, fun h => (by cases h)⟩⟩
        | false =>
          unfold textMatches
          cases read.isTextField with
          | false => exact ⟨fun _ => ⟨_, rfl⟩, fun _ => ⟨rfl, hsettled, fun _ h => (by cases h)⟩⟩
          | true =>
            cases facts.text (facts.object element) with
            | error error =>
              refine ⟨fun h => ?_, fun ⟨_, h⟩ => (by cases h)⟩
              obtain ⟨_, htext⟩ := h.2.2 rfl rfl
              cases htext
            | ok text =>
              refine ⟨fun _ => ?_, fun _ => ⟨rfl, hsettled, fun _ _ => ⟨text, rfl⟩⟩⟩
              show ∃ matched, (if (text.any _) = true then _ else _) = Except.ok matched
              split_ifs <;> exact ⟨_, rfl⟩

/-! ## A collection that can be searched -/

/-- **A collection that can be searched** for a value: all of it is readable, the parents are
those of a tree, and it lies within the limits on nodes and on depths. -/
structure Searchable (root : E) (value : String) : Prop where
  /-- Its elements are readable. -/
  readable : ∀ element, facts.Reaches root element → facts.Readable value element
  /-- Their roles are read. -/
  roles : ∀ element, facts.Reaches root element →
    ∃ role, facts.role (facts.object element) = .ok role
  /-- A child is not the collection, and its parent is the element it is a child of. -/
  linked : ∀ element children child, facts.Reaches root element →
    facts.children (facts.object element) = .ok children → child ∈ children →
      facts.object child ≠ facts.object root
        ∧ ∃ parent, facts.parent (facts.object child) = .ok (some parent)
          ∧ facts.object parent = facts.object element
  /-- There are not too many elements. -/
  within : (facts.places root).length ≤ maxSelectNodes
  /-- Elements at the last depth have no children. -/
  shallow : ∀ place ∈ facts.places root, place.depth = maxSelectDepth →
    facts.children (facts.object place.element) = .ok []

variable {facts} in
/-- **The parents lead up the places** of a collection that can be searched. -/
theorem Searchable.place {root : E} {value : String} (h : facts.Searchable root value) :
    ∀ place ∈ facts.places root, facts.Reaches root place.element
      ∧ facts.Climbs (facts.object root) (facts.object place.element)
        (place.path.map facts.object) := by
  refine facts.forall_placesFrom (Q := fun place => facts.Reaches root place.element
    ∧ facts.Climbs (facts.object root) (facts.object place.element)
      (place.path.map facts.object)) ⟨.root, rfl⟩ ?_
  rintro place ⟨hreach, hclimbs⟩ child hchild
  obtain ⟨children, hread⟩ := (h.readable place.element hreach).children
  unfold childrenOf at hchild
  rw [hread] at hchild
  have hreachChild : facts.Reaches root child := hreach.child hread hchild
  obtain ⟨htop, parent, hparent, hobject⟩ :=
    h.linked place.element children child hreach hread hchild
  refine ⟨hreachChild, rfl, htop, h.roles child hreachChild, parent, hparent, ?_⟩
  rw [hobject]
  exact hclimbs

section Items

variable [DecidableEq Object]

/-- The item that the element at a place is a part of, if the element matches. -/
def itemAt (value : String) (place : Place E) : Option Object :=
  match facts.matching value (facts.object place.element) with
  | .ok (some named) =>
    facts.itemOn named (facts.object place.element) (place.path.map facts.object)
  | .ok none | .error _ => none

/-- **The items that match**, at some places. -/
def itemsAt (value : String) (list : List (Place E)) : List Object :=
  list.filterMap (facts.itemAt value)

omit [DecidableEq Object] in
/-- A match at the last depth. -/
def MatchesDeep (value : String) (place : Place E) : Prop :=
  place.depth = maxSelectDepth
    ∧ ∃ named, facts.matching value (facts.object place.element) = .ok (some named)

theorem target_eq (root : E) (value : String) (element : E) :
    facts.target root value element
      = facts.matching value (facts.object element) >>= fun matched =>
        match matched with
        | some named => facts.owner element root named
        | none => .ok none := by
  unfold target matching
  cases facts.candidate (facts.object element) with
  | error error => rfl
  | ok read =>
    dsimp only [bind, Except.bind]
    cases evidenceMatches read value with
    | error error => rfl
    | ok named =>
      cases named with
      | true => rfl
      | false =>
        dsimp only
        rw [if_neg Bool.false_ne_true, if_neg Bool.false_ne_true]
        cases facts.textMatches (facts.object element) read value with
        | error error => rfl
        | ok same => cases same <;> rfl

variable {facts} {root : E} {value : String}

theorem exists_matching_of_target {element : E} {found : Option E}
    (h : facts.target root value element = .ok found) :
    ∃ matched, facts.matching value (facts.object element) = .ok matched := by
  rw [facts.target_eq] at h
  cases hmatching : facts.matching value (facts.object element) with
  | error error =>
    rw [hmatching] at h
    cases h
  | ok matched => exact ⟨matched, rfl⟩

namespace Searchable

omit [DecidableEq Object] in
theorem exists_matching (h : facts.Searchable root value) {place : Place E}
    (hplace : place ∈ facts.places root) :
    ∃ matched, facts.matching value (facts.object place.element) = .ok matched :=
  (facts.decided_iff_matching value place.element).mp
    (h.readable place.element (h.place place hplace).1).decided

/-- **At a place that does not match at the last depth** the item is found. -/
theorem target_of_not_deep (h : facts.Searchable root value) {place : Place E}
    (hplace : place ∈ facts.places root) (hdeep : ¬facts.MatchesDeep value place) :
    ∃ found, facts.target root value place.element = .ok found
      ∧ found.map facts.object = facts.itemAt value place := by
  obtain ⟨matched, hmatching⟩ := h.exists_matching hplace
  rw [facts.target_eq]
  unfold itemAt
  rw [hmatching]
  cases matched with
  | none => exact ⟨none, rfl, rfl⟩
  | some named =>
    have hne : place.depth ≠ maxSelectDepth := fun heq => hdeep ⟨heq, named, hmatching⟩
    have hlength : (place.path.map facts.object).length < maxOwnerSteps := by
      rw [List.length_map]
      exact lt_of_le_of_ne (facts.depth_le_of_mem_places hplace) hne
    obtain ⟨found, hfound, hobject⟩ := ownerFrom_of_climbs place.element named
      ⟨none, none, place.element⟩ (h.place place hplace).2 hlength
    exact ⟨found, hfound, hobject⟩

/-- **A match at the last depth** is an error. -/
theorem target_of_deep (h : facts.Searchable root value) {place : Place E}
    (hplace : place ∈ facts.places root) (hdeep : facts.MatchesDeep value place) :
    facts.target root value place.element
      = .error (incompleteSelection "owner_depth_limit") := by
  obtain ⟨hdepth, named, hmatching⟩ := hdeep
  rw [facts.target_eq, hmatching]
  refine ownerFrom_of_climbs_error place.element named ⟨none, none, place.element⟩
    (h.place place hplace).2 ?_
  rw [List.length_map]
  exact hdepth.ge

omit [DecidableEq Object] in
theorem below (h : facts.Searchable root value) {place : Place E}
    (hplace : place ∈ facts.places root) :
    ∃ children, facts.below place.depth place.element = .ok children := by
  obtain ⟨children, hread⟩ := (h.readable place.element (h.place place hplace).1).children
  refine ⟨children, facts.below_eq_ok_iff.mpr ⟨hread, fun hle => ?_⟩⟩
  have hlast := h.shallow place hplace (le_antisymm (facts.depth_le_of_mem_places hplace) hle)
  rw [hread] at hlast
  exact Except.ok.inj hlast

end Searchable

end Items

end CollectionFacts

end AgentDesktop
