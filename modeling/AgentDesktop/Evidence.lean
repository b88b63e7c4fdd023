import AgentDesktop.RefEntry
import AgentDesktop.Util.Information

/-!
# Evidence

What an observation knows of one element. A field is known, known to be
absent, or unknown because the read did not happen or did not complete; a set
of identifiers is either complete or may still grow. `LocatorEvidence.Refines`
orders evidence by how much of it is settled.
-/

namespace AgentDesktop

/-- `LocatorField`. -/
inductive LocatorField (α : Type)
  /-- The value was read. -/
  | known (value : α)
  /-- The element has no such value. -/
  | absent
  /-- It is not known. -/
  | unknown
  deriving DecidableEq

namespace LocatorField

variable {α : Type}

instance : HasUnknown (LocatorField α) := ⟨unknown⟩

@[simp] theorem hasUnknown_unknown :
    (HasUnknown.unknown : LocatorField α) = unknown := rfl

/-- `LocatorField::known`. -/
def known? : LocatorField α → Option α
  | known value => some value
  | absent | unknown => none

/-- `LocatorField::is_unknown`. -/
def isUnknown : LocatorField α → Bool
  | unknown => true
  | known _ | absent => false

/-- `meaningful_string`: a known text that is not empty. -/
def meaningfulString (field : LocatorField String) : Option String :=
  field.known?.filter (fun value => !value.isEmpty)

end LocatorField

/-- `IdentifierEvidence`. -/
structure IdentifierEvidence where
  /-- The identifiers, without blanks and duplicates. -/
  identifiers : List ElementIdentifier
  /-- The position of the preferred one. -/
  preferred : Option ℕ
  /-- Whether the element has no others. -/
  complete : Bool
  /-- The token of a retained native object. -/
  retainedObject : Option String
  deriving DecidableEq

namespace IdentifierEvidence

/-- What `IdentifierEvidence::typed` has gathered so far. -/
structure Gathered where
  /-- The identifiers kept. -/
  normalized : List ElementIdentifier
  /-- The position of the preferred one among them. -/
  normalizedPreferred : Option ℕ

/-- One identifier of `IdentifierEvidence::typed`: blanks are dropped,
duplicates kept once, and the preferred position follows. -/
def gather (preferred : Option ℕ) (state : Gathered)
    (item : ElementIdentifier × ℕ) : Gathered :=
  if (trim item.1.value).isEmpty then state
  else
    let position := state.normalized.findIdx? (fun candidate => candidate == item.1)
    { normalized := if position.isNone then state.normalized ++ [item.1] else state.normalized
      normalizedPreferred :=
        if preferred = some item.2 then some (position.getD state.normalized.length)
        else state.normalizedPreferred }

/-- `IdentifierEvidence::typed`. -/
def typed (identifiers : List ElementIdentifier) (preferred : Option ℕ) (complete : Bool) :
    IdentifierEvidence :=
  let gathered := identifiers.zipIdx.foldl (gather preferred) ⟨[], none⟩
  ⟨gathered.normalized, gathered.normalizedPreferred, complete, none⟩

/-- `IdentifierEvidence::absent`. -/
def absent : IdentifierEvidence := typed [] none true

/-- `IdentifierEvidence::unknown`. -/
def unknown : IdentifierEvidence := typed [] none false

/-- `preferred_identifier`. -/
def preferredIdentifier (evidence : IdentifierEvidence) : Option ElementIdentifier :=
  evidence.preferred.bind (fun index => evidence.identifiers[index]?)

/-- `preferred_value`. -/
def preferredValue (evidence : IdentifierEvidence) : Option String :=
  evidence.preferredIdentifier.map ElementIdentifier.value

theorem preferredIdentifier_mem {evidence : IdentifierEvidence} {id : ElementIdentifier}
    (h : evidence.preferredIdentifier = some id) : id ∈ evidence.identifiers := by
  obtain ⟨index, -, hget⟩ := Option.bind_eq_some_iff.mp h
  exact List.mem_of_getElem? hget

/-- **The evidence the constructors build**: a list taken through `typed`, with or without
the token of a retained object. -/
def Built (evidence : IdentifierEvidence) : Prop :=
  ∃ identifiers preferred complete retainedObject,
    evidence = { typed identifiers preferred complete with retainedObject }

theorem gather_not_blank {preferred : Option ℕ} {state : Gathered} {item : ElementIdentifier × ℕ}
    (h : ∀ id ∈ state.normalized, isBlank id.value = false) :
    ∀ id ∈ (gather preferred state item).normalized, isBlank id.value = false := by
  unfold gather
  rw [isEmpty_trim]
  by_cases hblank : isBlank item.1.value = true
  · rw [if_pos hblank]
    exact h
  · rw [if_neg hblank]
    intro id hid
    dsimp only at hid
    split_ifs at hid
    · rcases List.mem_append.mp hid with hid | hid
      · exact h id hid
      · rw [List.mem_singleton.mp hid]
        exact Bool.eq_false_iff.mpr hblank
    · exact h id hid

theorem Built.not_blank {evidence : IdentifierEvidence} (h : evidence.Built) :
    ∀ id ∈ evidence.identifiers, isBlank id.value = false := by
  obtain ⟨identifiers, preferred, complete, retainedObject, rfl⟩ := h
  show ∀ id ∈ (identifiers.zipIdx.foldl (gather preferred) ⟨[], none⟩).normalized, _
  generalize identifiers.zipIdx = items
  refine List.foldlRecOn items (gather preferred)
    (motive := fun state => ∀ id ∈ state.normalized, isBlank id.value = false)
    ?_ (fun _ h _ _ => gather_not_blank h)
  intro id hid
  cases hid

/-- **A completion of a set of identifiers**: a complete set stays as it is, an
incomplete one keeps its identifiers and may gain others. -/
structure Refines (evidence fuller : IdentifierEvidence) : Prop where
  /-- A complete set is final. -/
  settled : evidence.complete = true → fuller = evidence
  /-- Identifiers are never withdrawn. -/
  keeps : ∀ id ∈ evidence.identifiers, id ∈ fuller.identifiers

theorem Refines.refl (evidence : IdentifierEvidence) : evidence.Refines evidence :=
  ⟨fun _ => rfl, fun _ h => h⟩

end IdentifierEvidence

/-- `LocatorRefEvidence`. -/
structure LocatorRefEvidence where
  bounds : LocatorField Rect
  /-- The actions the element offers. -/
  availableActions : LocatorField (List String)
  deriving DecidableEq

/-- `LocatorEvidence`. -/
structure LocatorEvidence where
  role : LocatorField String
  name : LocatorField String
  description : LocatorField String
  value : LocatorField String
  /-- The native identifiers. -/
  identifiers : IdentifierEvidence
  states : LocatorField (List String)
  /-- What a ref to the element would record. -/
  refEvidence : LocatorRefEvidence
  deriving DecidableEq

/-- **A completion of the evidence of a node**: every unknown field may turn out
to be anything, incomplete identifiers may gain others, and what is settled
stays. -/
structure LocatorEvidence.Refines (evidence fuller : LocatorEvidence) : Prop where
  role : Informs evidence.role fuller.role
  name : Informs evidence.name fuller.name
  description : Informs evidence.description fuller.description
  value : Informs evidence.value fuller.value
  identifiers : evidence.identifiers.Refines fuller.identifiers
  states : Informs evidence.states fuller.states
  bounds : Informs evidence.refEvidence.bounds fuller.refEvidence.bounds
  availableActions :
    Informs evidence.refEvidence.availableActions fuller.refEvidence.availableActions

theorem LocatorEvidence.Refines.refl (evidence : LocatorEvidence) :
    evidence.Refines evidence :=
  ⟨.refl _, .refl _, .refl _, .refl _, .refl _, .refl _, .refl _, .refl _⟩

end AgentDesktop
