import Mathlib.Data.List.Nodup
import AgentDesktop.Evidence

/-!
# The identifiers of an element

The identifiers that an element is observed with are kept once each, in the order in which they
first occur, and blank ones are left out. Positions move by that; the preferred one is followed to
where it stands in the end.
-/

namespace AgentDesktop

namespace IdentifierEvidence

/-- An identifier that is kept: one that is not blank. -/
def Meaningful (id : ElementIdentifier) : Bool := !isBlank id.value

/-- The preferred identifier of a list, if it is one that is kept. -/
def preferredOf (identifiers : List ElementIdentifier) (preferred : Option ℕ) :
    Option ElementIdentifier :=
  (preferred.bind (fun index => identifiers[index]?)).filter Meaningful

/-- **Evidence that is true to the identifiers it was made of.** -/
structure Faithful (identifiers : List ElementIdentifier) (preferred : Option ℕ)
    (kept : List ElementIdentifier) (position : Option ℕ) : Prop where
  /-- Each identifier is kept once. -/
  nodup : kept.Nodup
  /-- Those that are not blank are kept. -/
  mem_iff : ∀ id, id ∈ kept ↔ id ∈ identifiers ∧ Meaningful id = true
  /-- They stand in the order in which they first occur. -/
  ordered : kept.Pairwise (fun id id' => identifiers.idxOf id < identifiers.idxOf id')
  /-- The position is one of the list. -/
  inside : ∀ index, position = some index → index < kept.length
  /-- It is the one of the preferred identifier. -/
  points : position.bind (fun index => kept[index]?) = preferredOf identifiers preferred

namespace Faithful

variable {front kept : List ElementIdentifier} {preferred position : Option ℕ}
  {id : ElementIdentifier}

theorem nil (preferred : Option ℕ) : Faithful [] preferred [] none where
  nodup := List.nodup_nil
  mem_iff _ := ⟨fun h => absurd h List.not_mem_nil, fun h => absurd h.1 List.not_mem_nil⟩
  ordered := List.Pairwise.nil
  inside _ h := by cases h
  points := by
    cases preferred with
    | none => rfl
    | some index => rfl

theorem preferredOf_append (front : List ElementIdentifier) (id : ElementIdentifier)
    (preferred : Option ℕ) :
    preferredOf (front ++ [id]) preferred
      = if preferred = some front.length then (some id).filter Meaningful
        else preferredOf front preferred := by
  unfold preferredOf
  cases preferred with
  | none => rfl
  | some index =>
    show ((front ++ [id])[index]?).filter Meaningful = _
    by_cases hindex : index = front.length
    · rw [if_pos (congrArg some hindex), hindex, List.getElem?_concat_length]
    · rw [if_neg (fun h => hindex (Option.some.inj h))]
      show _ = (front[index]?).filter Meaningful
      refine congrArg (Option.filter Meaningful) ?_
      by_cases hlt : index < front.length
      · exact List.getElem?_append_left hlt
      · rw [List.getElem?_eq_none (by rw [List.length_append, List.length_singleton]; omega),
          List.getElem?_eq_none (by omega)]

theorem ordered_append (h : Faithful front preferred kept position) (id : ElementIdentifier) :
    kept.Pairwise (fun id' id'' => (front ++ [id]).idxOf id' < (front ++ [id]).idxOf id'') := by
  refine List.Pairwise.imp_of_mem (fun {id' id''} hid' hid'' hlt => ?_) h.ordered
  rw [List.idxOf_append_of_mem ((h.mem_iff id').mp hid').1,
    List.idxOf_append_of_mem ((h.mem_iff id'').mp hid'').1]
  exact hlt

theorem append_blank (h : Faithful front preferred kept position)
    (hblank : Meaningful id = false) : Faithful (front ++ [id]) preferred kept position where
  nodup := h.nodup
  mem_iff id' := by
    rw [h.mem_iff, List.mem_append, List.mem_singleton]
    constructor
    · exact fun hmem => ⟨.inl hmem.1, hmem.2⟩
    · rintro ⟨hmem | rfl, hmeaningful⟩
      · exact ⟨hmem, hmeaningful⟩
      · rw [hblank] at hmeaningful
        cases hmeaningful
  ordered := h.ordered_append id
  inside := h.inside
  points := by
    rw [h.points, preferredOf_append]
    by_cases hpreferred : preferred = some front.length
    · rw [if_pos hpreferred, hpreferred]
      unfold preferredOf
      rw [Option.bind_some, List.getElem?_eq_none (le_refl _), Option.filter_some, hblank]
      rfl
    · rw [if_neg hpreferred]

/-- **An identifier that is known** stays where it first occurred. -/
theorem append_known (h : Faithful front preferred kept position)
    (hmeaningful : Meaningful id = true) {index : ℕ} (hindex : kept[index]? = some id) :
    Faithful (front ++ [id]) preferred kept
      (if preferred = some front.length then some index else position) where
  nodup := h.nodup
  mem_iff id' := by
    rw [h.mem_iff, List.mem_append, List.mem_singleton]
    constructor
    · exact fun hmem => ⟨.inl hmem.1, hmem.2⟩
    · rintro ⟨hmem | rfl, hmeaningful'⟩
      · exact ⟨hmem, hmeaningful'⟩
      · exact (h.mem_iff id').mp (List.mem_of_getElem? hindex)
  ordered := h.ordered_append id
  inside index' hindex' := by
    split_ifs at hindex' with hpreferred
    · rw [← Option.some.inj hindex']
      exact (List.getElem?_eq_some_iff.mp hindex).1
    · exact h.inside index' hindex'
  points := by
    rw [preferredOf_append]
    by_cases hpreferred : preferred = some front.length
    · rw [if_pos hpreferred, if_pos hpreferred, Option.filter_some, if_pos hmeaningful]
      exact hindex
    · rw [if_neg hpreferred, if_neg hpreferred]
      exact h.points

theorem append_new (h : Faithful front preferred kept position)
    (hmeaningful : Meaningful id = true) (hnew : id ∉ kept) :
    Faithful (front ++ [id]) preferred (kept ++ [id])
      (if preferred = some front.length then some kept.length else position) where
  nodup := by
    rw [List.nodup_append]
    refine ⟨h.nodup, List.nodup_singleton id, fun id' hid' id'' hid'' heq => hnew ?_⟩
    rw [← List.mem_singleton.mp hid'', ← heq]
    exact hid'
  mem_iff id' := by
    rw [List.mem_append, List.mem_append, h.mem_iff, List.mem_singleton]
    constructor
    · rintro (hmem | rfl)
      · exact ⟨.inl hmem.1, hmem.2⟩
      · exact ⟨.inr rfl, hmeaningful⟩
    · rintro ⟨hmem | rfl, hmeaningful'⟩
      · exact .inl ⟨hmem, hmeaningful'⟩
      · exact .inr rfl
  ordered := by
    have hfront : id ∉ front := fun hmem => hnew ((h.mem_iff id).mpr ⟨hmem, hmeaningful⟩)
    refine List.pairwise_append.mpr ⟨h.ordered_append id, List.pairwise_singleton _ id, ?_⟩
    intro id' hid' id'' hid''
    rw [List.mem_singleton.mp hid'', List.idxOf_append_of_mem ((h.mem_iff id').mp hid').1,
      List.idxOf_append_of_notMem hfront]
    exact Nat.lt_add_right _ (List.idxOf_lt_length_of_mem ((h.mem_iff id').mp hid').1)
  inside index hindex := by
    rw [List.length_append, List.length_singleton]
    split_ifs at hindex with hpreferred
    · rw [← Option.some.inj hindex]
      exact Nat.lt_succ_self _
    · exact Nat.lt_succ_of_lt (h.inside index hindex)
  points := by
    rw [preferredOf_append]
    by_cases hpreferred : preferred = some front.length
    · rw [if_pos hpreferred, if_pos hpreferred, Option.filter_some, if_pos hmeaningful]
      exact List.getElem?_concat_length ..
    · rw [if_neg hpreferred, if_neg hpreferred, ← h.points]
      cases hposition : position with
      | none => rfl
      | some index => exact List.getElem?_append_left (h.inside index hposition)

end Faithful

theorem faithful_gather {front : List ElementIdentifier} {preferred : Option ℕ} {state : Gathered}
    (h : Faithful front preferred state.normalized state.normalizedPreferred)
    (id : ElementIdentifier) :
    Faithful (front ++ [id]) preferred (gather preferred state (id, front.length)).normalized
      (gather preferred state (id, front.length)).normalizedPreferred := by
  unfold gather
  rw [isEmpty_trim]
  by_cases hblank : isBlank id.value = true
  · rw [if_pos hblank]
    exact h.append_blank (by unfold Meaningful; rw [hblank]; rfl)
  · rw [if_neg hblank]
    have hmeaningful : Meaningful id = true := by
      unfold Meaningful
      rw [Bool.eq_false_iff.mpr hblank]
      rfl
    dsimp only
    cases hposition : state.normalized.findIdx? (fun candidate => candidate == id) with
    | none =>
      refine h.append_new hmeaningful (fun hmem => ?_)
      have hnone := List.findIdx?_eq_none_iff.mp hposition id hmem
      rw [beq_self_eq_true] at hnone
      cases hnone
    | some index =>
      obtain ⟨hlt, hid, -⟩ := List.findIdx?_eq_some_iff_getElem.mp hposition
      refine h.append_known hmeaningful ?_
      show state.normalized[index]? = some id
      rw [List.getElem?_eq_getElem hlt]
      exact congrArg some (beq_iff_eq.mp hid)

/-- **Evidence is true to the identifiers it is made of**: those that are not blank are kept, once
each and in the order of their first occurrence, and the position points at the preferred one, if
it is kept. -/
theorem faithful_typed (identifiers : List ElementIdentifier) (preferred : Option ℕ)
    (complete : Bool) :
    Faithful identifiers preferred (typed identifiers preferred complete).identifiers
      (typed identifiers preferred complete).preferred := by
  show Faithful identifiers preferred
    (identifiers.zipIdx.foldl (gather preferred) ⟨[], none⟩).normalized
    (identifiers.zipIdx.foldl (gather preferred) ⟨[], none⟩).normalizedPreferred
  induction identifiers using List.reverseRecOn with
  | nil => exact Faithful.nil preferred
  | append_singleton front id ih =>
    rw [List.zipIdx_append, List.foldl_append, Nat.zero_add, List.zipIdx_singleton, List.foldl_cons,
      List.foldl_nil]
    exact faithful_gather ih id

/-- **A blank identifier is not kept**, and neither is its position, when it is the preferred
one. -/
theorem typed_leaves_out_blank :
    (⟨.unknown, " "⟩ : ElementIdentifier) ∈ [⟨.unknown, " "⟩, ⟨.unknown, "dom-id"⟩]
      ∧ (⟨.unknown, " "⟩ : ElementIdentifier)
        ∉ (typed [⟨.unknown, " "⟩, ⟨.unknown, "dom-id"⟩] (some 0) true).identifiers
      ∧ (typed [⟨.unknown, " "⟩, ⟨.unknown, "dom-id"⟩] (some 0) true).preferred = none := by
  refine ⟨List.mem_cons_self, ?_, ?_⟩
  · decide
  · decide

end IdentifierEvidence

end AgentDesktop
