import AgentDesktop.Completion
import AgentDesktop.Resolve

/-!
# Searchable text settles in one pass

A query of the find command is normalized when it is built, and again when it is evaluated. The
second pass changes nothing: a normalized text has single spaces between its words and none at its
ends, and its characters are lowered. So the matches are those of the query that is normalized
once.

What is asked of the Unicode table is that lowering a lowered text changes nothing, and that
lowering makes neither white space nor a direction control, and does not make a character vanish.
-/

namespace AgentDesktop

namespace SearchText

variable [UnicodeLowercase]

/-! ## The table -/

/-- A character with its case lowered, as the normalization lowers it. -/
def lowered (character : Char) : List Char :=
  if isAscii character then [toAsciiLowercase character]
  else UnicodeLowercase.toLowercase character

/-- **A character that is kept**: it is neither white space nor a direction control. -/
def Kept (character : Char) : Prop :=
  isWhitespace character = false ∧ isBidirectionalControl character = false

/-- **What is asked of the Unicode table**, of the characters beyond the ASCII range. -/
structure LowercaseSettles : Prop where
  /-- Lowering a lowered text changes nothing. -/
  settled : ∀ character, isAscii character = false →
    (UnicodeLowercase.toLowercase character).flatMap lowered
      = UnicodeLowercase.toLowercase character
  /-- No character vanishes. -/
  nonempty : ∀ character, isAscii character = false → UnicodeLowercase.toLowercase character ≠ []
  /-- Neither white space nor a direction control is made. -/
  kept : ∀ character, isAscii character = false → Kept character →
    ∀ small ∈ UnicodeLowercase.toLowercase character, Kept small

omit [UnicodeLowercase] in
theorem isBidirectionalControl_of_isAscii {character : Char} (h : isAscii character = true) :
    isBidirectionalControl character = false := by
  have hlow : character.toNat < 0x80 := of_decide_eq_true h
  unfold isBidirectionalControl
  rw [Bool.eq_false_iff]
  simp only [ne_eq, Bool.or_eq_true, Bool.and_eq_true, decide_eq_true_eq, beq_iff_eq]
  omega

omit [UnicodeLowercase] in
theorem isAscii_toAsciiLowercase {character : Char} (h : isAscii character = true) :
    isAscii (toAsciiLowercase character) = true := by
  have hlow : character.toNat < 0x80 := of_decide_eq_true h
  refine decide_eq_true ?_
  rw [toNat_toAsciiLowercase]
  split_ifs
  · omega
  · exact hlow

namespace LowercaseSettles

variable (h : LowercaseSettles)

include h

theorem lowered_ne_nil (character : Char) : lowered character ≠ [] := by
  unfold lowered
  cases hascii : isAscii character with
  | true => exact List.cons_ne_nil _ _
  | false => exact h.nonempty character hascii

theorem flatMap_lowered (character : Char) :
    (lowered character).flatMap lowered = lowered character := by
  unfold lowered
  cases hascii : isAscii character with
  | true =>
    show (if isAscii (toAsciiLowercase character) then [toAsciiLowercase (toAsciiLowercase character)]
      else UnicodeLowercase.toLowercase (toAsciiLowercase character)) ++ [] = _
    rw [if_pos (isAscii_toAsciiLowercase hascii), toAsciiLowercase_idem]
    rfl
  | false => exact h.settled character hascii

theorem kept_of_mem_lowered {character small : Char} (hkept : Kept character)
    (hsmall : small ∈ lowered character) : Kept small := by
  unfold lowered at hsmall
  cases hascii : isAscii character with
  | true =>
    rw [hascii] at hsmall
    obtain rfl := List.mem_singleton.mp hsmall
    exact ⟨(isWhitespace_toAsciiLowercase character).trans hkept.1,
      isBidirectionalControl_of_isAscii (isAscii_toAsciiLowercase hascii)⟩
  | false =>
    rw [hascii] at hsmall
    exact h.kept character hascii hkept small hsmall

end LowercaseSettles

/-! ## One pass -/

/-- A text with the space that waits. -/
def spaced (normalized : List Char) (pendingSpace : Bool) : List Char :=
  if pendingSpace then normalized ++ [' '] else normalized

theorem gather_of_kept (state : Gathered) {character : Char} (hkept : Kept character) :
    gather state character
      = ⟨spaced state.normalized state.pendingSpace ++ lowered character, false⟩ := by
  unfold gather
  rw [hkept.2, hkept.1]
  rfl

/-- **The characters of a word** are lowered one after the other. -/
theorem foldl_gather_word {word : List Char} (hkept : ∀ character ∈ word, Kept character)
    (hword : word ≠ []) (normalized : List Char) (pendingSpace : Bool) :
    word.foldl gather ⟨normalized, pendingSpace⟩
      = ⟨spaced normalized pendingSpace ++ word.flatMap lowered, false⟩ := by
  induction word generalizing normalized pendingSpace with
  | nil => exact absurd rfl hword
  | cons character word ih =>
    rw [List.forall_mem_cons] at hkept
    rw [List.foldl_cons, gather_of_kept _ hkept.1, List.flatMap_cons, ← List.append_assoc]
    cases word with
    | nil =>
      rw [List.flatMap_nil, List.append_nil]
      rfl
    | cons next word => exact ih hkept.2 (List.cons_ne_nil next word) _ false

/-- **A text that settles**: a second pass leaves it as it is, and a space waits only behind
something. -/
structure Settled (state : Gathered) : Prop where
  /-- A second pass changes nothing. -/
  again : state.normalized.foldl gather ⟨[], false⟩ = ⟨state.normalized, false⟩
  /-- Something stands before a space that waits. -/
  behind : state.pendingSpace = true → state.normalized ≠ []

theorem foldl_gather_spaced {state : Gathered} (h : Settled state) :
    (spaced state.normalized state.pendingSpace).foldl gather ⟨[], false⟩
      = ⟨state.normalized, state.pendingSpace⟩ := by
  cases hpending : state.pendingSpace with
  | false => exact h.again
  | true =>
    show (state.normalized ++ [' ']).foldl gather ⟨[], false⟩ = _
    rw [List.foldl_append, h.again]
    show Gathered.mk state.normalized (!state.normalized.isEmpty) = _
    rw [List.isEmpty_eq_false_iff.mpr (h.behind hpending)]
    rfl

/-- **One character of the first pass**: what it leaves settles. -/
theorem Settled.gather (hcase : LowercaseSettles) {state : Gathered} (h : Settled state)
    (character : Char) : Settled (gather state character) := by
  by_cases hbidi : isBidirectionalControl character = true
  · have hsame : SearchText.gather state character = state := by
      unfold SearchText.gather
      rw [if_pos hbidi]
    rw [hsame]
    exact h
  · rw [Bool.not_eq_true] at hbidi
    cases hspace : isWhitespace character with
    | true =>
      have hwaits : SearchText.gather state character
          = { state with pendingSpace := !state.normalized.isEmpty } := by
        unfold SearchText.gather
        rw [hbidi, hspace]
        rfl
      rw [hwaits]
      refine ⟨h.again, fun hpending hnil => ?_⟩
      rw [show state.normalized = [] from hnil] at hpending
      cases hpending
    | false =>
      have hkept : Kept character := ⟨hspace, hbidi⟩
      rw [gather_of_kept state hkept]
      refine ⟨?_, fun hpending => by cases hpending⟩
      show (spaced state.normalized state.pendingSpace ++ lowered character).foldl
        SearchText.gather ⟨[], false⟩ = _
      rw [List.foldl_append, foldl_gather_spaced h,
        foldl_gather_word (fun small hsmall => hcase.kept_of_mem_lowered hkept hsmall)
          (hcase.lowered_ne_nil character), hcase.flatMap_lowered]

theorem settled_foldl (hcase : LowercaseSettles) (text : List Char) {state : Gathered}
    (h : Settled state) : Settled (text.foldl gather state) := by
  induction text generalizing state with
  | nil => exact h
  | cons character text ih => exact ih (h.gather hcase character)

theorem normalize_normalize (hcase : LowercaseSettles) (value : String) :
    normalize (normalize value) = normalize value := by
  have hsettled : Settled (value.toList.foldl gather ⟨[], false⟩) :=
    settled_foldl hcase value.toList ⟨rfl, fun hpending => by cases hpending⟩
  have hagain := hsettled.again
  unfold normalize
  rw [String.toList_ofList, hagain]

end SearchText

/-! ## Queries -/

namespace LocatorQuery

variable [UnicodeLowercase]

theorem map_normalize_normalize (hcase : SearchText.LowercaseSettles) (text : Option String) :
    (text.map SearchText.normalize).map SearchText.normalize = text.map SearchText.normalize := by
  cases text with
  | none => rfl
  | some text => exact congrArg some (SearchText.normalize_normalize hcase text)

theorem normalizeIdentity_normalizeIdentity (hcase : SearchText.LowercaseSettles)
    (identity : IdentityPredicate) :
    normalizeIdentity (normalizeIdentity identity) = normalizeIdentity identity := by
  unfold normalizeIdentity
  dsimp only
  rw [map_normalize_normalize hcase, map_normalize_normalize hcase, map_normalize_normalize hcase]
  have hrole : (identity.role.map Roles.normalizeRoleQuery).map Roles.normalizeRoleQuery
      = identity.role.map Roles.normalizeRoleQuery := by
    cases identity.role with
    | none => rfl
    | some role => exact congrArg some (Roles.normalizeRoleQuery_idem role)
  rw [hrole]

/-- **Normalizing a query twice is normalizing it once**, in all queries nested in it. -/
theorem normalizeQuery_normalizeQuery (hcase : SearchText.LowercaseSettles) (query : LocatorQuery) :
    normalizeQuery (normalizeQuery query) = normalizeQuery query := by
  induction query using LocatorQuery.induction with
  | step query ihHas ihHasNot =>
    obtain ⟨identity, hasText, exact, states, has, hasNot⟩ := query
    have hhas : (has.map normalizeQuery).map normalizeQuery = has.map normalizeQuery := by
      cases has with
      | none => rfl
      | some nested => exact congrArg some (ihHas nested rfl)
    have hhasNot : (hasNot.map normalizeQuery).map normalizeQuery = hasNot.map normalizeQuery := by
      cases hasNot with
      | none => rfl
      | some nested => exact congrArg some (ihHasNot nested rfl)
    simp only [normalizeQuery, normalizeNested_eq_map, normalizeIdentity_normalizeIdentity hcase,
      map_normalize_normalize hcase, hhas, hhasNot]

end LocatorQuery

/-! ## The find command -/

/-- `FindFilterArgs`. -/
structure FindFilterArgs where
  role : Option String
  name : Option String
  description : Option String
  /-- The native identifier. -/
  nativeId : Option String
  value : Option String
  /-- A text that the element or one below it carries. -/
  text : Option String
  /-- Whether texts are compared whole. -/
  exact : Bool

namespace FindFilterArgs

variable (filter : FindFilterArgs) (states : List StatePredicate)

/-- The query as it is given. -/
def givenQuery : LocatorQuery :=
  ⟨⟨filter.role, filter.name, filter.description, filter.nativeId, filter.value⟩, filter.text,
    filter.exact, states, none, none⟩

variable [UnicodeLowercase]

/-- `locator_query_from_args`. -/
def locatorQueryFromArgs : LocatorQuery :=
  ⟨⟨filter.role, filter.name.map SearchText.normalize,
      filter.description.map SearchText.normalize, filter.nativeId,
      filter.value.map SearchText.normalize⟩,
    filter.text.map SearchText.normalize, filter.exact, states, none, none⟩

theorem normalizeQuery_locatorQueryFromArgs (hcase : SearchText.LowercaseSettles) :
    (filter.locatorQueryFromArgs states).normalizeQuery = (filter.givenQuery states).normalizeQuery := by
  simp only [locatorQueryFromArgs, givenQuery, LocatorQuery.normalizeQuery,
    LocatorQuery.normalizeIdentity, LocatorQuery.map_normalize_normalize hcase]

end FindFilterArgs

/-! ## Matches -/

section

variable [UnicodeLowercase] {query query' : LocatorQuery}

theorem locatorVerdict_congr (h : query.normalizeQuery = query'.normalizeQuery)
    (tree : ObservedTree) : locatorVerdict tree query = locatorVerdict tree query' := by
  funext node
  unfold locatorVerdict
  rw [h]

/-- **Queries that are normalized to one have one answer**, if both are admitted. -/
theorem evaluateLocatorTree_congr [BoundsHasher] (h : query.normalizeQuery = query'.normalizeQuery)
    (hvalid : query.validateQuery = query'.validateQuery) (tree : ObservedTree)
    (request : LocatorResolveRequest) :
    evaluateLocatorTree tree query request = evaluateLocatorTree tree query' request := by
  have hverdict := locatorVerdict_congr h tree
  unfold evaluateLocatorTree verdictsOf evaluationStats matchedIndices
  rw [h, hvalid, hverdict]

end

/-- **Searchable text settles in one pass**: so does a query, with all queries nested in it, and
what the find command asks for is matched by the same elements, whether its texts are normalized
when the query is built or only when it is evaluated. The answer is the same as well, unless one of
the two queries is refused: the limits are on the texts as they are given. -/
theorem normalization_settles [UnicodeLowercase] [BoundsHasher]
    (hcase : SearchText.LowercaseSettles) :
    (∀ value, SearchText.normalize (SearchText.normalize value) = SearchText.normalize value)
      ∧ (∀ query : LocatorQuery, query.normalizeQuery.normalizeQuery = query.normalizeQuery)
      ∧ ∀ (filter : FindFilterArgs) (states : List StatePredicate) (tree : ObservedTree),
        locatorVerdict tree (filter.locatorQueryFromArgs states)
            = locatorVerdict tree (filter.givenQuery states)
          ∧ ∀ request,
            (filter.locatorQueryFromArgs states).validateQuery
                = (filter.givenQuery states).validateQuery →
              evaluateLocatorTree tree (filter.locatorQueryFromArgs states) request
                = evaluateLocatorTree tree (filter.givenQuery states) request := by
  refine ⟨SearchText.normalize_normalize hcase, LocatorQuery.normalizeQuery_normalizeQuery hcase,
    fun filter states tree => ?_⟩
  have hquery := filter.normalizeQuery_locatorQueryFromArgs states hcase
  exact ⟨locatorVerdict_congr hquery tree,
    fun request hvalid => evaluateLocatorTree_congr hquery hvalid tree request⟩

namespace Sample

/-- The capital I with a dot, which lowers to two characters. -/
def dottedCapital : Char := Char.ofNat 0x130

/-- The dot above. -/
def dotAbove : Char := Char.ofNat 0x307

/-- The table, as far as the texts of the sample ask it. -/
@[reducible] def dottedLowercase : UnicodeLowercase :=
  ⟨fun character => if character = dottedCapital then ['i', dotAbove] else [character]⟩

theorem settles_dottedLowercase : @SearchText.LowercaseSettles dottedLowercase := by
  let _ := dottedLowercase
  have hother : ∀ character, isAscii character = false → character ≠ dottedCapital →
      SearchText.lowered character = [character] := by
    intro character hascii hne
    unfold SearchText.lowered
    rw [hascii]
    exact if_neg hne
  refine ⟨fun character hascii => ?_, fun character _ => ?_, fun character _ hkept small hsmall => ?_⟩
  · by_cases hdotted : character = dottedCapital
    · rw [hdotted]
      decide
    · rw [show UnicodeLowercase.toLowercase character = [character] from if_neg hdotted]
      exact (List.flatMap_singleton ..).trans (hother character hascii hdotted)
  · by_cases hdotted : character = dottedCapital
    · rw [show UnicodeLowercase.toLowercase character = ['i', dotAbove] from if_pos hdotted]
      exact List.cons_ne_nil _ _
    · rw [show UnicodeLowercase.toLowercase character = [character] from if_neg hdotted]
      exact List.cons_ne_nil _ _
  · by_cases hdotted : character = dottedCapital
    · rw [show UnicodeLowercase.toLowercase character = ['i', dotAbove] from if_pos hdotted]
        at hsmall
      rw [List.mem_cons, List.mem_singleton] at hsmall
      obtain rfl | rfl := hsmall
      · exact ⟨rfl, rfl⟩
      · exact ⟨rfl, rfl⟩
    · rw [show UnicodeLowercase.toLowercase character = [character] from if_neg hdotted] at hsmall
      rw [List.mem_singleton.mp hsmall]
      exact hkept

/-- A text with white space at its ends and a direction control between its words. -/
def unsettledText : String :=
  String.ofList [' ', dottedCapital, ' ', Char.ofNat 0x200e, '\t', 'X', ' ']

end Sample

/-- A text that is changed by the first pass, and not by the second. -/
theorem normalization_settles_dotted :
    (@SearchText.normalize Sample.dottedLowercase Sample.unsettledText).toList
        = ['i', Sample.dotAbove, ' ', 'x']
      ∧ @SearchText.normalize Sample.dottedLowercase
          (@SearchText.normalize Sample.dottedLowercase Sample.unsettledText)
        = @SearchText.normalize Sample.dottedLowercase Sample.unsettledText :=
  ⟨by decide, (@normalization_settles Sample.dottedLowercase Sample.noBoundsHash
    Sample.settles_dottedLowercase).1 Sample.unsettledText⟩

end AgentDesktop
