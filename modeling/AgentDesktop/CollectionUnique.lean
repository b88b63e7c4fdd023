import AgentDesktop.CollectionItems

/-!
# The only item of a collection

A collection that can be searched has one item for a value, or none, or several. The search
finds out which – except where an element matches at the last depth, before two different items
are found: the search goes down to it, and the walk up from it does not come to an end.

A search that ends well has visited the whole collection and has read what decides whether an
element matches. A role that is not known passes for none.
-/

namespace AgentDesktop

/-- **Where a list begins to fail**: after a part that does not fail, with one more element. -/
theorem exists_first_failure {α : Type} {P : List α → Prop} (hnil : P []) (list : List α)
    (h : ¬P list) :
    ∃ front a back, list = front ++ a :: back ∧ P front ∧ ¬P (front ++ [a]) := by
  induction list using List.reverseRecOn with
  | nil => exact absurd hnil h
  | append_singleton list last ih =>
    by_cases hlist : P list
    · exact ⟨list, last, [], rfl, hlist, h⟩
    · obtain ⟨front, a, back, rfl, hfront, hfail⟩ := ih hlist
      exact ⟨front, a, back ++ [last], List.append_assoc .., hfront, hfail⟩

namespace CollectionFacts

variable {E Object : Type} [DecidableEq Object] (facts : CollectionFacts E Object)

/-! ## What the search is to find -/

omit [DecidableEq Object] in
/-- **What is selected of the items that match**: none of none, the only one, and an error where
there are several. -/
structure IsSelection (items : List Object) (o : Outcome AdapterError (Option E)) : Prop where
  /-- Nothing matches. -/
  none : items = [] → o = .ok none
  /-- One item matches. -/
  one : ∀ item ∈ items, (∀ other ∈ items, other = item) →
    ∃ found, o = .ok (some found) ∧ facts.object found = item
  /-- Several items match. -/
  several : ∀ a ∈ items, ∀ b ∈ items, a ≠ b → o = .error collectionAmbiguous

/-- **The search finds exactly the only item**: in a collection that can be searched it comes to
what is selected of the items that match, and where it ends well, every element of the collection
was visited and is readable. -/
structure SelectsExactly (value : String) (root : E) (o : Outcome AdapterError (Option E))
    (visited : List E) : Prop where
  /-- The item is the only one. -/
  unique : facts.Searchable root value →
    facts.IsSelection (facts.itemsAt value (facts.places root)) o
  /-- Nothing is left out. -/
  complete : ∀ found, o = .ok found → ∀ element, facts.Reaches root element →
    element ∈ visited ∧ facts.Readable value element

/-- The items at some places are one. -/
def OneItem (value : String) (list : List (Place E)) : Prop :=
  ∀ a ∈ facts.itemsAt value list, ∀ b ∈ facts.itemsAt value list, a = b

/-- **Where the search does what it is to do**: a match at the last depth comes after two
different items, and where all places are answered, all roles are known. -/
structure SearchSafe (root : E) (value : String) : Prop where
  /-- Before a match at the last depth there are two different items. -/
  deep : facts.Searchable root value → ∀ front place back,
    facts.places root = front ++ place :: back → facts.MatchesDeep value place →
      ¬facts.OneItem value front
  /-- No role is unknown where nothing else fails. -/
  roles : facts.Answered root value maxSelectNodes (facts.places root) none →
    ∀ element, facts.Reaches root element → facts.RoleKnown element

variable {facts} {root : E} {value : String}

/-! ## Some places -/

theorem itemsAt_append (front back : List (Place E)) :
    facts.itemsAt value (front ++ back) = facts.itemsAt value front ++ facts.itemsAt value back :=
  List.filterMap_append ..

theorem OneItem.front {front back : List (Place E)} (h : facts.OneItem value (front ++ back)) :
    facts.OneItem value front := by
  unfold OneItem at h
  rw [itemsAt_append] at h
  exact fun a ha b hb => h a (List.mem_append_left _ ha) b (List.mem_append_left _ hb)

theorem exists_ne_of_not_oneItem {list : List (Place E)} (h : ¬facts.OneItem value list) :
    ∃ a ∈ facts.itemsAt value list, ∃ b ∈ facts.itemsAt value list, a ≠ b := by
  unfold OneItem at h
  push Not at h
  exact h

namespace Searchable

variable {list : List (Place E)}

/-- **The items that are found** are those that match, if none matches at the last depth. -/
theorem targetsOf_map (h : facts.Searchable root value)
    (hlist : ∀ place ∈ list, place ∈ facts.places root)
    (hdeep : ∀ place ∈ list, ¬facts.MatchesDeep value place) :
    (facts.targetsOf root value list).map facts.object = facts.itemsAt value list := by
  unfold targetsOf itemsAt
  rw [List.map_filterMap]
  refine List.filterMap_congr (fun place hplace => ?_)
  obtain ⟨found, hfound, hitem⟩ := h.target_of_not_deep (hlist place hplace) (hdeep place hplace)
  rw [hfound]
  exact hitem

theorem allSame_targetsOf (h : facts.Searchable root value)
    (hlist : ∀ place ∈ list, place ∈ facts.places root)
    (hdeep : ∀ place ∈ list, ¬facts.MatchesDeep value place) :
    facts.AllSame (facts.targetsOf root value list) ↔ facts.OneItem value list := by
  unfold AllSame OneItem
  rw [← h.targetsOf_map hlist hdeep]
  simp only [List.forall_mem_map]

/-- **Places are answered** where none matches at the last depth and the items are one. -/
theorem answered (h : facts.Searchable root value)
    (hlist : ∀ place ∈ list, place ∈ facts.places root)
    (hlength : list.length ≤ maxSelectNodes)
    (hdeep : ∀ place ∈ list, ¬facts.MatchesDeep value place)
    (hone : facts.OneItem value list) :
    facts.Answered root value maxSelectNodes list none where
  within := hlength
  below := fun place hplace => h.below (hlist place hplace)
  target := fun place hplace => by
    obtain ⟨found, hfound, -⟩ := h.target_of_not_deep (hlist place hplace) (hdeep place hplace)
    exact ⟨found, hfound⟩
  same := (h.allSame_targetsOf hlist hdeep).mpr hone

theorem isSelection_getLast? (h : facts.Searchable root value)
    (hlist : ∀ place ∈ list, place ∈ facts.places root)
    (hdeep : ∀ place ∈ list, ¬facts.MatchesDeep value place)
    (hone : facts.OneItem value list) :
    facts.IsSelection (facts.itemsAt value list)
      (.ok (facts.targetsOf root value list).getLast?) := by
  have hitems := h.targetsOf_map hlist hdeep
  refine ⟨fun hnone => ?_, fun item hitem hall => ?_, fun a ha b hb hne => ?_⟩
  · rw [hnone] at hitems
    rw [List.map_eq_nil_iff.mp hitems]
    rfl
  · have hne : facts.targetsOf root value list ≠ [] := by
      intro hnil
      rw [← hitems, hnil] at hitem
      exact List.not_mem_nil hitem
    refine ⟨(facts.targetsOf root value list).getLast hne,
      congrArg Outcome.ok (List.getLast?_eq_some_getLast hne), hall _ ?_⟩
    rw [← hitems]
    exact List.mem_map_of_mem (List.getLast_mem hne)
  · exact absurd (hone a ha b hb) hne

end Searchable

omit [DecidableEq Object] in
theorem AllSame.append_of_getLast? {elements : List E} {target : Option E}
    (h : facts.AllSame elements)
    (hlast : facts.AllSame (elements.getLast?.toList ++ target.toList)) :
    facts.AllSame (elements ++ target.toList) := by
  cases target with
  | none => simpa using h
  | some target =>
    have hone : ∀ e ∈ elements ++ (some target).toList, facts.object e = facts.object target := by
      intro e he
      cases List.mem_append.mp he with
      | inr htarget => rw [List.mem_singleton.mp htarget]
      | inl hmem =>
        have hne : elements ≠ [] := List.ne_nil_of_mem hmem
        rw [h e hmem _ (List.getLast_mem hne)]
        refine hlast _ (List.mem_append_left _ ?_) target (List.mem_append_right _ (by simp))
        rw [List.getLast?_eq_some_getLast hne]
        exact List.mem_singleton_self _
    exact fun a ha b hb => (hone a ha).trans (hone b hb).symm

/-! ## The only item -/

theorem not_isSelection_error {items : List Object} {error : AdapterError}
    (herror : error ≠ collectionAmbiguous) :
    ¬facts.IsSelection items (.error error : Outcome AdapterError (Option E)) := by
  intro h
  by_cases hone : ∃ a ∈ items, ∃ b ∈ items, a ≠ b
  · obtain ⟨a, ha, b, hb, hne⟩ := hone
    exact herror (Outcome.error.inj (h.several a ha b hb hne))
  · push Not at hone
    cases items with
    | nil => cases h.none rfl
    | cons item others =>
      obtain ⟨found, hfound, -⟩ := h.one item (List.mem_cons_self ..)
        (fun other hother => hone other hother item (List.mem_cons_self ..))
      cases hfound

omit [DecidableEq Object] in
theorem isSelection_ambiguous {items : List Object} (h : ∃ a ∈ items, ∃ b ∈ items, a ≠ b) :
    facts.IsSelection items (.error collectionAmbiguous : Outcome AdapterError (Option E)) := by
  obtain ⟨a, ha, b, hb, hne⟩ := h
  refine ⟨fun hnone => ?_, fun item _ hall => ?_, fun _ _ _ _ _ => rfl⟩
  · rw [hnone] at ha
    exact absurd ha List.not_mem_nil
  · exact absurd ((hall a ha).trans (hall b hb).symm) hne

theorem ownerDepthLimit_ne_ambiguous :
    incompleteSelection "owner_depth_limit" ≠ collectionAmbiguous := by
  intro h
  have hcode := congrArg AdapterError.code h
  cases hcode

namespace Searchable

/-- **The search ends at a match at the last depth**, where one item was found before. -/
theorem scan_of_deep (h : facts.Searchable root value) {front back : List (Place E)}
    {place : Place E} (hsplit : facts.places root = front ++ place :: back)
    (hfront : ∀ p ∈ front, ¬facts.MatchesDeep value p) (hone : facts.OneItem value front)
    (hdeep : facts.MatchesDeep value place) :
    facts.scan root value maxSelectNodes (facts.places root) none
      = .error (incompleteSelection "owner_depth_limit") := by
  have hwithin := h.within
  rw [hsplit] at hwithin ⊢
  rw [List.length_append, List.length_cons] at hwithin
  have hmem : ∀ p ∈ front, p ∈ facts.places root :=
    fun p hp => hsplit ▸ List.mem_append_left _ hp
  have hplace : place ∈ facts.places root :=
    hsplit ▸ List.mem_append_right _ (List.mem_cons_self ..)
  refine facts.scan_of_error (h.answered hmem (by omega) hfront hone) (by omega) ?_
  unfold examine
  rw [h.target_of_deep hplace hdeep]
  rfl

/-- **The search ends at an item that is another one** than those found before. -/
theorem scan_of_other (h : facts.Searchable root value) {front back : List (Place E)}
    {place : Place E} (hsplit : facts.places root = front ++ place :: back)
    (hdeep : ∀ p ∈ front ++ [place], ¬facts.MatchesDeep value p)
    (hone : facts.OneItem value front) (hother : ¬facts.OneItem value (front ++ [place])) :
    facts.scan root value maxSelectNodes (facts.places root) none = .error collectionAmbiguous := by
  have hwithin := h.within
  have hall : ∀ p ∈ front ++ [place], p ∈ facts.places root := by
    intro p hp
    rw [hsplit]
    exact List.append_cons .. ▸ List.mem_append_left _ hp
  have hfront : ∀ p ∈ front, p ∈ front ++ [place] := fun p hp => List.mem_append_left _ hp
  have hplace : place ∈ front ++ [place] := List.mem_append_right _ (List.mem_singleton_self _)
  obtain ⟨found, hfound, -⟩ :=
    h.target_of_not_deep (hall place hplace) (hdeep place hplace)
  have hsame : facts.AllSame (facts.targetsOf root value front) :=
    (h.allSame_targetsOf (fun p hp => hall p (hfront p hp))
      (fun p hp => hdeep p (hfront p hp))).mpr hone
  have hnot : ¬facts.AllSame ((facts.targetsOf root value front).getLast?.toList
      ++ found.toList) := by
    intro hlast
    refine hother ((h.allSame_targetsOf hall hdeep).mp ?_)
    have happend : facts.targetsOf root value (front ++ [place])
        = facts.targetsOf root value front ++ found.toList := by
      unfold targetsOf
      rw [List.filterMap_append]
      exact congrArg _ ((facts.targetsOf_cons hfound).trans (List.append_nil _))
    rw [happend]
    exact hsame.append_of_getLast? hlast
  rw [hsplit] at hwithin ⊢
  rw [List.length_append, List.length_cons] at hwithin
  refine facts.scan_of_error (h.answered (fun p hp => hall p (hfront p hp)) (by omega)
    (fun p hp => hdeep p (hfront p hp)) hone) (by omega) ?_
  unfold examine
  rw [hfound, Option.toList_none, List.nil_append]
  show (facts.keepUnique _ found >>= _) = _
  rw [facts.keepUnique_of_not_same ?_ hnot]
  · rfl
  · intro a ha b hb
    rw [Option.mem_toList] at ha hb
    rw [Option.mem_unique ha hb]

/-- **The only item is selected** if and only if each match at the last depth comes after two
different items. -/
theorem isSelection_iff (h : facts.Searchable root value) :
    facts.IsSelection (facts.itemsAt value (facts.places root)) (Outcome.ofExcept
        (facts.scan root value maxSelectNodes (facts.places root) none))
      ↔ ∀ front place back, facts.places root = front ++ place :: back →
        facts.MatchesDeep value place → ¬facts.OneItem value front := by
  constructor
  · -- a first match at the last depth, with one item before it, is an error
    intro hselection front place back hsplit hplace hone
    obtain ⟨front', place', back', hsplit', hfront, hfirst⟩ :=
      exists_first_failure (P := fun list => ∀ p ∈ list, ¬facts.MatchesDeep value p)
        (fun _ hp => absurd hp List.not_mem_nil) (front ++ [place])
        (fun hall => hall place (List.mem_append_right _ (List.mem_singleton_self _)) hplace)
    have hdeep : facts.MatchesDeep value place' := by
      by_contra hnot
      refine hfirst (fun p hp => ?_)
      cases List.mem_append.mp hp with
      | inl hold => exact hfront p hold
      | inr hnew => rwa [List.mem_singleton.mp hnew]
    have hbefore : front = front' ++ (place' :: back').dropLast := by
      rw [← List.dropLast_append_cons, ← hsplit', List.dropLast_concat]
    rw [hbefore] at hone
    have hwhole : facts.places root = front' ++ place' :: (back' ++ back) := by
      rw [hsplit, List.append_cons, hsplit', List.append_assoc, List.cons_append]
    rw [h.scan_of_deep hwhole hfront hone.front hdeep] at hselection
    exact not_isSelection_error ownerDepthLimit_ne_ambiguous hselection
  · intro hcondition
    by_cases hfine : (∀ p ∈ facts.places root, ¬facts.MatchesDeep value p)
        ∧ facts.OneItem value (facts.places root)
    · rw [facts.scan_of_answered (h.answered (fun _ hp => hp) h.within hfine.1 hfine.2)]
      exact h.isSelection_getLast? (fun _ hp => hp) hfine.1 hfine.2
    · -- the first place that fails is another item, as a match at the last depth cannot be it
      obtain ⟨front, place, back, hsplit, ⟨hfront, hone⟩, hfail⟩ :=
        exists_first_failure (P := fun list => (∀ p ∈ list, ¬facts.MatchesDeep value p)
          ∧ facts.OneItem value list)
          ⟨fun _ hp => absurd hp List.not_mem_nil, fun _ ha => absurd ha List.not_mem_nil⟩ _ hfine
      have hdeep : ∀ p ∈ front ++ [place], ¬facts.MatchesDeep value p := by
        intro p hp
        cases List.mem_append.mp hp with
        | inl hold => exact hfront p hold
        | inr hnew =>
          rw [List.mem_singleton.mp hnew]
          exact fun hplace => hcondition front place back hsplit hplace hone
      have hother : ¬facts.OneItem value (front ++ [place]) := fun hsame => hfail ⟨hdeep, hsame⟩
      rw [h.scan_of_other hsplit hdeep hone hother]
      refine isSelection_ambiguous (exists_ne_of_not_oneItem (fun hsame => hother ?_))
      rw [hsplit, List.append_cons] at hsame
      exact hsame.front

end Searchable

/-! ## Nothing is left out -/

/-- **All elements are at some place** of a collection whose places are answered. -/
theorem Answered.exists_place (h : facts.Answered root value maxSelectNodes (facts.places root) none)
    {element : E} (hreach : facts.Reaches root element) :
    ∃ place ∈ facts.places root, place.element = element := by
  induction hreach with
  | root =>
    obtain ⟨rest, hrest⟩ := facts.exists_placesFrom_eq maxSelectDepth (Place.top root)
    unfold places
    rw [hrest]
    exact ⟨Place.top root, List.mem_cons_self .., rfl⟩
  | child _ hread hchild ih =>
    obtain ⟨place, hplace, rfl⟩ := ih
    obtain ⟨children, hbelow⟩ := h.below place hplace
    obtain ⟨hchildren, hlast⟩ := facts.below_eq_ok_iff.mp hbelow
    obtain rfl := Except.ok.inj (hread.symm.trans hchildren)
    have hdepth : place.depth < (Place.top root).depth + maxSelectDepth := by
      by_contra hge
      rw [hlast (by simpa [Place.depth, Place.top] using hge)] at hchild
      exact List.not_mem_nil hchild
    refine ⟨_, facts.child_mem_placesFrom hplace hdepth ?_, rfl⟩
    unfold childrenOf
    rw [hread]
    exact hchild

/-- **All elements are readable** where the places are answered, if their roles are known. -/
theorem Answered.readable (h : facts.Answered root value maxSelectNodes (facts.places root) none)
    {element : E} (hreach : facts.Reaches root element) (hrole : facts.RoleKnown element) :
    facts.Readable value element := by
  obtain ⟨place, hplace, rfl⟩ := h.exists_place hreach
  obtain ⟨found, hfound⟩ := h.target place hplace
  obtain ⟨children, hbelow⟩ := h.below place hplace
  exact ⟨(facts.decided_iff_matching value place.element).mpr (exists_matching_of_target hfound),
    hrole, children, (facts.below_eq_ok_iff.mp hbelow).1⟩

theorem searchFrom_root (root : E) (value : String) :
    (facts.searchFrom root value maxSelectNodes [(root, 0)] none).1
        = facts.scan root value maxSelectNodes (facts.places root) none
      ∧ ∀ found, facts.scan root value maxSelectNodes (facts.places root) none = .ok found →
        (facts.searchFrom root value maxSelectNodes [(root, 0)] none).2
          = (facts.places root).map Place.element := by
  have hplaces : facts.placesOf [Place.top root] = facts.places root := List.append_nil _
  rw [← hplaces]
  exact facts.searchFrom_eq_scan root value maxSelectNodes [Place.top root] none

/-- **Nothing is left out** of a search that ends well if and only if the roles are known where
all places are answered. -/
theorem complete_iff :
    (∀ found, facts.scan root value maxSelectNodes (facts.places root) none = .ok found →
        ∀ element, facts.Reaches root element →
          element ∈ (facts.searchFrom root value maxSelectNodes [(root, 0)] none).2
            ∧ facts.Readable value element)
      ↔ (facts.Answered root value maxSelectNodes (facts.places root) none →
        ∀ element, facts.Reaches root element → facts.RoleKnown element) := by
  constructor
  · intro h hanswered element hreach
    exact (h _ (facts.scan_of_answered hanswered) element hreach).2.roleKnown
  · intro hroles found hfound element hreach
    have hanswered : facts.Answered root value maxSelectNodes (facts.places root) none :=
      facts.answered_of_scan (fun _ ha => absurd ha List.not_mem_nil) hfound
    refine ⟨?_, hanswered.readable hreach (hroles hanswered element hreach)⟩
    rw [(searchFrom_root root value).2 found hfound]
    obtain ⟨place, hplace, rfl⟩ := hanswered.exists_place hreach
    exact List.mem_map_of_mem hplace

/-- **The search is the search on the places.** -/
theorem outcome_findNamedDescendant {σ : Type} {world : CollectionWorld σ E} {deadline : Deadline}
    (h : facts.Shown world deadline) (root : E) (value : String) (s : σ) :
    (world.findNamedDescendant root value deadline .collection).outcome s
        = Outcome.ofExcept (facts.scan root value maxSelectNodes (facts.places root) none)
      ∧ (world.findNamedDescendant root value deadline .collection).events s
        = (facts.searchFrom root value maxSelectNodes [(root, 0)] none).2 := by
  have hrun := h.searchLoop_sat root value maxSelectNodes [(root, 0)] none s
  exact ⟨hrun.1.trans (congrArg Outcome.ofExcept (searchFrom_root root value).1), hrun.2⟩

/-- **The search for an item finds exactly the only one, and leaves nothing out**, if and only if
the collection is safe to be searched: no element matches at the last depth before two different
items are found, and no role is unknown where the search ends well. -/
theorem selectsExactly_iff {σ : Type} {world : CollectionWorld σ E} {deadline : Deadline}
    (h : facts.Shown world deadline) (root : E) (value : String) (s : σ) :
    facts.SelectsExactly value root
        ((world.findNamedDescendant root value deadline .collection).outcome s)
        ((world.findNamedDescendant root value deadline .collection).events s)
      ↔ facts.SearchSafe root value := by
  obtain ⟨houtcome, hvisited⟩ := outcome_findNamedDescendant h root value s
  rw [houtcome, hvisited]
  have hok : ∀ found, Outcome.ofExcept
      (facts.scan root value maxSelectNodes (facts.places root) none) = .ok found
      ↔ facts.scan root value maxSelectNodes (facts.places root) none = .ok found :=
    fun found => Outcome.ofExcept_eq_ok_iff
  constructor
  · intro hexactly
    refine ⟨fun hsearchable => hsearchable.isSelection_iff.mp (hexactly.unique hsearchable), ?_⟩
    exact complete_iff.mp (fun found hfound => hexactly.complete found ((hok found).mpr hfound))
  · intro hsafe
    refine ⟨fun hsearchable => hsearchable.isSelection_iff.mpr (hsafe.deep hsearchable), ?_⟩
    exact fun found hfound => complete_iff.mpr hsafe.roles found ((hok found).mp hfound)

/-! ## A chain

One element on each of some levels. The last one is a row with a name, or a text field of which
the role is not read. -/

/-- What is read of an element of the chain. -/
def memberRead (native : Option String) (role name : LocatorField String)
    (actions : List String) : CandidateRead where
  role := native
  subrole := none
  evidence := ⟨role, name, .absent, .unknown, .absent, .unknown, ⟨.unknown, .known actions⟩⟩
  invalidElement := false
  stats := .null

/-- A row that can be clicked. -/
def namedRow : CandidateRead :=
  memberRead (some "AXRow") (.known "row") (.known "Inbox") [Capability.click]

/-- A text field of which the role is not read. -/
def unreadField : CandidateRead := memberRead none .unknown .absent []

/-- The chain, by its last level and what is read there. -/
def chain (levels : ℕ) (last : CandidateRead) : CollectionFacts ℕ ℕ where
  object := id
  node := fun e =>
    .ok (if e = levels then last else memberRead (some "AXGroup") (.known "group") .absent [])
  text := fun e => .ok (if e = levels then some "Inbox" else none)
  role := fun e => .ok (if e = levels then last.role else some "AXGroup")
  parent := fun e => .ok (if e = 0 then none else some (e - 1))
  children := fun e => .ok (if e < levels then [e + 1] else [])

/-- A world that answers facts. -/
def answering (facts : CollectionFacts ℕ ℕ) : CollectionWorld Unit ℕ where
  clock := fun s => (0, s)
  sameElement := fun a b => decide (facts.object a = facts.object b)
  readNode := fun e _ s => (facts.node (facts.object e), s)
  readString := fun e name _ s =>
    (if name = "AXRole" then facts.role (facts.object e) else facts.text (facts.object e), s)
  readElement := fun e _ _ s => (facts.parent (facts.object e), s)
  readElements := fun e _ _ s => (facts.children (facts.object e), s)

/-- A deadline that is not over yet. -/
def openDeadline : Deadline := ⟨0, 1, 1, false⟩

theorem shown_answering (facts : CollectionFacts ℕ ℕ) :
    facts.Shown (answering facts) openDeadline where
  clock := fun _ => Nat.one_ne_zero
  sameElement := fun _ _ => rfl
  readNode := fun _ _ _ => rfl
  text := fun _ _ _ => rfl
  role := fun _ _ _ => rfl
  parent := fun _ _ _ => rfl
  children := fun _ _ _ => rfl

theorem chain_element_eq_depth (levels : ℕ) (last : CandidateRead) :
    ∀ place ∈ (chain levels last).places 0, place.element = place.depth := by
  refine (chain levels last).forall_placesFrom rfl (fun place hplace child hchild => ?_)
  have hchildren : (chain levels last).childrenOf place.element
      = if place.element < levels then [place.element + 1] else [] := rfl
  rw [hchildren] at hchild
  split_ifs at hchild
  · rw [List.mem_singleton.mp hchild, hplace]
    rfl
  · exact absurd hchild List.not_mem_nil

theorem searchable_chain : (chain maxSelectDepth namedRow).Searchable 0 "Inbox" where
  readable := fun element _ => by
    have hnode : (chain maxSelectDepth namedRow).node element
        = .ok (if element = maxSelectDepth then namedRow
          else memberRead (some "AXGroup") (.known "group") .absent []) := rfl
    refine ⟨⟨_, hnode, ?_⟩, fun read hread => ?_, _, rfl⟩
    · split_ifs
      · exact ⟨rfl, ⟨_, rfl, fun _ => ⟨rfl, rfl⟩⟩, fun _ _ => ⟨_, rfl⟩⟩
      · exact ⟨rfl, ⟨_, rfl, fun _ => ⟨rfl, rfl⟩⟩, fun _ _ => ⟨_, rfl⟩⟩
    · obtain rfl := Except.ok.inj (hnode.symm.trans hread)
      split_ifs <;> rfl
  roles := fun _ _ => ⟨_, rfl⟩
  linked := fun element children child _ hchildren hchild => by
    obtain rfl := Except.ok.inj hchildren
    split_ifs at hchild
    · rw [List.mem_singleton.mp hchild]
      refine ⟨Nat.succ_ne_zero element, element, ?_, rfl⟩
      show Except.ok (if element + 1 = 0 then none else some (element + 1 - 1)) = _
      rw [if_neg (Nat.succ_ne_zero element), Nat.add_sub_cancel]
    · exact absurd hchild List.not_mem_nil
  within := by decide
  shallow := fun place hplace hdepth => by
    rw [chain_element_eq_depth maxSelectDepth namedRow place hplace, hdepth]
    rfl

theorem searchSafe_chain : (chain 1 namedRow).SearchSafe 0 "Inbox" where
  deep := by
    rintro - front place back hsplit ⟨hdepth, named, hmatching⟩
    have hplace : place ∈ (chain 1 namedRow).places 0 :=
      hsplit ▸ List.mem_append_right _ (List.mem_cons_self ..)
    rw [chain_element_eq_depth 1 namedRow place hplace, hdepth] at hmatching
    cases hmatching
  roles := by
    intro _ element _ read hread
    obtain rfl := Except.ok.inj hread
    show LocatorField.isUnknown (CandidateRead.evidence (if element = 1 then _ else _)).role = false
    split_ifs <;> rfl

theorem selectsExactly_chain :
    (chain 1 namedRow).SelectsExactly "Inbox" 0
      (((answering (chain 1 namedRow)).findNamedDescendant 0 "Inbox" openDeadline
        .collection).outcome ())
      (((answering (chain 1 namedRow)).findNamedDescendant 0 "Inbox" openDeadline
        .collection).events ()) :=
  (selectsExactly_iff (shown_answering (chain 1 namedRow)) 0 "Inbox" ()).mpr searchSafe_chain

/-- **The search fails at a row on its last depth**, although the row is the only item – and it
finds nothing in a chain whose only text field has the text, as the role of the field is not
read. -/
theorem search_misses_the_item :
    (((answering (chain maxSelectDepth namedRow)).findNamedDescendant 0 "Inbox" openDeadline
        .collection).outcome () = .error (incompleteSelection "owner_depth_limit")
      ∧ ¬(chain maxSelectDepth namedRow).SelectsExactly "Inbox" 0
        (((answering (chain maxSelectDepth namedRow)).findNamedDescendant 0 "Inbox" openDeadline
          .collection).outcome ())
        (((answering (chain maxSelectDepth namedRow)).findNamedDescendant 0 "Inbox" openDeadline
          .collection).events ()))
      ∧ ((answering (chain 1 unreadField)).findNamedDescendant 0 "Inbox" openDeadline
        .collection).outcome () = .ok none
      ∧ ¬(chain 1 unreadField).SelectsExactly "Inbox" 0
        (((answering (chain 1 unreadField)).findNamedDescendant 0 "Inbox" openDeadline
          .collection).outcome ())
        (((answering (chain 1 unreadField)).findNamedDescendant 0 "Inbox" openDeadline
          .collection).events ()) := by
  have hdeep : ((answering (chain maxSelectDepth namedRow)).findNamedDescendant 0 "Inbox"
      openDeadline .collection).outcome () = .error (incompleteSelection "owner_depth_limit") := by
    rw [(outcome_findNamedDescendant (shown_answering _) 0 "Inbox" ()).1]
    rfl
  have hunread : ((answering (chain 1 unreadField)).findNamedDescendant 0 "Inbox" openDeadline
      .collection).outcome () = .ok none := by
    rw [(outcome_findNamedDescendant (shown_answering _) 0 "Inbox" ()).1]
    rfl
  refine ⟨⟨hdeep, fun h => ?_⟩, hunread, fun h => ?_⟩
  · have hselection := h.unique searchable_chain
    rw [hdeep] at hselection
    exact not_isSelection_error ownerDepthLimit_ne_ambiguous hselection
  · have hreach : (chain 1 unreadField).Reaches 0 1 :=
      Reaches.root.child rfl (List.mem_singleton_self 1)
    exact absurd ((h.complete none hunread 1 hreach).2.roleKnown _ rfl) (by decide)

end CollectionFacts

end AgentDesktop
