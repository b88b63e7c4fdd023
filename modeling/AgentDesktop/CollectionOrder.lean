import AgentDesktop.CollectionSearch

/-!
# The order of a search

A collection is written down from the top, to the depth the search goes to: each element with the
elements above it, before its children, and the children one after the other. The search with its
stack goes over this list, and ends well if and only if every place of the list is read, no place
at the last depth has children, the list is not longer than the limit, and what is selected at
all places is one item.
-/

namespace AgentDesktop

namespace CollectionFacts

variable {E Object : Type} (facts : CollectionFacts E Object)

/-! ## Places -/

/-- **A place in a collection**: an element, and what leads to it. -/
structure Place (E : Type) where
  element : E
  /-- The elements from this one up to the collection, which is left out. -/
  path : List E

/-- The depth of a place. -/
def Place.depth (place : Place E) : ℕ := place.path.length

/-- What the stack keeps of a place. -/
def Place.entry (place : Place E) : E × ℕ := (place.element, place.depth)

/-- The place of a child. -/
def Place.child (place : Place E) (element : E) : Place E := ⟨element, element :: place.path⟩

@[simp] theorem Place.depth_child (place : Place E) (child : E) :
    (place.child child).depth = place.depth + 1 := rfl

/-- The place of the collection. -/
def Place.top (root : E) : Place E := ⟨root, []⟩

/-- The children that are read. -/
def childrenOf (element : E) : List E := (facts.children (facts.object element)).toOption.getD []

/-- The places from one on, down to a number of levels below it. -/
def placesFrom : ℕ → Place E → List (Place E)
  | 0, place => [place]
  | levels + 1, place =>
    place :: (facts.childrenOf place.element).flatMap (fun child =>
      placesFrom levels (place.child child))

/-- **The places of a collection**, in the order of the search. -/
def places (root : E) : List (Place E) := facts.placesFrom maxSelectDepth (Place.top root)

/-- The places below those on a stack. -/
def placesOf (stack : List (Place E)) : List (Place E) :=
  stack.flatMap (fun place => facts.placesFrom (maxSelectDepth - place.depth) place)

theorem exists_placesFrom_eq (levels : ℕ) (place : Place E) :
    ∃ rest, facts.placesFrom levels place = place :: rest := by
  cases levels with
  | zero => exact ⟨[], rfl⟩
  | succ levels => exact ⟨_, rfl⟩

theorem depth_le_of_mem_placesFrom {levels : ℕ} {top place : Place E}
    (h : place ∈ facts.placesFrom levels top) : place.depth ≤ top.depth + levels := by
  induction levels generalizing top with
  | zero => exact (congrArg Place.depth (List.mem_singleton.mp h)).le
  | succ levels ih =>
    rcases List.mem_cons.mp h with rfl | hbelow
    · exact Nat.le_add_right _ _
    · obtain ⟨child, -, hchild⟩ := List.mem_flatMap.mp hbelow
      have hle := ih hchild
      rw [Place.depth_child] at hle
      omega

theorem depth_le_of_mem_places {root : E} {place : Place E} (h : place ∈ facts.places root) :
    place.depth ≤ maxSelectDepth := by
  have hle : place.depth ≤ (Place.top root).depth + maxSelectDepth :=
    facts.depth_le_of_mem_placesFrom h
  rwa [show (Place.top root).depth = 0 from rfl, Nat.zero_add] at hle

/-- **The children of a place are places**, unless it is at the last level. -/
theorem child_mem_placesFrom {levels : ℕ} {top place : Place E} {child : E}
    (h : place ∈ facts.placesFrom levels top) (hdepth : place.depth < top.depth + levels)
    (hchild : child ∈ facts.childrenOf place.element) :
    place.child child ∈ facts.placesFrom levels top := by
  induction levels generalizing top with
  | zero =>
    rw [List.mem_singleton.mp h] at hdepth
    exact absurd hdepth (Nat.lt_irrefl _)
  | succ levels ih =>
    refine List.mem_cons_of_mem _ (List.mem_flatMap.mpr ?_)
    rcases List.mem_cons.mp h with rfl | hbelow
    · obtain ⟨rest, hrest⟩ := facts.exists_placesFrom_eq levels (place.child child)
      exact ⟨child, hchild, hrest ▸ List.mem_cons_self ..⟩
    · obtain ⟨first, hfirst, hplace⟩ := List.mem_flatMap.mp hbelow
      refine ⟨first, hfirst, ih hplace ?_⟩
      rw [Place.depth_child]
      omega

/-- **What holds of all places**: it holds of the first, and of the children where it holds. -/
theorem forall_placesFrom {Q : Place E → Prop} {levels : ℕ} {top : Place E} (htop : Q top)
    (hchild : ∀ place, Q place → ∀ child ∈ facts.childrenOf place.element, Q (place.child child)) :
    ∀ place ∈ facts.placesFrom levels top, Q place := by
  induction levels generalizing top with
  | zero => exact fun place hplace => List.mem_singleton.mp hplace ▸ htop
  | succ levels ih =>
    refine List.forall_mem_cons.mpr ⟨htop, fun place hplace => ?_⟩
    obtain ⟨child, hmem, hbelow⟩ := List.mem_flatMap.mp hplace
    exact ih (hchild top htop child hmem) place hbelow

/-! ## The search goes over the places -/

section Search

variable [DecidableEq Object]

/-- The search on a list of places. -/
def scan (root : E) (value : String) :
    ℕ → List (Place E) → Option E → Except AdapterError (Option E)
  | _, [], selected => .ok selected
  | 0, _ :: _, _ => .error selectNodeLimit
  | budget + 1, place :: rest, selected => do
    let examined ← facts.examine root value place.element place.depth selected
    scan root value budget rest examined.1

omit [DecidableEq Object] in
theorem below_eq_ok_iff {depth : ℕ} {element : E} {children : List E} :
    facts.below depth element = .ok children
      ↔ facts.children (facts.object element) = .ok children
        ∧ (maxSelectDepth ≤ depth → children = []) := by
  unfold below
  by_cases hdepth : depth < maxSelectDepth
  · rw [if_pos hdepth]
    exact ⟨fun h => ⟨h, fun hle => absurd hdepth (Nat.not_lt.mpr hle)⟩, fun h => h.1⟩
  · rw [if_neg hdepth]
    have hle := Nat.not_lt.mp hdepth
    cases hread : facts.children (facts.object element) with
    | error error => exact ⟨fun h => (by cases h), fun h => (by cases h.1)⟩
    | ok read =>
      show (if read.isEmpty then Except.ok [] else _) = _ ↔ _
      cases read with
      | nil =>
        exact ⟨fun h => ⟨h, fun _ => (Except.ok.inj h).symm⟩, fun h => h.1⟩
      | cons child others =>
        refine ⟨fun h => (by cases h), fun h => ?_⟩
        rw [h.2 hle] at h
        cases h.1

theorem examine_eq_ok {root candidate : E} {value : String} {depth : ℕ} {selected : Option E}
    {examined : Option E × List E}
    (h : facts.examine root value candidate depth selected = .ok examined) :
    (∃ target, facts.target root value candidate = .ok target
        ∧ facts.keepUnique selected target = .ok examined.1)
      ∧ facts.below depth candidate = .ok examined.2 := by
  unfold examine at h
  cases htarget : facts.target root value candidate with
  | error error =>
    rw [htarget] at h
    cases h
  | ok target =>
    rw [htarget] at h
    dsimp only [bind, Except.bind] at h
    cases hkeep : facts.keepUnique selected target with
    | error error =>
      rw [hkeep] at h
      cases h
    | ok kept =>
      rw [hkeep] at h
      dsimp only at h
      cases hbelow : facts.below depth candidate with
      | error error =>
        rw [hbelow] at h
        cases h
      | ok children =>
        rw [hbelow] at h
        obtain rfl := Except.ok.inj h
        exact ⟨⟨target, rfl, hkeep⟩, rfl⟩

omit [DecidableEq Object] in
theorem placesOf_cons {place : Place E} {stack : List (Place E)} {children : List E}
    (hbelow : facts.below place.depth place.element = .ok children) :
    facts.placesOf (place :: stack)
      = place :: facts.placesOf (children.map place.child ++ stack) := by
  obtain ⟨hread, hlast⟩ := facts.below_eq_ok_iff.mp hbelow
  have hchildren : facts.childrenOf place.element = children := by
    unfold childrenOf
    rw [hread]
    rfl
  unfold placesOf
  rw [List.flatMap_cons, List.flatMap_append, List.flatMap_map]
  rcases Nat.lt_or_ge place.depth maxSelectDepth with hlt | hge
  · obtain ⟨levels, hlevels⟩ := Nat.exists_eq_add_of_lt hlt
    have hfuel : maxSelectDepth - place.depth = levels + 1 := by omega
    have hbelowFuel : ∀ child, maxSelectDepth - (place.child child).depth = levels := by
      intro child
      rw [Place.depth_child]
      omega
    rw [hfuel]
    show place :: (facts.childrenOf place.element).flatMap (fun child =>
      facts.placesFrom levels (place.child child)) ++ _ = _
    rw [hchildren, List.cons_append]
    refine congrArg (fun l => place :: (l ++ _)) ?_
    refine List.flatMap_congr (fun child _ => ?_)
    show _ = facts.placesFrom (maxSelectDepth - (place.child child).depth) (place.child child)
    rw [hbelowFuel child]
  · rw [hlast hge, Nat.sub_eq_zero_of_le hge]
    rfl

theorem searchFrom_cons_error {root : E} {value : String} {budget : ℕ} {candidate : E}
    {depth : ℕ} {stack : List (E × ℕ)} {selected : Option E} {error : AdapterError}
    (h : facts.examine root value candidate depth selected = .error error) :
    facts.searchFrom root value (budget + 1) ((candidate, depth) :: stack) selected
      = (.error error, [candidate]) := by
  unfold searchFrom
  rw [h]

theorem searchFrom_cons_ok {root : E} {value : String} {budget : ℕ} {candidate : E} {depth : ℕ}
    {stack : List (E × ℕ)} {selected : Option E} {examined : Option E × List E}
    (h : facts.examine root value candidate depth selected = .ok examined) :
    facts.searchFrom root value (budget + 1) ((candidate, depth) :: stack) selected
      = ((facts.searchFrom root value budget
            (CollectionWorld.entriesBelow depth examined.2 ++ stack) examined.1).1,
          candidate :: (facts.searchFrom root value budget
            (CollectionWorld.entriesBelow depth examined.2 ++ stack) examined.1).2) := by
  conv_lhs => unfold searchFrom
  rw [h]

/-- **The search with its stack goes over the places**: it comes to what the list comes to, and
if that is no error, it has visited them all. -/
theorem searchFrom_eq_scan (root : E) (value : String) (budget : ℕ) (stack : List (Place E))
    (selected : Option E) :
    (facts.searchFrom root value budget (stack.map Place.entry) selected).1
        = facts.scan root value budget (facts.placesOf stack) selected
      ∧ ∀ found, facts.scan root value budget (facts.placesOf stack) selected = .ok found →
        (facts.searchFrom root value budget (stack.map Place.entry) selected).2
          = (facts.placesOf stack).map Place.element := by
  induction budget generalizing stack selected with
  | zero =>
    cases stack with
    | nil => exact ⟨rfl, fun _ _ => rfl⟩
    | cons place stack =>
      obtain ⟨rest, hrest⟩ := facts.exists_placesFrom_eq (maxSelectDepth - place.depth) place
      have hplaces : facts.placesOf (place :: stack) = place :: (rest ++ facts.placesOf stack) := by
        unfold placesOf
        rw [List.flatMap_cons, hrest, List.cons_append]
      rw [hplaces]
      exact ⟨rfl, fun _ h => by cases h⟩
  | succ budget ih =>
    cases stack with
    | nil => exact ⟨rfl, fun _ _ => rfl⟩
    | cons place stack =>
      have hplaces : ∃ rest, facts.placesOf (place :: stack) = place :: rest := by
        obtain ⟨rest, hrest⟩ := facts.exists_placesFrom_eq (maxSelectDepth - place.depth) place
        refine ⟨rest ++ facts.placesOf stack, ?_⟩
        unfold placesOf
        rw [List.flatMap_cons, hrest, List.cons_append]
      cases hexamine : facts.examine root value place.element place.depth selected with
      | error error =>
        obtain ⟨rest, hplaces⟩ := hplaces
        rw [List.map_cons, Place.entry, facts.searchFrom_cons_error hexamine, hplaces]
        unfold scan
        rw [hexamine]
        exact ⟨rfl, fun _ h => by cases h⟩
      | ok examined =>
        obtain ⟨-, hbelow⟩ := facts.examine_eq_ok hexamine
        have hentries : CollectionWorld.entriesBelow place.depth examined.2
            ++ stack.map Place.entry = (examined.2.map place.child ++ stack).map Place.entry := by
          unfold CollectionWorld.entriesBelow
          rw [List.map_append, List.map_map]
          rfl
        rw [List.map_cons, Place.entry, facts.searchFrom_cons_ok hexamine, hentries,
          facts.placesOf_cons hbelow]
        unfold scan
        rw [hexamine]
        obtain ⟨hsame, hvisited⟩ := ih (examined.2.map place.child ++ stack) examined.1
        exact ⟨hsame, fun found hfound => congrArg _ (hvisited found hfound)⟩

/-! ## When it ends well -/

/-- The items that are found at some places. -/
def targetsOf (root : E) (value : String) (list : List (Place E)) : List E :=
  list.filterMap (fun place => (facts.target root value place.element).toOption.join)

omit [DecidableEq Object] in
/-- Elements of one object. -/
def AllSame (elements : List E) : Prop :=
  ∀ a ∈ elements, ∀ b ∈ elements, facts.object a = facts.object b

/-- **Places that are answered**: they are not too many, what is needed of each is read, none at
the last depth has children, and what is found at them is one item. -/
structure Answered (root : E) (value : String) (budget : ℕ) (list : List (Place E))
    (selected : Option E) : Prop where
  /-- They are not too many. -/
  within : list.length ≤ budget
  /-- Their children are read, and those at the last depth have none. -/
  below : ∀ place ∈ list, ∃ children, facts.below place.depth place.element = .ok children
  /-- What they belong to is read. -/
  target : ∀ place ∈ list, ∃ target, facts.target root value place.element = .ok target
  /-- What is found is one item. -/
  same : facts.AllSame (selected.toList ++ facts.targetsOf root value list)

omit [DecidableEq Object] in
theorem AllSame.sublist {facts : CollectionFacts E Object} {elements elements' : List E}
    (h : facts.AllSame elements) (hsub : ∀ e ∈ elements', e ∈ elements) :
    facts.AllSame elements' :=
  fun a ha b hb => h a (hsub a ha) b (hsub b hb)

theorem keepUnique_of_same {selected target : Option E}
    (h : facts.AllSame (selected.toList ++ target.toList)) :
    facts.keepUnique selected target = .ok (target.or selected) := by
  cases target with
  | none => rfl
  | some target =>
    have hnot : ¬selected.any (fun previous => !facts.same previous target) = true := by
      cases selected with
      | none => exact Bool.false_ne_true
      | some previous =>
        have hobject : facts.object previous = facts.object target :=
          h previous (by simp) target (by simp)
        unfold same
        simp [hobject]
    unfold keepUnique
    exact if_neg hnot

theorem keepUnique_of_not_same {selected target : Option E}
    (hselected : facts.AllSame selected.toList)
    (h : ¬facts.AllSame (selected.toList ++ target.toList)) :
    facts.keepUnique selected target = .error collectionAmbiguous := by
  cases target with
  | none => exact absurd (by simpa using hselected) h
  | some target =>
    have hany : selected.any (fun previous => !facts.same previous target) = true := by
      cases selected with
      | none => exact absurd (fun a ha b hb => by simp at ha hb; rw [ha, hb]) h
      | some previous =>
        unfold same
        by_contra hobject
        have hobject : facts.object previous = facts.object target := by simpa using hobject
        refine h (fun a ha b hb => ?_)
        have hone : ∀ e ∈ (some previous).toList ++ (some target).toList,
            facts.object e = facts.object target := by
          intro e he
          rcases List.mem_pair.mp he with rfl | rfl
          · exact hobject
          · rfl
        rw [hone a ha, hone b hb]
    unfold keepUnique
    exact if_pos hany

theorem same_of_keepUnique {selected target kept : Option E}
    (hselected : facts.AllSame selected.toList)
    (h : facts.keepUnique selected target = .ok kept) :
    facts.AllSame (selected.toList ++ target.toList) ∧ kept = target.or selected := by
  by_cases hsame : facts.AllSame (selected.toList ++ target.toList)
  · rw [facts.keepUnique_of_same hsame] at h
    exact ⟨hsame, (Except.ok.inj h).symm⟩
  · rw [facts.keepUnique_of_not_same hselected hsame] at h
    cases h

omit [DecidableEq Object] in
theorem allSame_or_append_iff {selected target : Option E} {others : List E} :
    facts.AllSame (selected.toList ++ (target.toList ++ others))
      ↔ facts.AllSame (selected.toList ++ target.toList)
        ∧ facts.AllSame ((target.or selected).toList ++ others) := by
  cases target with
  | none =>
    simp only [Option.toList_none, List.nil_append, List.append_nil, Option.none_or]
    refine ⟨fun h => ⟨h.sublist (fun e he => List.mem_append_left _ he), h⟩, fun h => h.2⟩
  | some target =>
    simp only [Option.some_or]
    constructor
    · intro h
      refine ⟨h.sublist (fun e he => ?_), h.sublist (fun e he => List.mem_append_right _ he)⟩
      rcases List.mem_append.mp he with hold | hnew
      · exact List.mem_append_left _ hold
      · exact List.mem_append_right _ (List.mem_append_left _ hnew)
    · rintro ⟨hfirst, hrest⟩
      have hone : ∀ e ∈ selected.toList ++ ((some target).toList ++ others),
          facts.object e = facts.object target := by
        intro e he
        rcases List.mem_append.mp he with hold | hnew
        · exact hfirst e (List.mem_append_left _ hold) target (List.mem_append_right _ (by simp))
        · exact hrest e hnew target (List.mem_append_left _ (by simp))
      exact fun a ha b hb => (hone a ha).trans (hone b hb).symm

theorem targetsOf_cons {root : E} {value : String} {place : Place E} {rest : List (Place E)}
    {target : Option E} (h : facts.target root value place.element = .ok target) :
    facts.targetsOf root value (place :: rest)
      = target.toList ++ facts.targetsOf root value rest := by
  unfold targetsOf
  cases target with
  | none => exact List.filterMap_cons_none (by rw [h]; rfl)
  | some target => exact List.filterMap_cons_some (by rw [h]; rfl)

theorem answered_cons {root : E} {value : String} {budget : ℕ} {place : Place E}
    {rest : List (Place E)} {selected target : Option E}
    (htarget : facts.target root value place.element = .ok target) :
    facts.Answered root value (budget + 1) (place :: rest) selected
      ↔ (∃ children, facts.below place.depth place.element = .ok children)
        ∧ facts.AllSame (selected.toList ++ target.toList)
        ∧ facts.Answered root value budget rest (target.or selected) := by
  constructor
  · intro h
    have hsame := h.same
    rw [facts.targetsOf_cons htarget] at hsame
    obtain ⟨hfirst, hrest⟩ := facts.allSame_or_append_iff.mp hsame
    exact ⟨h.below place (List.mem_cons_self ..), hfirst, Nat.le_of_succ_le_succ h.within,
      fun p hp => h.below p (List.mem_cons_of_mem _ hp),
      fun p hp => h.target p (List.mem_cons_of_mem _ hp), hrest⟩
  · rintro ⟨hbelow, hfirst, hrest⟩
    refine ⟨Nat.succ_le_succ hrest.within, List.forall_mem_cons.mpr ⟨hbelow, hrest.below⟩,
      List.forall_mem_cons.mpr ⟨⟨target, htarget⟩, hrest.target⟩, ?_⟩
    rw [facts.targetsOf_cons htarget]
    exact facts.allSame_or_append_iff.mpr ⟨hfirst, hrest.same⟩

theorem examine_of_target {root candidate : E} {value : String} {depth : ℕ}
    {selected target : Option E} {children : List E}
    (htarget : facts.target root value candidate = .ok target)
    (hsame : facts.AllSame (selected.toList ++ target.toList))
    (hbelow : facts.below depth candidate = .ok children) :
    facts.examine root value candidate depth selected = .ok (target.or selected, children) := by
  unfold examine
  rw [htarget]
  dsimp only [bind, Except.bind]
  rw [facts.keepUnique_of_same hsame, hbelow]
  rfl

omit [DecidableEq Object] in
theorem getLast?_toList (found : Option E) : found.toList.getLast? = found := by
  cases found <;> rfl

/-- **A list that is answered** ends well, with the item that was found last. -/
theorem scan_of_answered {root : E} {value : String} {budget : ℕ} {list : List (Place E)}
    {selected : Option E} (h : facts.Answered root value budget list selected) :
    facts.scan root value budget list selected
      = .ok ((selected.toList ++ facts.targetsOf root value list).getLast?) := by
  induction list generalizing budget selected with
  | nil =>
    unfold targetsOf scan
    cases budget <;> cases selected <;> rfl
  | cons place rest ih =>
    cases budget with
    | zero => exact absurd h.within (Nat.not_succ_le_zero _)
    | succ budget =>
      obtain ⟨target, htarget⟩ := h.target place (List.mem_cons_self ..)
      obtain ⟨⟨children, hbelow⟩, hfirst, hrest⟩ := (facts.answered_cons htarget).mp h
      unfold scan
      rw [facts.examine_of_target htarget hfirst hbelow, facts.targetsOf_cons htarget]
      show facts.scan root value budget rest (target.or selected) = _
      rw [ih hrest, List.getLast?_append, List.getLast?_append, List.getLast?_append,
        getLast?_toList, getLast?_toList, getLast?_toList, Option.or_assoc]

/-- **A list that ends well is answered.** -/
theorem answered_of_scan {root : E} {value : String} {budget : ℕ} {list : List (Place E)}
    {selected found : Option E} (hselected : facts.AllSame selected.toList)
    (h : facts.scan root value budget list selected = .ok found) :
    facts.Answered root value budget list selected := by
  induction list generalizing budget selected with
  | nil =>
    refine ⟨Nat.zero_le _, fun _ hp => absurd hp List.not_mem_nil,
      fun _ hp => absurd hp List.not_mem_nil, ?_⟩
    unfold targetsOf
    rw [List.filterMap_nil, List.append_nil]
    exact hselected
  | cons place rest ih =>
    cases budget with
    | zero => cases h
    | succ budget =>
      unfold scan at h
      cases hexamine : facts.examine root value place.element place.depth selected with
      | error error =>
        rw [hexamine] at h
        cases h
      | ok examined =>
        rw [hexamine] at h
        obtain ⟨⟨target, htarget, hkeep⟩, hbelow⟩ := facts.examine_eq_ok hexamine
        obtain ⟨hfirst, hkept⟩ := facts.same_of_keepUnique hselected hkeep
        have hone : facts.AllSame (target.or selected).toList := by
          have hall : facts.AllSame (selected.toList ++ target.toList)
              ∧ facts.AllSame ((target.or selected).toList ++ []) :=
            facts.allSame_or_append_iff.mp (by simpa using hfirst)
          simpa using hall.2
        have h : facts.scan root value budget rest examined.1 = .ok found := h
        rw [hkept] at h
        exact (facts.answered_cons htarget).mpr ⟨⟨_, hbelow⟩, hfirst, ih hone h⟩

/-- **A place that fails after places that are answered** ends the search with its error. -/
theorem scan_of_error {root : E} {value : String} {budget : ℕ} {front back : List (Place E)}
    {place : Place E} {selected : Option E} {error : AdapterError}
    (h : facts.Answered root value budget front selected) (hbudget : front.length < budget)
    (herror : facts.examine root value place.element place.depth
      ((selected.toList ++ facts.targetsOf root value front).getLast?) = .error error) :
    facts.scan root value budget (front ++ place :: back) selected = .error error := by
  induction front generalizing budget selected with
  | nil =>
    cases budget with
    | zero => exact absurd hbudget (Nat.lt_irrefl _)
    | succ budget =>
      have hlast : (selected.toList ++ facts.targetsOf root value []).getLast? = selected := by
        unfold targetsOf
        cases selected <;> rfl
      rw [hlast] at herror
      rw [List.nil_append]
      unfold scan
      rw [herror]
      rfl
  | cons first front ih =>
    cases budget with
    | zero => exact absurd hbudget (Nat.not_lt_zero _)
    | succ budget =>
      obtain ⟨target, htarget⟩ := h.target first (List.mem_cons_self ..)
      obtain ⟨⟨children, hbelow⟩, hfirst, hrest⟩ := (facts.answered_cons htarget).mp h
      rw [List.cons_append]
      unfold scan
      rw [facts.examine_of_target htarget hfirst hbelow]
      refine ih hrest (Nat.lt_of_succ_lt_succ hbudget) ?_
      rw [facts.targetsOf_cons htarget, List.getLast?_append, List.getLast?_append,
        getLast?_toList, getLast?_toList, Option.or_assoc] at herror
      rw [List.getLast?_append, getLast?_toList]
      exact herror

end Search

end CollectionFacts

end AgentDesktop
