import AgentDesktop.ForestProjection
import AgentDesktop.ReadComplete
import AgentDesktop.TraversalAccounts

/-!
# Complete subtrees

What a walk calls complete has no gap: each child of an element stands below it, with the
index it has in the native list, and is complete itself. There are two exceptions, and both
can be read off the tree. On the last level that was asked for, the children of an element
are counted and not walked; and the children of an element whose role could not be read are
those that an element without a role has.

So an element that can be reached from a complete node stands in the tree, unless the way to
it leads through one of these exceptions (`Observed.presents`).
-/

namespace AgentDesktop

namespace LocatorTraversal

/-! ## Ways through the tree -/

/-- **A way from an element down to another**, by the indices of the children. -/
inductive NativeGraph.Path (graph : NativeGraph) : AXElement → List ℕ → AXElement → Prop
  /-- The way from an element to itself. -/
  | here (element : AXElement) : Path graph element [] element
  /-- A way from a child on. -/
  | child {element child target : AXElement} {index : ℕ} {path : List ℕ}
      (hchild : (graph.children element)[index]? = some child)
      (hpath : Path graph child path target) : Path graph element (index :: path) target

/-- **A way from a node down to another**, by the indices of the children in the native tree. -/
inductive At : ObservedSubtree → List ℕ → ObservedSubtree → Prop
  /-- The way from a node to itself. -/
  | here (subtree : ObservedSubtree) : At subtree [] subtree
  /-- A way from a child on. -/
  | child {subtree child node : ObservedSubtree} {index : ℕ} {path : List ℕ}
      (hchild : child ∈ subtree.children) (hindex : child.sourceChildIndex = some index)
      (hat : At child path node) : At subtree (index :: path) node

/-! ## What a subtree says of its element

Completeness is a promise about elements that were never read, so it cannot be stated of the tree
alone. The relation below ties a subtree to the element it stands for; where it is complete, its
children stand for all the children of the element, but for what it leaves out. -/

variable {σ : Type}

/-- **A node tells what was read from an element**, but for the object that is retained. -/
def ReadFrom (locator : Locator σ) (element : AXElement) (subtree : ObservedSubtree) : Prop :=
  ∃ visit walk read retainedObject, visit.element = element
    ∧ (readVisited locator visit walk).1 = .ok read ∧ read.invalidElement = false
    ∧ subtree.evidence = { read.evidence with
        identifiers := { read.evidence.identifiers with retainedObject } }

/-- The role of a node is not known. -/
def RoleUnread (subtree : ObservedSubtree) : Prop := subtree.evidence.role.known? = none

/-- **A subtree says of an element, observed on a level, what there is**: it was read from it, its
nodes stand for elements, and where it is complete, for all children; or, on the last level, it
tells how many children there are. -/
inductive Observed (locator : Locator σ) (graph : NativeGraph) :
    AXElement → UInt8 → ObservedSubtree → Prop
  /-- The children were walked, a level further down unless the element is a wrapper. -/
  | walked {element : AXElement} {depth : UInt8} {subtree : ObservedSubtree} (wrapper : Bool)
      (elements : List AXElement) (hread : ReadFrom locator element subtree)
      (hindexed : ∀ child ∈ subtree.children, ∃ index, child.sourceChildIndex = some index
        ∧ index < elements.length)
      (hbelow : ∀ child ∈ subtree.children, ∀ index below,
        child.sourceChildIndex = some index → elements[index]? = some below →
          Observed locator graph below (depth + (if wrapper then 0 else 1)) child)
      (hall : subtree.completeness.subtreeComplete = true →
        (RoleUnread subtree ∨ elements = graph.children element)
          ∧ ∀ index < elements.length, ∃ child ∈ subtree.children,
              child.sourceChildIndex = some index
                ∧ child.completeness.subtreeComplete = true) :
      Observed locator graph element depth subtree
  /-- The children were counted. -/
  | counted {element : AXElement} {subtree : ObservedSubtree}
      (hread : ReadFrom locator element subtree) (hnone : subtree.children = [])
      (hcount : subtree.completeness.subtreeComplete = true → RoleUnread subtree
        ∨ subtree.childrenCount = countToTell (graph.children element).length) :
      Observed locator graph element locator.request.maxLogicalDepth subtree

/-- **What a node leaves out** although it is complete. -/
def LeavesOut (locator : Locator σ) (graph : NativeGraph) (element : AXElement)
    (depth : UInt8) (subtree : ObservedSubtree) : Prop :=
  RoleUnread subtree
    ∨ (depth = locator.request.maxLogicalDepth ∧ subtree.children = []
      ∧ subtree.childrenCount = countToTell (graph.children element).length)

/-- **A subtree presents what can be reached from an element**, but for what one of its nodes leaves
out. -/
def Presents (locator : Locator σ) (graph : NativeGraph) (element : AXElement)
    (subtree : ObservedSubtree) : Prop :=
  ∀ path target, graph.Path element path target →
    (∃ node depth, At subtree path node ∧ Observed locator graph target depth node)
      ∨ ∃ before after between node depth, path = before ++ after ∧ after ≠ []
        ∧ graph.Path element before between ∧ At subtree before node
        ∧ Observed locator graph between depth node
        ∧ LeavesOut locator graph between depth node

section Observed

variable {locator : Locator σ} {graph : NativeGraph}

/-- **A complete subtree presents what can be reached from its element.** -/
theorem Observed.presents {element : AXElement} {depth : UInt8} {subtree : ObservedSubtree}
    (hobserved : Observed locator graph element depth subtree)
    (hcomplete : subtree.completeness.subtreeComplete = true) :
    Presents locator graph element subtree := by
  intro path target hpath
  induction hpath generalizing depth subtree with
  | here element => exact Or.inl ⟨subtree, depth, .here subtree, hobserved⟩
  | @child element child target index path hchild hpath ih =>
    have hleaves : LeavesOut locator graph element depth subtree →
        ∃ before after between node depth', index :: path = before ++ after ∧ after ≠ []
          ∧ graph.Path element before between ∧ At subtree before node
          ∧ Observed locator graph between depth' node
          ∧ LeavesOut locator graph between depth' node :=
      fun hleaves => ⟨[], index :: path, element, subtree, depth, rfl, List.cons_ne_nil _ _,
        .here element, .here subtree, hobserved, hleaves⟩
    cases hobserved with
    | counted hread hnone hcount =>
      refine Or.inr (hleaves ?_)
      rcases hcount hcomplete with hunread | htold
      · exact Or.inl hunread
      · exact Or.inr ⟨rfl, hnone, htold⟩
    | walked wrapper elements hread hindexed hbelow hall =>
      obtain ⟨hlisted, hfull⟩ := hall hcomplete
      rcases hlisted with hunread | rfl
      · exact Or.inr (hleaves (Or.inl hunread))
      · have hlt : index < (graph.children element).length :=
          (List.getElem?_eq_some_iff.mp hchild).1
        obtain ⟨node, hnode, hindex, hcomplete'⟩ := hfull index hlt
        rcases ih (hbelow node hnode index child hindex hchild) hcomplete' with
          ⟨found, depth', hat, hfound⟩ | ⟨before, after, between, found, depth', rfl, hafter,
            hbefore, hat, hfound, hleaves'⟩
        · exact Or.inl ⟨found, depth', .child hnode hindex hat, hfound⟩
        · exact Or.inr ⟨index :: before, after, between, found, depth', rfl, hafter,
            .child hchild hbefore, .child hnode hindex hat, hfound, hleaves'⟩

/-- **Every node of a subtree stands for an element.** -/
theorem Observed.at {element : AXElement} {depth : UInt8} {subtree node : ObservedSubtree}
    {path : List ℕ} (hobserved : Observed locator graph element depth subtree)
    (hat : At subtree path node) : ∃ below depth', Observed locator graph below depth' node := by
  induction hat generalizing element depth with
  | here subtree => exact ⟨element, depth, hobserved⟩
  | @child subtree child node index path hchild hindex hat ih =>
    cases hobserved with
    | counted _ hnone _ =>
      rw [hnone] at hchild
      exact absurd hchild List.not_mem_nil
    | walked wrapper elements hread hindexed hbelow _ =>
      obtain ⟨index', hindex', hlt⟩ := hindexed child hchild
      exact ih (hbelow child hchild index' _ hindex' (List.getElem?_eq_getElem hlt))

end Observed

/-! ## The children -/

section Gathers

variable {locator : Locator σ} {graph : NativeGraph}

theorem Observed.placed {element : AXElement} {depth : UInt8} {subtree : ObservedSubtree}
    (h : Observed locator graph element depth subtree) (index : ℕ) (certain : Bool) :
    Observed locator graph element depth
      ({ subtree with sourceChildIndex := some index }.withPredecessorsComplete certain) := by
  cases h with
  | walked wrapper elements hread hindexed hbelow hall =>
    exact .walked wrapper elements hread hindexed hbelow hall
  | counted hread hnone hcount => exact .counted hread hnone hcount

/-- **What was gathered of the first children of an element.** -/
structure Gathers (locator : Locator σ) (graph : NativeGraph) (elements : List AXElement)
    (depth : UInt8) (certain : Bool) (count : ℕ) (gathering : Gathering) : Prop where
  /-- Every child has an index. -/
  indexed : ∀ child ∈ gathering.children, ∃ index, child.sourceChildIndex = some index
    ∧ index < elements.length
  /-- It says of the element with this index what there is. -/
  below : ∀ child ∈ gathering.children, ∀ index element,
    child.sourceChildIndex = some index → elements[index]? = some element →
      Observed locator graph element depth child
  /-- Nothing is complete that was not from the beginning. -/
  certain : gathering.complete = true → certain = true
  /-- Where nothing is missing, every child is there and complete. -/
  all : gathering.complete = true → ∀ index < count, ∃ child ∈ gathering.children,
    child.sourceChildIndex = some index ∧ child.completeness.subtreeComplete = true

variable {elements : List AXElement} {depth : UInt8} {certain : Bool} {count : ℕ}
  {gathering : Gathering}

theorem Gathers.missing (h : Gathers locator graph elements depth certain count gathering)
    (count' : ℕ) (predecessorsComplete : Bool) :
    Gathers locator graph elements depth certain count'
      ⟨gathering.children, false, predecessorsComplete⟩ :=
  ⟨h.indexed, h.below, nofun, nofun⟩

theorem Gathers.keep (h : Gathers locator graph elements depth certain count gathering)
    {element : AXElement} {subtree : ObservedSubtree} (helement : elements[count]? = some element)
    (hobserved : Observed locator graph element depth subtree) :
    Gathers locator graph elements depth certain (count + 1) (gathering.keep count subtree) where
  indexed := by
    intro child hchild
    rcases List.mem_append.mp hchild with hold | hnew
    · exact h.indexed child hold
    · obtain rfl := List.mem_singleton.mp hnew
      exact ⟨count, rfl, (List.getElem?_eq_some_iff.mp helement).1⟩
  below := by
    intro child hchild index below hindex hbelow
    rcases List.mem_append.mp hchild with hold | hnew
    · exact h.below child hold index below hindex hbelow
    · obtain rfl := List.mem_singleton.mp hnew
      obtain rfl : count = index := Option.some.inj hindex
      obtain rfl := Option.some.inj (helement.symm.trans hbelow)
      exact hobserved.placed count gathering.predecessorsComplete
  certain := fun hcomplete => h.certain (Bool.and_eq_true_iff.mp hcomplete).1
  all := by
    intro hcomplete index hindex
    obtain ⟨hbefore, hsubtree⟩ := Bool.and_eq_true_iff.mp hcomplete
    rcases Nat.lt_succ_iff_lt_or_eq.mp hindex with hlt | rfl
    · obtain ⟨child, hchild, hat⟩ := h.all hbefore index hlt
      exact ⟨child, List.mem_append_left _ hchild, hat⟩
    · exact ⟨_, List.mem_append_right _ (List.mem_singleton_self _), rfl, hsubtree⟩

end Gathers

/-! ## The walk

The walk is bounded by its levels, and the argument is an induction on those that are left: what a
visit says of its element follows from what the visits one level below say of the children. -/

/-- On a level, every visit says of its element what there is. -/
def VisitObserves (locator : Locator σ) (graph : NativeGraph) (rawDepth : UInt8) : Prop :=
  ∀ (element : AXElement) (logicalDepth : UInt8) (walk : Walk σ) (subtree : ObservedSubtree),
    logicalDepth ≤ locator.request.maxLogicalDepth →
    (visit locator element logicalDepth rawDepth walk).1 = .ok (some subtree) →
      Observed locator graph element logicalDepth subtree

section Levels

variable {locator : Locator σ} {graph : NativeGraph} {logicalDepth rawDepth : UInt8}

/-- **The loop gathers the children**, if the visit of each says what there is. -/
theorem visitEach_gathers
    (hlogical : logicalDepth ≤ locator.request.maxLogicalDepth)
    (hbelow : rawDepth < locator.request.maxRawDepth →
      VisitObserves locator graph (saturatingAddU8 rawDepth 1))
    {all : List AXElement} {total childIndex : ℕ} {certain : Bool} {gathering gathering' : Gathering}
    {elements : List AXElement}
    (hdepth : elements ≠ [] → rawDepth < locator.request.maxRawDepth) {walk : Walk σ}
    (hrest : all.drop childIndex = elements)
    (hgathered : Gathers locator graph all logicalDepth certain childIndex gathering)
    (hend : (visitEach locator logicalDepth rawDepth total childIndex gathering elements hdepth
      walk).1 = .ok gathering') :
    Gathers locator graph all logicalDepth certain all.length gathering' := by
  induction elements generalizing childIndex gathering walk with
  | nil =>
    rw [visitEach] at hend
    obtain rfl := Except.ok.inj hend
    have hlength : all.length ≤ childIndex := List.drop_eq_nil_iff.mp hrest
    exact ⟨hgathered.indexed, hgathered.below, hgathered.certain,
      fun hcomplete index hindex => hgathered.all hcomplete index (hindex.trans_le hlength)⟩
  | cons child rest ih =>
    have hchild : all[childIndex]? = some child := by
      rw [← List.head?_drop, hrest]
      rfl
    have hrest' : all.drop (childIndex + 1) = rest := by
      rw [← List.tail_drop, hrest]
      rfl
    rw [visitEach] at hend
    generalize remainingBudget locator walk = timed at hend
    obtain ⟨time, timed⟩ := timed
    cases time with
    | none =>
      obtain rfl := Except.ok.inj hend
      exact hgathered.missing _ _
    | some time =>
      dsimp only at hend
      cases hvisit : visit locator child logicalDepth (saturatingAddU8 rawDepth 1) timed with
      | mk outcome visited =>
        rw [hvisit] at hend
        cases outcome with
        | error error => cases hend
        | ok subtree =>
          cases subtree with
          | none => exact ih _ hrest' (hgathered.missing _ _) hend
          | some subtree =>
            have hobserved := hbelow (hdepth (List.cons_ne_nil _ _)) child logicalDepth timed
              subtree hlogical (by rw [hvisit])
            exact ih _ hrest' (hgathered.keep hchild hobserved) hend

/-- **The children are gathered**, and complete only if all of them were read. -/
theorem visitChildren_gathers
    (hlogical : logicalDepth ≤ locator.request.maxLogicalDepth)
    (hbelow : rawDepth < locator.request.maxRawDepth →
      VisitObserves locator graph (saturatingAddU8 rawDepth 1))
    {read : ChildRead} {walk : Walk σ} {children : List ObservedSubtree} {complete : Bool}
    (hend : (visitChildren locator read logicalDepth rawDepth walk).1 = .ok (children, complete)) :
    ∃ predecessorsComplete, Gathers locator graph read.elements logicalDepth
      (read.complete && !read.truncated) read.elements.length
      ⟨children, complete, predecessorsComplete⟩ := by
  rw [visitChildren] at hend
  generalize (if (read.complete && !read.truncated) = true then walk
    else walk.withArena TraversalArena.markIncomplete) = marked at hend
  have hstart : Gathers locator graph read.elements logicalDepth
      (read.complete && !read.truncated) 0
      ⟨[], read.complete && !read.truncated, read.prefixCertain⟩ :=
    ⟨fun _ hchild => absurd hchild List.not_mem_nil,
      fun _ hchild => absurd hchild List.not_mem_nil, id,
      fun _ index hindex => absurd hindex (Nat.not_lt_zero index)⟩
  split_ifs at hend with hdeep
  · -- below the last level of the native tree
    obtain ⟨rfl, rfl⟩ := Prod.mk.inj (Except.ok.inj hend)
    exact ⟨read.prefixCertain, hstart.missing _ _⟩
  · have hshallow : read.elements ≠ [] → rawDepth < locator.request.maxRawDepth :=
      fun hsome => UInt8.not_le.mp (fun hle => hdeep ⟨hle, hsome⟩)
    cases heach : visitEach locator logicalDepth rawDepth read.elements.length 0
        ⟨[], read.complete && !read.truncated, read.prefixCertain⟩ read.elements hshallow
        marked with
    | mk outcome each =>
      rw [heach] at hend
      cases outcome with
      | error error => cases hend
      | ok gathering =>
        obtain ⟨rfl, rfl⟩ := Prod.mk.inj (Except.ok.inj hend)
        refine ⟨gathering.predecessorsComplete, ?_⟩
        exact visitEach_gathers hlogical hbelow hshallow List.drop_zero hstart (by rw [heach])

theorem leave_eq_some {visit : Visit} {read : NodeRead} {children : List ObservedSubtree}
    {childrenCount : Option ℕ} {complete : Bool} {walk : Walk σ} {left : Option ObservedSubtree}
    (hend : (leave locator visit read children childrenCount complete walk).1 = .ok left) :
    ∃ subtree, left = some subtree ∧ subtree.children = children
      ∧ subtree.completeness.subtreeComplete = complete ∧ subtree.childrenCount = childrenCount
      ∧ ∃ retainedObject, subtree.evidence = { read.evidence with
        identifiers := { read.evidence.identifiers with retainedObject } } := by
  unfold leave at hend
  dsimp only at hend
  generalize (if complete = true then walk.giveUp visit.element
    else (walk.giveUp visit.element).withArena TraversalArena.markIncomplete) = left' at hend
  cases hcapture : (locator.source.capture visit.element left'.world).1 with
  | error error =>
    rw [hcapture] at hend
    cases hend
  | ok token =>
    rw [hcapture] at hend
    exact ⟨_, (Except.ok.inj hend).symm, rfl, rfl, rfl, _, rfl⟩

theorem leave_structurallyComplete {visit : Visit} {read : NodeRead}
    {children : List ObservedSubtree} {childrenCount : Option ℕ} {complete : Bool} {walk : Walk σ}
    (hmarked : (leave locator visit read children childrenCount complete
      walk).2.arena.structurallyComplete = true) : complete = true := by
  cases complete with
  | true => rfl
  | false =>
    unfold leave at hmarked
    dsimp only at hmarked
    rw [if_neg Bool.false_ne_true] at hmarked
    cases hcapture : (locator.source.capture visit.element
        ((walk.giveUp visit.element).withArena TraversalArena.markIncomplete).world).1 with
    | error error =>
      rw [hcapture] at hmarked
      exact hmarked
    | ok token =>
      rw [hcapture] at hmarked
      exact hmarked

/-- **What a visit reads tells the children**, unless the role is not known. -/
theorem readVisited_tells (hanswers : locator.source.Answers graph) {visit : Visit} {walk : Walk σ}
    {read : NodeRead} (hread : (readVisited locator visit walk).1 = .ok read)
    (hvalid : read.invalidElement = false) :
    read.evidence.role.known? = none
      ∨ TellsChildren (graph.children visit.element) read.childRead := by
  unfold readVisited at hread
  dsimp only at hread
  generalize hresult : (readNode locator.source walk.context visit.element _ locator.deadline
    _).run _ = result at hread
  obtain ⟨outcome, state⟩ := result
  cases outcome with
  | error error => exact nomatch hread
  | ok found =>
    obtain rfl := Except.ok.inj hread
    exact readNode_tells hanswers walk.context visit.element _ locator.deadline _ _ found
      (by rw [hresult]) hvalid

/-- On the last level an element is no wrapper, and its children would be one level further. -/
theorem depth_of_boundary {depth limit : UInt8} (wrapper : Bool) (hdepth : depth ≤ limit)
    (hboundary : limit < depth + (if wrapper then 0 else 1)) : depth = limit := by
  refine UInt8.le_antisymm hdepth (UInt8.le_iff_toNat_le.mpr ?_)
  have hbound := depth.toNat_lt
  have hlt := UInt8.lt_iff_toNat_lt.mp hboundary
  rw [UInt8.toNat_add] at hlt
  cases wrapper with
  | true =>
    change limit.toNat < (depth.toNat + 0) % 2 ^ 8 at hlt
    omega
  | false =>
    change limit.toNat < (depth.toNat + 1) % 2 ^ 8 at hlt
    omega

/-- **A visit says of its element what there is**, if those one level below do. -/
theorem visit_observes_of_below (hanswers : locator.source.Answers graph)
    (hbelow : rawDepth < locator.request.maxRawDepth →
      VisitObserves locator graph (saturatingAddU8 rawDepth 1)) :
    VisitObserves locator graph rawDepth := by
  intro element logicalDepth walk subtree hlogical hend
  rw [visit] at hend
  generalize enter locator ⟨element, logicalDepth, rawDepth⟩ walk = entered at hend
  obtain ⟨entering, entered⟩ := entered
  cases entering with
  | false => cases hend
  | true =>
    dsimp only at hend
    cases hvisited : readVisited locator ⟨element, logicalDepth, rawDepth⟩ entered with
    | mk outcome visited =>
      rw [hvisited] at hend
      cases outcome with
      | error error => cases hend
      | ok read =>
        have htells := readVisited_tells hanswers (congrArg Prod.fst hvisited)
        dsimp only at hend htells
        generalize hchildDepth : logicalDepth + (if read.webWrapper then 0 else 1)
          = childLogicalDepth at hend
        split_ifs at hend with hinvalid hboundary
        · unfold leaveInvalid at hend
          split_ifs at hend
          cases hend
        · -- the children are counted
          rw [← hchildDepth] at hboundary
          obtain rfl := depth_of_boundary read.webWrapper hlogical hboundary
          obtain ⟨left, hleft, hnone, hcomplete, hcount, retained, hevidence⟩ := leave_eq_some hend
          obtain rfl := Option.some.inj hleft
          refine .counted ⟨_, entered, read, retained, rfl, congrArg Prod.fst hvisited,
            Bool.eq_false_iff.mpr hinvalid, hevidence⟩ hnone (fun hwhole => ?_)
          unfold RoleUnread
          rw [hevidence, hcount]
          exact (htells (Bool.eq_false_iff.mpr hinvalid)).imp_right
            (fun htells => by rw [(htells (hcomplete.symm.trans hwhole)).1])
        · cases hchildren : visitChildren locator read.childRead childLogicalDepth rawDepth
              (descend locator read (ownChildren read visited)) with
          | mk outcome under =>
            rw [hchildren] at hend
            cases outcome with
            | error error => cases hend
            | ok gathered =>
              obtain ⟨children, complete⟩ := gathered
              obtain ⟨certain, hgathers⟩ := visitChildren_gathers (UInt8.not_lt.mp hboundary)
                hbelow (congrArg Prod.fst hchildren)
              obtain ⟨left, hleft, rfl, rfl, -, retained, hevidence⟩ := leave_eq_some hend
              obtain rfl := Option.some.inj hleft
              subst hchildDepth
              refine .walked read.webWrapper read.childRead.elements
                ⟨_, entered, read, retained, rfl, congrArg Prod.fst hvisited,
                  Bool.eq_false_iff.mpr hinvalid, hevidence⟩ hgathers.indexed
                hgathers.below (fun hwhole => ⟨?_, hgathers.all hwhole⟩)
              unfold RoleUnread
              rw [hevidence]
              refine (htells (Bool.eq_false_iff.mpr hinvalid)).imp_right (fun htells => ?_)
              obtain ⟨hread, hloaded⟩ := Bool.and_eq_true_iff.mp (hgathers.certain hwhole)
              exact htells.elements_eq hread (by rwa [Bool.not_eq_true'] at hloaded)

/-- **Every visit says of its element what there is.** -/
theorem visit_observes (hanswers : locator.source.Answers graph) :
    VisitObserves locator graph rawDepth := by
  induction hleft : locator.request.maxRawDepth.toNat - rawDepth.toNat generalizing rawDepth with
  | zero =>
    refine visit_observes_of_below hanswers (fun hlt => ?_)
    -- there is no level below the last one
    exact absurd hleft (Nat.sub_ne_zero_of_lt (UInt8.lt_iff_toNat_lt.mp hlt))
  | succ left ih =>
    refine visit_observes_of_below hanswers (fun hlt => ih ?_)
    rw [toNat_saturatingAddU8_one hlt, Nat.sub_add_eq, hleft]
    rfl

theorem visit_structurallyComplete {element : AXElement} {walk : Walk σ}
    {subtree : ObservedSubtree}
    (hend : (visit locator element logicalDepth rawDepth walk).1 = .ok (some subtree))
    (hmarked : (visit locator element logicalDepth rawDepth
      walk).2.arena.structurallyComplete = true) :
    subtree.completeness.subtreeComplete = true := by
  have hleave : ∀ {at' : Visit} {read : NodeRead} {children : List ObservedSubtree}
      {count : Option ℕ} {complete : Bool} {below : Walk σ},
      (leave locator at' read children count complete below).1 = .ok (some subtree) →
      (leave locator at' read children count complete below).2.arena.structurallyComplete = true →
        subtree.completeness.subtreeComplete = true := by
    intro at' read children count complete below hend hmarked
    obtain ⟨left, hleft, -, rfl, -⟩ := leave_eq_some hend
    obtain rfl := Option.some.inj hleft
    exact leave_structurallyComplete hmarked
  rw [visit] at hend hmarked
  generalize enter locator ⟨element, logicalDepth, rawDepth⟩ walk = entered at hend hmarked
  obtain ⟨entering, entered⟩ := entered
  cases entering with
  | false => cases hend
  | true =>
    dsimp only at hend hmarked
    generalize readVisited locator ⟨element, logicalDepth, rawDepth⟩ entered = visited
      at hend hmarked
    obtain ⟨outcome, visited⟩ := visited
    cases outcome with
    | error error => cases hend
    | ok read =>
      dsimp only at hend hmarked
      generalize logicalDepth + (if read.webWrapper then 0 else 1) = childLogicalDepth
        at hend hmarked
      split_ifs at hend hmarked with hinvalid hboundary
      · unfold leaveInvalid at hend
        split_ifs at hend
        cases hend
      · exact hleave hend hmarked
      · generalize visitChildren locator read.childRead childLogicalDepth rawDepth
          (descend locator read (ownChildren read visited)) = under at hend hmarked
        obtain ⟨outcome, under⟩ := under
        cases outcome with
        | error error => cases hend
        | ok gathered => exact hleave hend hmarked

end Levels

/-! ## The tree -/

theorem At.mem_entries {subtree node : ObservedSubtree} {path : List ℕ} (h : At subtree path node)
    (start : RefPath) : (start ++ path, node) ∈ subtree.entries start := by
  induction h generalizing start with
  | here subtree =>
    rw [entries_eq, List.append_nil]
    exact List.mem_cons_self
  | @child subtree child node index path hchild hindex hat ih =>
    have hbelow : ∀ (children : List ObservedSubtree) (order : ℕ), child ∈ children →
        (start ++ index :: path, node) ∈ entriesBelow start order children := by
      intro children order hmem
      induction children generalizing order with
      | nil => exact absurd hmem List.not_mem_nil
      | cons first rest ihrest =>
        rw [entriesBelow]
        rcases List.mem_cons.mp hmem with rfl | hrest
        · refine List.mem_append_left _ ?_
          rw [hindex, Option.getD_some, List.append_cons start index path]
          exact ih (start ++ [index])
        · exact List.mem_append_right _ (ihrest (order + 1) hrest)
    rw [entries_eq]
    exact List.mem_cons_of_mem _ (hbelow subtree.children 0 hchild)

/-- **A tree has a node at a native path**, with what was observed. -/
def Shown (tree : ObservedTree) (path : List ℕ) (subtree : ObservedSubtree) : Prop :=
  ∃ node ∈ tree.nodes, node.path = path ∧ node.evidence = subtree.evidence
    ∧ node.childrenCount = subtree.childrenCount

theorem At.shown {root node : ObservedSubtree} {path : List ℕ} {complete : Bool}
    {tree : ObservedTree} (h : At root path node) (hlaid : LaidOut [root] complete tree) :
    Shown tree path node := by
  have hentry : (path, node) ∈ forestEntries [root] := by
    unfold forestEntries
    rw [List.flatMap_singleton]
    exact h.mem_entries []
  obtain ⟨i, hi, hentry⟩ := List.mem_iff_getElem.mp hentry
  obtain ⟨hlength, hnodes⟩ := List.forall₂_iff_get.mp hlaid.inPreorder
  have hnode := hnodes i (hlength.symm ▸ hi) hi
  rw [List.get_eq_getElem, List.get_eq_getElem, hentry] at hnode
  exact ⟨_, List.getElem_mem _, hnode.1, hnode.2.1, hnode.2.2.1⟩

theorem conclude_eq_ok {root : Option ObservedSubtree} {source : ObservationSource}
    {arena : TraversalArena} {tree : ObservedTree} {ready : Bool} {stats : TraversalStats}
    (h : conclude root source arena = .ok (tree, ready, stats)) :
    ∃ subtree, root = some subtree ∧ LaidOut [subtree] arena.structurallyComplete tree := by
  unfold conclude at h
  obtain ⟨finished, -, h⟩ := Except.bind_eq_ok_iff.mp h
  cases root with
  | none => cases h
  | some subtree =>
    obtain ⟨built, hroots, h⟩ := Except.bind_eq_ok_iff.mp h
    obtain rfl := congrArg Prod.fst (Except.ok.inj h)
    exact ⟨subtree, rfl, laidOut_of_fromRoots hroots⟩

/-- **What is called complete has no gap.** In the tree of an observation every node was read from
an element; and whatever can be reached from the element of a complete node stands in the tree,
at the path of its native indices, unless on the way there is a node that leaves its children out.
If the observation is structurally complete, its root is complete. -/
theorem build_complete (locator : Locator σ) (graph : NativeGraph)
    (hanswers : locator.source.Answers graph) (root : AXElement) (source : ObservationSource)
    (context : TreeBuildContext) (world : σ) {tree : ObservedTree} {ready : Bool}
    {stats : TraversalStats}
    (hbuilt : (build locator root source (locator.new context world)).1
      = .ok (tree, ready, stats)) :
    ∃ observed, LaidOut [observed]
        (build locator root source (locator.new context world)).2.arena.structurallyComplete tree
      ∧ Observed locator graph root 0 observed
      ∧ ((build locator root source (locator.new context world)).2.arena.structurallyComplete
          = true → observed.completeness.subtreeComplete = true)
      ∧ ∀ path node, At observed path node → Shown tree path node
        ∧ ∃ element depth, Observed locator graph element depth node
          ∧ (node.completeness.subtreeComplete = true →
            Presents locator graph element node) := by
  rw [build_snd]
  cases hvisit : (visit locator root 0 0 ((locator.new context world).withArena
      (·.addHandles 1))).1 with
  | error error =>
    unfold build at hbuilt
    generalize visit locator root 0 0 ((locator.new context world).withArena (·.addHandles 1))
      = visited at hbuilt hvisit
    obtain ⟨outcome, walk⟩ := visited
    dsimp only at hvisit
    rw [hvisit] at hbuilt
    cases hbuilt
  | ok subtree =>
    rw [build_fst source hvisit] at hbuilt
    obtain ⟨observed, rfl, hlaid⟩ := conclude_eq_ok hbuilt
    have hobserved := visit_observes hanswers root 0 _ observed UInt8.zero_le hvisit
    refine ⟨observed, hlaid, hobserved, visit_structurallyComplete hvisit,
      fun path node hat => ⟨hat.shown hlaid, ?_⟩⟩
    obtain ⟨element, depth, hbelow⟩ := hobserved.at hat
    exact ⟨element, depth, hbelow, hbelow.presents⟩

/-! ## What is left out -/

namespace Sample

/-- An application that answers from a tree, and may or may not tell the roles. -/
def answering (graph : NativeGraph) (readable : Bool) : NodeSource ℕ :=
  { circularSource with
    childCount := fun element attributeName _ =>
      pure (((graph.elements element attributeName).map List.length).elim
        (.error .attributeUnsupported) .ok)
    copyPage := fun element attributeName index number _ =>
      pure ((graph.elements element attributeName).elim (.error .attributeUnsupported)
        (fun elements => .ok ((elements.drop index).take number)))
    fetchNodeAttrs := fun element _ _ _ =>
      pure ⟨{ NodeAttrs.empty with role := if readable then graph.role element else none },
        .absent, .absent, ⟨1, 1, 0, 0, false⟩, ⟨0, false, 0, false, false, 0⟩, 0⟩ }

theorem answering_answers (graph : NativeGraph) (readable : Bool) :
    (answering graph readable).Answers graph where
  counted := by
    intro element attributeName deadline state count hcount
    change (((graph.elements element attributeName).map List.length).elim
      (.error .attributeUnsupported) .ok : Except AXError ℕ) = .ok count at hcount
    cases helements : graph.elements element attributeName with
    | none =>
      rw [helements] at hcount
      cases hcount
    | some elements =>
      rw [helements] at hcount
      exact ⟨elements, rfl, (Except.ok.inj hcount).symm⟩
  absent := by
    intro element attributeName deadline state error herror _
    change (((graph.elements element attributeName).map List.length).elim
      (.error .attributeUnsupported) .ok : Except AXError ℕ) = .error error at herror
    cases helements : graph.elements element attributeName with
    | none => rfl
    | some elements =>
      rw [helements] at herror
      cases herror
  paged := by
    intro element attributeName index number deadline state page hpage
    change ((graph.elements element attributeName).elim (.error .attributeUnsupported)
      (fun elements => .ok ((elements.drop index).take number)) :
        Except AXError (List AXElement)) = .ok page at hpage
    cases helements : graph.elements element attributeName with
    | none =>
      rw [helements] at hpage
      cases hpage
    | some elements =>
      rw [helements] at hpage
      exact ⟨elements, rfl, (Except.ok.inj hpage).symm⟩
  roleRead := by
    intro element requirements deadline usage state
    cases readable with
    | false => exact Or.inl rfl
    | true => exact Or.inr rfl

/-- A group with one child. -/
def groupGraph : NativeGraph where
  elements := fun element attributeName =>
    if element = ⟨1⟩ ∧ attributeName = "AXChildren" then some [⟨2⟩] else none
  role := fun _ => some "AXGroup"

/-- A browser with one column, which has no other children. -/
def browserGraph : NativeGraph where
  elements := fun element attributeName =>
    if element = ⟨1⟩ ∧ attributeName = "AXChildren" then some []
    else if element = ⟨1⟩ ∧ attributeName = "AXColumns" then some [⟨2⟩]
    else none
  role := fun _ => some "AXBrowser"

/-- A search as deep as is said. -/
def answeringLocator (graph : NativeGraph) (readable : Bool) (maxLogicalDepth : UInt8) :
    Locator ℕ :=
  { circularLocator with
    source := answering graph readable
    request := { circularLocator.request with maxLogicalDepth } }

/-- Where it looks. -/
def groupsWindow : ObservationSource :=
  .window ⟨"w1", "Groups", "Editor", 7, none, none, ⟨true, true, none, none⟩⟩ .window

/-- What it finds. -/
def outcome (graph : NativeGraph) (readable : Bool) (maxLogicalDepth : UInt8) :
    Except AdapterError (ObservedTree × Bool × TraversalStats) :=
  (build (answeringLocator graph readable maxLogicalDepth) ⟨1⟩ groupsWindow
    ((answeringLocator graph readable maxLogicalDepth).new ⟨none, none, false⟩ 0)).1

/-- Whether nothing is missing, and the native paths. -/
def shape (result : ObservedTree × Bool × TraversalStats) : Bool × List RefPath :=
  (result.1.structurallyComplete, result.1.nodes.map ObservedNode.path)

theorem shape_group : (outcome groupGraph true 0).toOption.map shape = some (true, [[]]) := by
  unfold outcome build
  rw [visit]
  decide +kernel

theorem shape_browser : (outcome browserGraph false 5).toOption.map shape = some (true, [[]]) := by
  unfold outcome build
  rw [visit]
  unfold visitChildren visitEach
  decide +kernel

end Sample

theorem Sample.ok_of_shape
    {result : Except AdapterError (ObservedTree × Bool × TraversalStats)}
    (hshape : result.toOption.map shape = some (true, [[]])) :
    ∃ tree ready stats, result = .ok (tree, ready, stats) ∧ tree.structurallyComplete = true
      ∧ tree.nodes.map ObservedNode.path = [[]] := by
  obtain ⟨⟨tree, ready, stats⟩, hresult, hshape⟩ := Option.map_eq_some_iff.mp hshape
  obtain ⟨hcomplete, hpaths⟩ := Prod.mk.inj hshape
  exact ⟨tree, ready, stats, Except.eq_ok_of_toOption hresult, hcomplete, hpaths⟩

theorem build_complete_sample : ∃ tree ready stats,
    (build (Sample.answeringLocator Sample.groupGraph true 0) ⟨1⟩ Sample.groupsWindow
      ((Sample.answeringLocator Sample.groupGraph true 0).new ⟨none, none, false⟩ 0)).1
        = .ok (tree, ready, stats)
    ∧ ∃ observed, LaidOut [observed]
        (build (Sample.answeringLocator Sample.groupGraph true 0) ⟨1⟩ Sample.groupsWindow
          ((Sample.answeringLocator Sample.groupGraph true 0).new ⟨none, none, false⟩
            0)).2.arena.structurallyComplete tree
      ∧ Observed (Sample.answeringLocator Sample.groupGraph true 0) Sample.groupGraph ⟨1⟩ 0 observed
      ∧ ((build (Sample.answeringLocator Sample.groupGraph true 0) ⟨1⟩ Sample.groupsWindow
          ((Sample.answeringLocator Sample.groupGraph true 0).new ⟨none, none, false⟩
            0)).2.arena.structurallyComplete = true →
          observed.completeness.subtreeComplete = true)
      ∧ ∀ path node, At observed path node → Shown tree path node
        ∧ ∃ element depth,
          Observed (Sample.answeringLocator Sample.groupGraph true 0) Sample.groupGraph element
            depth node
          ∧ (node.completeness.subtreeComplete = true →
            Presents (Sample.answeringLocator Sample.groupGraph true 0) Sample.groupGraph element
              node) := by
  obtain ⟨tree, ready, stats, hbuilt, -⟩ := Sample.ok_of_shape Sample.shape_group
  exact ⟨tree, ready, stats, hbuilt, build_complete
    (Sample.answeringLocator Sample.groupGraph true 0) Sample.groupGraph
    (Sample.answering_answers Sample.groupGraph true) ⟨1⟩ Sample.groupsWindow ⟨none, none, false⟩ 0
    hbuilt⟩

/-- **Something may be left out although nothing is missing**: the child of a group on the last
level, and the column of a browser whose role could not be read. -/
theorem complete_leaves_out :
    (∃ tree ready stats, (Sample.answering Sample.groupGraph true).Answers Sample.groupGraph
        ∧ Sample.outcome Sample.groupGraph true 0 = .ok (tree, ready, stats)
        ∧ tree.structurallyComplete = true ∧ Sample.groupGraph.Path ⟨1⟩ [0] ⟨2⟩
        ∧ tree.nodes.map ObservedNode.path = [[]])
      ∧ ∃ tree ready stats,
        (Sample.answering Sample.browserGraph false).Answers Sample.browserGraph
          ∧ Sample.outcome Sample.browserGraph false 5 = .ok (tree, ready, stats)
          ∧ tree.structurallyComplete = true ∧ Sample.browserGraph.Path ⟨1⟩ [0] ⟨2⟩
          ∧ tree.nodes.map ObservedNode.path = [[]] := by
  refine ⟨?_, ?_⟩
  · obtain ⟨tree, ready, stats, htree, hcomplete, hpaths⟩ := Sample.ok_of_shape Sample.shape_group
    exact ⟨tree, ready, stats, Sample.answering_answers _ _, htree, hcomplete,
      .child rfl (.here _), hpaths⟩
  · obtain ⟨tree, ready, stats, htree, hcomplete, hpaths⟩ := Sample.ok_of_shape Sample.shape_browser
    exact ⟨tree, ready, stats, Sample.answering_answers _ _, htree, hcomplete,
      .child rfl (.here _), hpaths⟩

end LocatorTraversal

end AgentDesktop
