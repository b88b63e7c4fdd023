import AgentDesktop.ReadNode

/-!
# Complete reads of children

A native tree answers a read of children from lists that do not change, and it may fail to
answer at any time. Which list holds the children of an element depends on its role: it is
the first that is there and is not empty, or the canonical one, empty or not.

A read that is complete has seen all of that list: its length is the number that is told,
and what was loaded is a beginning of it (`readChildren_whole`). So if as many were loaded
as are told, nothing is missing.
-/

namespace AgentDesktop

namespace LocatorTraversal

/-! ## The native tree

The application is a parameter: it answers from a tree, or does not answer. What is read is compared
with this tree, which says nothing of what could not be read. -/

/-- **A native tree**: the lists of elements an element has, and its role. -/
structure NativeGraph where
  /-- The list under an attribute, if there is such an attribute. -/
  elements : AXElement → String → Option (List AXElement)
  /-- The native role. -/
  role : AXElement → Option String

namespace NativeGraph

/-- The children, among what these attributes list. -/
def listed (graph : NativeGraph) (element : AXElement) : List String → List AXElement
  | [] => []
  | attributeName :: attributeNames =>
    match graph.elements element attributeName with
    | none => graph.listed element attributeNames
    | some elements =>
      if 0 < elements.length ∨ attributeName = canonicalChildren then elements
      else graph.listed element attributeNames

/-- **The children of an element.** -/
def children (graph : NativeGraph) (element : AXElement) : List AXElement :=
  graph.listed element (childAttributes (graph.role element))

end NativeGraph

variable {σ : Type}

/-- **An application answers from a tree**, whenever it answers. -/
structure ChildSource.Answers (source : ChildSource σ) (graph : NativeGraph) : Prop where
  /-- A count is the length of the list. -/
  counted : ∀ element attributeName deadline,
    Returns (source.childCount element attributeName deadline) (fun answer =>
      ∀ count, answer = .ok count →
        ∃ elements, graph.elements element attributeName = some elements
          ∧ count = elements.length)
  /-- An attribute that is told to be absent is. -/
  absent : ∀ element attributeName deadline,
    Returns (source.childCount element attributeName deadline) (fun answer =>
      ∀ error, answer = .error error → isAbsentError error = true →
        graph.elements element attributeName = none)
  /-- A page is a part of the list. -/
  paged : ∀ element attributeName index number deadline,
    Returns (source.copyPage element attributeName index number deadline) (fun answer =>
      ∀ page, answer = .ok page →
        ∃ elements, graph.elements element attributeName = some elements
          ∧ page = (elements.drop index).take number)

/-! ## Pages -/

theorem append_take_drop_prefix {α : Type} {front items : List α} (h : front <+: items)
    (number : ℕ) : front ++ (items.drop front.length).take number <+: items := by
  obtain ⟨rest, rfl⟩ := h
  rw [List.drop_left]
  exact (List.prefix_append_right_inj front).mpr (List.take_prefix number rest)

/-- What the pages of a list bring: a beginning of it, and all of it if it is less than was asked
for. -/
def Paged (list : Option (List AXElement)) (requested : ℕ) (elements : List AXElement) : Prop :=
  elements <+: list.getD [] ∧ (elements.length < requested → list = some elements)

/-- **The pages of a list bring a beginning of it**, and stop short of what was asked for only at
its end. -/
theorem readPages_paged (list : Option (List AXElement)) {requested pageSize : ℕ}
    (hsize : 0 < pageSize) {readPage : ℕ → ℕ → Reading σ (Except AXError (List AXElement))}
    (hpage : ∀ index number, Returns (readPage index number) (fun answer =>
      ∀ page, answer = .ok page →
        ∃ items, list = some items ∧ page = (items.drop index).take number))
    (elements : List AXElement) (hbegin : elements <+: list.getD []) :
    Returns (readPages requested pageSize readPage elements)
      (fun result => ∀ pages, result = .ok pages → Paged list requested pages.elements) := by
  induction hleft : requested - elements.length using Nat.strongRecOn generalizing elements with
  | _ left ih =>
    subst hleft
    unfold readPages
    refine Returns.ite (fun hmore => ?_) (fun hmore => .pure (fun pages hpages => ?_))
    · refine Returns.bind (hpage _ _) (fun answer hanswer => ?_)
      cases answer with
      | error error => exact .pure (fun pages hpages => nomatch hpages)
      | ok page =>
        obtain ⟨items, rfl, rfl⟩ := hanswer page rfl
        refine Returns.ite (fun _ => .pure (fun pages hpages => nomatch hpages)) (fun _ => ?_)
        have hlonger := append_take_drop_prefix hbegin (min (requested - elements.length) pageSize)
        refine Returns.ite (fun hempty => .pure (fun pages hpages => ?_)) (fun hsome => ?_)
        · -- nothing is listed after what is there
          have hnumber : 0 < min (requested - elements.length) pageSize :=
            lt_min (Nat.sub_pos_of_lt hmore) hsize
          have hlength : items.length ≤ elements.length := by
            rw [List.length_take, List.length_drop] at hempty
            omega
          have hall : elements = items := hbegin.eq_of_length_le hlength
          obtain rfl := Except.ok.inj hpages
          refine ⟨hlonger, fun _ => ?_⟩
          show some items = some (elements ++ _)
          rw [List.drop_of_length_le hlength, List.take_nil, List.append_nil, hall]
        · refine ih _ ?_ _ hlonger rfl
          rw [List.length_append]
          omega
    · obtain rfl := Except.ok.inj hpages
      exact ⟨hbegin, fun hlt => absurd hlt hmore⟩

/-! ## One attribute -/

/-- **What a read of one attribute tells**, if nothing may be missing: that there is no such
attribute, or how long its list is, and a beginning of it. -/
structure Told (list : Option (List AXElement)) (read : ChildRead) : Prop where
  /-- Where the read is complete, nothing may be missing. -/
  certain : read.complete = true → read.prefixCertain = true
  /-- What it tells then. -/
  told : read.prefixCertain = true →
    (read.sourceAvailability = .unavailable ∧ list = none)
      ∨ (read.sourceAvailability = .available ∧ ∃ elements, list = some elements
        ∧ read.totalCount = elements.length ∧ read.elements <+: elements)

theorem told_failed {list : Option (List AXElement)} (status : ChildReadStatus) :
    Told list (.failed status) := ⟨nofun, nofun⟩

section Attribute

variable {source : ChildSource σ} {graph : NativeGraph} (hanswers : source.Answers graph)

include hanswers

theorem readPrefix_paged (element : AXElement) (attributeName : String)
    (requested deadline : ℕ) :
    Returns (readPrefix source element attributeName requested deadline)
      (fun result => ∀ elements, result = .ok elements →
        Paged (graph.elements element attributeName) requested elements) := by
  unfold readPrefix readPagedPrefix
  refine Returns.bind (readPages_paged (graph.elements element attributeName) (by decide)
    (fun index number => ?_) [] List.nil_prefix) (fun result hresult => ?_)
  · refine Returns.bind' (fun intime => ?_)
    refine Returns.ite (fun _ => ?_) (fun _ => .pure (fun page hpage => nomatch hpage))
    refine Returns.bind' (fun _ state => ?_)
    exact hanswers.paged element attributeName index number deadline state.2
  · cases result with
    | error error => exact .pure (fun elements helements => nomatch helements)
    | ok pages =>
      refine Returns.bind' (fun _ => .pure (fun elements helements => ?_))
      obtain rfl := Except.ok.inj helements
      exact hresult pages rfl

theorem readWithoutCount_told (element : AXElement) (attributeName : String)
    (maxElements deadline : ℕ) :
    Returns (readWithoutCount source element attributeName maxElements deadline)
      (Told (graph.elements element attributeName)) := by
  have hread : Returns (readPrefix source element attributeName maxElements deadline)
      (fun result => ∀ elements, result = .ok elements → elements.length ≤ maxElements
        ∧ Paged (graph.elements element attributeName) maxElements elements) :=
    fun state elements helements =>
      ⟨readPrefix_length_le source element attributeName maxElements deadline state elements
          helements,
        readPrefix_paged hanswers element attributeName maxElements deadline state elements
          helements⟩
  unfold readWithoutCount
  refine Returns.ite (fun _ => Returns.bind' (fun status => .pure (told_failed status)))
    (fun _ => ?_)
  refine Returns.bind hread (fun result hresult => ?_)
  cases result with
  | error error =>
    exact Returns.bind' (fun _ => Returns.bind' (fun status => .pure (told_failed status)))
  | ok elements =>
    obtain ⟨hle, -, hall⟩ := hresult elements rfl
    refine Returns.bind' (fun status => .pure ⟨id, fun hcertain => Or.inr ⟨rfl, elements, ?_⟩⟩)
    -- less than was asked for is all there is
    have hshort : (elements.length == maxElements) = false := Bool.not_eq_true' _ ▸ hcertain
    have hne : elements.length ≠ maxElements := by
      rwa [beq_eq_false_iff_ne] at hshort
    refine ⟨hall (lt_of_le_of_ne hle hne), ?_, List.prefix_refl elements⟩
    show elements.length + (if (elements.length == maxElements) = true then 1 else 0) = _
    rw [hshort]
    rfl

theorem readCounted_begins (element : AXElement) (attributeName : String)
    (requested deadline : ℕ) :
    Returns (readCounted source element attributeName requested deadline)
      (fun result => result.1 <+: (graph.elements element attributeName).getD []) := by
  unfold readCounted
  refine Returns.bind (readPrefix_paged hanswers element attributeName requested deadline)
    (fun result hresult => ?_)
  cases result with
  | error error => exact Returns.bind' (fun _ => .pure List.nil_prefix)
  | ok elements => exact .pure (hresult elements rfl).1

theorem recount_eq {element : AXElement} {attributeName : String} {elements : List AXElement}
    (hlist : graph.elements element attributeName = some elements) (deadline : ℕ) :
    Returns (recount source element attributeName elements.length deadline)
      (fun result => result.1 = elements.length) := by
  have hcount : Returns (stableCount source element attributeName deadline) (fun answer =>
      ∀ count, answer = .ok count → count = elements.length) := by
    unfold stableCount
    refine Returns.bind' (fun intime => Returns.ite (fun _ => ?_)
      (fun _ => .pure (fun count hcount => nomatch hcount)))
    refine Returns.bind' (fun _ state count hcount => ?_)
    obtain ⟨elements', hlist', rfl⟩ :=
      hanswers.counted element attributeName deadline state.2 count hcount
    obtain rfl := Option.some.inj (hlist.symm.trans hlist')
    rfl
  unfold recount
  refine Returns.bind hcount (fun answer hanswer => ?_)
  cases answer with
  | error error => exact Returns.bind' (fun _ => .pure rfl)
  | ok count => exact .pure (hanswer count rfl)

/-- **A read of an attribute tells the truth.** -/
theorem readAttributeChildren_told (element : AXElement) (attributeName : String)
    (budget : ChildReadBudget) (deadline : ℕ) :
    Returns (readAttributeChildren source element attributeName budget deadline)
      (Told (graph.elements element attributeName)) := by
  unfold readAttributeChildren
  refine Returns.bind' (fun countBy => Returns.bind' (fun intime => ?_))
  refine Returns.ite (fun _ => ?_)
    (fun _ => Returns.bind' (fun status => .pure (told_failed status)))
  have hcount : Returns (Reading.lift (source.childCount element attributeName countBy))
      (fun answer : Except AXError ℕ =>
        (∀ count, answer = .ok count →
          ∃ elements, graph.elements element attributeName = some elements
            ∧ count = elements.length)
        ∧ ∀ error, answer = .error error → isAbsentError error = true →
            graph.elements element attributeName = none) :=
    fun state => ⟨hanswers.counted element attributeName countBy state.2,
      hanswers.absent element attributeName countBy state.2⟩
  refine Returns.bind' (fun _ => Returns.bind hcount (fun answer hanswer => ?_))
  cases answer with
  | error error =>
    refine Returns.ite (fun hnone => Returns.bind' (fun status => .pure ⟨fun _ => rfl, fun _ =>
      Or.inl ⟨rfl, hanswer.2 error rfl hnone⟩⟩)) (fun _ => ?_)
    refine Returns.bind' (fun _ => ?_)
    exact readWithoutCount_told hanswers element attributeName budget.maxElements deadline
  | ok count =>
    obtain ⟨elements, hlist, rfl⟩ := hanswer.1 count rfl
    refine Returns.bind (readCounted_begins hanswers element attributeName _ deadline)
      (fun result hresult => ?_)
    refine Returns.bind (recount_eq hanswers hlist deadline) (fun again hagain => ?_)
    rw [hlist] at hresult
    refine Returns.ite (fun hchanged => absurd hagain.symm hchanged) (fun _ => ?_)
    exact Returns.bind' (fun status => .pure ⟨id, fun _ => Or.inr ⟨rfl, elements, hlist, hagain,
      hresult⟩⟩)

end Attribute

/-! ## All attributes -/

/-- **A read that is complete**, of an element that is not gone, tells how many children there are,
and has loaded a beginning of them. -/
def Whole (children : List AXElement) (read : ChildRead) : Prop :=
  read.complete = true → read.status.invalidElement = false → read.status.apiDisabled = false →
    read.totalCount = children.length ∧ read.elements <+: children

section Attributes

variable {graph : NativeGraph} {element : AXElement}

theorem listed_of_selected {attributeName : String} {elements : List AXElement}
    (attributeNames : List String) (hlist : graph.elements element attributeName = some elements)
    (hselected : 0 < elements.length ∨ attributeName = canonicalChildren) :
    graph.listed element (attributeName :: attributeNames) = elements := by
  unfold NativeGraph.listed
  rw [hlist]
  exact if_pos hselected

theorem listed_of_passed {attributeName : String} {read : ChildRead} (attributeNames : List String)
    (htold : Told (graph.elements element attributeName) read)
    (hcertain : read.prefixCertain = true)
    (hpassed : ¬ (read.sourceAvailability = .available
      ∧ (0 < read.totalCount ∨ attributeName = canonicalChildren))) :
    graph.listed element (attributeName :: attributeNames)
      = graph.listed element attributeNames := by
  rw [NativeGraph.listed]
  rcases htold.told hcertain with ⟨-, hnone⟩ | ⟨havailable, elements, hlist, htotal, -⟩
  · rw [hnone]
  · rw [hlist]
    rw [htotal] at hpassed
    exact if_neg (fun hselected => hpassed ⟨havailable, hselected⟩)

/-- **The attributes are read until one is selected.** -/
theorem readFirst_whole {readAttribute : String → StateM σ ChildRead}
    (hread : ∀ attributeName, Returns (readAttribute attributeName)
      (Told (graph.elements element attributeName)))
    (attributeNames : List String) (passed : PassedOver) :
    Returns (readFirst readAttribute attributeNames passed) (fun read =>
      (read.complete = true → passed.prefixCertain = true)
        ∧ (read.status.invalidElement = false → passed.status.invalidElement = false)
        ∧ (read.status.apiDisabled = false → passed.status.apiDisabled = false)
        ∧ Whole (graph.listed element attributeNames) read) := by
  induction attributeNames generalizing passed with
  | nil => exact .pure ⟨id, id, id, fun _ _ _ => ⟨rfl, List.nil_prefix⟩⟩
  | cons attributeName attributeNames ih =>
    unfold readFirst
    refine Returns.bind (hread attributeName) (fun read htold => ?_)
    have hinvalid : (passed.status.merge read.status).invalidElement = false →
        passed.status.invalidElement = false ∧ read.status.invalidElement = false :=
      Bool.or_eq_false_iff.mp
    have hdisabled : (passed.status.merge read.status).apiDisabled = false →
        passed.status.apiDisabled = false ∧ read.status.apiDisabled = false :=
      Bool.or_eq_false_iff.mp
    refine Returns.ite (fun hselected => .pure ⟨?_, fun h => (hinvalid h).1,
      fun h => (hdisabled h).1, ?_⟩) (fun hpassed => ?_)
    · intro hcomplete
      exact (Bool.and_eq_true_iff.mp (Bool.and_eq_true_iff.mp hcomplete).2).2
    · intro hcomplete _ _
      have hcertain := htold.certain (Bool.and_eq_true_iff.mp hcomplete).1
      rcases htold.told hcertain with ⟨hunavailable, -⟩ | ⟨-, elements, hlist, htotal, hbegin⟩
      · rw [hunavailable] at hselected
        exact absurd hselected.1 (by simp)
      · rw [htotal] at hselected
        rw [listed_of_selected attributeNames hlist hselected.2]
        exact ⟨htotal, hbegin⟩
    · refine Returns.ite (fun hterminal => .pure ⟨fun h => (Bool.and_eq_true_iff.mp h).1,
        fun h => (hinvalid h).1, fun h => (hdisabled h).1, fun _ hvalid henabled => ?_⟩)
        (fun _ state => ?_)
      · -- the element is gone, or the interface is switched off
        rw [(hinvalid hvalid).2, (hdisabled henabled).2] at hterminal
        exact absurd hterminal (by simp)
      · obtain ⟨hcertain, hvalid, henabled, hwhole⟩ := ih
          ⟨passed.status.merge read.status, passed.prefixCertain && read.prefixCertain,
            passed.anyAvailable || read.sourceAvailability == .available⟩ state
        refine ⟨fun h => (Bool.and_eq_true_iff.mp (hcertain h)).1, fun h => (hinvalid (hvalid h)).1,
          fun h => (hdisabled (henabled h)).1, fun hcomplete hvalid' henabled' => ?_⟩
        have hboth := Bool.and_eq_true_iff.mp (hcertain hcomplete)
        rw [listed_of_passed attributeNames htold hboth.2 hpassed]
        exact hwhole hcomplete hvalid' henabled'

theorem readAgain_whole {source : ChildSource σ} {attributeNames : List String} {deadline : ℕ}
    {readAttribute : String → StateM σ ChildRead}
    (hread : ∀ attributeName, Returns (readAttribute attributeName)
      (Told (graph.elements element attributeName))) (status : ChildReadStatus) (attempt : ℕ) :
    Returns (readAgain source attributeNames deadline readAttribute status attempt)
      (Whole (graph.listed element attributeNames)) := by
  induction hleft : readAttempts - attempt using Nat.strongRecOn generalizing status attempt with
  | _ left ih =>
    subst hleft
    unfold readAgain
    refine Returns.bind (readFirst_whole hread attributeNames _) (fun read hfirst => ?_)
    have hmerged : Whole (graph.listed element attributeNames)
        { read with status := status.merge read.status } :=
      fun hcomplete hvalid henabled => hfirst.2.2.2 hcomplete
        (Bool.or_eq_false_iff.mp hvalid).2 (Bool.or_eq_false_iff.mp henabled).2
    refine Returns.ite (fun hagain => ?_) (fun _ => .pure hmerged)
    refine Returns.bind' (fun now => Returns.ite (fun _ => ?_) (fun _ => .pure hmerged))
    refine Returns.bind' (fun later => Returns.bind' (fun _ => ?_))
    exact ih _ (by omega) _ _ rfl

end Attributes

theorem readChildren_whole {source : ChildSource σ} {graph : NativeGraph}
    (hanswers : source.Answers graph) (element : AXElement) (budget : ChildReadBudget)
    (deadline : ℕ) :
    Returns (readChildren source element (graph.role element) budget deadline)
      (Whole (graph.children element)) := by
  refine readAgain_whole (fun attributeName world => ?_) _ _
  exact readAttributeChildren_told hanswers element attributeName budget deadline _

/-! ## Nodes -/

/-- **An application answers from a tree**, also what the roles of the elements are; a role that
cannot be read is missing. -/
structure NodeSource.Answers (source : NodeSource σ) (graph : NativeGraph) : Prop
    extends source.toChildSource.Answers graph where
  /-- The role is read, or nothing in its place. -/
  roleRead : ∀ element requirements deadline usage,
    Returns (source.fetchNodeAttrs element requirements deadline usage) (fun read =>
      read.attrs.role = none ∨ read.attrs.role = graph.role element)

/-- **What a read tells of the children**, if it is complete. -/
def TellsChildren (children : List AXElement) (read : ChildRead) : Prop :=
  read.complete = true → read.totalCount = children.length ∧ read.elements <+: children

theorem TellsChildren.elements_eq {children : List AXElement} {read : ChildRead}
    (h : TellsChildren children read) (hcomplete : read.complete = true)
    (hall : read.truncated = false) : read.elements = children := by
  obtain ⟨htotal, hbegin⟩ := h hcomplete
  refine hbegin.eq_of_length_le ?_
  unfold ChildRead.truncated at hall
  rw [decide_eq_false_iff_not, htotal, Nat.not_lt] at hall
  exact hall

section Node

variable {source : NodeSource σ} {graph : NativeGraph} (hanswers : source.Answers graph)

include hanswers

theorem readNodeChildren_tells (element : AXElement) (budget : ChildReadBudget) (deadline : ℕ) :
    Yields (readNodeChildren source element (graph.role element) budget deadline)
      (fun read => ∀ childRead ∈ read, TellsChildren (graph.children element) childRead) := by
  unfold readNodeChildren
  have hask : Yields (NodeReading.ask (fun _ =>
      readChildren source.toChildSource element (graph.role element) budget deadline))
      (Whole (graph.children element)) := by
    intro state read hread
    obtain rfl := Except.ok.inj hread
    exact readChildren_whole hanswers.toAnswers element budget deadline _
  refine Yields.bind hask (fun read hwhole => Yields.bind' (fun _ => ?_))
  refine Yields.ite (fun _ => Yields.throw _) (fun henabled => Yields.pure ?_)
  intro childRead hread
  split_ifs at hread with hinvalid
  · exact absurd hread (Option.not_mem_none childRead)
  · obtain rfl := Option.mem_some_iff.mp hread
    exact fun hcomplete =>
      hwhole hcomplete (Bool.eq_false_iff.mpr hinvalid) (Bool.eq_false_iff.mpr henabled)

theorem readAttributes_role (element : AXElement) (requirements : EvidenceRequirements)
    (deadline : ℕ) :
    Yields (readAttributes source element requirements deadline) (fun found =>
      ∀ parts ∈ found, parts.1.attrs.role = none ∨ parts.1.attrs.role = graph.role element) := by
  unfold readAttributes
  refine Yields.bind' (fun time => ?_)
  cases time with
  | none => exact Yields.throw _
  | some _ =>
    have hask : Yields (NodeReading.ask (source.fetchNodeAttrs element requirements deadline))
        (fun read => read.attrs.role = none ∨ read.attrs.role = graph.role element) := by
      intro state read hread
      obtain rfl := Except.ok.inj hread
      exact hanswers.roleRead element requirements deadline state.usage _
    refine Yields.bind hask (fun read hrole => Yields.bind' (fun _ => Yields.bind' (fun _ => ?_)))
    refine Yields.ite (fun _ => Yields.throw _) (fun _ => Yields.bind' (fun _ => Yields.pure ?_))
    intro parts hparts
    split_ifs at hparts
    · exact absurd hparts (Option.not_mem_none parts)
    · obtain rfl := Option.mem_some_iff.mp hparts
      exact hrole

omit hanswers in
theorem finishNode_role (tree : TreeBuildContext) (element : AXElement)
    (requirements : EvidenceRequirements) (deadline : ℕ) (budget : ChildReadBudget)
    (parts : NodeParts) (childRead : ChildRead) (hrole : parts.read.attrs.role = none) :
    Yields (finishNode source tree element requirements deadline budget parts childRead)
      (fun read => read.evidence.role.known? = none) := by
  have hfield : (roleField source parts.read.attrs parts.read.status).known? = none := by
    unfold roleField
    rw [hrole]
    split_ifs
    · rfl
    · rfl
  unfold finishNode
  refine Yields.bind' (fun name => Yields.bind' (fun states => Yields.bind' (fun token => ?_)))
  exact Yields.pure hfield

/-- **A read of a node tells its children**, unless its role is not known. -/
theorem readNode_tells (tree : TreeBuildContext) (element : AXElement)
    (requirements : EvidenceRequirements) (deadline : ℕ) (plan : ChildReadPlan) :
    Yields (readNode source tree element requirements deadline plan) (fun read =>
      read.invalidElement = false → read.evidence.role.known? = none
        ∨ TellsChildren (graph.children element) read.childRead) := by
  unfold readNode
  refine Yields.bind (readAttributes_role hanswers element requirements deadline)
    (fun found hfound => ?_)
  cases found with
  | none => exact Yields.pure (fun hvalid => nomatch hvalid)
  | some found =>
    obtain ⟨read, identifiers⟩ := found
    refine Yields.bind' (fun actions => ?_)
    cases actions with
    | none => exact Yields.pure (fun hvalid => nomatch hvalid)
    | some actions =>
      rcases hfound _ rfl with hnone | hsome
      · refine Yields.bind' (fun childRead => ?_)
        cases childRead with
        | none => exact Yields.pure (fun hvalid => nomatch hvalid)
        | some childRead =>
          intro state node hfinished _
          exact Or.inl (finishNode_role tree element requirements deadline _ _ childRead hnone
            state node hfinished)
      · dsimp only at hsome ⊢
        rw [hsome]
        refine Yields.bind (readNodeChildren_tells hanswers element _ deadline)
          (fun childRead hread => ?_)
        cases childRead with
        | none => exact Yields.pure (fun hvalid => nomatch hvalid)
        | some childRead =>
          intro state node hfinished _
          rw [finishNode_childRead tree element requirements deadline _ _ childRead state node
            hfinished]
          exact Or.inr (hread childRead rfl)

end Node

end LocatorTraversal

end AgentDesktop
