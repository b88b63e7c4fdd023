import AgentDesktop.Allocation

/-!
# Open ends and the refs above them

A node that only counts its children is an open end: what is below it can be
reached by drilling into a ref of the node or of an ancestor. The plan gives a
ref to the nearest node that could carry one. The walk checks the entry of that
node, and where it does not pass, no other ancestor is planned in its place.
-/

namespace AgentDesktop

section

variable [BoundsHasher]

/-! ## What the plan looks for

The plan goes over the raw tree before any entry is made, and so it knows the roles and the
identifiers of the nodes, but not whether an entry passes its checks. What it looks for is described
by paths: a cut-off node, and the nearest node on the way to it that could carry a ref. -/

omit [BoundsHasher] in
/-- **The traversal was cut off** at the node at a path. -/
def IsCutOff (tree : AccessibilityNode) (path : RefPath) : Prop :=
  ∃ node, nodeAt tree path = some node ∧ node.childrenCount.isSome = true

/-- The node at a path can carry a ref that covers an open end, were it not the root. -/
def Covers (tree : AccessibilityNode) (path : RefPath) : Prop :=
  ∃ node, nodeAt tree path = some node
    ∧ (coversItself node || isResolvableSkeletonAnchor node) = true

/-- **The node at a path is eligible to cover an open end**: it can be acted on in a canonical
role, or it is not the root and can be found again. -/
def IsEligible (tree : AccessibilityNode) (path : RefPath) : Prop :=
  ∃ node, nodeAt tree path = some node
    ∧ (coversItself node = true ∨ (path ≠ [] ∧ isResolvableSkeletonAnchor node = true))

/-- **The node at a path is the nearest eligible one** of the cut-off node at another. -/
def IsNearestEligible (tree : AccessibilityNode) (path cutOff : RefPath) : Prop :=
  path <+: cutOff ∧ IsEligible tree path
    ∧ ∀ other, other <+: cutOff → IsEligible tree other → other <+: path

/-- An open end below a node that no node on the way covers. -/
def IsOpenEnd (tree : AccessibilityNode) (path : RefPath) : Prop :=
  IsCutOff tree path ∧ ∀ other, other <+: path → ¬ Covers tree other

omit [BoundsHasher] in
theorem isCutOff_cons {tree : AccessibilityNode} {index : ℕ} {path : RefPath} :
    IsCutOff tree (index :: path)
      ↔ ∃ child, tree.children[index]? = some child ∧ IsCutOff child path := by
  unfold IsCutOff
  simp only [nodeAt_cons, Option.bind_eq_some_iff]
  constructor
  · rintro ⟨node, ⟨child, hchild, hnode⟩, hcount⟩
    exact ⟨child, hchild, node, hnode, hcount⟩
  · rintro ⟨child, hchild, node, hnode, hcount⟩
    exact ⟨node, ⟨child, hchild, hnode⟩, hcount⟩

theorem covers_cons {tree : AccessibilityNode} {index : ℕ} {path : RefPath} :
    Covers tree (index :: path)
      ↔ ∃ child, tree.children[index]? = some child ∧ Covers child path := by
  unfold Covers
  simp only [nodeAt_cons, Option.bind_eq_some_iff]
  constructor
  · rintro ⟨node, ⟨child, hchild, hnode⟩, hcovers⟩
    exact ⟨child, hchild, node, hnode, hcovers⟩
  · rintro ⟨child, hchild, node, hnode, hcovers⟩
    exact ⟨node, ⟨child, hchild, hnode⟩, hcovers⟩

theorem covers_nil {tree : AccessibilityNode} :
    Covers tree [] ↔ (coversItself tree || isResolvableSkeletonAnchor tree) = true := by
  simp [Covers]

theorem exists_isOpenEnd_iff {tree : AccessibilityNode} :
    (∃ path, IsOpenEnd tree path)
      ↔ ¬ Covers tree [] ∧ (tree.childrenCount.isSome = true
        ∨ ∃ child ∈ tree.children, ∃ path, IsOpenEnd child path) := by
  constructor
  · rintro ⟨path, hcut, hopen⟩
    refine ⟨hopen [] List.nil_prefix, ?_⟩
    cases path with
    | nil =>
      obtain ⟨node, hnode, hcount⟩ := hcut
      obtain rfl := Option.some.inj hnode
      exact Or.inl hcount
    | cons index path =>
      obtain ⟨child, hchild, hcut⟩ := isCutOff_cons.mp hcut
      refine Or.inr ⟨child, List.mem_of_getElem? hchild, path, hcut, fun other hother hcovers => ?_⟩
      exact hopen (index :: other) (List.prefix_cons_inj index |>.mpr hother)
        (covers_cons.mpr ⟨child, hchild, hcovers⟩)
  · rintro ⟨hroot, hcount | ⟨child, hmem, path, hcut, hopen⟩⟩
    · refine ⟨[], ⟨tree, rfl, hcount⟩, fun other hother => ?_⟩
      rw [List.prefix_nil.mp hother]
      exact hroot
    · obtain ⟨index, hchild⟩ := List.getElem?_of_mem hmem
      refine ⟨index :: path, isCutOff_cons.mpr ⟨child, hchild, hcut⟩, fun other hother => ?_⟩
      rcases List.prefix_cons_iff.mp hother with rfl | ⟨rest, rfl, hrest⟩
      · exact hroot
      · rw [covers_cons]
        rintro ⟨child', hchild', hcovers⟩
        rw [hchild] at hchild'
        obtain rfl := Option.some.inj hchild'
        exact hopen rest hrest hcovers

theorem leftOpen_eq_true_iff {node : AccessibilityNode} :
    leftOpen node = true
      ↔ ¬ Covers node [] ∧ (node.childrenCount.isSome = true
        ∨ someLeftOpen node.children = true) := by
  rw [leftOpen_eq, boundaryBelow, covers_nil]
  generalize coversItself node = covers
  generalize isResolvableSkeletonAnchor node = resolvable
  simp only [Bool.and_eq_true, Bool.or_eq_true, Bool.not_eq_true', not_or, Bool.not_eq_true]
  exact ⟨fun h => ⟨⟨h.1.2, h.2⟩, h.1.1⟩, fun h => ⟨⟨h.2, h.1.1⟩, h.1.2⟩⟩

mutual

/-- **The plan leaves open** what no node on the way covers. -/
theorem leftOpen_iff : ∀ node, leftOpen node = true ↔ ∃ path, IsOpenEnd node path
  | ⟨refId, role, identity, presentation, childrenCount, subtreeTruncated, children⟩ => by
    rw [exists_isOpenEnd_iff, leftOpen_eq_true_iff, someLeftOpen_iff children]

theorem someLeftOpen_iff :
    ∀ children, someLeftOpen children = true
      ↔ ∃ child ∈ children, ∃ path, IsOpenEnd child path
  | [] => by simp [someLeftOpen]
  | child :: rest => by
    rw [someLeftOpen, Bool.or_eq_true, leftOpen_iff child, someLeftOpen_iff rest]
    simp only [List.mem_cons, exists_eq_or_imp]

end

section

variable {tree node : AccessibilityNode} {path rest : RefPath}

omit [BoundsHasher] in
theorem isCutOff_append (hnode : nodeAt tree path = some node) :
    IsCutOff tree (path ++ rest) ↔ IsCutOff node rest := by
  unfold IsCutOff
  rw [nodeAt_append, hnode]
  rfl

theorem isEligible_append (hnode : nodeAt tree path = some node) (hne : path ++ rest ≠ []) :
    IsEligible tree (path ++ rest) ↔ Covers node rest := by
  unfold IsEligible Covers
  rw [nodeAt_append, hnode]
  simp only [Option.bind_some, Bool.or_eq_true, hne, ne_eq, not_false_eq_true, true_and]

theorem isAnchor_eq_true_iff :
    isAnchor node = true
      ↔ (node.childrenCount.isSome = true
          ∨ ∃ child ∈ node.children, ∃ path, IsOpenEnd child path)
        ∧ coversItself node = false ∧ isResolvableSkeletonAnchor node = true := by
  rw [← someLeftOpen_iff, isAnchor, boundaryBelow]
  simp only [Bool.and_eq_true, Bool.or_eq_true, Bool.not_eq_true', and_assoc]

/-- **The anchors are the nearest eligible nodes**: a node below the root that cannot be acted
on is an anchor exactly when it is the nearest eligible one of some cut-off node. -/
theorem isAnchor_iff (hnode : nodeAt tree path = some node) (hpath : path ≠ [])
    (hcovers : coversItself node = false) :
    isAnchor node = true ↔ ∃ cutOff, IsCutOff tree cutOff ∧ IsNearestEligible tree path cutOff := by
  have hne : ∀ rest, path ++ rest ≠ [] := fun rest h => hpath (List.append_eq_nil_iff.mp h).1
  have heligible : IsEligible tree path ↔ isResolvableSkeletonAnchor node = true := by
    rw [← List.append_nil path, isEligible_append hnode (hne []), covers_nil, hcovers,
      Bool.false_or]
  rw [isAnchor_eq_true_iff]
  constructor
  · rintro ⟨hcount | ⟨child, hmem, below, hcut, hopen⟩, -, hresolvable⟩
    · exact ⟨path, ⟨node, hnode, hcount⟩, List.prefix_rfl, heligible.mpr hresolvable,
        fun _ h _ => h⟩
    · obtain ⟨index, hchild⟩ := List.getElem?_of_mem hmem
      refine ⟨path ++ index :: below, (isCutOff_append hnode).mpr
        (isCutOff_cons.mpr ⟨child, hchild, hcut⟩), List.prefix_append _ _,
        heligible.mpr hresolvable, fun other hother hopened => ?_⟩
      -- an eligible node further down would cover the open end
      rcases List.prefix_or_prefix_of_prefix hother (List.prefix_append path _) with h | ⟨r, rfl⟩
      · exact h
      · rcases List.prefix_cons_iff.mp (List.prefix_append_right_inj path |>.mp hother) with
          rfl | ⟨r, rfl, hr⟩
        · rw [List.append_nil]
        · obtain ⟨child', hchild', hcovers'⟩ :=
            covers_cons.mp ((isEligible_append hnode (hne _)).mp hopened)
          rw [hchild] at hchild'
          obtain rfl := Option.some.inj hchild'
          exact absurd hcovers' (hopen r hr)
  · rintro ⟨cutOff, hcut, ⟨rest, rfl⟩, hopened, hnearest⟩
    refine ⟨?_, hcovers, heligible.mp hopened⟩
    rw [isCutOff_append hnode] at hcut
    cases rest with
    | nil =>
      obtain ⟨found, hfound, hcount⟩ := hcut
      obtain rfl := Option.some.inj hfound
      exact Or.inl hcount
    | cons index rest =>
      obtain ⟨child, hchild, hcut⟩ := isCutOff_cons.mp hcut
      refine Or.inr ⟨child, List.mem_of_getElem? hchild, rest, hcut, fun other hother hopen => ?_⟩
      have hlength := (hnearest (path ++ index :: other)
        ((List.prefix_append_right_inj path).mpr ((List.prefix_cons_inj index).mpr hother))
        ((isEligible_append hnode (hne _)).mpr
          (covers_cons.mpr ⟨child, hchild, hopen⟩))).length_le
      rw [List.length_append, List.length_cons] at hlength
      omega

end

/-! ## Which open ends are reached

A walk makes the entries and checks them. A cut-off node is reached if a node at or above it has an
entry that passes; the condition names this entry, and it can be read off the raw tree without
carrying out the walk. -/

/-- **The entry of the node at a path passes its checks**, and the node can be acted on or is
the nearest eligible one of a cut-off node. -/
def HasPassingEntry (tree : AccessibilityNode) (config : RefAllocConfig) (path : RefPath) :
    Prop :=
  ∃ node, nodeAt tree path = some node
    ∧ if isRefAble node then
        (refAbleEntry config path node).hasValidRole = true
          ∧ (refAbleEntry config path node).isValid = true
      else
        (∃ cutOff, IsCutOff tree cutOff ∧ IsNearestEligible tree path cutOff)
          ∧ (anchorEntry config path node).hasValidRole = true
          ∧ (anchorEntry config path node).isValid = true

omit [BoundsHasher] in
/-- **The node at a path received a ref.** -/
def ReceivedRef (map map' : RefMap) (path : RefPath) : Prop :=
  ∃ refId entry, map.get refId = none ∧ map'.get refId = some entry ∧ entry.scope.path = path

/-- **Every open end that can be covered is below a ref.** -/
def OpenEndsCovered (tree : AccessibilityNode) (map map' : RefMap) : Prop :=
  ∀ cutOff, IsCutOff tree cutOff → (∃ path, path <+: cutOff ∧ IsEligible tree path) →
    ∃ path, path <+: cutOff ∧ ReceivedRef map map' path

variable {tree node out : AccessibilityNode} {config : RefAllocConfig} {map map' : RefMap}
  {path : RefPath}

omit [BoundsHasher] in
theorem coversItself_of_not_isRefAble (h : isRefAble node = false) :
    coversItself node = false := by
  rw [coversItself, h, Bool.and_false]

/-- **What a walk from the surface offers as an anchor**: the nearest eligible nodes. -/
theorem offeredAsAnchor_iff (hroot : config.scope.rootRefId = none)
    (hnode : nodeAt tree path = some node) (hable : isRefAble node = false) :
    offeredAsAnchor config path node = true
      ↔ ∃ cutOff, IsCutOff tree cutOff ∧ IsNearestEligible tree path cutOff := by
  have hcovers := coversItself_of_not_isRefAble hable
  unfold offeredAsAnchor
  rw [hroot, Option.isNone_none, Bool.true_and, Bool.and_eq_true, Bool.not_eq_true',
    List.isEmpty_eq_false_iff]
  by_cases hpath : path = []
  · refine ⟨fun h => absurd hpath h.1, ?_⟩
    rintro ⟨cutOff, -, -, ⟨found, hfound, heligible⟩, -⟩
    rw [hnode] at hfound
    obtain rfl := Option.some.inj hfound
    rcases heligible with hself | hbelow
    · rw [hcovers] at hself
      cases hself
    · exact absurd hpath hbelow.1
  · rw [isAnchor_iff hnode hpath hcovers]
    exact ⟨And.right, fun h => ⟨hpath, h⟩⟩

/-- In a walk from the surface, the node at a path is granted a ref when it has a passing
entry. -/
theorem exists_grantedEntry_iff (hroot : config.scope.rootRefId = none) :
    (∃ node entry, nodeAt tree path = some node ∧ grantedEntry config path node = some entry)
      ↔ HasPassingEntry tree config path := by
  have hgranted : ∀ node, nodeAt tree path = some node →
      ((∃ entry, grantedEntry config path node = some entry)
        ↔ if isRefAble node then
            (refAbleEntry config path node).hasValidRole = true
              ∧ (refAbleEntry config path node).isValid = true
          else
            (∃ cutOff, IsCutOff tree cutOff ∧ IsNearestEligible tree path cutOff)
              ∧ (anchorEntry config path node).hasValidRole = true
              ∧ (anchorEntry config path node).isValid = true) := by
    intro node hnode
    unfold grantedEntry offeredEntry
    by_cases hable : isRefAble node = true
    · simp [hable, Option.filter_eq_some_iff]
    · rw [if_neg hable, if_neg hable, ← offeredAsAnchor_iff hroot hnode (by simpa using hable)]
      by_cases hanchor : offeredAsAnchor config path node = true
      · simp [hanchor, Option.filter_eq_some_iff]
      · simp [hanchor]
  unfold HasPassingEntry
  constructor
  · rintro ⟨node, entry, hnode, hentry⟩
    exact ⟨node, hnode, (hgranted node hnode).mp ⟨entry, hentry⟩⟩
  · rintro ⟨node, hnode, hpasses⟩
    obtain ⟨entry, hentry⟩ := (hgranted node hnode).mpr hpasses
    exact ⟨node, entry, hnode, hentry⟩

/-- **The nodes that receive a ref** in a walk from the surface are those that have a passing
entry. -/
theorem receivedRef_iff (hraw : ∀ node ∈ preorder tree, node.refId = none)
    (hroot : config.scope.rootRefId = none) (hscope : config.scope.pathPrefix = [])
    (hmap : map.Numbered) (h : allocateRefs tree map config = .ok (out, map')) :
    ReceivedRef map map' path ↔ HasPassingEntry tree config path := by
  rw [← exists_grantedEntry_iff hroot]
  obtain ⟨origins, hrecorded⟩ := allocateRefs_recorded hraw (fun _ => hscope) hmap h
  rw [hscope] at hrecorded
  constructor
  · rintro ⟨refId, entry, hnone, hget, rfl⟩
    obtain ⟨origin, horigin, hgranted⟩ := hrecorded.grantedEntry_of_new hmap hnone hget
    obtain ⟨rest, hpath, hfound⟩ := (mem_preorderAt tree).mp horigin
    rw [(of_grantedEntry hgranted).1]
    exact ⟨origin.2, entry, by rwa [hpath], hgranted⟩
  · rintro ⟨node, entry, hnode, hgranted⟩
    have hmem : (path, node) ∈ preorderAt [] tree := (mem_preorderAt tree).mpr ⟨path, rfl, hnode⟩
    obtain ⟨refId, hnone, hget⟩ := hrecorded.granted (path, node) hmem entry hgranted
    exact ⟨refId, entry, hnone, hget, (of_grantedEntry hgranted).1⟩

/-- **When every open end that can be covered is below a ref**: each such cut-off node has,
at or above it, a node with an entry that passes its checks and that can be acted on or is the
nearest eligible one of a cut-off node. -/
theorem openEndsCovered_iff (hraw : ∀ node ∈ preorder tree, node.refId = none)
    (hroot : config.scope.rootRefId = none) (hscope : config.scope.pathPrefix = [])
    (hmap : map.Numbered) (h : allocateRefs tree map config = .ok (out, map')) :
    OpenEndsCovered tree map map'
      ↔ ∀ cutOff, IsCutOff tree cutOff → (∃ path, path <+: cutOff ∧ IsEligible tree path) →
        ∃ path, path <+: cutOff ∧ HasPassingEntry tree config path := by
  unfold OpenEndsCovered
  simp only [receivedRef_iff hraw hroot hscope hmap h]

end

namespace Sample

/-- A window with a named sidebar around a named list that was not walked. The list has a native
identifier of no known kind. -/
def declinedWindow : AccessibilityNode :=
  rawNode "window" (some "Notes") none
    [rawNode "group" (some "Sidebar") none
      [{ rawNode "list" (some "Entries") (some 9) [] with
          identity := ⟨none, some "Entries", none, none, some ⟨.unknown, "entries"⟩⟩ }]]

/-- What the snapshot hands out of it. -/
def allocatedDeclined : AccessibilityNode × RefMap :=
  (@allocateRefs noBoundsHash declinedWindow .new snapshotConfig).toOption.get (by decide)

theorem cutOff_rawWindow {cutOff : RefPath} (h : IsCutOff rawWindow cutOff) : cutOff = [2] := by
  obtain ⟨node, hnode, hcount⟩ := h
  have hall : ∀ origin ∈ preorderAt [] rawWindow,
      origin.2.childrenCount.isSome = true → origin.1 = [2] := by decide
  exact hall (cutOff, node) ((mem_preorderAt rawWindow).mpr ⟨cutOff, rfl, hnode⟩) hcount

theorem hasPassingEntry_rawWindow :
    @HasPassingEntry noBoundsHash rawWindow snapshotConfig [2] := by
  refine ⟨rawNode "list" (some "Entries") (some 9) [], rfl, ?_⟩
  rw [if_neg (by decide)]
  refine ⟨⟨[2], ⟨_, rfl, rfl⟩, List.prefix_rfl, ?_, fun _ h _ => h⟩, by decide,
    by decide⟩
  exact ⟨_, rfl, Or.inr ⟨List.cons_ne_nil _ _, by decide⟩⟩

end Sample

/-- The list that was not walked can be drilled into. -/
theorem openEndsCovered_iff_sample :
    @OpenEndsCovered Sample.noBoundsHash Sample.rawWindow .new Sample.allocatedWindow.2 := by
  refine (@openEndsCovered_iff Sample.noBoundsHash _ _ Sample.snapshotConfig _ _
    Sample.rawWindow_raw rfl rfl RefMap.numbered_new Sample.allocateRefs_rawWindow).mpr ?_
  intro cutOff hcut _
  rw [Sample.cutOff_rawWindow hcut]
  exact ⟨[2], List.prefix_rfl, Sample.hasPassingEntry_rawWindow⟩

/-- **The plan does not look at the entry**: the list is planned and its entry does not pass, so
no ref is given, although the sidebar around it can be found again and its entry passes. -/
theorem openEnds_of_declined_anchor :
    (∀ node ∈ preorder Sample.declinedWindow, node.refId = none)
      ∧ @allocateRefs Sample.noBoundsHash Sample.declinedWindow .new Sample.snapshotConfig
        = .ok Sample.allocatedDeclined
      ∧ carriedRefs Sample.allocatedDeclined.1 = []
      ∧ (∃ sidebar, nodeAt Sample.declinedWindow [0] = some sidebar
        ∧ @isResolvableSkeletonAnchor Sample.noBoundsHash sidebar = true
        ∧ @RefEntry.isValid Sample.noBoundsHash
          (@anchorEntry Sample.noBoundsHash Sample.snapshotConfig [0] sidebar) = true)
      ∧ ¬ @OpenEndsCovered Sample.noBoundsHash Sample.declinedWindow .new
        Sample.allocatedDeclined.2 := by
  refine ⟨by decide, rfl, by decide,
    ⟨_, rfl, by decide, by decide⟩, fun hcovered => ?_⟩
  obtain ⟨path, -, refId, entry, -, hget, -⟩ := hcovered [0, 0] ⟨_, rfl, rfl⟩
    ⟨[0, 0], List.prefix_rfl, _, rfl, Or.inr ⟨List.cons_ne_nil _ _, by decide⟩⟩
  have hnone : Sample.allocatedDeclined.2 = .new := by decide
  rw [hnone] at hget
  cases hget

end AgentDesktop
