import AgentDesktop.RefWalk
import AgentDesktop.Util.Forall2

/-!
# Refs and nodes

What a snapshot hands out is the tree the options ask for, with refs in it. The
refs are in bijection with the entries that were recorded, each of them at the
path and with the identity of the node that carries the ref; and without the
refs the tree is the one that is handed out where no refs are given.
-/

namespace AgentDesktop

/-- The identity evidence that is recorded of a node. -/
def recordedIdentity (node : AccessibilityNode) : RefEntryIdentity where
  retainedObject := node.identity.retainedObject
  role := node.role
  name := nonEmptyString node.identity.name
  value := nonEmptyString node.identity.value
  description := nonEmptyString node.identity.description
  nativeId := node.identity.nativeId.filter (fun identifier => !isBlank identifier.value)

/-- The refs that the nodes of a tree carry, in document order. -/
def carriedRefs (tree : AccessibilityNode) : List String :=
  (preorder tree).filterMap AccessibilityNode.refId

section

variable [BoundsHasher]

omit [BoundsHasher] in
@[simp] theorem RefAllocOptions.boundsOf_identity (options : RefAllocOptions)
    (entry : RefEntry) : (options.boundsOf entry).identity = entry.identity := by
  unfold boundsOf
  split_ifs <;> rfl

/-- **An entry is that of its node**: at its path, with its identity. -/
theorem of_grantedEntry {config : RefAllocConfig} {path : RefPath} {node : AccessibilityNode}
    {entry : RefEntry} (h : grantedEntry config path node = some entry) :
    entry.scope.path = path ∧ entry.identity = recordedIdentity node := by
  have hoffered := (Option.filter_eq_some_iff.mp h).1
  unfold offeredEntry at hoffered
  split_ifs at hoffered
  · cases hoffered
    simp [refAbleEntry, refEntryFromNode, recordedIdentity]
  · cases hoffered
    simp [anchorEntry, refEntryFromNode, recordedIdentity]

/-! ## Refs and entries -/

/-- **A node handed out stands for the raw node at a path**: it shows that node, and its ref is
bound to an entry with that path and the identity of that node. -/
def StandsFor (tree : AccessibilityNode) (config : RefAllocConfig) (map : RefMap)
    (node : AccessibilityNode) (path : RefPath) : Prop :=
  ∃ raw, nodeAt tree path = some raw ∧ ShowsNode config.options.includeBounds node raw
    ∧ ∀ refId, node.refId = some refId →
      ∃ entry, map.get refId = some entry
        ∧ entry.scope.path = config.scope.pathPrefix ++ path
        ∧ entry.identity = recordedIdentity raw

/-- **The refs of a tree handed out are in bijection with the new entries of the map.** -/
structure RefBijection (tree : AccessibilityNode) (config : RefAllocConfig) (map : RefMap)
    (out : AccessibilityNode) (map' : RefMap) : Prop where
  /-- What was bound before is bound to the same. -/
  kept : ∀ refId entry, map.get refId = some entry → map'.get refId = some entry
  /-- The refs carried are the newly bound ones. -/
  carried : ∀ refId, refId ∈ carriedRefs out ↔ map.get refId = none ∧ map'.get refId ≠ none
  /-- No ref is carried twice. -/
  nodup : (carriedRefs out).Nodup
  /-- They are numbered in the document order of the tree handed out. -/
  numbered : carriedRefs out
    = (List.range' (map.counter + 1) (map'.counter - map.counter)).map refIdOf
  /-- Each node handed out stands for one raw node, each raw node is stood for once, and the
  order is that of the raw tree. -/
  located : ∃ paths, List.Pairwise (· < ·) paths
    ∧ List.Forall₂ (StandsFor tree config map') (preorder out) paths

variable {tree out : AccessibilityNode} {config : RefAllocConfig} {map map' : RefMap}

theorem Recorded.located {origins : List (RefPath × AccessibilityNode)}
    (h : Recorded config (preorderAt config.scope.pathPrefix tree) map (preorder out)
      origins map') :
    ∃ paths, List.Pairwise (· < ·) paths
      ∧ List.Forall₂ (StandsFor tree config map') (preorder out) paths := by
  have hsublist := h.presents.sublist
  rw [← List.append_nil config.scope.pathPrefix, preorderAt_append,
    List.sublist_map_iff] at hsublist
  obtain ⟨relative, hrelative, rfl⟩ := hsublist
  refine ⟨relative.map Prod.fst, ?_, ?_⟩
  · rw [List.pairwise_map]
    exact (pairwise_preorderAt [] tree).sublist hrelative
  · rw [List.forall₂_map_right_iff]
    refine (List.forall₂_map_right_iff.mp h.presents.shown).imp_of_mem_right ?_
    rintro node ⟨path, raw⟩ hmem ⟨hshows, hrefs⟩
    obtain ⟨rest, hpath, hraw⟩ := (mem_preorderAt tree).mp (hrelative.subset hmem)
    obtain rfl : path = rest := by simpa using hpath
    refine ⟨raw, hraw, hshows, fun refId hrefId => ?_⟩
    obtain ⟨entry, hget, hgranted⟩ := hrefs refId hrefId
    exact ⟨entry, hget, of_grantedEntry hgranted⟩

/-- **The refs carried are the newly bound ones.** -/
theorem Recorded.mem_carriedRefs_iff {raw origins : List (RefPath × AccessibilityNode)}
    (h : Recorded config raw map (preorder out) origins map') (hmap : map.Numbered)
    {refId : String} :
    refId ∈ carriedRefs out ↔ map.get refId = none ∧ map'.get refId ≠ none := by
  have hle := h.grown.counter_le
  constructor
  · intro hcarried
    obtain ⟨node, hnode, hrefId⟩ := List.mem_filterMap.mp hcarried
    obtain ⟨origin, -, hshows⟩ := h.presents.shown.exists_right hnode
    obtain ⟨entry, hget, -⟩ := hshows.2 _ hrefId
    rw [carriedRefs, h.numbered, List.mem_map] at hcarried
    obtain ⟨number, hnumber, rfl⟩ := hcarried
    rw [List.mem_range'_1] at hnumber
    exact ⟨hmap.get_fresh (by omega), hget ▸ Option.some_ne_none entry⟩
  · rintro ⟨hnone, hsome⟩
    obtain ⟨entry, hget⟩ := Option.ne_none_iff_exists'.mp hsome
    rw [carriedRefs, h.numbered, List.mem_map]
    rcases h.grown.fresh refId entry hget with hold | ⟨-, number, rfl, hlt, hle'⟩
    · rw [hnone] at hold
      cases hold
    · exact ⟨number, List.mem_range'_1.mpr (by omega), rfl⟩

/-- **A new entry is that of a node of the tree.** -/
theorem Recorded.grantedEntry_of_new {raw origins : List (RefPath × AccessibilityNode)}
    (h : Recorded config raw map (preorder out) origins map') (hmap : map.Numbered)
    {refId : String} {entry : RefEntry} (hnone : map.get refId = none)
    (hget : map'.get refId = some entry) :
    ∃ origin ∈ raw, grantedEntry config origin.1 origin.2 = some entry := by
  have hcarried := (h.mem_carriedRefs_iff hmap).mpr ⟨hnone, hget ▸ Option.some_ne_none entry⟩
  obtain ⟨node, hnode, hrefId⟩ := List.mem_filterMap.mp hcarried
  obtain ⟨origin, horigin, hshows⟩ := h.presents.shown.exists_right hnode
  obtain ⟨entry', hget', hgranted⟩ := hshows.2 refId hrefId
  rw [hget] at hget'
  obtain rfl := Option.some.inj hget'
  exact ⟨origin, h.presents.sublist.subset horigin, hgranted⟩

/-- **The refs are in bijection with the entries.** -/
theorem allocateRefs_bijection (hraw : ∀ node ∈ preorder tree, node.refId = none)
    (hrooted : config.Rooted) (hmap : map.Numbered)
    (h : allocateRefs tree map config = .ok (out, map')) :
    RefBijection tree config map out map' := by
  obtain ⟨origins, hrecorded⟩ := allocateRefs_recorded hraw hrooted hmap h
  refine ⟨hrecorded.grown.kept, fun refId => hrecorded.mem_carriedRefs_iff hmap, ?_,
    hrecorded.numbered, hrecorded.located⟩
  rw [carriedRefs, hrecorded.numbered]
  exact List.Nodup.map refIdOf_injective List.nodup_range'

/-! ## With and without refs

The two presentation paths drop and keep nodes by the same tests, but one of them looks at a tree
that has refs. A leaf with a ref would be kept where the other path drops it; so the argument is
that no such leaf was given one. -/

theorem grantedEntry_of_allocateRefsAtPath {anchors : List RefPath} {path : RefPath}
    {node node' : AccessibilityNode} (hwalk : Walkable config anchors (preorderAt path node))
    (h : allocateRefsAtPath config anchors path node map = .ok (node', map'))
    (hrefId : node'.refId ≠ none) : grantedEntry config path node ≠ none := by
  cases node with
  | mk refId role identity presentation childrenCount subtreeTruncated children =>
    intro hnone
    obtain ⟨hraw, hanchors⟩ := hwalk _ (by rw [preorderAt_eq]; exact List.mem_cons_self)
    rw [allocateRefsAtPath, allocateOwnRef_eq hraw hanchors, hnone] at h
    obtain ⟨⟨own, map₁⟩, hown, h⟩ := Except.bind_eq_ok_iff.mp h
    cases hown
    obtain ⟨⟨below, map₂⟩, -, h⟩ := Except.bind_eq_ok_iff.mp h
    cases h
    exact hrefId rfl

theorem transformChildren_ne_nil_of_someLeftOpen (includeBounds interactiveOnly compact : Bool)
    {children : List AccessibilityNode} (h : someLeftOpen children = true) :
    transformChildren includeBounds interactiveOnly compact children ≠ [] := by
  intro hnil
  obtain ⟨found, hfound, hcount⟩ := exists_count_of_someLeftOpen children h
  obtain ⟨origins, horigins⟩ :=
    transformChildren_presents includeBounds interactiveOnly compact [] 0 children
  rw [← map_snd_preorderAtBelow [] 0] at hfound
  obtain ⟨origin, horigin, rfl⟩ := List.mem_map.mp hfound
  obtain ⟨node, hnode, -⟩ :=
    horigins.shown.exists_left (horigins.counted origin horigin hcount)
  rw [hnil] at hnode
  cases hnode

/-- **A leaf that the transformation drops was given no ref**: an anchor that counts no
children keeps one. -/
theorem grantedEntry_of_dropped {path : RefPath} {node : AccessibilityNode}
    (includeBounds interactiveOnly compact : Bool) (hable : isRefAble node = false)
    (hchildren : transformChildren includeBounds interactiveOnly compact node.children = [])
    (hcount : node.childrenCount = none) : grantedEntry config path node = none := by
  have hnot : isAnchor node = false := by
    by_contra hanchor
    rw [Bool.not_eq_false, isAnchor, boundaryBelow, hcount, Bool.and_eq_true,
      Bool.and_eq_true] at hanchor
    exact transformChildren_ne_nil_of_someLeftOpen _ _ _ hanchor.1.1 hchildren
  unfold grantedEntry offeredEntry offeredAsAnchor
  rw [hable, hnot, Bool.and_false]
  rfl

omit [BoundsHasher] in
theorem isRefAble_transformTree (includeBounds interactiveOnly compact : Bool)
    (node : AccessibilityNode) :
    isRefAble (transformTree includeBounds interactiveOnly compact node) = isRefAble node := by
  rw [transformTree_eq]
  cases includeBounds <;> rfl

/-- **The two presentations keep the same child.** -/
theorem keepChild_eraseRefs {path : RefPath} {child child' : AccessibilityNode}
    (collapsible : Bool)
    (hsame : eraseRefs child' = transformTree config.options.includeBounds
      config.options.interactiveOnly config.options.compact child)
    (hgranted : child'.refId ≠ none → grantedEntry config path child ≠ none) :
    (keepChild config collapsible child').map eraseRefs
      = keepTransformed config.options.interactiveOnly collapsible
          (transformTree config.options.includeBounds config.options.interactiveOnly
            config.options.compact child) := by
  rw [← hsame]
  unfold keepChild keepTransformed
  have hable : isRefAble (eraseRefs child') = isRefAble child' := by rw [eraseRefs_eq]; rfl
  have hempty : (eraseRefs child').children.isEmpty = child'.children.isEmpty := by
    rw [eraseRefs_eq]
    exact isEmpty_eraseRefsForest _
  have hcount : (eraseRefs child').childrenCount = child'.childrenCount := by
    rw [eraseRefs_eq]
  have hhead : (eraseRefs child').children.head? = child'.children.head?.map eraseRefs := by
    rw [eraseRefs_eq]
    exact head?_eraseRefsForest _
  rw [hable, hempty, hcount, hhead]
  by_cases hcollapsible : collapsible = true
  · rw [if_pos hcollapsible, if_pos hcollapsible]
  rw [if_neg hcollapsible, if_neg hcollapsible]
  by_cases hdrop : (config.options.interactiveOnly && !isRefAble child'
      && child'.children.isEmpty && child'.childrenCount.isNone) = true
  · -- the leaf goes from both, as it has no ref
    have hrefId : child'.refId = none := by
      by_contra hsome
      refine hgranted hsome ?_
      simp only [Bool.and_eq_true, Bool.not_eq_true', Option.isNone_iff_eq_none] at hdrop
      have hchildren := congrArg AccessibilityNode.children hsame
      rw [← hable, hsame] at hdrop
      rw [← hempty, hchildren, ← hcount, hsame] at hdrop
      rw [isRefAble_transformTree, transformTree_eq] at hdrop
      exact grantedEntry_of_dropped _ _ _ hdrop.1.1.2 (by simpa using hdrop.1.2) hdrop.2
    rw [if_pos hdrop, hrefId, Option.isNone_none, Bool.and_true, if_pos hdrop]
    rfl
  · rw [if_neg hdrop, if_neg (fun h => hdrop ?_)]
    · rfl
    · simp only [Bool.and_eq_true] at h ⊢
      exact ⟨⟨⟨h.1.1.1.1, h.1.1.2⟩, h.1.2⟩, h.2⟩

mutual

/-- **The walk hands out the transformed tree, with refs.** -/
theorem eraseRefs_allocateRefsAtPath {anchors : List RefPath} (path : RefPath) :
    ∀ (node : AccessibilityNode) {map map' : RefMap} {node' : AccessibilityNode},
      Walkable config anchors (preorderAt path node) →
      allocateRefsAtPath config anchors path node map = .ok (node', map') →
        eraseRefs node' = transformTree config.options.includeBounds
          config.options.interactiveOnly config.options.compact node
  | ⟨refId, role, identity, presentation, childrenCount, subtreeTruncated, children⟩,
      map, map', node', hwalk, h => by
    rw [allocateRefsAtPath] at h
    obtain ⟨⟨own, map₁⟩, -, h⟩ := Except.bind_eq_ok_iff.mp h
    obtain ⟨⟨below, map₂⟩, hbelow, h⟩ := Except.bind_eq_ok_iff.mp h
    cases h
    rw [preorderAt_eq] at hwalk
    rw [eraseRefs, transformTree, eraseRefs_allocateRefsBelow path 0 children
      (fun origin hmem => hwalk origin (List.mem_cons_of_mem _ hmem)) hbelow,
      show refId = none from (hwalk _ List.mem_cons_self).1]
    rfl

theorem eraseRefs_allocateRefsBelow {anchors : List RefPath} (path : RefPath) (index : ℕ) :
    ∀ (children : List AccessibilityNode) {map map' : RefMap}
      {children' : List AccessibilityNode},
      Walkable config anchors (preorderAtBelow path index children) →
      allocateRefsBelow config anchors path index children map = .ok (children', map') →
        eraseRefsForest children' = transformChildren config.options.includeBounds
          config.options.interactiveOnly config.options.compact children
  | [], map, map', children', _, h => by
    rw [allocateRefsBelow] at h
    cases h
    rfl
  | child :: rest, map, map', children', hwalk, h => by
    rw [allocateRefsBelow] at h
    obtain ⟨⟨first, map₁⟩, hchild, h⟩ := Except.bind_eq_ok_iff.mp h
    obtain ⟨⟨others, map₂⟩, hrest, h⟩ := Except.bind_eq_ok_iff.mp h
    cases h
    rw [preorderAtBelow] at hwalk
    have hfirst : Walkable config anchors (preorderAt (path ++ [index]) child) :=
      fun origin hmem => hwalk origin (List.mem_append_left _ hmem)
    rw [eraseRefsForest_append, eraseRefsForest_toList, transformChildren,
      eraseRefs_allocateRefsBelow path (index + 1) rest
        (fun origin hmem => hwalk origin (List.mem_append_right _ hmem)) hrest,
      keepChild_eraseRefs _ (eraseRefs_allocateRefsAtPath (path ++ [index]) child hfirst hchild)
        (grantedEntry_of_allocateRefsAtPath hfirst hchild)]

end

/-- **The two presentation paths agree**: without its refs, the tree of an allocation is the
transformed tree. -/
theorem eraseRefs_allocateRefs (hraw : ∀ node ∈ preorder tree, node.refId = none)
    (hrooted : config.Rooted) (h : allocateRefs tree map config = .ok (out, map')) :
    eraseRefs out = transformTree config.options.includeBounds config.options.interactiveOnly
      config.options.compact tree :=
  eraseRefs_allocateRefsAtPath config.scope.pathPrefix tree (walkable_plannedAnchors hraw hrooted) h

end

namespace Sample

/-- A node of a raw tree, with a role, a name and nothing else. -/
def rawNode (role : String) (name : Option String) (childrenCount : Option ℕ)
    (children : List AccessibilityNode) : AccessibilityNode where
  refId := none
  role := role
  identity := ⟨none, name, none, none, none⟩
  presentation := ⟨none, [], [], none⟩
  childrenCount := childrenCount
  subtreeTruncated := childrenCount.isSome
  children := children

/-- A window with a text, a button in a wrapper, and a list that was not walked. -/
def rawWindow : AccessibilityNode :=
  rawNode "window" (some "Notes") none
    [rawNode "statictext" (some "Hello") none [],
      rawNode "group" none none [rawNode "button" (some "Save") none []],
      rawNode "list" (some "Entries") (some 9) []]

/-- A snapshot of the window, compact and of the interactive nodes only. -/
def snapshotConfig : RefAllocConfig where
  options := ⟨false, true, true⟩
  source := ⟨7, some "Notes", some "w1", some "Notes", none, some "7-1", .window⟩
  scope := ⟨none, []⟩

/-- What the snapshot hands out of the window, and the refs it records. -/
def allocatedWindow : AccessibilityNode × RefMap :=
  (@allocateRefs noBoundsHash rawWindow .new snapshotConfig).toOption.get (by decide)

theorem rawWindow_raw : ∀ node ∈ preorder rawWindow, node.refId = none := by decide

theorem allocateRefs_rawWindow :
    @allocateRefs noBoundsHash rawWindow .new snapshotConfig = .ok allocatedWindow := rfl

end Sample

/-- The button and the list that was not walked are given refs. -/
theorem allocateRefs_bijection_sample :
    carriedRefs Sample.allocatedWindow.1 = ["@e1", "@e2"]
      ∧ RefBijection Sample.rawWindow Sample.snapshotConfig .new Sample.allocatedWindow.1
        Sample.allocatedWindow.2 :=
  ⟨by decide, @allocateRefs_bijection Sample.noBoundsHash _ _ _ _ _
    Sample.rawWindow_raw (fun _ => rfl) RefMap.numbered_new Sample.allocateRefs_rawWindow⟩

/-- Without the two refs, it is the transformed window. -/
theorem eraseRefs_allocateRefs_sample :
    eraseRefs Sample.allocatedWindow.1 = transformTree false true true Sample.rawWindow :=
  @eraseRefs_allocateRefs Sample.noBoundsHash _ _ Sample.snapshotConfig _ _
    Sample.rawWindow_raw (fun _ => rfl) Sample.allocateRefs_rawWindow

end AgentDesktop
