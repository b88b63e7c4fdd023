import AgentDesktop.Skeleton
import AgentDesktop.Transform

/-!
# What the walk hands out

The walk that gives refs to a raw tree grants them to the nodes whose entry
passes, in document order, and hands out a presentation of the tree in which
those nodes carry their refs. Which nodes are granted a ref, and with what
entry, is read off the node and its path alone.
-/

namespace AgentDesktop

section

variable [BoundsHasher]

/-- **The entry a node is offered a ref with**: by its own actions, or as an anchor. -/
def offeredEntry (config : RefAllocConfig) (path : RefPath) (node : AccessibilityNode) :
    Option RefEntry :=
  if isRefAble node then some (refAbleEntry config path node)
  else if offeredAsAnchor config path node then some (anchorEntry config path node)
  else none

/-- **The entry a node is granted a ref with**: the one it is offered, if that passes. -/
def grantedEntry (config : RefAllocConfig) (path : RefPath) (node : AccessibilityNode) :
    Option RefEntry :=
  (offeredEntry config path node).filter (fun entry => entry.hasValidRole && entry.isValid)

theorem allocateObservedRef_eq (map : RefMap) (entry : RefEntry) :
    allocateObservedRef map entry
      = if entry.hasValidRole && entry.isValid then
          (map.allocateValidated entry).map (fun result => (some result.1, result.2))
        else .ok (none, map) := by
  unfold allocateObservedRef RefMap.tryAllocateObserved
  cases entry.hasValidRole with
  | false => rfl
  | true =>
    cases entry.isValid with
    | false => rfl
    | true =>
      show Except.map _ (Except.map _ (map.allocateValidated entry)) = _
      cases map.allocateValidated entry <;> rfl

/-- **One node of the walk**: it is given a ref with the entry it is granted. -/
theorem allocateOwnRef_eq {config : RefAllocConfig} {anchors : List RefPath} {path : RefPath}
    {node : AccessibilityNode} (hraw : node.refId = none)
    (hanchors : anchors.contains path = offeredAsAnchor config path node) (map : RefMap) :
    allocateOwnRef config anchors path node map
      = match grantedEntry config path node with
        | some entry =>
          (map.allocateValidated entry).map (fun result => (some result.1, result.2))
        | none => .ok (none, map) := by
  unfold allocateOwnRef grantedEntry offeredEntry
  rw [hanchors, hraw, allocateObservedRef_eq, allocateObservedRef_eq]
  split_ifs with hable hpasses hanchor hpasses
  · rw [Option.filter_some, if_pos hpasses]
  · rw [Option.filter_some, if_neg hpasses]
  · rw [Option.filter_some, if_pos hpasses]
  · rw [Option.filter_some, if_neg hpasses]
  · rfl

theorem grantedEntry_of_isCollapsible {config : RefAllocConfig} {path : RefPath}
    {node : AccessibilityNode} (h : isCollapsible node = true) :
    grantedEntry config path node = none := by
  unfold grantedEntry offeredEntry offeredAsAnchor isAnchor
  rw [isRefAble_of_isCollapsible h, isResolvable_of_isCollapsible h]
  simp

/-! ## What a stretch of the walk does -/

/-- **A node handed out shows its origin**, and its ref is bound to the entry the origin is
granted. -/
def ShowsGranted (config : RefAllocConfig) (map : RefMap) (node : AccessibilityNode)
    (origin : RefPath × AccessibilityNode) : Prop :=
  ShowsNode config.options.includeBounds node origin.2
    ∧ ∀ refId, node.refId = some refId →
      ∃ entry, map.get refId = some entry ∧ grantedEntry config origin.1 origin.2 = some entry

/-- **What a stretch of the walk does**: the nodes handed out present the raw ones, the map
grows, the refs are the next ones in the order of the nodes, and every node that is granted a
ref is recorded under a new one. -/
structure Recorded (config : RefAllocConfig) (raw : List (RefPath × AccessibilityNode))
    (map : RefMap) (nodes : List AccessibilityNode)
    (origins : List (RefPath × AccessibilityNode)) (map' : RefMap) : Prop where
  /-- The nodes present the raw ones. -/
  presents : Presentation (ShowsGranted config map') raw nodes origins
  /-- The map grows. -/
  grown : map.Extends (fun _ => True) map'
  /-- The refs are numbered in the order of the nodes. -/
  numbered : nodes.filterMap AccessibilityNode.refId
    = (List.range' (map.counter + 1) (map'.counter - map.counter)).map refIdOf
  /-- What is granted is recorded. -/
  granted : ∀ origin ∈ raw, ∀ entry, grantedEntry config origin.1 origin.2 = some entry →
    ∃ refId, map.get refId = none ∧ map'.get refId = some entry

namespace Recorded

variable {config : RefAllocConfig} {raw raw' origins origins' : List (RefPath × AccessibilityNode)}
  {nodes nodes' : List AccessibilityNode} {map map₁ map₂ : RefMap}

theorem childrenCount_of_showsGranted (node : AccessibilityNode)
    (origin : RefPath × AccessibilityNode) (h : ShowsGranted config map node origin) :
    node.childrenCount = origin.2.childrenCount :=
  h.1.childrenCount

theorem nil (map : RefMap) : Recorded config [] map [] [] map where
  presents := Presentation.nil
  grown := .refl map
  numbered := by rw [Nat.sub_self]; rfl
  granted := fun _ h => absurd h List.not_mem_nil

theorem presents_of_extends (h : Presentation (ShowsGranted config map) raw nodes origins)
    (hgrown : map.Extends (fun _ => True) map₁) :
    Presentation (ShowsGranted config map₁) raw nodes origins := by
  refine ⟨h.sublist, h.shown.imp (fun node origin hshows => ⟨hshows.1, fun refId hrefId => ?_⟩),
    h.counted⟩
  obtain ⟨entry, hget, hgranted⟩ := hshows.2 refId hrefId
  exact ⟨entry, hgrown.kept refId entry hget, hgranted⟩

theorem append (h : Recorded config raw map nodes origins map₁)
    (h' : Recorded config raw' map₁ nodes' origins' map₂) :
    Recorded config (raw ++ raw') map (nodes ++ nodes') (origins ++ origins') map₂ where
  presents := (presents_of_extends h.presents h'.grown).append h'.presents
  grown := h.grown.trans h'.grown
  numbered := by
    have hle := h.grown.counter_le
    have hle' := h'.grown.counter_le
    rw [List.filterMap_append, h.numbered, h'.numbered, ← List.map_append,
      show map₁.counter + 1 = map.counter + 1 + (map₁.counter - map.counter) by omega,
      List.range'_append_1,
      show map₁.counter - map.counter + (map₂.counter - map₁.counter)
        = map₂.counter - map.counter by omega]
  granted := by
    intro origin hmem entry hentry
    rcases List.mem_append.mp hmem with hmem | hmem
    · obtain ⟨refId, hnew, hget⟩ := h.granted origin hmem entry hentry
      exact ⟨refId, hnew, h'.grown.kept refId entry hget⟩
    · obtain ⟨refId, hnew, hget⟩ := h'.granted origin hmem entry hentry
      refine ⟨refId, ?_, hget⟩
      cases hold : map.get refId with
      | none => rfl
      | some old =>
        rw [h.grown.kept refId old hold] at hnew
        cases hnew

theorem drop {node : AccessibilityNode}
    (h : Recorded config raw map (node :: nodes) origins map₁) (hrefId : node.refId = none)
    (hcount : node.childrenCount = none) :
    Recorded config raw map nodes origins.tail map₁ where
  presents := h.presents.drop childrenCount_of_showsGranted hcount
  grown := h.grown
  numbered := by
    rw [← h.numbered, List.filterMap_cons_none hrefId]
  granted := h.granted

theorem own {anchors : List RefPath} {path : RefPath} {node : AccessibilityNode}
    {refId : Option String} (node' : AccessibilityNode) (hmap : map.Numbered) (hraw : node.refId = none)
    (hanchors : anchors.contains path = offeredAsAnchor config path node)
    (h : allocateOwnRef config anchors path node map = .ok (refId, map₁))
    (hnode : node'.refId = refId) (hshows : ShowsNode config.options.includeBounds node' node) :
    Recorded config [(path, node)] map [node'] [(path, node)] map₁ := by
  rw [allocateOwnRef_eq hraw hanchors] at h
  cases hgranted : grantedEntry config path node with
  | none =>
    rw [hgranted] at h
    cases h
    refine ⟨Presentation.nil.cons ⟨hshows, fun other hother => ?_⟩, .refl map, ?_, ?_⟩
    · rw [hnode] at hother
      cases hother
    · rw [Nat.sub_self, List.filterMap_cons_none hnode]
      rfl
    · intro origin hmem entry hentry
      rw [List.mem_singleton.mp hmem, hgranted] at hentry
      cases hentry
  | some entry =>
    rw [hgranted] at h
    obtain ⟨⟨newId, map'⟩, hallocate, hresult⟩ := Except.map_eq_ok_iff.mp h
    cases hresult
    have hgrown : map.Extends (fun _ => True) map' :=
      RefMap.allocateValidated_extends hmap trivial hallocate
    obtain ⟨-, rfl, hmap₁⟩ := RefMap.allocateValidated_eq_ok hallocate
    have hcounter : map'.counter = map.counter + 1 := by rw [hmap₁]
    have hget : map'.get (refIdOf (map.counter + 1)) = some entry := by
      rw [hmap₁]
      exact AssocMap.get_insert_self _ _ _
    refine ⟨Presentation.nil.cons ⟨hshows, fun other hother => ?_⟩, hgrown, ?_, ?_⟩
    · rw [hnode] at hother
      cases hother
      exact ⟨entry, hget, hgranted⟩
    · rw [hcounter, Nat.add_sub_cancel_left, List.filterMap_cons_some hnode]
      rfl
    · intro origin hmem other hother
      rw [List.mem_singleton.mp hmem, hgranted] at hother
      cases hother
      exact ⟨_, hmap.get_fresh (Nat.lt_succ_self _), hget⟩

end Recorded

/-! ## The whole walk -/

/-- A stretch of raw nodes, without refs, on which the anchors are those of the plan. -/
def Walkable (config : RefAllocConfig) (anchors : List RefPath)
    (raw : List (RefPath × AccessibilityNode)) : Prop :=
  ∀ origin ∈ raw, origin.2.refId = none
    ∧ anchors.contains origin.1 = offeredAsAnchor config origin.1 origin.2

theorem allocateRefsBelow_length_le {config : RefAllocConfig} {anchors : List RefPath}
    {path : RefPath} {index : ℕ} {children children' : List AccessibilityNode} {map map' : RefMap}
    (h : allocateRefsBelow config anchors path index children map = .ok (children', map')) :
    children'.length ≤ children.length := by
  induction children generalizing index map children' map' with
  | nil =>
    rw [allocateRefsBelow] at h
    cases h
    exact le_rfl
  | cons child rest ih =>
    rw [allocateRefsBelow] at h
    obtain ⟨⟨first, map₁⟩, -, h⟩ := Except.bind_eq_ok_iff.mp h
    obtain ⟨⟨others, map₂⟩, hrest, h⟩ := Except.bind_eq_ok_iff.mp h
    cases h
    rw [List.length_append, List.length_cons, Nat.add_comm]
    exact Nat.add_le_add (ih hrest) (length_toList_le _)

mutual

/-- **The walk over a tree hands out a presentation of it and records what it grants.** -/
theorem allocateRefsAtPath_recorded {config : RefAllocConfig} {anchors : List RefPath}
    (path : RefPath) :
    ∀ (node : AccessibilityNode) {map map' : RefMap} {node' : AccessibilityNode},
      Walkable config anchors (preorderAt path node) → map.Numbered →
      allocateRefsAtPath config anchors path node map = .ok (node', map') →
        (∃ origins, Recorded config (preorderAt path node) map (preorder node')
            ((path, node) :: origins) map')
          ∧ node'.children.length ≤ node.children.length
  | ⟨refId, role, identity, presentation, childrenCount, subtreeTruncated, children⟩,
      map, map', node', hwalk, hmap, h => by
    rw [allocateRefsAtPath] at h
    obtain ⟨⟨own, map₁⟩, hown, h⟩ := Except.bind_eq_ok_iff.mp h
    obtain ⟨⟨below, map₂⟩, hbelow, h⟩ := Except.bind_eq_ok_iff.mp h
    cases h
    refine ⟨?_, allocateRefsBelow_length_le hbelow⟩
    rw [preorderAt_eq] at hwalk ⊢
    obtain ⟨hraw, hanchors⟩ := hwalk _ List.mem_cons_self
    have hself := Recorded.own ⟨own, role, identity,
      shownPresentation config.options.includeBounds presentation, childrenCount,
      subtreeTruncated, below⟩ hmap hraw hanchors hown rfl rfl
    obtain ⟨origins, horigins⟩ := allocateRefsBelow_recorded path 0 children
      (fun origin hmem => hwalk origin (List.mem_cons_of_mem _ hmem))
      (hself.grown.numbered hmap) hbelow
    refine ⟨origins, ?_⟩
    rw [preorder_eq]
    exact hself.append horigins

theorem allocateRefsBelow_recorded {config : RefAllocConfig} {anchors : List RefPath}
    (path : RefPath) (index : ℕ) :
    ∀ (children : List AccessibilityNode) {map map' : RefMap}
      {children' : List AccessibilityNode},
      Walkable config anchors (preorderAtBelow path index children) → map.Numbered →
      allocateRefsBelow config anchors path index children map = .ok (children', map') →
        ∃ origins, Recorded config (preorderAtBelow path index children) map
          (preorderForest children') origins map'
  | [], map, map', children', _, _, h => by
    rw [allocateRefsBelow] at h
    cases h
    exact ⟨[], Recorded.nil map⟩
  | child :: rest, map, map', children', hwalk, hmap, h => by
    rw [allocateRefsBelow] at h
    obtain ⟨⟨first, map₁⟩, hchild, h⟩ := Except.bind_eq_ok_iff.mp h
    obtain ⟨⟨others, map₂⟩, hrest, h⟩ := Except.bind_eq_ok_iff.mp h
    cases h
    rw [preorderAtBelow] at hwalk ⊢
    obtain ⟨⟨origins, hfirst⟩, hlength⟩ := allocateRefsAtPath_recorded (path ++ [index]) child
      (fun origin hmem => hwalk origin (List.mem_append_left _ hmem)) hmap hchild
    obtain ⟨later, hlater⟩ := allocateRefsBelow_recorded path (index + 1) rest
      (fun origin hmem => hwalk origin (List.mem_append_right _ hmem))
      (hfirst.grown.numbered hmap) hrest
    have hkept : ∃ kept, Recorded config (preorderAt (path ++ [index]) child) map
        (preorderForest (keepChild config (config.options.compact && isCollapsible child)
          first).toList) kept map₁ := by
      rw [preorder_eq] at hfirst
      have hshows := (List.forall₂_cons.mp hfirst.presents.shown).1
      unfold keepChild
      split_ifs with hcollapsible hdropped
      · -- the wrapper goes: nothing was granted to it, and its child takes its place
        have hcollapses := (Bool.and_eq_true_iff.mp hcollapsible).2
        obtain ⟨hcount, hone⟩ := of_isCollapsible hcollapses
        rw [toList_head?_of_length_le (hone ▸ hlength)]
        refine ⟨_, hfirst.drop ?_ (hshows.1.childrenCount.trans hcount)⟩
        cases hrefId : first.refId with
        | none => rfl
        | some refId =>
          obtain ⟨entry, -, hentry⟩ := hshows.2 refId hrefId
          rw [grantedEntry_of_isCollapsible hcollapses] at hentry
          cases hentry
      · -- a leaf goes, which was given no ref
        simp only [Bool.and_eq_true, Option.isNone_iff_eq_none, List.isEmpty_iff] at hdropped
        rw [hdropped.1.2] at hfirst
        exact ⟨_, hfirst.drop hdropped.1.1.1.2 hdropped.2⟩
      · rw [← preorder_eq] at hfirst
        exact ⟨_, by rw [Option.toList_some, preorderForest_singleton]; exact hfirst⟩
    obtain ⟨kept, hkept⟩ := hkept
    refine ⟨kept ++ later, ?_⟩
    rw [preorderForest_append]
    exact hkept.append hlater

end

omit [BoundsHasher] in
theorem mem_preorder_of_mem_preorderAt {path : RefPath} {node : AccessibilityNode}
    {origin : RefPath × AccessibilityNode} (h : origin ∈ preorderAt path node) :
    origin.2 ∈ preorder node := by
  rw [← map_snd_preorderAt path]
  exact List.mem_map_of_mem h

/-- **The plan for a raw tree** is the one the walk finds on its way. -/
theorem walkable_plannedAnchors {tree : AccessibilityNode} {config : RefAllocConfig}
    (hraw : ∀ node ∈ preorder tree, node.refId = none) (hrooted : config.Rooted) :
    Walkable config (plannedAnchors config tree) (preorderAt config.scope.pathPrefix tree) :=
  fun _ hmem => ⟨hraw _ (mem_preorder_of_mem_preorderAt hmem),
    contains_plannedAnchors hrooted hmem⟩

theorem allocateRefs_recorded {tree node' : AccessibilityNode} {config : RefAllocConfig}
    {map map' : RefMap} (hraw : ∀ node ∈ preorder tree, node.refId = none)
    (hrooted : config.Rooted) (hmap : map.Numbered)
    (h : allocateRefs tree map config = .ok (node', map')) :
    ∃ origins, Recorded config (preorderAt config.scope.pathPrefix tree) map (preorder node')
      ((config.scope.pathPrefix, tree) :: origins) map' :=
  (allocateRefsAtPath_recorded config.scope.pathPrefix tree
    (walkable_plannedAnchors hraw hrooted) hmap h).1

end

end AgentDesktop
