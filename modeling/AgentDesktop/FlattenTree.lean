import Mathlib.Algebra.Ring.Nat
import AgentDesktop.AccessibilityNode
import AgentDesktop.Util.LevelOrder

/-!
# Flattening a tree for C

A caller of the C interface gets a tree as an array of records. The nodes are written in
level order: a queue holds the nodes that are written but whose children are not, each
with its own index, and when a node is taken from the queue its children are appended and
their range is entered in its record.

The array is the layout of a queue (`flattenLoop_eq`), so all that is true of such layouts
is true of it, and below the limit on lists no index loses anything when it is narrowed to
32 bits (`flattenTree_faithful`).
-/

namespace AgentDesktop

namespace Ffi

/-! ## Numbers and texts in C -/

/-- `as u32`. -/
def asU32 (number : ℕ) : ℕ := number % 2 ^ 32

/-- `as i32`: the upper half of the range is negative. -/
def asI32 (number : ℕ) : ℤ :=
  if number % 2 ^ 32 < 2 ^ 31 then (number % 2 ^ 32 : ℕ) else (number % 2 ^ 32 : ℕ) - 2 ^ 32

theorem asU32_of_lt {number : ℕ} (hlt : number < 2 ^ 31) : asU32 number = number :=
  Nat.mod_eq_of_lt (hlt.trans (by decide))

theorem asI32_of_lt {number : ℕ} (hlt : number < 2 ^ 31) : asI32 number = number := by
  have hmod : number % 2 ^ 32 = number := asU32_of_lt hlt
  unfold asI32
  rw [hmod, if_pos hlt]

/-- `string_to_c`: a text with a NUL in it has no C string, and the pointer is null. -/
def stringToC (text : String) : Option String :=
  if text.toList.contains '\x00' then none else some text

/-- `string_to_c_lossy`: every NUL is replaced. -/
def stringToCLossy (text : String) : Option String :=
  if !text.toList.contains '\x00' then stringToC text
  else stringToC (String.ofList
    (text.toList.map (fun c => if c = '\x00' then '\uFFFD' else c)))

/-- `opt_string_to_c`. -/
def optStringToC (text : Option String) : Option String := text.bind stringToCLossy

/-! ## Records -/

/-- `AdNodeContent`; a null pointer is no text. -/
structure AdNodeContent where
  refId : Option String
  role : Option String
  name : Option String
  value : Option String
  description : Option String
  hint : Option String
  deriving DecidableEq

/-- `AdNodePresentation`; the states stand where its pointer points. -/
structure AdNodePresentation where
  states : List (Option String)
  bounds : Rect
  /-- The number of states. -/
  stateCount : ℕ
  /-- Whether there are bounds. -/
  hasBounds : Bool
  deriving DecidableEq

/-- `AdNodeRelation`. -/
structure AdNodeRelation where
  parentIndex : ℤ
  /-- The index of the first child. -/
  childStart : ℕ
  /-- The number of children. -/
  childCount : ℕ
  deriving DecidableEq

/-- `AdNode`. -/
structure AdNode where
  content : AdNodeContent
  /-- The states and the bounds. -/
  presentation : AdNodePresentation
  /-- The place in the tree. -/
  relation : AdNodeRelation
  deriving DecidableEq

/-- `AdNodeTree`; the records stand where its pointer points. -/
structure AdNodeTree where
  nodes : List AdNode
  count : ℕ

/-- The texts of a node's record. -/
def contentOf (node : AccessibilityNode) : AdNodeContent where
  refId := optStringToC node.refId
  role := stringToCLossy node.role
  name := optStringToC node.identity.name
  value := optStringToC node.identity.value
  description := optStringToC node.identity.description
  hint := optStringToC node.presentation.hint

/-- The states and the bounds of a node's record. -/
def presentationOf (node : AccessibilityNode) : AdNodePresentation where
  states := node.presentation.states.map stringToCLossy
  bounds := node.presentation.bounds.getD ⟨.finite 0, .finite 0, .finite 0, .finite 0⟩
  stateCount := asU32 node.presentation.states.length
  hasBounds := node.presentation.bounds.isSome

/-- `to_ad_node`. -/
def toAdNode (node : AccessibilityNode) (parentIndex : ℤ) : AdNode where
  content := contentOf node
  presentation := presentationOf node
  relation := ⟨parentIndex, 0, 0⟩

/-! ## The loops -/

/-- `MAX_FFI_LIST_ITEMS`. -/
def maxFfiListItems : ℕ := 100000

/-- `validate_list_len`. -/
def validateListLen (len : ℕ) (label : String) : Except AdapterError Unit :=
  if len ≤ maxFfiListItems ∧ len ≤ u32Max then .ok ()
  else .error (.new .internal (label ++ " exceeds the FFI output item limit"))

/-- The number of nodes below those of a queue, with them. -/
def queueSize (queue : List AccessibilityNode) : ℕ := (preorderForest queue).length

theorem queueSize_append (first second : List AccessibilityNode) :
    queueSize (first ++ second) = queueSize first + queueSize second := by
  unfold queueSize
  rw [preorderForest_append, List.length_append]

theorem queueSize_cons (node : AccessibilityNode) (queue : List AccessibilityNode) :
    queueSize (node :: queue) = queueSize (queue ++ node.children) + 1 := by
  have hnode : queueSize (node :: queue) = (preorder node ++ preorderForest queue).length := rfl
  rw [hnode, preorder_eq, List.cons_append, List.length_cons, List.length_append,
    queueSize_append, Nat.add_comm (queueSize queue)]
  rfl

theorem length_le_queueSize (queue : List AccessibilityNode) : queue.length ≤ queueSize queue := by
  induction queue with
  | nil => exact Nat.zero_le _
  | cons node queue ih =>
    rw [queueSize_cons, queueSize_append, List.length_cons]
    omega

/-- The loop of `count_nodes_bounded`. -/
def countLoop (limit : ℕ) : List AccessibilityNode → ℕ → Except AdapterError ℕ
  | [], total => .ok total
  | node :: queue, total => do
    let total := min (total + 1) usizeMax
    validateListLen total "Accessibility tree"
    if limit < total then
      throw (.new .internal "Accessibility tree exceeds the FFI output item limit")
    countLoop limit (queue ++ node.children) total
termination_by queue => queueSize queue
decreasing_by
  rw [queueSize_cons]
  exact Nat.lt_succ_self _

/-- `count_nodes_bounded`. -/
def countNodesBounded (node : AccessibilityNode) (limit : ℕ) : Except AdapterError ℕ :=
  countLoop limit [node] 0

/-- The children's range is entered in the record of a node; there is none outside the array. -/
def setChildren (flat : List AdNode) (nodeIdx childStart childCount : ℕ) : Option (List AdNode) :=
  match flat[nodeIdx]? with
  | none => none
  | some record => some (flat.set nodeIdx
    { record with relation := { record.relation with childStart, childCount } })

/-- A child is written and joins the queue. -/
def pushChild (nodeIdx : ℕ) (state : List AdNode × List (AccessibilityNode × ℕ))
    (child : AccessibilityNode) : List AdNode × List (AccessibilityNode × ℕ) :=
  (state.1 ++ [toAdNode child (asI32 nodeIdx)], state.2 ++ [(child, state.1.length)])

/-- The children of a node are written. -/
def pushChildren (nodeIdx : ℕ) (children : List AccessibilityNode) (flat : List AdNode)
    (queue : List (AccessibilityNode × ℕ)) : List AdNode × List (AccessibilityNode × ℕ) :=
  children.foldl (pushChild nodeIdx) (flat, queue)

theorem pushChildren_eq (nodeIdx : ℕ) (children : List AccessibilityNode) (flat : List AdNode)
    (queue : List (AccessibilityNode × ℕ)) :
    pushChildren nodeIdx children flat queue
      = (flat ++ children.map (fun child => toAdNode child (asI32 nodeIdx)),
        queue ++ children.zipIdx flat.length) := by
  induction children generalizing flat queue with
  | nil =>
    rw [List.map_nil, List.zipIdx_nil, List.append_nil, List.append_nil]
    rfl
  | cons child rest ih =>
    show pushChildren nodeIdx rest (flat ++ [toAdNode child (asI32 nodeIdx)])
      (queue ++ [(child, flat.length)]) = _
    rw [ih, List.length_append, List.append_assoc, List.append_assoc, List.map_cons,
      List.zipIdx_cons]
    rfl

/-- **The loop of `flatten_tree`**; `none`: a record outside the array was to be written, where the
program panics. -/
def flattenLoop : List (AccessibilityNode × ℕ) → List AdNode → Option (List AdNode)
  | [], flat => some flat
  | (node, nodeIdx) :: queue, flat =>
    if node.children.isEmpty then flattenLoop queue flat
    else
      match setChildren flat nodeIdx (asU32 flat.length) (asU32 node.children.length) with
      | none => none
      | some flat =>
        flattenLoop (pushChildren nodeIdx node.children flat queue).2
          (pushChildren nodeIdx node.children flat queue).1
termination_by queue => queueSize (queue.map Prod.fst)
decreasing_by
  · rw [List.map_cons, queueSize_cons, queueSize_append]
    exact Nat.lt_succ_of_le (Nat.le_add_right _ _)
  · rw [pushChildren_eq, List.map_append, List.map_cons, queueSize_cons, List.zipIdx_map_fst]
    exact Nat.lt_succ_self _

/-- **`flatten_tree`.** -/
def flattenTree (root : AccessibilityNode) : Except AdapterError (Option AdNodeTree) := do
  let _ ← countNodesBounded root maxFfiListItems
  return (flattenLoop [(root, 0)] [toAdNode root (-1)]).map
    (fun flat => ⟨flat, asU32 flat.length⟩)

/-! ## What the loops do -/

/-- **The count** is the number of nodes, up to the limit. -/
theorem countLoop_eq {queue : List AccessibilityNode} {total : ℕ}
    (htotal : total ≤ maxFfiListItems) :
    countLoop maxFfiListItems queue total
      = if total + queueSize queue ≤ maxFfiListItems then .ok (total + queueSize queue)
        else .error (.new .internal "Accessibility tree exceeds the FFI output item limit") := by
  induction hsize : queueSize queue generalizing queue total with
  | zero =>
    cases queue with
    | nil =>
      unfold countLoop
      rw [Nat.add_zero, if_pos htotal]
    | cons node queue =>
      rw [queueSize_cons] at hsize
      exact absurd hsize (Nat.succ_ne_zero _)
  | succ size ih =>
    cases queue with
    | nil => exact absurd hsize.symm (Nat.succ_ne_zero _)
    | cons node queue =>
      rw [queueSize_cons] at hsize
      have hrest : queueSize (queue ++ node.children) = size := Nat.succ.inj hsize
      have hsaturate : min (total + 1) usizeMax = total + 1 := by
        unfold maxFfiListItems at htotal
        unfold usizeMax
        omega
      unfold countLoop
      simp only [hsaturate]
      by_cases hle : total + 1 ≤ maxFfiListItems
      · have hvalid : validateListLen (total + 1) "Accessibility tree" = .ok () :=
          if_pos ⟨hle, hle.trans (by decide)⟩
        rw [hvalid, if_neg (Nat.not_lt.mpr hle)]
        show countLoop maxFfiListItems (queue ++ node.children) (total + 1) = _
        rw [ih hle hrest, Nat.add_assoc, Nat.add_comm 1 size]
      · have hinvalid : validateListLen (total + 1) "Accessibility tree"
            = .error (.new .internal "Accessibility tree exceeds the FFI output item limit") := by
          unfold validateListLen
          rw [if_neg (fun h => hle h.1)]
          congr 1
        have hover : ¬ total + (size + 1) ≤ maxFfiListItems := by omega
        rw [hinvalid, if_neg hover]
        rfl

/-- The index in the parent's place of a record; the root has none. -/
def parentIndexOf : Option ℕ → ℤ
  | none => -1
  | some index => index

/-- The record of a node that waits in the queue. -/
def waitingRecord (waiting : AccessibilityNode × Option ℕ) : AdNode :=
  toAdNode waiting.1 (parentIndexOf waiting.2)

/-- The record of a node in the finished array. -/
def recordOf (slot : Slot AccessibilityNode) : AdNode where
  content := contentOf slot.item
  presentation := presentationOf slot.item
  relation := ⟨parentIndexOf slot.parent, if slot.count = 0 then 0 else slot.start, slot.count⟩

/-- What is written of the first node of a queue. -/
def slotOf (waiting : AccessibilityNode × Option ℕ) (index queued : ℕ) : Slot AccessibilityNode :=
  ⟨waiting.1, waiting.2, index + 1 + queued, waiting.1.children.length⟩

/-- The children of a node, as they wait. -/
def waitingChildren (node : AccessibilityNode) (index : ℕ) : List (AccessibilityNode × Option ℕ) :=
  node.children.map (fun child => (child, some index))

theorem map_fst_waitingChildren (node : AccessibilityNode) (index : ℕ) :
    (waitingChildren node index).map Prod.fst = node.children := by
  unfold waitingChildren
  rw [List.map_map]
  exact List.map_id _

theorem setChildren_waiting (done after : List AdNode) (waiting : AccessibilityNode × Option ℕ)
    {queued : ℕ} (hchildren : waiting.1.children ≠ []) :
    setChildren (done ++ waitingRecord waiting :: after) done.length (done.length + 1 + queued)
        waiting.1.children.length
      = some (done ++ recordOf (slotOf waiting done.length queued) :: after) := by
  have hcount : waiting.1.children.length ≠ 0 := fun h => hchildren (List.length_eq_zero_iff.mp h)
  unfold setChildren
  rw [List.getElem?_append_right le_rfl, Nat.sub_self, List.getElem?_cons_zero]
  show some ((done ++ waitingRecord waiting :: after).set done.length _) = _
  rw [List.set_append_right _ _ le_rfl, Nat.sub_self, List.set_cons_zero]
  unfold recordOf slotOf
  rw [if_neg hcount]
  rfl

theorem recordOf_slotOf_leaf {waiting : AccessibilityNode × Option ℕ} (index queued : ℕ)
    (hchildren : waiting.1.children = []) :
    recordOf (slotOf waiting index queued) = waitingRecord waiting := by
  unfold recordOf slotOf
  rw [hchildren]
  rfl

/-- **One round of the loop**: the first node of the queue is done, and its children wait. -/
theorem flattenLoop_step {waiting : AccessibilityNode × Option ℕ}
    {pending : List (AccessibilityNode × Option ℕ)} {done : List AdNode}
    (hbound : done.length + 1 + pending.length + waiting.1.children.length < 2 ^ 31) :
    flattenLoop (((waiting :: pending).map Prod.fst).zipIdx done.length)
        (done ++ (waiting :: pending).map waitingRecord)
      = flattenLoop
        (((pending ++ waitingChildren waiting.1 done.length).map Prod.fst).zipIdx (done.length + 1))
        (done ++ [recordOf (slotOf waiting done.length pending.length)]
          ++ (pending ++ waitingChildren waiting.1 done.length).map waitingRecord) := by
  rw [List.map_cons, List.map_cons, List.zipIdx_cons, List.map_append, List.map_append,
    map_fst_waitingChildren, List.append_assoc, List.singleton_append]
  by_cases hchildren : waiting.1.children = []
  · have hnone : waitingChildren waiting.1 done.length = [] := by
      unfold waitingChildren
      rw [hchildren, List.map_nil]
    rw [hnone, hchildren, List.map_nil, List.append_nil, List.append_nil,
      recordOf_slotOf_leaf _ _ hchildren]
    conv_lhs => unfold flattenLoop
    rw [hchildren]
    rfl
  · have hempty : waiting.1.children.isEmpty = false := List.isEmpty_eq_false_iff.mpr hchildren
    have hlength : (done ++ waitingRecord waiting :: pending.map waitingRecord).length
        = done.length + 1 + pending.length := by
      rw [List.length_append, List.length_cons, List.length_map]
      omega
    have hlength' : (done ++ recordOf (slotOf waiting done.length pending.length)
        :: pending.map waitingRecord).length = done.length + 1 + pending.length := by
      rw [List.length_append, List.length_cons, List.length_map]
      omega
    conv_lhs => unfold flattenLoop
    rw [hempty, if_neg Bool.false_ne_true, hlength, asU32_of_lt (by omega), asU32_of_lt (by omega),
      setChildren_waiting _ _ _ hchildren]
    simp only [pushChildren_eq]
    -- the children get the indices that follow those of the queue
    have hqueue : (pending.map Prod.fst ++ waiting.1.children).zipIdx (done.length + 1)
        = (pending.map Prod.fst).zipIdx (done.length + 1)
          ++ waiting.1.children.zipIdx (done.length + 1 + pending.length) := by
      rw [List.zipIdx_append, List.length_map]
    have hrecords : (waitingChildren waiting.1 done.length).map waitingRecord
        = waiting.1.children.map (fun child => toAdNode child (asI32 done.length)) := by
      unfold waitingChildren
      rw [List.map_map, asI32_of_lt (by omega)]
      rfl
    rw [hlength', hqueue, hrecords, List.append_assoc, List.cons_append]

/-- **The array is the layout of the queue.** The records that are done stay as they are, those
that wait get their ranges, and the nodes below them follow. -/
theorem flattenLoop_eq {pending : List (AccessibilityNode × Option ℕ)} {done : List AdNode}
    (hbound : done.length + queueSize (pending.map Prod.fst) < 2 ^ 31) :
    ∃ slots, Queued AccessibilityNode.children done.length pending slots
      ∧ flattenLoop ((pending.map Prod.fst).zipIdx done.length) (done ++ pending.map waitingRecord)
        = some (done ++ slots.map recordOf) := by
  induction hsize : queueSize (pending.map Prod.fst) generalizing pending done with
  | zero =>
    cases pending with
    | nil =>
      refine ⟨[], .nil _, ?_⟩
      unfold flattenLoop
      rfl
    | cons waiting pending =>
      rw [List.map_cons, queueSize_cons] at hsize
      exact absurd hsize (Nat.succ_ne_zero _)
  | succ size ih =>
    cases pending with
    | nil => exact absurd hsize.symm (Nat.succ_ne_zero _)
    | cons waiting pending =>
      rw [List.map_cons, queueSize_cons] at hsize hbound
      have hqueued : pending.length + waiting.1.children.length
          ≤ queueSize (pending.map Prod.fst ++ waiting.1.children) := by
        refine le_trans ?_ (length_le_queueSize _)
        rw [List.length_append, List.length_map]
      have hfst : (pending ++ waitingChildren waiting.1 done.length).map Prod.fst
          = pending.map Prod.fst ++ waiting.1.children := by
        rw [List.map_append, map_fst_waitingChildren]
      have hdone : (done ++ [recordOf (slotOf waiting done.length pending.length)]).length
          = done.length + 1 := List.length_append
      have hbound' : (done ++ [recordOf (slotOf waiting done.length pending.length)]).length
          + queueSize ((pending ++ waitingChildren waiting.1 done.length).map Prod.fst)
            < 2 ^ 31 := by
        rw [hdone, hfst]
        omega
      obtain ⟨slots, hslots, hloop⟩ := ih hbound' (by rw [hfst]; exact Nat.succ.inj hsize)
      rw [hdone] at hslots hloop
      refine ⟨slotOf waiting done.length pending.length :: slots, .cons hslots, ?_⟩
      rw [flattenLoop_step (by omega), hloop, List.map_cons, List.append_assoc,
        List.singleton_append]

/-! ## Level order -/

/-- **The nodes of a tree in level order**; it has no more levels than nodes. -/
def levelOrder (root : AccessibilityNode) : List AccessibilityNode :=
  levels AccessibilityNode.children (preorder root).length [root]

theorem preorderForest_perm (forest : List AccessibilityNode) :
    (preorderForest forest).Perm
      (forest ++ preorderForest (forest.flatMap AccessibilityNode.children)) := by
  induction forest with
  | nil => exact .refl _
  | cons node forest ih =>
    show (preorder node ++ preorderForest forest).Perm _
    rw [preorder_eq, List.flatMap_cons, preorderForest_append, List.cons_append, List.cons_append]
    refine List.Perm.cons node ?_
    refine (ih.append_left (preorderForest node.children)).trans ?_
    rw [← List.append_assoc, ← List.append_assoc]
    exact List.perm_append_comm.append_right _

theorem preorderForest_perm_levels (depth : ℕ) (forest : List AccessibilityNode) :
    (preorderForest forest).Perm (levels AccessibilityNode.children depth forest
      ++ preorderForest (nodesAt AccessibilityNode.children depth forest)) := by
  induction depth generalizing forest with
  | zero => exact .refl _
  | succ depth ih =>
    refine (preorderForest_perm forest).trans ?_
    show List.Perm _ ((forest ++ levels _ depth _) ++ _)
    rw [List.append_assoc]
    exact (ih _).append_left forest

theorem nodesAt_length_preorder (root : AccessibilityNode) :
    nodesAt AccessibilityNode.children (preorder root).length [root] = [] := by
  by_contra hbelow
  have hlevels := le_length_levels hbelow
  have hsize := (preorderForest_perm_levels (preorder root).length [root]).length_eq
  have hroot := preorderForest_singleton root
  have hlast := length_le_queueSize (nodesAt AccessibilityNode.children (preorder root).length [root])
  unfold queueSize at hlast
  rw [hroot, List.length_append] at hsize
  have hpos := List.length_pos_iff.mpr hbelow
  omega

theorem levelOrder_perm (root : AccessibilityNode) : (levelOrder root).Perm (preorder root) := by
  have hlevels := preorderForest_perm_levels (preorder root).length [root]
  rw [nodesAt_length_preorder] at hlevels
  have hroot := preorderForest_singleton root
  have hnone : preorderForest [] = [] := rfl
  rw [hroot, hnone, List.append_nil] at hlevels
  exact hlevels.symm

/-! ## Reading the array -/

/-- The indices of the children of a record. -/
def AdNode.childRange (record : AdNode) : List ℕ :=
  List.range' record.relation.childStart record.relation.childCount

/-- **A tree of records.** -/
inductive RecordTree
  /-- What a record says of its node, and the trees below it. -/
  | node (content : AdNodeContent) (presentation : AdNodePresentation) (children : List RecordTree)

/-- The tree that is read from an index on; there is none outside the array. -/
def follow (nodes : List AdNode) : ℕ → ℕ → Option RecordTree
  | 0, _ => none
  | fuel + 1, index =>
    match nodes[index]? with
    | none => none
    | some record =>
      (record.childRange.mapM (follow nodes fuel)).map
        (RecordTree.node record.content record.presentation)

mutual

/-- The tree of the records of a tree. -/
def recordTree : AccessibilityNode → RecordTree
  | ⟨refId, role, identity, presentation, childrenCount, subtreeTruncated, children⟩ =>
    .node
      (contentOf
        ⟨refId, role, identity, presentation, childrenCount, subtreeTruncated, children⟩)
      (presentationOf
        ⟨refId, role, identity, presentation, childrenCount, subtreeTruncated, children⟩)
      (recordForest children)

/-- The trees of the records of some trees. -/
def recordForest : List AccessibilityNode → List RecordTree
  | [] => []
  | child :: rest => recordTree child :: recordForest rest

end

theorem recordTree_eq (node : AccessibilityNode) :
    recordTree node
      = .node (contentOf node) (presentationOf node) (node.children.map recordTree) := by
  have hforest : ∀ forest, recordForest forest = forest.map recordTree := by
    intro forest
    induction forest with
    | nil => rfl
    | cons child rest ih => rw [List.map_cons, ← ih]; rfl
  obtain ⟨_, _, _, _, _, _, children⟩ := node
  show RecordTree.node _ _ (recordForest children) = _
  rw [hforest]

theorem childRange_recordOf (slot : Slot AccessibilityNode) :
    (recordOf slot).childRange = slot.range := by
  unfold AdNode.childRange recordOf Slot.range
  by_cases hcount : slot.count = 0
  · rw [hcount]
    rfl
  · rw [if_neg hcount]

theorem mapM_range'_eq_some {β : Type} {f : ℕ → Option β} (start : ℕ) (values : List β)
    (hvalues : ∀ (number : ℕ) (value : β), values[number]? = some value →
      f (start + number) = some value) :
    (List.range' start values.length).mapM f = some values := by
  induction values generalizing start with
  | nil => rfl
  | cons value values ih =>
    have hfirst : f start = some value := hvalues 0 value rfl
    have hrest : (List.range' (start + 1) values.length).mapM f = some values := by
      refine ih (start + 1) (fun number value hvalue => ?_)
      rw [Nat.add_right_comm]
      exact hvalues (number + 1) value hvalue
    rw [List.length_cons, List.range'_succ, List.mapM_cons, hfirst, hrest]
    rfl

/-- **Following the ranges** from the record of a node reads the tree below the node. -/
theorem follow_eq {slots : List (Slot AccessibilityNode)}
    {pending : List (AccessibilityNode × Option ℕ)}
    (hqueued : Queued AccessibilityNode.children 0 pending slots) :
    ∀ (fuel index : ℕ) (slot : Slot AccessibilityNode), slots.length ≤ fuel + index →
      slots[index]? = some slot →
      follow (slots.map recordOf) fuel index = some (recordTree slot.item) := by
  intro fuel
  induction fuel with
  | zero =>
    intro index slot hfuel hslot
    have := (List.getElem?_eq_some_iff.mp hslot).1
    omega
  | succ fuel ih =>
    intro index slot hfuel hslot
    obtain ⟨first, hstart, hlt, hchildren⟩ := hqueued.getElem?_children index slot hslot
    have hcount := hqueued.count_eq slot (List.mem_of_getElem? hslot)
    have hrecord : (slots.map recordOf)[index]? = some (recordOf slot) := by
      rw [List.getElem?_map, hslot, Option.map_some]
    have hread : (recordOf slot).childRange.mapM (follow (slots.map recordOf) fuel)
        = some (slot.item.children.map recordTree) := by
      rw [childRange_recordOf]
      unfold Slot.range
      rw [hcount, hstart, Nat.zero_add, ← List.length_map (f := recordTree)]
      refine mapM_range'_eq_some first _ (fun number value hvalue => ?_)
      rw [List.getElem?_map] at hvalue
      obtain ⟨child, hchild, rfl⟩ := Option.map_eq_some_iff.mp hvalue
      obtain ⟨below, hbelow, rfl⟩ := hchildren number child hchild
      exact ih (first + number) below (by omega) hbelow
    unfold follow
    rw [hrecord, recordTree_eq]
    show ((recordOf slot).childRange.mapM (follow (slots.map recordOf) fuel)).map _ = _
    rw [hread]
    rfl

/-! ## The array and the tree -/

/-- **A flattening is faithful** when the array is the tree, laid out level by level. -/
structure FaithfulFlattening (root : AccessibilityNode) (tree : AdNodeTree) : Prop where
  /-- The number of records is told as it is. -/
  count_eq : tree.count = tree.nodes.length
  /-- There is one record for every node, in level order. -/
  level_order : tree.nodes.map (fun record => (record.content, record.presentation))
    = (levelOrder root).map (fun node => (contentOf node, presentationOf node))
  /-- Level order names every node once. -/
  every_node : (levelOrder root).Perm (preorder root)
  /-- A record counts the children of its node. -/
  child_count : tree.nodes.map (fun record => record.relation.childCount)
    = (levelOrder root).map (fun node => node.children.length)
  /-- Following the ranges from the first record gives the tree back. -/
  read_back : follow tree.nodes tree.nodes.length 0 = some (recordTree root)
  /-- The ranges, one behind the other, are all indices but the first. -/
  ranges_tile : tree.nodes.flatMap AdNode.childRange = List.range' 1 (tree.nodes.length - 1)
  /-- Two records have no child in common. -/
  ranges_disjoint : ∀ (i j : ℕ) (first second : AdNode), i ≠ j → tree.nodes[i]? = some first →
    tree.nodes[j]? = some second → first.childRange.Disjoint second.childRange
  /-- The first record has no parent. -/
  root_parent : ∀ record, tree.nodes[0]? = some record → record.relation.parentIndex = -1
  /-- The parent of every other record is the one whose range it is in. -/
  parent_index : ∀ (i : ℕ) (record : AdNode), 0 < i → tree.nodes[i]? = some record →
    ∃ (above : ℕ) (parent : AdNode), tree.nodes[above]? = some parent
      ∧ record.relation.parentIndex = above ∧ i ∈ parent.childRange
  /-- Narrowing to 32 bits changes no index of the array, and not its length. -/
  narrowed : ∀ index ≤ tree.nodes.length, asU32 index = index ∧ asI32 index = index

/-- Of lists that are put one behind the other without a repetition, any two are disjoint. -/
theorem disjoint_of_nodup_flatMap {α β : Type} {items : List α} {f : α → List β}
    (hnodup : (items.flatMap f).Nodup) {i j : ℕ} {first second : α} (hne : i ≠ j)
    (hfirst : items[i]? = some first) (hsecond : items[j]? = some second) :
    (f first).Disjoint (f second) := by
  have hpairwise := List.pairwise_iff_getElem.mp (List.nodup_flatMap.mp hnodup).2
  obtain ⟨hi, rfl⟩ := List.getElem?_eq_some_iff.mp hfirst
  obtain ⟨hj, rfl⟩ := List.getElem?_eq_some_iff.mp hsecond
  rcases Nat.lt_or_gt_of_ne hne with hlt | hgt
  · exact hpairwise i j hi hj hlt
  · exact List.disjoint_symm (hpairwise j i hj hi hgt)

theorem faithful_of_queued {root : AccessibilityNode} {slots : List (Slot AccessibilityNode)}
    (hqueued : Queued AccessibilityNode.children 0 [(root, none)] slots)
    (hlimit : (preorder root).length < 2 ^ 31) :
    FaithfulFlattening root ⟨slots.map recordOf, asU32 (slots.map recordOf).length⟩ := by
  have hitems : slots.map Slot.item = levelOrder root :=
    hqueued.map_item_eq_levels _ (nodesAt_length_preorder root)
  have hlength : (slots.map recordOf).length = slots.length := List.length_map _
  have hsize : slots.length = (preorder root).length := by
    rw [← (levelOrder_perm root).length_eq, ← hitems, List.length_map]
  have hranges : (slots.map recordOf).flatMap AdNode.childRange
      = List.range' 1 (slots.length - 1) := by
    obtain ⟨below, hbelow, htile⟩ := hqueued.flatMap_range
    rw [List.flatMap_map, hbelow, List.length_singleton, Nat.add_sub_cancel_left]
    simp only [childRange_recordOf]
    exact htile
  refine ⟨?_, ?_, levelOrder_perm root, ?_, ?_, ?_, ?_, ?_, ?_, ?_⟩
  · exact asU32_of_lt (by omega)
  · rw [← hitems, List.map_map, List.map_map]
    rfl
  · rw [← hitems, List.map_map, List.map_map]
    refine List.map_congr_left (fun slot hslot => ?_)
    exact hqueued.count_eq slot hslot
  · obtain ⟨slot, hslot, hitem, -⟩ := hqueued.getElem?_pending 0 (root, none) rfl
    have hread := follow_eq hqueued slots.length 0 slot le_rfl hslot
    rw [hitem] at hread
    rw [hlength]
    exact hread
  · rw [hlength]
    exact hranges
  · intro i j first second hne hfirst hsecond
    -- no index stands twice where the ranges are put one behind the other
    have hnodup : ((slots.map recordOf).flatMap AdNode.childRange).Nodup := by
      rw [hranges]
      exact List.nodup_range'
    exact disjoint_of_nodup_flatMap hnodup hne hfirst hsecond
  · intro record hrecord
    obtain ⟨slot, hslot, -, hparent⟩ := hqueued.getElem?_pending 0 (root, none) rfl
    rw [List.getElem?_map, hslot] at hrecord
    obtain rfl := Option.some.inj hrecord
    show parentIndexOf slot.parent = -1
    rw [hparent]
    rfl
  · intro i record hpos hrecord
    rw [List.getElem?_map] at hrecord
    obtain ⟨slot, hslot, rfl⟩ := Option.map_eq_some_iff.mp hrecord
    rcases hqueued.getElem?_parent i slot hslot with ⟨waiting, hwaiting, -⟩ | ⟨-, above, parent,
      habove, hparent, hmem⟩
    · have hroot := (List.getElem?_eq_some_iff.mp hwaiting).1
      rw [List.length_singleton] at hroot
      omega
    · refine ⟨above, recordOf parent, ?_, ?_, ?_⟩
      · rw [List.getElem?_map, habove, Option.map_some]
      · show parentIndexOf slot.parent = above
        rw [hparent, Nat.zero_add]
        rfl
      · rw [childRange_recordOf, ← Nat.zero_add i]
        exact hmem
  · intro index hindex
    have hlt : index < 2 ^ 31 := by
      rw [hlength] at hindex
      omega
    exact ⟨asU32_of_lt hlt, asI32_of_lt hlt⟩

/-- **Flattening loses nothing of the structure.** A tree within the limit on lists is flattened
without a panic, and the array is the tree laid out level by level. -/
theorem flattenTree_faithful (root : AccessibilityNode)
    (hlimit : (preorder root).length ≤ maxFfiListItems) :
    ∃ tree, flattenTree root = .ok (some tree) ∧ FaithfulFlattening root tree := by
  have hroot : queueSize [root] = (preorder root).length := by
    unfold queueSize
    rw [preorderForest_singleton]
  have hlt : (preorder root).length < 2 ^ 31 := lt_of_le_of_lt hlimit (by decide)
  have hcount : countNodesBounded root maxFfiListItems = .ok (0 + (preorder root).length) := by
    unfold countNodesBounded
    rw [countLoop_eq (Nat.zero_le _), hroot, if_pos (by rw [Nat.zero_add]; exact hlimit)]
  have hbound : ([] : List AdNode).length + queueSize ([(root, (none : Option ℕ))].map Prod.fst)
      < 2 ^ 31 := by
    show 0 + queueSize [root] < 2 ^ 31
    rw [hroot, Nat.zero_add]
    exact hlt
  obtain ⟨slots, hqueued, hloop⟩ := flattenLoop_eq hbound
  rw [List.nil_append] at hloop
  refine ⟨⟨slots.map recordOf, asU32 (slots.map recordOf).length⟩, ?_,
    faithful_of_queued hqueued hlt⟩
  unfold flattenTree
  rw [hcount]
  show Except.ok ((flattenLoop [(root, 0)] [toAdNode root (-1)]).map _) = _
  have hflat : flattenLoop [(root, 0)] [toAdNode root (-1)] = some (slots.map recordOf) := hloop
  rw [hflat]
  rfl

end Ffi

namespace Sample

/-- A node with a role and children. -/
def flatNode (role : String) (children : List AccessibilityNode) : AccessibilityNode :=
  ⟨none, role, ⟨none, none, none, none, none⟩, ⟨none, [], [], none⟩, none, false, children⟩

/-- A window with a group of two buttons and a button beside the group. -/
def groupedWindow : AccessibilityNode :=
  flatNode "window" [flatNode "group" [flatNode "button" [], flatNode "link" []],
    flatNode "button" []]

end Sample

/-- Five records; the grandchildren follow the children. -/
theorem Ffi.flattenTree_faithful_sample :
    (preorder Sample.groupedWindow).length = 5
      ∧ ∃ tree, Ffi.flattenTree Sample.groupedWindow = .ok (some tree)
        ∧ Ffi.FaithfulFlattening Sample.groupedWindow tree :=
  ⟨rfl, Ffi.flattenTree_faithful Sample.groupedWindow (by decide)⟩

end AgentDesktop
