import AgentDesktop.Traversal

/-!
# The accounts of a walk

Whatever the native tree looks like, and whatever goes wrong on the way, a walk claims each
node it visits, so that it visits no more of them than it may; and it visits none below the
last level. This is kept by every part of the walk, also by one that fails (`Accounted`).

The handles are another matter: they are given up by the one who finds that a child is not
walked, and this may be the visit of the child, the visit of its parent, or the loop over its
siblings. A part of the walk that does not fail gives up exactly the handles it was given
(`Settles`). The count is kept in 64 bits and does not wrap, because the levels are few and a
read of children is bounded by the budget (`room`).
-/

namespace AgentDesktop

namespace LocatorTraversal

variable {σ : Type}

/-! ## What the accounts say -/

/-- The part of a walk that the accounts are about. -/
def Walk.ledger (walk : Walk σ) : ObservationBudget × ℕ × List Visit × ℕ × UInt8 × UInt8 :=
  (walk.usage.limits, walk.usage.nodes, walk.visits, walk.arena.stats.traversal.nodesVisited,
    walk.arena.stats.traversal.maxLogicalDepth, walk.arena.stats.traversal.maxRawDepth)

/-- A visit is as deep as it may be. -/
def Within (request : ObservationRequest) (visit : Visit) : Prop :=
  visit.logicalDepth ≤ request.maxLogicalDepth ∧ visit.rawDepth ≤ request.maxRawDepth

/-- **The accounts of a walk agree with its visits**, and these are not too many and not too
deep. -/
structure Accounted (request : ObservationRequest) (walk : Walk σ) : Prop where
  /-- The limits are those that were asked for. -/
  limits : walk.usage.limits = request.budget
  /-- Every visit was claimed. -/
  claimed : walk.visits.length = walk.usage.nodes
  /-- Every visit was counted. -/
  counted : walk.arena.stats.traversal.nodesVisited = walk.visits.length
  /-- No more nodes are claimed than there may be. -/
  nodes : walk.usage.nodes ≤ request.budget.maxNodes
  /-- No visit is too deep. -/
  within : ∀ visit ∈ walk.visits, Within request visit
  /-- The deepest levels that are told are not too deep. -/
  deepest : walk.arena.stats.traversal.maxLogicalDepth ≤ request.maxLogicalDepth
    ∧ walk.arena.stats.traversal.maxRawDepth ≤ request.maxRawDepth

theorem Accounted.of_ledger {request : ObservationRequest} {walk walk' : Walk σ}
    (h : Accounted request walk) (hledger : walk'.ledger = walk.ledger) :
    Accounted request walk' := by
  simp only [Walk.ledger, Prod.mk.injEq] at hledger
  obtain ⟨hlimits, hnodes, hvisits, hcounted, hlogical, hraw⟩ := hledger
  refine ⟨?_, ?_, ?_, ?_, ?_, ?_, ?_⟩
  · rw [hlimits]
    exact h.limits
  · rw [hvisits, hnodes]
    exact h.claimed
  · rw [hcounted, hvisits]
    exact h.counted
  · rw [hnodes]
    exact h.nodes
  · rw [hvisits]
    exact h.within
  · rw [hlogical]
    exact h.deepest.1
  · rw [hraw]
    exact h.deepest.2

theorem max_le_of_levels {depth depth' limit : UInt8} (h : depth ≤ limit) (h' : depth' ≤ limit) :
    max depth depth' ≤ limit := by
  show (if depth ≤ depth' then depth' else depth) ≤ limit
  split_ifs
  · exact h'
  · exact h

/-- **A visit that is claimed and counted keeps the accounts.** -/
theorem Accounted.noteVisit {request : ObservationRequest} {walk : Walk σ}
    {usage : ObservationUsage} {visit : Visit} (h : Accounted request walk)
    (hclaim : walk.usage.claimNode = some usage) (hwithin : Within request visit)
    (ancestors : Finset ℕ) :
    Accounted request (({ walk with usage }.withArena (fun arena =>
      { arena with ancestors })).noteVisit visit) := by
  unfold ObservationUsage.claimNode at hclaim
  split_ifs at hclaim with hfull
  obtain rfl := Option.some.inj hclaim
  have hroom : walk.usage.nodes < request.budget.maxNodes := by
    rw [← h.limits]
    exact not_le.mp hfull
  refine ⟨h.limits, ?_, ?_, hroom, ?_, ?_, ?_⟩
  · show walk.visits.length + 1 = walk.usage.nodes + 1
    rw [h.claimed]
  · show walk.arena.stats.traversal.nodesVisited + 1 = walk.visits.length + 1
    rw [h.counted]
  · exact List.forall_mem_cons.mpr ⟨hwithin, h.within⟩
  · exact max_le_of_levels h.deepest.1 hwithin.1
  · exact max_le_of_levels h.deepest.2 hwithin.2

/-! ## Handles

A handle is owned from the read that loads it to the visit that gives it up. On every level only the
children of one element are owned, which bounds how many there are at once. -/

theorem TraversalArena.dropHandles_ownedHandles {arena : TraversalArena} {count : ℕ}
    (hcount : count ≤ arena.ownedHandles) (hmax : arena.ownedHandles ≤ u64Max) :
    (arena.dropHandles count).ownedHandles + count = arena.ownedHandles := by
  show arena.ownedHandles - min count u64Max + count = arena.ownedHandles
  rw [min_eq_left (hcount.trans hmax)]
  exact Nat.sub_add_cancel hcount

theorem TraversalArena.addHandles_ownedHandles {arena : TraversalArena} {count : ℕ}
    (hmax : arena.ownedHandles + count ≤ u64Max) :
    (arena.addHandles count).ownedHandles = arena.ownedHandles + count := by
  show min (arena.ownedHandles + min count u64Max) u64Max = arena.ownedHandles + count
  rw [min_eq_left ((Nat.le_add_left _ _).trans hmax), min_eq_left hmax]

/-- The most children that a read loads. -/
def room (request : ObservationRequest) : ℕ :=
  max request.budget.maxChildrenPerNode maxLabelElements

/-- **What may be owned on a level**: the handles that are about to be given up, and not more
than the root and the children on every level above. -/
structure OwnedAt (request : ObservationRequest) (count level : ℕ) (walk : Walk σ) : Prop where
  /-- The handles to give up are there. -/
  enough : count ≤ walk.arena.ownedHandles
  /-- They are not too many. -/
  bounded : walk.arena.ownedHandles ≤ 1 + level * room request

theorem OwnedAt.paid {request : ObservationRequest} {count level : ℕ} {walk walk' : Walk σ}
    (howned : OwnedAt request (count + 1) level walk)
    (hpaid : walk'.arena.ownedHandles + 1 = walk.arena.ownedHandles) :
    OwnedAt request count level walk' := by
  have henough := howned.enough
  have hbounded := howned.bounded
  exact ⟨by omega, by omega⟩

/-- **What a request that was accepted is sure of.** -/
theorem validate_spec {request : ObservationRequest} (h : request.validate = .ok ()) :
    request.budget.maxChildrenPerNode ≤ 4096 ∧ request.maxRawDepth ≤ 50
      ∧ request.maxLogicalDepth ≤ request.maxRawDepth := by
  unfold ObservationRequest.validate validateBudget validateLimit at h
  simp only [Except.bind_eq_ok_iff, Except.ensure_eq_ok_iff, Bool.and_eq_true,
    decide_eq_true_eq] at h
  obtain ⟨-, ⟨-, -, -, -, -, ⟨-, hchildren⟩, -⟩, -, ⟨-, hraw⟩, -, hlogical, -⟩ := h
  exact ⟨hchildren, hraw, hlogical⟩

theorem room_le {request : ObservationRequest} (h : request.validate = .ok ()) :
    room request ≤ 4096 :=
  max_le (validate_spec h).1 (by decide)

theorem bound_le_u64Max {request : ObservationRequest} (h : request.validate = .ok ())
    {level : ℕ} (hlevel : level ≤ 51) : 1 + level * room request ≤ u64Max := by
  have hmul : level * room request ≤ 51 * 4096 := Nat.mul_le_mul hlevel (room_le h)
  exact (Nat.add_le_add_left hmul 1).trans (by decide)

/-! ## What a part of the walk settles

Each part of the walk is described by what it does to the accounts and by the handles it has given
up, failures included. Parts that follow one another settle what they settle together. -/

/-- **A part of the walk keeps the accounts**, also when it fails; and when it does not, it gives
up the handles it was given. -/
structure Settles {α : Type} (request : ObservationRequest) (count : ℕ) (walk : Walk σ)
    (result : Walked σ α) : Prop where
  /-- The accounts are kept. -/
  accounted : Accounted request result.2
  /-- The handles are given up. -/
  balanced : ∀ value, result.1 = .ok value →
    result.2.arena.ownedHandles + count = walk.arena.ownedHandles

namespace Settles

variable {α : Type} {request : ObservationRequest} {count : ℕ} {walk walk' : Walk σ}

theorem failed {failure : AdapterError} (h : Accounted request walk') :
    Settles (α := α) request count walk (.error failure, walk') :=
  ⟨h, fun _ hvalue => nomatch hvalue⟩

theorem done {value : α} (h : Accounted request walk')
    (hbalance : walk'.arena.ownedHandles + count = walk.arena.ownedHandles) :
    Settles request count walk (.ok value, walk') :=
  ⟨h, fun _ _ => hbalance⟩

theorem pay {paid : ℕ} {result : Walked σ α} (h : Settles request count walk' result)
    (hpaid : walk'.arena.ownedHandles + paid = walk.arena.ownedHandles) :
    Settles request (count + paid) walk result := by
  refine ⟨h.accounted, fun value hvalue => ?_⟩
  have hbalance := h.balanced value hvalue
  omega

end Settles

section Parts

variable {locator : Locator σ}

theorem remainingBudget_ledger (locator : Locator σ) (walk : Walk σ) :
    (remainingBudget locator walk).2.ledger = walk.ledger := rfl

theorem remainingBudget_arena (locator : Locator σ) (walk : Walk σ) :
    (remainingBudget locator walk).2.arena = walk.arena := rfl

/-- What is left after an element was entered, or not. -/
def Entered (request : ObservationRequest) (walk : Walk σ) (result : Bool × Walk σ) : Prop :=
  Accounted request result.2
    ∧ result.2.arena.ownedHandles + (if result.1 then 0 else 1) = walk.arena.ownedHandles

/-- **An element that is entered keeps its handle, and one that is not gives it up.** -/
theorem enter_spec (hvalid : locator.request.validate = .ok ()) {visit : Visit} {walk : Walk σ}
    (hwithin : Within locator.request visit) (haccounted : Accounted locator.request walk)
    {level : ℕ} (hlevel : level ≤ 51) (howned : OwnedAt locator.request 1 level walk) :
    Entered locator.request walk (enter locator visit walk) := by
  have hmax := howned.bounded.trans (bound_le_u64Max hvalid hlevel)
  have hdrop := TraversalArena.dropHandles_ownedHandles howned.enough hmax
  have htimed := haccounted.of_ledger (remainingBudget_ledger locator walk)
  have harena := remainingBudget_arena locator walk
  unfold enter
  generalize remainingBudget locator walk = timed at htimed harena
  obtain ⟨time, timed⟩ := timed
  dsimp only at htimed harena
  rw [← harena] at hdrop
  cases time with
  | none => exact ⟨htimed.of_ledger rfl, hdrop.trans (by rw [harena])⟩
  | some time =>
    dsimp only
    split_ifs with hcycle
    · exact ⟨htimed.of_ledger rfl, hdrop.trans (by rw [harena])⟩
    · cases hclaim : timed.usage.claimNode with
      | none => exact ⟨htimed.of_ledger rfl, hdrop.trans (by rw [harena])⟩
      | some usage =>
        refine ⟨htimed.noteVisit hclaim hwithin _, ?_⟩
        rw [← harena]
        rfl

theorem plan_le_room {walk : Walk σ} (haccounted : Accounted locator.request walk)
    (rawDepth : UInt8) :
    max (childCapacity walk.usage) (boundaryLabelElements locator.request rawDepth)
      ≤ room locator.request := by
  refine max_le_max ?_ ?_
  · unfold childCapacity
    rw [haccounted.limits]
    exact (min_le_left _ _).trans (min_le_left _ _)
  · unfold boundaryLabelElements
    dsimp only
    split_ifs
    · exact le_refl _
    · exact Nat.zero_le _

/-- **A read leaves the accounts and the handles alone, and what it loads has room.** -/
theorem readVisited_spec (visit : Visit) {walk : Walk σ}
    (haccounted : Accounted locator.request walk) :
    Accounted locator.request (readVisited locator visit walk).2
      ∧ (readVisited locator visit walk).2.arena.ownedHandles = walk.arena.ownedHandles
      ∧ ∀ read, (readVisited locator visit walk).1 = .ok read →
          read.childRead.elements.length ≤ room locator.request := by
  unfold readVisited
  dsimp only
  generalize hplan : ChildReadPlan.boundaryAware _ _ _ _ = plan
  generalize hstate : ReadState.mk walk.arena.stats walk.usage walk.world = state
  generalize locator.request.evidencePlan.forRawDepth visit.rawDepth = requirements
  have hmoves : Untouched state ((readNode locator.source walk.context visit.element requirements
      locator.deadline plan).run state).2 :=
    readNode_moves walk.context visit.element requirements locator.deadline plan state
  have hloads : ∀ read, ((readNode locator.source walk.context visit.element requirements
      locator.deadline plan).run state).1 = .ok read →
      read.childRead.elements.length ≤ max plan.maxElements plan.boundaryElements :=
    readNode_length_le walk.context visit.element requirements locator.deadline plan state
  generalize (readNode locator.source walk.context visit.element requirements locator.deadline
    plan).run state = result at hmoves hloads ⊢
  subst hstate hplan
  obtain ⟨outcome, state⟩ := result
  have hledger : Walk.ledger { walk with
      arena := { walk.arena with stats := state.stats }
      usage := state.usage
      world := state.world } = walk.ledger := by
    simp only [Untouched, traversed, Prod.mk.injEq] at hmoves
    obtain ⟨hnodes, -, hlimits, hvisited, -, hraw, hlogical⟩ := hmoves
    simp only [Walk.ledger, hnodes, hlimits, hvisited, hraw, hlogical]
  cases outcome with
  | error error =>
    exact ⟨haccounted.of_ledger hledger, rfl, fun read hread => nomatch hread⟩
  | ok read =>
    have hroom : read.childRead.elements.length ≤ room locator.request :=
      (hloads read rfl).trans (plan_le_room haccounted visit.rawDepth)
    refine ⟨?_, ?_, fun read' hread => ?_⟩
    · dsimp only
      split_ifs
      · exact haccounted.of_ledger hledger
      · exact haccounted.of_ledger hledger
    · dsimp only
      split_ifs
      · rfl
      · rfl
    · obtain rfl := Except.ok.inj hread
      exact hroom

section Leaving

variable {visit : Visit} {walk walk' : Walk σ} (haccounted : Accounted locator.request walk')
  (hsame : walk'.arena.ownedHandles = walk.arena.ownedHandles)
  (henough : 1 ≤ walk.arena.ownedHandles) (hmax : walk.arena.ownedHandles ≤ u64Max)

include haccounted hsame henough hmax

omit haccounted in
theorem giveUp_balanced (element : AXElement) :
    (walk'.giveUp element).arena.ownedHandles + 1 = walk.arena.ownedHandles := by
  rw [← hsame] at henough hmax ⊢
  exact TraversalArena.dropHandles_ownedHandles henough hmax

theorem leaveInvalid_settles :
    Settles locator.request 1 walk (leaveInvalid visit walk') := by
  unfold leaveInvalid
  split_ifs
  · exact .failed (haccounted.of_ledger rfl)
  · exact .done (haccounted.of_ledger rfl)
      (giveUp_balanced hsame henough hmax visit.element)

/-- **An element that is left gives its handle up.** -/
theorem leave_settles {read : NodeRead} {children : List ObservedSubtree}
    {childrenCount : Option ℕ} {subtreeComplete : Bool} :
    Settles locator.request 1 walk
      (leave locator visit read children childrenCount subtreeComplete walk') := by
  have hgone := giveUp_balanced hsame henough hmax visit.element
  unfold leave
  dsimp only
  generalize hleft : (if subtreeComplete then walk'.giveUp visit.element
    else (walk'.giveUp visit.element).withArena TraversalArena.markIncomplete) = left
  have hledger : left.ledger = walk'.ledger := by
    rw [← hleft]
    split_ifs <;> rfl
  have hbalance : left.arena.ownedHandles + 1 = walk.arena.ownedHandles := by
    rw [← hleft]
    split_ifs
    · exact hgone
    · exact hgone
  cases (locator.source.capture visit.element left.world).1 with
  | error error => exact .failed (haccounted.of_ledger hledger)
  | ok token => exact .done (haccounted.of_ledger hledger) hbalance

end Leaving

/-- **The children that were loaded are owned besides.** -/
theorem ownChildren_spec {read : NodeRead} {walk : Walk σ}
    (haccounted : Accounted locator.request walk)
    (hmax : walk.arena.ownedHandles + read.childRead.elements.length ≤ u64Max) :
    Accounted locator.request (ownChildren read walk)
      ∧ (ownChildren read walk).arena.ownedHandles
          = walk.arena.ownedHandles + read.childRead.elements.length := by
  unfold ownChildren
  dsimp only
  split_ifs
  · exact ⟨haccounted.of_ledger rfl, TraversalArena.addHandles_ownedHandles hmax⟩
  · exact ⟨haccounted.of_ledger rfl, TraversalArena.addHandles_ownedHandles hmax⟩

end Parts

/-! ## The whole walk -/

theorem toNat_le_of_valid {request : ObservationRequest} (hvalid : request.validate = .ok ())
    {rawDepth : UInt8} (hraw : rawDepth ≤ request.maxRawDepth) : rawDepth.toNat ≤ 50 :=
  UInt8.le_iff_toNat_le.mp (UInt8.le_trans hraw (validate_spec hvalid).2.1)

/-- On a level, every visit settles its handle. -/
def VisitSettles (locator : Locator σ) (rawDepth : UInt8) : Prop :=
  ∀ (element : AXElement) (logicalDepth : UInt8) (walk : Walk σ),
    Within locator.request ⟨element, logicalDepth, rawDepth⟩ →
    Accounted locator.request walk → OwnedAt locator.request 1 rawDepth.toNat walk →
    Settles locator.request 1 walk (visit locator element logicalDepth rawDepth walk)

section Levels

variable {locator : Locator σ} (hvalid : locator.request.validate = .ok ())
  {logicalDepth rawDepth : UInt8} (hlogical : logicalDepth ≤ locator.request.maxLogicalDepth)
  (hraw : rawDepth ≤ locator.request.maxRawDepth)
  (hbelow : rawDepth < locator.request.maxRawDepth →
    VisitSettles locator (saturatingAddU8 rawDepth 1))

include hvalid hlogical hraw hbelow

omit hvalid hraw in
theorem child_settles (hlt : rawDepth < locator.request.maxRawDepth) (child : AXElement)
    {count : ℕ} {walk : Walk σ} (haccounted : Accounted locator.request walk)
    (howned : OwnedAt locator.request (count + 1) (rawDepth.toNat + 1) walk) :
    Settles locator.request 1 walk
      (visit locator child logicalDepth (saturatingAddU8 rawDepth 1) walk) := by
  have hlevel := toNat_saturatingAddU8_one hlt
  have hwithin : Within locator.request ⟨child, logicalDepth, saturatingAddU8 rawDepth 1⟩ := by
    refine ⟨hlogical, UInt8.le_iff_toNat_le.mpr ?_⟩
    rw [hlevel]
    exact UInt8.lt_iff_toNat_lt.mp hlt
  refine hbelow hlt child logicalDepth walk hwithin haccounted ⟨?_, ?_⟩
  · exact (Nat.succ_le_succ (Nat.zero_le _)).trans howned.enough
  · rw [hlevel]
    exact howned.bounded

/-- **The loop gives up the handles of all children**, also when it runs out of time among
them. -/
theorem visitEach_settles {total childIndex : ℕ} (gathering : Gathering)
    {elements : List AXElement}
    (hdepth : elements ≠ [] → rawDepth < locator.request.maxRawDepth) {walk : Walk σ}
    (htotal : total = childIndex + elements.length)
    (haccounted : Accounted locator.request walk)
    (howned : OwnedAt locator.request elements.length (rawDepth.toNat + 1) walk) :
    Settles locator.request elements.length walk (visitEach locator logicalDepth rawDepth total
      childIndex gathering elements hdepth walk) := by
  induction elements generalizing childIndex gathering walk with
  | nil =>
    rw [visitEach]
    exact .done haccounted rfl
  | cons child rest ih =>
    have hmax : walk.arena.ownedHandles ≤ u64Max := howned.bounded.trans
      (bound_le_u64Max hvalid (Nat.succ_le_succ (toNat_le_of_valid hvalid hraw)))
    have htimed := haccounted.of_ledger (remainingBudget_ledger locator walk)
    have harena := remainingBudget_arena locator walk
    rw [visitEach]
    generalize remainingBudget locator walk = timed at htimed harena
    obtain ⟨time, timed⟩ := timed
    dsimp only at htimed harena
    have howned' : OwnedAt locator.request (rest.length + 1) (rawDepth.toNat + 1) timed := by
      refine ⟨?_, ?_⟩
      · rw [harena]
        exact howned.enough
      · rw [harena]
        exact howned.bounded
    cases time with
    | none =>
      -- the child at hand and those after it
      have hleft : total - childIndex = rest.length + 1 := by
        rw [htotal]
        exact Nat.add_sub_cancel_left _ _
      rw [← harena] at hmax
      refine .done (htimed.of_ledger rfl) ?_
      rw [hleft, ← harena]
      exact TraversalArena.dropHandles_ownedHandles howned'.enough hmax
    | some time =>
      have hchild := child_settles hlogical hbelow (hdepth (List.cons_ne_nil _ _)) child
        htimed howned'
      dsimp only
      generalize visit locator child logicalDepth (saturatingAddU8 rawDepth 1) timed = visited
        at hchild ⊢
      obtain ⟨outcome, visited⟩ := visited
      cases outcome with
      | error error => exact .failed hchild.accounted
      | ok subtree =>
        have hpaid := hchild.balanced _ rfl
        have hrest : OwnedAt locator.request rest.length (rawDepth.toNat + 1) visited :=
          howned'.paid hpaid
        have htotal' : total = childIndex + 1 + rest.length := by
          rw [htotal, List.length_cons, Nat.add_assoc, Nat.add_comm 1]
        rw [harena] at hpaid
        cases subtree with
        | none => exact (ih _ _ htotal' hchild.accounted hrest).pay hpaid
        | some subtree => exact (ih _ _ htotal' hchild.accounted hrest).pay hpaid

/-- **The children settle their handles**, also when they are below the last level. -/
theorem visitChildren_settles {read : ChildRead} {walk : Walk σ}
    (haccounted : Accounted locator.request walk)
    (howned : OwnedAt locator.request read.elements.length (rawDepth.toNat + 1) walk) :
    Settles locator.request read.elements.length walk
      (visitChildren locator read logicalDepth rawDepth walk) := by
  have hmax : walk.arena.ownedHandles ≤ u64Max := howned.bounded.trans
    (bound_le_u64Max hvalid (Nat.succ_le_succ (toNat_le_of_valid hvalid hraw)))
  rw [visitChildren]
  generalize hmarked : (if (read.complete && !read.truncated) = true then walk
    else walk.withArena TraversalArena.markIncomplete) = marked
  have hledger : marked.ledger = walk.ledger := by
    rw [← hmarked]
    split_ifs <;> rfl
  have hhandles : marked.arena.ownedHandles = walk.arena.ownedHandles := by
    rw [← hmarked]
    split_ifs <;> rfl
  have hmarked' := haccounted.of_ledger hledger
  clear hmarked
  rw [← hhandles] at hmax
  have henough : read.elements.length ≤ marked.arena.ownedHandles := by
    rw [hhandles]
    exact howned.enough
  split_ifs with hdeep
  · refine .done (hmarked'.of_ledger rfl) ?_
    rw [← hhandles]
    exact TraversalArena.dropHandles_ownedHandles henough hmax
  · have hbounded : marked.arena.ownedHandles
        ≤ 1 + (rawDepth.toNat + 1) * room locator.request := by
      rw [hhandles]
      exact howned.bounded
    have heach := visitEach_settles hvalid hlogical hraw hbelow
      ⟨[], read.complete && !read.truncated, read.prefixCertain⟩
      (fun hsome => UInt8.not_le.mp (fun hle => hdeep ⟨hle, hsome⟩))
      (Nat.zero_add read.elements.length).symm hmarked' ⟨henough, hbounded⟩
    generalize visitEach locator logicalDepth rawDepth read.elements.length 0 _ read.elements _
      marked = each at heach ⊢
    obtain ⟨outcome, each⟩ := each
    cases outcome with
    | error error => exact .failed heach.accounted
    | ok gathering =>
      have hbalance : each.arena.ownedHandles + read.elements.length
          = walk.arena.ownedHandles := (heach.balanced _ rfl).trans hhandles
      dsimp only
      split_ifs
      · exact .done (heach.accounted.of_ledger rfl) hbalance
      · exact .done (heach.accounted.of_ledger rfl) hbalance

/-- The children settle their handles, also through the part of the window that is seen of them. -/
theorem descend_settles {read : NodeRead} {walk : Walk σ}
    (haccounted : Accounted locator.request walk)
    (howned : OwnedAt locator.request read.childRead.elements.length (rawDepth.toNat + 1) walk) :
    Settles locator.request read.childRead.elements.length walk
      (visitChildren locator read.childRead logicalDepth rawDepth
        (descend locator read walk)) := by
  have haccounted' : Accounted locator.request (descend locator read walk) :=
    haccounted.of_ledger rfl
  have howned' : OwnedAt locator.request read.childRead.elements.length (rawDepth.toNat + 1)
      (descend locator read walk) := ⟨howned.enough, howned.bounded⟩
  have hsettled := visitChildren_settles hvalid hlogical hraw hbelow haccounted' howned'
  exact ⟨hsettled.accounted, hsettled.balanced⟩

omit hlogical in
/-- **A visit settles its handle**, if the visits of its children do. -/
theorem visit_settles_of_below : VisitSettles locator rawDepth := by
  intro element logicalDepth walk hwithin haccounted howned
  have hlevel := toNat_le_of_valid hvalid hraw
  have hentered := enter_spec hvalid hwithin haccounted (hlevel.trans (by decide)) howned
  rw [visit]
  generalize enter locator ⟨element, logicalDepth, rawDepth⟩ walk = entered at hentered ⊢
  obtain ⟨entering, entered⟩ := entered
  cases entering with
  | false => exact .done hentered.1 hentered.2
  | true =>
    have hread := readVisited_spec ⟨element, logicalDepth, rawDepth⟩ hentered.1
    dsimp only
    generalize readVisited locator ⟨element, logicalDepth, rawDepth⟩ entered = visited
      at hread ⊢
    obtain ⟨outcome, visited⟩ := visited
    cases outcome with
    | error error => exact .failed hread.1
    | ok read =>
      obtain ⟨hvisited, hhandles, hroom⟩ := hread
      have hsame : visited.arena.ownedHandles = walk.arena.ownedHandles :=
        hhandles.trans hentered.2
      -- with the children it is one level more
      have hbounded : visited.arena.ownedHandles + read.childRead.elements.length
          ≤ 1 + (rawDepth.toNat + 1) * room locator.request := by
        rw [hsame, Nat.succ_mul, ← Nat.add_assoc]
        exact Nat.add_le_add howned.bounded (hroom read rfl)
      have hmax := hbounded.trans (bound_le_u64Max hvalid (Nat.succ_le_succ hlevel))
      have hwalkMax : walk.arena.ownedHandles ≤ u64Max := by
        rw [← hsame]
        exact (Nat.le_add_right _ _).trans hmax
      dsimp only
      generalize logicalDepth + (if read.webWrapper then 0 else 1) = childLogicalDepth
      obtain ⟨howns, howned'⟩ := ownChildren_spec hvisited hmax
      generalize ownChildren read visited = owning at howns howned' ⊢
      have howns' : OwnedAt locator.request read.childRead.elements.length
          (rawDepth.toNat + 1) owning := by
        refine ⟨?_, howned'.le.trans hbounded⟩
        rw [howned']
        exact Nat.le_add_left _ _
      split_ifs with hinvalid hboundary
      · exact leaveInvalid_settles hvisited hsame howned.enough hwalkMax
      · -- the children are not walked
        have hbalance :=
          TraversalArena.dropHandles_ownedHandles howns'.enough (howned'.le.trans hmax)
        have hdropped : Accounted locator.request
            (owning.withArena (·.dropHandles read.childRead.elements.length)) :=
          howns.of_ledger rfl
        exact leave_settles hdropped ((Nat.add_right_cancel (hbalance.trans howned')).trans hsame)
          howned.enough hwalkMax
      · have hsettled := descend_settles hvalid (UInt8.not_lt.mp hboundary) hraw hbelow howns howns'
        generalize visitChildren locator read.childRead childLogicalDepth rawDepth
          (descend locator read owning) = below at hsettled ⊢
        obtain ⟨outcome, below⟩ := below
        cases outcome with
        | error error => exact .failed (hsettled.accounted.of_ledger rfl)
        | ok children =>
          have hback := (hsettled.balanced _ rfl).trans howned'
          have hleft : Accounted locator.request { below with context := owning.context } :=
            hsettled.accounted.of_ledger rfl
          exact leave_settles hleft ((Nat.add_right_cancel hback).trans hsame) howned.enough
            hwalkMax

end Levels

theorem visit_settles {locator : Locator σ} (hvalid : locator.request.validate = .ok ())
    {rawDepth : UInt8} (hraw : rawDepth ≤ locator.request.maxRawDepth) :
    VisitSettles locator rawDepth := by
  induction hleft : locator.request.maxRawDepth.toNat - rawDepth.toNat generalizing rawDepth with
  | zero =>
    refine visit_settles_of_below hvalid hraw (fun hlt => ?_)
    -- there is no level below the last one
    exact absurd hleft (Nat.sub_ne_zero_of_lt (UInt8.lt_iff_toNat_lt.mp hlt))
  | succ left ih =>
    refine visit_settles_of_below hvalid hraw (fun hlt => ?_)
    have hlevel := toNat_saturatingAddU8_one hlt
    refine ih (UInt8.le_iff_toNat_le.mpr ?_) ?_
    · rw [hlevel]
      exact UInt8.lt_iff_toNat_lt.mp hlt
    · rw [hlevel, Nat.sub_add_eq, hleft]
      rfl

theorem new_accounted (locator : Locator σ) (context : TreeBuildContext) (world : σ) :
    Accounted locator.request ((locator.new context world).withArena (·.addHandles 1)) where
  limits := rfl
  claimed := rfl
  counted := rfl
  nodes := Nat.zero_le _
  within := fun _ hvisit => absurd hvisit List.not_mem_nil
  deepest := ⟨UInt8.zero_le, UInt8.zero_le⟩

section Build

variable (locator : Locator σ) (root : AXElement) (source : ObservationSource) (walk : Walk σ)

theorem build_snd : (build locator root source walk).2
    = (visit locator root 0 0 (walk.withArena (·.addHandles 1))).2 := by
  unfold build
  cases hvisit : visit locator root 0 0 (walk.withArena (·.addHandles 1)) with
  | mk outcome walk' =>
    cases outcome with
    | error error => rfl
    | ok subtree => rfl

variable {locator root walk}

theorem build_fst {subtree : Option ObservedSubtree}
    (hvisit : (visit locator root 0 0 (walk.withArena (·.addHandles 1))).1 = .ok subtree) :
    (build locator root source walk).1 = conclude subtree source
      (visit locator root 0 0 (walk.withArena (·.addHandles 1))).2.arena := by
  unfold build
  generalize visit locator root 0 0 (walk.withArena (·.addHandles 1)) = visited at hvisit ⊢
  obtain ⟨outcome, walk'⟩ := visited
  dsimp only at hvisit
  rw [hvisit]

end Build

/-- **The accounts of an observation balance.** Whatever the native tree looks like and whatever
goes wrong, an observation that was accepted ends, having visited no more nodes than it may,
none of them too deep, and having told no other numbers; and a walk that does not fail ends
without a handle, so that the last check passes. -/
theorem build_balances (locator : Locator σ) (hvalid : locator.request.validate = .ok ())
    (root : AXElement) (source : ObservationSource) (context : TreeBuildContext) (world : σ) :
    let start := locator.new context world
    let walk := (build locator root source start).2
    (walk.visits.length ≤ locator.request.budget.maxNodes
      ∧ walk.arena.stats.traversal.nodesVisited = walk.visits.length)
    ∧ ((∀ visit ∈ walk.visits, visit.logicalDepth ≤ locator.request.maxLogicalDepth
          ∧ visit.rawDepth ≤ locator.request.maxRawDepth)
        ∧ walk.arena.stats.traversal.maxLogicalDepth ≤ locator.request.maxLogicalDepth
        ∧ walk.arena.stats.traversal.maxRawDepth ≤ locator.request.maxRawDepth)
    ∧ ∀ subtree, (visit locator root 0 0 (start.withArena (·.addHandles 1))).1 = .ok subtree →
        walk.arena.ownedHandles = 0 ∧ walk.arena.finish = .ok walk.arena.stats
          ∧ (build locator root source start).1 = conclude subtree source walk.arena := by
  intro start walk
  have hsettled : Settles locator.request 1 (start.withArena (·.addHandles 1))
      (visit locator root 0 0 (start.withArena (·.addHandles 1))) :=
    visit_settles hvalid UInt8.zero_le root 0 _ ⟨UInt8.zero_le, UInt8.zero_le⟩
      (new_accounted locator context world) ⟨le_refl 1, Nat.le_add_right 1 _⟩
  have hwalk : walk = (visit locator root 0 0 (start.withArena (·.addHandles 1))).2 :=
    build_snd locator root source start
  have haccounted : Accounted locator.request walk := by
    rw [hwalk]
    exact hsettled.accounted
  refine ⟨⟨?_, haccounted.counted⟩, ⟨haccounted.within, haccounted.deepest⟩, ?_⟩
  · rw [haccounted.claimed]
    exact haccounted.nodes
  · intro subtree hsubtree
    have hnone : walk.arena.ownedHandles = 0 := by
      rw [hwalk]
      exact Nat.add_right_cancel ((hsettled.balanced subtree hsubtree).trans (Nat.zero_add 1).symm)
    refine ⟨hnone, if_neg (not_not.mpr hnone), ?_⟩
    rw [hwalk]
    exact build_fst source hsubtree

/-- An application with two groups, each of which has both of them as children; the world is the
clock, and it moves whenever it is looked at. -/
def circularSource : NodeSource ℕ where
  now := fun clock => (clock, clock + 1)
  sleep := fun time clock => ((), clock + time)
  childCount := fun _ attributeName _ =>
    pure (.ok (if attributeName = "AXChildren" then 2 else 0))
  copyPage := fun _ _ index number _ => pure (.ok (([⟨1⟩, ⟨2⟩].drop index).take number))
  roleName := fun _ _ => "group"
  intersectRects := fun _ _ => none
  fetchNodeAttrs := fun _ _ _ _ =>
    pure ⟨{ NodeAttrs.empty with role := some "AXGroup" }, .absent, .absent,
      ⟨1, 1, 0, 0, false⟩, ⟨0, false, 0, false, false, 0⟩, 0⟩
  readAvailableActions := fun _ _ _ _ _ => pure ⟨[], true, false, false, false, false, 0, 0⟩
  labelFromChildren := fun _ _ _ => pure (.ok ⟨none, true, 0, 0, ⟨0, 0, 0⟩, .zero, 0⟩)
  statesFromElement := fun _ _ _ _ _ => pure []
  retainedLookup := fun _ => pure none
  capture := fun _ => pure (.ok none)

/-- A search of it for roles, five levels deep. -/
def circularLocator : Locator ℕ where
  source := circularSource
  request :=
    { maxRawDepth := 5
      maxLogicalDepth := 5
      skeleton := false
      evidencePlan :=
        ⟨⟨true, false, false, false, false, false, ⟨false, false⟩⟩,
          ⟨true, false, false, false, false, false, ⟨false, false⟩⟩⟩
      budget := ⟨50000, 100000, 4096, 65536, 8388608⟩ }
  deadline := 1000000000

theorem build_balances_sample :
    let source := ObservationSource.window ⟨"w1", "Groups", "Editor", 7, none, none,
      ⟨true, true, none, none⟩⟩ .window
    let start := circularLocator.new ⟨none, none, false⟩ 0
    let walk := (build circularLocator ⟨1⟩ source start).2
    (walk.visits.length ≤ 50000
      ∧ walk.arena.stats.traversal.nodesVisited = walk.visits.length)
    ∧ ((∀ visit ∈ walk.visits, visit.logicalDepth ≤ 5 ∧ visit.rawDepth ≤ 5)
        ∧ walk.arena.stats.traversal.maxLogicalDepth ≤ 5
        ∧ walk.arena.stats.traversal.maxRawDepth ≤ 5)
    ∧ ∀ subtree, (visit circularLocator ⟨1⟩ 0 0 (start.withArena (·.addHandles 1))).1
          = .ok subtree →
        walk.arena.ownedHandles = 0 ∧ walk.arena.finish = .ok walk.arena.stats
          ∧ (build circularLocator ⟨1⟩ source start).1 = conclude subtree source walk.arena :=
  build_balances circularLocator rfl ⟨1⟩ _ ⟨none, none, false⟩ 0

end LocatorTraversal

end AgentDesktop
