import AgentDesktop.CollectionSelect
import AgentDesktop.Util.Ends

/-!
# What a search of a collection comes to

A collection that does not change is what its reads answer: of each object its evidence, its
text, its role, its parent and its children, or an error where one of them is not to be read. The
search is then a pure computation on these answers, and the order it visits the elements in is
the order of a tree that is written down from the top: each element before its children, and the
children one after the other.
-/

namespace AgentDesktop

/-- **What is read of a collection**; elements of one object are equal to `CFEqual`. -/
structure CollectionFacts (E Object : Type) where
  /-- The object of an element. -/
  object : E → Object
  /-- What `read_node` reads. -/
  node : Object → Except AdapterError CandidateRead
  /-- The value, as a text. -/
  text : Object → Except AdapterError (Option String)
  role : Object → Except AdapterError (Option String)
  parent : Object → Except AdapterError (Option E)
  children : Object → Except AdapterError (List E)

namespace CollectionFacts

variable {σ E Object : Type} [DecidableEq Object] (facts : CollectionFacts E Object)

/-- The reads answer the facts, and there is time left. -/
structure Shown (world : CollectionWorld σ E) (deadline : Deadline) : Prop where
  /-- There is time left. -/
  clock : ∀ s, deadline.remaining (world.clock s).1 ≠ 0
  /-- Elements are the same if their objects are. -/
  sameElement : ∀ a b, world.sameElement a b = decide (facts.object a = facts.object b)
  readNode : ∀ e t s, (world.readNode e t s).1 = facts.node (facts.object e)
  /-- Texts are read. -/
  text : ∀ e t s, (world.readString e "AXValue" t s).1 = facts.text (facts.object e)
  /-- Roles are read. -/
  role : ∀ e t s, (world.readString e "AXRole" t s).1 = facts.role (facts.object e)
  /-- Parents are read. -/
  parent : ∀ e t s, (world.readElement e "AXParent" t s).1 = facts.parent (facts.object e)
  /-- Children are read. -/
  children : ∀ e t s, (world.readElements e "AXChildren" t s).1 = facts.children (facts.object e)

/-! ## The mirror -/

omit [DecidableEq Object] in
/-- What `candidate_read` comes to. -/
def candidate (object : Object) : Except AdapterError CandidateRead := do
  let read ← facts.node object
  if read.invalidElement then .error (.staleRef "Selection candidate became invalid")
  else .ok read

omit [DecidableEq Object] in
/-- What `text_value_matches` comes to. -/
def textMatches (object : Object) (read : CandidateRead) (value : String) :
    Except AdapterError Bool :=
  if read.isTextField then do
    let text ← facts.text object
    return text.any (fun text => eqIgnoreAsciiCase text value)
  else .ok false

omit [DecidableEq Object] in
/-- Whether an object matches a value: by its name (`true`), by its text (`false`), or not. -/
def matching (value : String) (object : Object) : Except AdapterError (Option Bool) := do
  let read ← facts.candidate object
  if ← evidenceMatches read value then return some true
  else if ← facts.textMatches object read value then return some false
  else return none

/-- Whether two elements have one object. -/
def same (a b : E) : Bool := decide (facts.object a = facts.object b)

/-- What the walk of `collection_owner` comes to. -/
def ownerFrom (element root : E) (named : Bool) :
    ℕ → OwnerSearch E → Except AdapterError (Option E)
  | 0, _ => .error (incompleteSelection "owner_depth_limit")
  | steps + 1, search =>
    if facts.same search.current root then .ok (search.row.or search.selectable)
    else do
      let role ← facts.role (facts.object search.current)
      match ← facts.parent (facts.object search.current) with
      | none => .error (incompleteSelection "owner_parent_missing")
      | some parent =>
        ownerFrom element root named steps
          { search.see facts.same element named role with current := parent }

/-- What an element that matches is a part of. -/
def owner (element root : E) (named : Bool) : Except AdapterError (Option E) :=
  facts.ownerFrom element root named maxOwnerSteps ⟨none, none, element⟩

/-- What `collection_target` comes to. -/
def target (root : E) (value : String) (element : E) : Except AdapterError (Option E) := do
  let read ← facts.candidate (facts.object element)
  if ← evidenceMatches read value then facts.owner element root true
  else if ← facts.textMatches (facts.object element) read value then
    facts.owner element root false
  else return none

/-- The selected item, with a further target. -/
def keepUnique (selected target : Option E) : Except AdapterError (Option E) :=
  match target with
  | none => .ok selected
  | some target =>
    if selected.any (fun previous => !facts.same previous target) then .error collectionAmbiguous
    else .ok (some target)

omit [DecidableEq Object] in
/-- What `boundary_children` comes to. -/
def below (depth : ℕ) (element : E) : Except AdapterError (List E) :=
  if depth < maxSelectDepth then facts.children (facts.object element)
  else do
    let children ← facts.children (facts.object element)
    if children.isEmpty then .ok [] else .error selectDepthLimit

/-- What is done with one candidate. -/
def examine (root : E) (value : String) (candidate : E) (depth : ℕ) (selected : Option E) :
    Except AdapterError (Option E × List E) := do
  let target ← facts.target root value candidate
  let selected ← facts.keepUnique selected target
  let children ← facts.below depth candidate
  return (selected, children)

/-- What the loop of `find_named_descendant` comes to, and what it visits. -/
def searchFrom (root : E) (value : String) :
    ℕ → List (E × ℕ) → Option E → Except AdapterError (Option E) × List E
  | _, [], selected => (.ok selected, [])
  | 0, _ :: _, _ => (.error selectNodeLimit, [])
  | budget + 1, (candidate, depth) :: stack, selected =>
    match facts.examine root value candidate depth selected with
    | .error error => (.error error, [candidate])
    | .ok (selected, children) =>
      let rest := searchFrom root value budget
        (CollectionWorld.entriesBelow depth children ++ stack) selected
      (rest.1, candidate :: rest.2)

namespace Shown

variable {facts} {world : CollectionWorld σ E} {deadline : Deadline}

theorem sameElement_eq (h : facts.Shown world deadline) : world.sameElement = facts.same :=
  funext (fun a => funext (fun b => h.sameElement a b))

theorem ownerFrom_mirrors (h : facts.Shown world deadline) (element root : E) (named : Bool)
    (instant steps : ℕ) (search : OwnerSearch E) :
    (world.ownerFrom element root named instant steps search).Mirrors
      (facts.ownerFrom element root named steps search) := by
  induction steps generalizing search with
  | zero => exact Prog.Mirrors.fail _
  | succ steps ih =>
    unfold CollectionWorld.ownerFrom ownerFrom
    rw [h.sameElement_eq]
    refine Prog.Mirrors.ite (fun _ => Prog.Mirrors.pure _) (fun _ => ?_)
    refine (Prog.Mirrors.call (h.role search.current instant)).bind (fun role _ => ?_)
    refine (Prog.Mirrors.call (h.parent search.current instant)).bind (fun parent _ => ?_)
    cases parent with
    | none => exact Prog.Mirrors.fail _
    | some parent => exact ih _

theorem candidateRead_mirrors (h : facts.Shown world deadline) (element : E) (instant : ℕ) :
    (world.candidateRead element instant).Mirrors (facts.candidate (facts.object element)) := by
  refine (Prog.Mirrors.call (h.readNode element instant)).bind (fun read _ => ?_)
  exact Prog.Mirrors.ite (fun _ => Prog.Mirrors.fail _) (fun _ => Prog.Mirrors.pure _)

theorem textValueMatches_mirrors (h : facts.Shown world deadline) (element : E)
    (read : CandidateRead) (value : String) (instant : ℕ) :
    (world.textValueMatches element read value instant).Mirrors
      (facts.textMatches (facts.object element) read value) := by
  refine Prog.Mirrors.ite (fun _ => ?_) (fun _ => Prog.Mirrors.pure _)
  exact (Prog.Mirrors.call (h.text element instant)).bind (fun text _ => Prog.Mirrors.pure _)

theorem collectionTarget_mirrors (h : facts.Shown world deadline) (element root : E)
    (value : String) (instant : ℕ) :
    (world.collectionTarget element root value instant).Mirrors
      (facts.target root value element) := by
  refine (h.candidateRead_mirrors element instant).bind (fun read _ => ?_)
  refine (Prog.Mirrors.ofExcept _).bind (fun named _ => ?_)
  refine Prog.Mirrors.ite (fun _ => h.ownerFrom_mirrors element root true instant _ _) (fun _ => ?_)
  refine (h.textValueMatches_mirrors element read value instant).bind (fun same _ => ?_)
  exact Prog.Mirrors.ite (fun _ => h.ownerFrom_mirrors element root false instant _ _)
    (fun _ => Prog.Mirrors.pure _)

theorem keepUnique_eq (h : facts.Shown world deadline) (selected target : Option E) :
    world.keepUnique selected target = facts.keepUnique selected target := by
  cases target with
  | none => rfl
  | some target =>
    exact congrArg (fun same : E → E → Bool =>
      if selected.any (fun previous => !same previous target) = true then
        Except.error collectionAmbiguous
      else Except.ok (some target)) h.sameElement_eq

theorem boundaryChildren_mirrors (h : facts.Shown world deadline) (candidate : E)
    (depth instant : ℕ) :
    (world.boundaryChildren candidate depth .collection instant).Mirrors
      (facts.below depth candidate) := by
  unfold CollectionWorld.boundaryChildren below
  refine Prog.Mirrors.ite (fun _ => Prog.Mirrors.call (h.children candidate instant)) (fun _ => ?_)
  rw [if_neg (by decide)]
  refine (Prog.Mirrors.call (h.children candidate instant)).bind (fun children _ => ?_)
  exact Prog.Mirrors.ite (fun _ => Prog.Mirrors.pure _) (fun _ => Prog.Mirrors.fail _)

theorem fromOperation_bind_mirrors (h : facts.Shown world deadline) {α : Type}
    {f : ℕ → SelectProg σ E α} {x : Except AdapterError α} (hf : ∀ instant, (f instant).Mirrors x) :
    (world.fromOperation deadline >>= f).Mirrors x := by
  unfold CollectionWorld.fromOperation
  rw [Prog.bind_assoc]
  refine Prog.Mirrors.ask_bind (fun s => ?_)
  rw [if_neg (h.clock s), Prog.bind_assoc]
  exact Prog.Mirrors.ask_bind (fun s' => hf _)

theorem examine_mirrors (h : facts.Shown world deadline) (candidate root : E) (depth : ℕ)
    (value : String) (selected : Option E) :
    (world.examine candidate root depth value deadline selected).Mirrors
      (facts.examine root value candidate depth selected) := by
  refine h.fromOperation_bind_mirrors (fun instant => ?_)
  refine (h.collectionTarget_mirrors candidate root value instant).bind (fun target _ => ?_)
  rw [h.keepUnique_eq]
  refine (Prog.Mirrors.ofExcept _).bind (fun selected _ => ?_)
  exact (h.boundaryChildren_mirrors candidate depth instant).bind
    (fun children _ => Prog.Mirrors.pure _)

/-- **The search is the pure search**, and visits what that visits. -/
theorem searchLoop_sat (h : facts.Shown world deadline) (root : E) (value : String)
    (budget : ℕ) (stack : List (E × ℕ)) (selected : Option E) :
    (world.searchLoop root value deadline .collection budget stack selected).Sat
      (fun o visited => o = Outcome.ofExcept (facts.searchFrom root value budget stack selected).1
        ∧ visited = (facts.searchFrom root value budget stack selected).2) := by
  induction budget generalizing stack selected with
  | zero => cases stack <;> exact fun _ => ⟨rfl, rfl⟩
  | succ budget ih =>
    cases stack with
    | nil => exact fun _ => ⟨rfl, rfl⟩
    | cons entry stack =>
      obtain ⟨candidate, depth⟩ := entry
      refine Prog.sat_emit_bind ?_
      have hexamine := h.examine_mirrors candidate root depth value selected
      unfold searchFrom
      cases hx : facts.examine root value candidate depth selected with
      | error error =>
        rw [hx] at hexamine
        refine Prog.Sat.bind hexamine (fun _ _ hend => absurd hend.1 (by simp [Outcome.ofExcept]))
          (fun error' _ hend => ?_) (fun _ hend => absurd hend.1 (by simp [Outcome.ofExcept]))
        exact ⟨congrArg Outcome.error (Outcome.error.inj hend.1), congrArg _ hend.2⟩
      | ok examined =>
        rw [hx] at hexamine
        refine Prog.Sat.bind hexamine (fun examined' events hend => ?_)
          (fun _ _ hend => absurd hend.1 (by simp [Outcome.ofExcept]))
          (fun _ hend => absurd hend.1 (by simp [Outcome.ofExcept]))
        obtain rfl : examined' = examined := Outcome.ok.inj hend.1
        rw [hend.2]
        refine (ih _ examined'.1).mono (fun o visited hrest => ⟨hrest.1, ?_⟩)
        exact congrArg _ hrest.2

end Shown

end CollectionFacts

end AgentDesktop
