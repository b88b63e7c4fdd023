import AgentDesktop.CollectionOrder

/-!
# The item an element is a part of

From an element the walk goes up by the parents that are read. Where they are those that the
search came down by, the walk comes to the collection – if there are fewer steps to it than the
walk may take. It may take as many as the search goes down, and one of them is spent on finding
that the collection is reached: from the last depth it does not come to an end.
-/

namespace AgentDesktop

namespace CollectionFacts

variable {E Object : Type} [DecidableEq Object] (facts : CollectionFacts E Object)

omit [DecidableEq Object] in
/-- The role of an object, where it is read. -/
def roleOf (object : Object) : Option String := (facts.role object).toOption.join

omit [DecidableEq Object] in
/-- Whether an object is a row. -/
def isRow (object : Object) : Bool := facts.roleOf object == some "AXRow"

/-- Whether an object can be selected: it is activated by being selected, or it is the element
that has the name, and is not typed into. -/
def isSelectable (named : Bool) (element object : Object) : Bool :=
  (facts.roleOf object).any (fun role => roleActivatesBySelection (axRoleToStr role))
    || (named && decide (object = element) && !isTextInput (facts.roleOf object))

/-- **The item an element is a part of**, by the objects from its own up to the collection: the
first row, or else the first that can be selected. -/
def itemOn (named : Bool) (element : Object) (path : List Object) : Option Object :=
  (path.find? facts.isRow).or (path.find? (facts.isSelectable named element))

omit [DecidableEq Object] in
/-- **The parents lead up** from an object, by a path, to the collection. -/
def Climbs (top : Object) : Object → List Object → Prop
  | current, [] => current = top
  | current, object :: path =>
    current = object ∧ object ≠ top ∧ (∃ role, facts.role object = .ok role)
      ∧ ∃ parent, facts.parent object = .ok (some parent) ∧ Climbs top (facts.object parent) path

/-! ## One step -/

variable {facts}

theorem row_see (element : E) (named : Bool) (search : OwnerSearch E) {role : Option String}
    (hrole : facts.role (facts.object search.current) = .ok role) (others : List Object) :
    (((search.see facts.same element named role).row.map facts.object).or
        (others.find? facts.isRow))
      = (search.row.map facts.object).or
        ((facts.object search.current :: others).find? facts.isRow) := by
  have hisRow : facts.isRow (facts.object search.current) = (role == some "AXRow") := by
    unfold isRow roleOf
    rw [hrole]
    rfl
  rw [List.find?_cons, hisRow]
  unfold OwnerSearch.see
  cases search.row with
  | some row => rfl
  | none =>
    cases role == some "AXRow" with
    | true => rfl
    | false => rfl

theorem selectable_see (element : E) (named : Bool) (search : OwnerSearch E)
    {role : Option String} (hrole : facts.role (facts.object search.current) = .ok role)
    (others : List Object) :
    (((search.see facts.same element named role).selectable.map facts.object).or
        (others.find? (facts.isSelectable named (facts.object element))))
      = (search.selectable.map facts.object).or
        ((facts.object search.current :: others).find?
          (facts.isSelectable named (facts.object element))) := by
  have hselectable : facts.isSelectable named (facts.object element)
      (facts.object search.current)
        = (role.any (fun role => roleActivatesBySelection (axRoleToStr role))
          || (named && facts.same search.current element && !isTextInput role)) := by
    unfold isSelectable roleOf
    rw [hrole]
    rfl
  rw [List.find?_cons, hselectable]
  unfold OwnerSearch.see
  cases role.any (fun role => roleActivatesBySelection (axRoleToStr role)) with
  | true => cases search.selectable <;> rfl
  | false =>
    cases search.selectable with
    | some selectable =>
      rw [Option.isNone_some, Bool.and_false, Bool.false_and, Bool.false_and]
      rfl
    | none =>
      rw [Option.isNone_none, Bool.and_true, Bool.false_or]
      cases named && facts.same search.current element && !isTextInput role with
      | true => rfl
      | false => rfl

/-! ## The walk -/

/-- **The walk comes to the collection** where it may take more steps than there are, and finds
the item on its way. -/
theorem ownerFrom_of_climbs {root : E} (element : E) (named : Bool) {path : List Object}
    {steps : ℕ} (search : OwnerSearch E)
    (h : facts.Climbs (facts.object root) (facts.object search.current) path)
    (hsteps : path.length < steps) :
    ∃ found, facts.ownerFrom element root named steps search = .ok found
      ∧ found.map facts.object = ((search.row.map facts.object).or (path.find? facts.isRow)).or
        ((search.selectable.map facts.object).or
          (path.find? (facts.isSelectable named (facts.object element)))) := by
  induction path generalizing steps search with
  | nil =>
    obtain ⟨steps, rfl⟩ := Nat.exists_eq_add_of_lt hsteps
    have hsame : facts.same search.current root = true := decide_eq_true h
    refine ⟨search.row.or search.selectable, ?_, ?_⟩
    · show (if facts.same search.current root then _ else _) = _
      rw [if_pos hsame]
    · rw [Option.map_or, List.find?_nil, List.find?_nil, Option.or_none, Option.or_none]
  | cons object path ih =>
    obtain ⟨rfl, htop, ⟨role, hrole⟩, parent, hparent, hclimbs⟩ := h
    obtain ⟨steps, rfl⟩ : ∃ n, steps = n + 1 := Nat.exists_eq_succ_of_ne_zero
      (Nat.pos_iff_ne_zero.mp (Nat.zero_lt_of_lt hsteps))
    have hsame : facts.same search.current root = false := decide_eq_false htop
    have hstep : facts.ownerFrom element root named (steps + 1) search
        = facts.ownerFrom element root named steps
          { search.see facts.same element named role with current := parent } := by
      show (if facts.same search.current root then _ else _) = _
      rw [if_neg (by rw [hsame]; exact Bool.false_ne_true), hrole]
      dsimp only [bind, Except.bind]
      rw [hparent]
    obtain ⟨found, hfound, hobject⟩ := ih
      { search.see facts.same element named role with current := parent } hclimbs
      (Nat.lt_of_succ_lt_succ hsteps)
    refine ⟨found, hstep.trans hfound, ?_⟩
    rw [hobject, row_see element named search hrole, selectable_see element named search hrole]

/-- **The walk does not come to an end** where there are as many steps as it may take. -/
theorem ownerFrom_of_climbs_error {root : E} (element : E) (named : Bool) {path : List Object}
    {steps : ℕ} (search : OwnerSearch E)
    (h : facts.Climbs (facts.object root) (facts.object search.current) path)
    (hsteps : steps ≤ path.length) :
    facts.ownerFrom element root named steps search
      = .error (incompleteSelection "owner_depth_limit") := by
  induction path generalizing steps search with
  | nil =>
    obtain rfl := Nat.le_zero.mp hsteps
    rfl
  | cons object path ih =>
    cases steps with
    | zero => rfl
    | succ steps =>
      obtain ⟨rfl, htop, ⟨role, hrole⟩, parent, hparent, hclimbs⟩ := h
      have hsame : facts.same search.current root = false := decide_eq_false htop
      show (if facts.same search.current root then _ else _) = _
      rw [if_neg (by rw [hsame]; exact Bool.false_ne_true), hrole]
      dsimp only [bind, Except.bind]
      rw [hparent]
      exact ih _ hclimbs (Nat.le_of_succ_le_succ hsteps)

end CollectionFacts

end AgentDesktop
