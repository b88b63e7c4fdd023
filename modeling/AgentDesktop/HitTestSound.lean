import AgentDesktop.HitTest
import AgentDesktop.Util.Ancestors
import AgentDesktop.Util.Account
import AgentDesktop.Util.Except

/-!
# What a hit test may say

The elements have parents, roles and bounds, and a read answers these or fails. Whatever fails,
and whatever the parents are, a hit test says that a point reaches the target only of an element
that is hit and is the target or below it. It says that the point is intercepted only where both
chains of ancestors are complete, neither element is on the chain of the other, and the point
lies in the visible part of the target: what is left of its bounds when they are intersected, one
after another, with those of everything that clips it – up to the application, where the walk ends. Otherwise it says nothing, unless bounds are not read, which is an error.
-/

namespace AgentDesktop

/-- **The elements of a hit test**; elements of one object are equal to `CFEqual`. -/
structure HitFacts (E Object : Type) where
  /-- The object of an element. -/
  object : E → Object
  /-- The parent, if it can be read. -/
  parent : Object → Except AdapterError (Option E)
  role : Object → Except AdapterError (Option String)
  position : Object → Except AdapterError (Option (F64 × F64))
  size : Object → Except AdapterError (Option (F64 × F64))

/-- A read of bounds fails. -/
def HitWorld.BoundsFail {σ E : Type} (world : HitWorld σ E) (error : AdapterError) : Prop :=
  ∃ element instant s, (world.readPoint element "AXPosition" instant s).1 = .error error
    ∨ (world.readSize element "AXSize" instant s).1 = .error error

namespace HitFacts

variable {σ E Object : Type} [DecidableEq Object] (facts : HitFacts E Object)

/-- **The reads answer the facts, or fail.** -/
structure Shown (world : HitWorld σ E) : Prop where
  /-- Elements are the same if their objects are. -/
  sameElement : ∀ a b, world.sameElement a b = decide (facts.object a = facts.object b)
  /-- Parents that are read. -/
  parent : ∀ e t s found, (world.readElement e "AXParent" t s).1 = .ok found →
    facts.parent (facts.object e) = .ok found
  /-- Roles that are read completely. -/
  role : ∀ e t s text, (world.copyString e "AXRole" t s).1 = .ok (some (text, true)) →
    facts.role (facts.object e) = .ok (some text)
  /-- Roles that are read and are not there. -/
  noRole : ∀ e t s, (world.copyString e "AXRole" t s).1 = .ok none →
    facts.role (facts.object e) = .ok none
  /-- Positions that are read. -/
  position : ∀ e t s found, (world.readPoint e "AXPosition" t s).1 = .ok found →
    facts.position (facts.object e) = .ok found
  /-- Sizes that are read. -/
  size : ∀ e t s found, (world.readSize e "AXSize" t s).1 = .ok found →
    facts.size (facts.object e) = .ok found

omit [DecidableEq Object] in
/-- The way up from an object. -/
def up (object : Object) : Option (Option Object) :=
  (facts.parent object).toOption.map (Option.map facts.object)

omit [DecidableEq Object] in
/-- The bounds of an object, where they are known. -/
def bounds (object : Object) : Option Rect :=
  (facts.position object).toOption.join.bind (fun point =>
    (facts.size object).toOption.join.bind (fun size => rectFromParts point size))

omit [DecidableEq Object] in
/-- Whether an object is an application. -/
def isApplication (object : Object) : Bool :=
  endsClippingWalk (facts.role object).toOption.join

omit [DecidableEq Object] in
/-- An object does not clip a point away. -/
def LetsThrough (point : Point) (object : Object) : Prop :=
  ∃ role, facts.role object = .ok role
    ∧ (role.any clipsDescendants = true →
      ∃ rect, facts.bounds object = some rect ∧ rect.holds point = true)

omit [DecidableEq Object] in
/-- The objects that may clip a target: itself and what is above it, up to the application. -/
def clipping (target : Object) (chain : List Object) : List Object :=
  (target :: chain).takeWhile (fun object => !facts.isApplication object)

omit [DecidableEq Object] in
/-- What an object leaves of a rectangle: the intersection with its bounds, if it clips. -/
def clip (visible : Rect) (object : Object) : Option Rect :=
  (facts.role object).toOption.bind (fun role =>
    if role.any clipsDescendants then (facts.bounds object).bind (intersectRects visible)
    else some visible)

omit [DecidableEq Object] in
/-- **The visible part** of a target: what all that may clip it leave of its bounds, one after
another. -/
def visiblePart (target : Object) (chain : List Object) : Option Rect :=
  (facts.bounds target).bind (fun bounds => (facts.clipping target chain).foldlM facts.clip bounds)

omit [DecidableEq Object] in
/-- **A point lies in the visible part** of a target. -/
def InVisiblePart (target : Object) (chain : List Object) (point : Point) : Prop :=
  ∃ rect, facts.visiblePart target chain = some rect ∧ rect.holds point = true

omit [DecidableEq Object] in
/-- **A point lies within all** of the bounds that make the visible part. Sums and differences of
numbers are exact here, so a point of the visible part does (`InVisiblePart.withinAll`). -/
structure WithinAll (target : Object) (chain : List Object) (point : Point) : Prop where
  /-- It lies in the bounds. -/
  bounds : ∃ rect, facts.bounds target = some rect ∧ rect.holds point = true
  /-- Nothing below the application clips it away. -/
  clipped : ∀ object ∈ facts.clipping target chain, facts.LetsThrough point object

omit [DecidableEq Object] in
/-- **The hit reaches the target**: it is the target, or the target lies above it. -/
def Reaches (target hit : Object) : Prop := hit = target ∨ Ancestors.Above facts.up target hit

omit [DecidableEq Object] in
/-- **The hit and the target are apart**: their complete chains do not contain each other. -/
structure Apart (target hit : Object) (targetChain hitChain : List Object) : Prop where
  /-- The chain above the target is complete. -/
  targetComplete : Ancestors.Chain facts.up target targetChain
  /-- The chain above the hit is complete. -/
  hitComplete : Ancestors.Chain facts.up hit hitChain
  /-- They are not the same. -/
  ne : hit ≠ target
  /-- The target is not above the hit. -/
  below : target ∉ hitChain
  /-- The hit is not above the target. -/
  above : hit ∉ targetChain

omit [DecidableEq Object] in
/-- **What a hit test may say of a target and a point**, with what it has recorded. -/
def MaySay (target : E) (point : Point) (log : List (HitEvent E)) : HitTestResult → Prop
  | .reachesTarget => ∃ scope hit, .hit scope hit ∈ log
      ∧ facts.Reaches (facts.object target) (facts.object hit)
  | .interceptedBy _ _ _ => ∃ hit, .hit .systemWide hit ∈ log
      ∧ ∃ targetChain hitChain,
        facts.Apart (facts.object target) (facts.object hit) targetChain hitChain
          ∧ facts.InVisiblePart (facts.object target) targetChain point
          ∧ facts.WithinAll (facts.object target) targetChain point
  | .unknown => True

/-! ## Rectangles -/

end HitFacts

theorem F64.between_of_intersection {number a width b width' : F64}
    (hlow : both (fun a b => b ≤ a) number (map₂ max a b) = true)
    (hhigh : both (fun a b => a ≤ b) number (map₂ (· + ·) (map₂ max a b)
      (map₂ (· - ·) (map₂ min (map₂ (· + ·) a width) (map₂ (· + ·) b width')) (map₂ max a b)))
        = true) :
    (both (fun a b => b ≤ a) number a = true ∧ both (fun a b => a ≤ b) number
        (map₂ (· + ·) a width) = true)
      ∧ both (fun a b => b ≤ a) number b = true ∧ both (fun a b => a ≤ b) number
        (map₂ (· + ·) b width') = true := by
  cases number with
  | notFinite => cases hlow
  | finite p =>
    cases a with
    | notFinite => cases hlow
    | finite a =>
      cases b with
      | notFinite => cases hlow
      | finite b =>
        cases width with
        | notFinite => cases hhigh
        | finite width =>
          cases width' with
          | notFinite => cases hhigh
          | finite width' =>
            have hlow : max a b ≤ p := of_decide_eq_true hlow
            have hhigh : p ≤ max a b + (min (a + width) (b + width') - max a b) :=
              of_decide_eq_true hhigh
            rw [add_sub_cancel] at hhigh
            exact ⟨⟨decide_eq_true ((le_max_left a b).trans hlow),
              decide_eq_true (hhigh.trans (min_le_left _ _))⟩,
              decide_eq_true ((le_max_right a b).trans hlow),
              decide_eq_true (hhigh.trans (min_le_right _ _))⟩

/-- **A point of an intersection** lies in both rectangles. -/
theorem holds_of_intersectRects {left right rect : Rect} {point : Point}
    (h : intersectRects left right = some rect) (hholds : rect.holds point = true) :
    left.holds point = true ∧ right.holds point = true := by
  unfold intersectRects at h
  dsimp only at h
  split_ifs at h
  obtain rfl := Option.some.inj h
  unfold Rect.holds at hholds ⊢
  simp only [Bool.and_eq_true] at hholds ⊢
  obtain ⟨⟨⟨hx, hy⟩, hx'⟩, hy'⟩ := hholds
  obtain ⟨⟨hleft, hleft'⟩, hright, hright'⟩ := F64.between_of_intersection hx hx'
  obtain ⟨⟨htop, htop'⟩, hbottom, hbottom'⟩ := F64.between_of_intersection hy hy'
  exact ⟨⟨⟨⟨hleft, htop⟩, hleft'⟩, htop'⟩, ⟨⟨hright, hbottom⟩, hright'⟩, hbottom'⟩

namespace HitFacts

variable {σ E Object : Type} [DecidableEq Object] {facts : HitFacts E Object}
  {world : HitWorld σ E}

omit [DecidableEq Object] in
/-- What an object leaves of a rectangle lies in the rectangle, and the object lets it through. -/
theorem holds_of_clip {visible rect : Rect} {object : Object} {point : Point}
    (h : facts.clip visible object = some rect) (hholds : rect.holds point = true) :
    visible.holds point = true ∧ facts.LetsThrough point object := by
  obtain ⟨role, hrole, h⟩ := Option.bind_eq_some_iff.mp h
  have hrole := Except.eq_ok_of_toOption hrole
  by_cases hclips : role.any clipsDescendants = true
  · rw [if_pos hclips] at h
    obtain ⟨bounds, hbounds, hrect⟩ := Option.bind_eq_some_iff.mp h
    obtain ⟨hvisible, hinside⟩ := holds_of_intersectRects hrect hholds
    exact ⟨hvisible, role, hrole, fun _ => ⟨bounds, hbounds, hinside⟩⟩
  · rw [if_neg hclips] at h
    obtain rfl := Option.some.inj h
    exact ⟨hholds, role, hrole, fun h => absurd h hclips⟩

omit [DecidableEq Object] in
theorem holds_of_foldlM_clip {objects : List Object} {visible rect : Rect} {point : Point}
    (h : objects.foldlM facts.clip visible = some rect) (hholds : rect.holds point = true) :
    visible.holds point = true ∧ ∀ object ∈ objects, facts.LetsThrough point object := by
  induction objects generalizing visible with
  | nil =>
    obtain rfl := Option.some.inj h
    exact ⟨hholds, fun _ hobject => absurd hobject List.not_mem_nil⟩
  | cons object objects ih =>
    rw [List.foldlM_cons] at h
    obtain ⟨left, hleft, hrest⟩ := Option.bind_eq_some_iff.mp h
    obtain ⟨hinside, hthrough⟩ := ih hrest
    obtain ⟨hvisible, hhere⟩ := holds_of_clip hleft hinside
    exact ⟨hvisible, List.forall_mem_cons.mpr ⟨hhere, hthrough⟩⟩

omit [DecidableEq Object] in
/-- **A point of the visible part lies within all bounds** that make it. -/
theorem InVisiblePart.withinAll {target : Object} {chain : List Object} {point : Point}
    (h : facts.InVisiblePart target chain point) : facts.WithinAll target chain point := by
  obtain ⟨rect, hrect, hholds⟩ := h
  obtain ⟨bounds, hbounds, hfold⟩ := Option.bind_eq_some_iff.mp hrect
  obtain ⟨hinside, hthrough⟩ := holds_of_foldlM_clip hfold hholds
  exact ⟨⟨bounds, hbounds, hinside⟩, hthrough⟩

/-! ## The reads -/

/-- An event that is the read of a parent. -/
def isParentRead {E : Type} : HitEvent E → Bool
  | .parentRead _ => true
  | .hit _ _ => false

namespace Shown

theorem readBounds_accounts (h : facts.Shown world) (element : E) (instant : ℕ) :
    (world.readBounds element instant).Accounts isParentRead 0
      (fun found _ => ∀ rect, found = some rect → facts.bounds (facts.object element) = some rect)
      world.BoundsFail := by
  have hpoint : (Prog.call (world.readPoint element "AXPosition" instant) :
      HitProg σ E _).Accounts isParentRead 0
      (fun found _ => facts.position (facts.object element) = .ok found) world.BoundsFail :=
    Prog.Accounts.call (fun s found => h.position element instant s found)
      (fun s error herror => ⟨element, instant, s, .inl herror⟩)
  have hsize : (Prog.call (world.readSize element "AXSize" instant) :
      HitProg σ E _).Accounts isParentRead 0
      (fun found _ => facts.size (facts.object element) = .ok found) world.BoundsFail :=
    Prog.Accounts.call (fun s found => h.size element instant s found)
      (fun s error herror => ⟨element, instant, s, .inr herror⟩)
  refine Prog.Accounts.bind (m := 0) hpoint (fun point _ hposition => ?_)
  refine Prog.Accounts.bind (m := 0) hsize (fun size _ hsize => Prog.Accounts.pure ?_)
  intro rect hrect
  unfold bounds
  rw [hposition, hsize]
  cases point with
  | none => cases hrect
  | some point => cases size with
    | none => cases hrect
    | some size => exact hrect

theorem readRole_accounts (h : facts.Shown world) (element : E) (instant : ℕ) (phase : String)
    {R : AdapterError → Prop} :
    ((world.readCompleteText element "AXRole" instant phase).attempt :
      HitProg σ E _).Accounts isParentRead 0
      (fun answer _ => ∀ role, answer = .ok role → facts.role (facts.object element) = .ok role)
      R := by
  refine Prog.Accounts.attempt (R := fun _ => True) ?_
  refine Prog.Accounts.bind (m := 0) (Q := fun _ _ => True)
    (Prog.Accounts.call (fun _ _ _ => trivial) (fun _ _ _ => trivial)) (fun _ _ _ => ?_)
  refine Prog.Accounts.ask_bind (fun s => ?_)
  cases hcopied : (world.copyString element "AXRole" instant s).1 with
  | error error => exact Prog.Accounts.ofExcept (fun _ hok => (by cases hok)) (fun _ _ => trivial)
  | ok copied =>
    cases copied with
    | none =>
      refine Prog.Accounts.ofExcept (fun role hok => ?_) (fun _ _ => trivial)
      rw [← Except.ok.inj hok]
      exact h.noRole element instant s hcopied
    | some text =>
      obtain ⟨text, complete⟩ := text
      cases complete with
      | false => exact Prog.Accounts.ofExcept (fun _ hok => (by cases hok)) (fun _ _ => trivial)
      | true =>
        refine Prog.Accounts.ofExcept (fun role hok => ?_) (fun _ _ => trivial)
        rw [← Except.ok.inj hok]
        exact h.role element instant s text hcopied

theorem readParent_accounts (h : facts.Shown world) (element : E) (instant : ℕ)
    {R : AdapterError → Prop} :
    ((world.readParent element instant).attempt : HitProg σ E _).Accounts isParentRead 1
      (fun answer _ => ∀ found, answer = .ok found →
        facts.parent (facts.object element) = .ok found) R := by
  refine Prog.Accounts.attempt (R := fun _ => True) ?_
  exact Prog.Accounts.emit_bind (Prog.Accounts.call
    (fun s found => h.parent element instant s found) (fun _ _ _ => trivial))

end Shown

/-! ## The walks

The code goes up from an element twice: to find out whether another one is above it, and to cut its
bounds down to what is visible. Both walks may stop early, and then they say that they do not know;
what they say otherwise is true of the whole way up. -/

omit [DecidableEq Object] in
theorem up_of_root {object : Object} (h : facts.parent object = .ok none) :
    facts.up object = some none := by
  unfold up
  rw [h]
  rfl

omit [DecidableEq Object] in
theorem up_of_parent {object : Object} {parent : E} (h : facts.parent object = .ok (some parent)) :
    facts.up object = some (some (facts.object parent)) := by
  unfold up
  rw [h]
  rfl

variable (facts) in
omit [DecidableEq Object] in
/-- What the walk up from an object tells about another. -/
def Tells (expected start : Object) : Ancestry → Prop
  | .found => Ancestors.Above facts.up expected start
  | .absent => ∃ chain, Ancestors.Chain facts.up start chain ∧ expected ∉ chain
  | .incomplete => True

omit [DecidableEq Object] in
/-- **One step of the walk**: what is told from the parent, which is not the one looked for, holds
from below it. -/
theorem Tells.step {expected object parent : Object} {answer : Ancestry}
    (hup : facts.up object = some (some parent)) (hne : parent ≠ expected)
    (h : facts.Tells expected parent answer) : facts.Tells expected object answer := by
  cases answer with
  | found => exact Ancestors.Above.further hup h
  | absent =>
    obtain ⟨chain, hchain, hmem⟩ := h
    refine ⟨parent :: chain, Ancestors.Chain.parent hup hchain, fun hcons => ?_⟩
    cases List.mem_cons.mp hcons with
    | inl heq => exact hne heq.symm
    | inr htail => exact hmem htail
  | incomplete => trivial

namespace Shown

/-- **The walk tells the truth**, and reads no more parents than it may. -/
theorem ancestryFrom_accounts (h : facts.Shown world) (expected : E) (instant limit : ℕ)
    (current : E) (visited : List E) :
    (world.ancestryFrom expected instant limit current visited).Accounts isParentRead limit
      (fun answer _ => facts.Tells (facts.object expected) (facts.object current) answer)
      (fun _ => False) := by
  induction limit generalizing current visited with
  | zero => exact Prog.Accounts.pure trivial
  | succ limit ih =>
    unfold HitWorld.ancestryFrom
    cases world.rememberAncestor visited current with
    | none => exact Prog.Accounts.pure trivial
    | some visited =>
      rw [Nat.add_comm]
      refine Prog.Accounts.bind (h.readParent_accounts current instant) (fun answer _ hanswer => ?_)
      cases answer with
      | error error => exact Prog.Accounts.pure trivial
      | ok found =>
        have hparent := hanswer found rfl
        cases found with
        | none =>
          exact Prog.Accounts.pure ⟨[], .top (up_of_root hparent), List.not_mem_nil⟩
        | some parent =>
          have hup := up_of_parent hparent
          refine Prog.Accounts.ite (fun hsame => Prog.Accounts.pure ?_) (fun hother => ?_)
          · rw [h.sameElement, decide_eq_true_eq] at hsame
            rw [hsame] at hup
            exact Ancestors.Above.parent hup
          · rw [h.sameElement, decide_eq_true_eq] at hother
            exact (ih parent visited).mono le_rfl (fun answer _ htells => htells.step hup hother)
              (fun _ hfalse => hfalse)

theorem clippedBy_accounts (h : facts.Shown world) (current : E) {role : Option String}
    (hrole : facts.role (facts.object current) = .ok role) (visible : Rect) (instant : ℕ) :
    (world.clippedBy current role visible instant).Accounts isParentRead 0
      (fun left _ => ∀ rect, left = some rect →
        facts.clip visible (facts.object current) = some rect)
      world.BoundsFail := by
  have hclip : facts.clip visible (facts.object current)
      = if role.any clipsDescendants then
          (facts.bounds (facts.object current)).bind (intersectRects visible)
        else some visible := by
    unfold clip
    rw [hrole]
    rfl
  refine Prog.Accounts.ite (fun hclips => ?_) (fun hclips => Prog.Accounts.pure ?_)
  · refine Prog.Accounts.bind (m := 0) (h.readBounds_accounts current instant)
      (fun found _ hfound => Prog.Accounts.pure ?_)
    intro rect hrect
    cases found with
    | none => cases hrect
    | some bounds =>
      rw [hclip, if_pos hclips, hfound bounds rfl]
      exact hrect
  · intro rect hrect
    rw [hclip, if_neg hclips]
    exact hrect

/-- **The visible part** is what the fold over everything that may clip leaves. -/
theorem clippedFrom_accounts (h : facts.Shown world) (instant limit : ℕ) (current : E)
    (visited : List E) (visible : Rect) :
    (world.clippedFrom instant limit current visited visible).Accounts isParentRead limit
      (fun left _ => ∀ rect, left = some rect → ∀ chain,
        Ancestors.Chain facts.up (facts.object current) chain →
          (facts.clipping (facts.object current) chain).foldlM facts.clip visible = some rect)
      world.BoundsFail := by
  induction limit generalizing current visited visible with
  | zero => exact Prog.Accounts.pure (fun _ hrect => (by cases hrect))
  | succ limit ih =>
    unfold HitWorld.clippedFrom
    cases world.rememberAncestor visited current with
    | none => exact Prog.Accounts.pure (fun _ hrect => (by cases hrect))
    | some visited =>
      rw [show limit + 1 = 0 + (0 + (1 + limit)) by omega]
      refine Prog.Accounts.bind (h.readRole_accounts current instant _) (fun answer _ hanswer => ?_)
      cases answer with
      | error error => exact Prog.Accounts.pure (fun _ hrect => (by cases hrect))
      | ok role =>
        have hrole := hanswer role rfl
        have happlication : facts.isApplication (facts.object current) = endsClippingWalk role := by
          unfold isApplication
          rw [hrole]
          rfl
        refine Prog.Accounts.ite (fun hends => Prog.Accounts.pure ?_) (fun hends => ?_)
        · intro rect hrect chain _
          unfold clipping
          rw [List.takeWhile_cons, happlication, hends]
          exact hrect
        · refine Prog.Accounts.bind (h.clippedBy_accounts current hrole visible instant)
            (fun left _ hleft => ?_)
          cases left with
          | none => exact Prog.Accounts.pure (fun _ hrect => (by cases hrect))
          | some left =>
            refine Prog.Accounts.bind (h.readParent_accounts current instant)
              (fun answer _ hanswer => ?_)
            cases answer with
            | error error => exact Prog.Accounts.pure (fun _ hrect => (by cases hrect))
            | ok found =>
              have hparent := hanswer found rfl
              -- the fold goes on from what the current element leaves
              have hhere : ∀ chain,
                  (facts.clipping (facts.object current) chain).foldlM facts.clip visible
                    = (chain.takeWhile (fun object => !facts.isApplication object)).foldlM
                        facts.clip left := by
                intro chain
                unfold clipping
                rw [List.takeWhile_cons, happlication, if_pos (by simpa using hends),
                  List.foldlM_cons, hleft left rfl]
                rfl
              cases found with
              | none =>
                refine Prog.Accounts.pure (fun rect hrect chain hchain => ?_)
                cases hchain with
                | top _ => exact (hhere []).trans hrect
                | parent hup _ => exact absurd ((up_of_root hparent).symm.trans hup) (by simp)
              | some parent =>
                refine (ih parent visited left).mono le_rfl (fun left' _ hleft' => ?_)
                  (fun _ herror => herror)
                intro rect hrect chain hchain
                cases hchain with
                | top hup => exact absurd (hup.symm.trans (up_of_parent hparent)) (by simp)
                | parent hup hothers =>
                  obtain rfl := Option.some.inj
                    (Option.some.inj ((up_of_parent hparent).symm.trans hup))
                  exact (hhere _).trans (hleft' rect hrect _ hothers)

end Shown

/-! ## The hit

That the hit reaches the target is seen on one chain; that the two are apart needs the chains of
both, and both of them complete. -/

variable (facts) in
omit [DecidableEq Object] in
/-- What a classification says of a target and a hit. -/
def Classified (target hit : Object) : HitClassification → Prop
  | .reachesTarget => facts.Reaches target hit
  | .ancestorOfTarget => True
  | .unrelated => ∃ targetChain hitChain, facts.Apart target hit targetChain hitChain

namespace Shown

theorem reachesTarget_accounts (h : facts.Shown world) (target hit : E) (instant : ℕ) :
    (world.reachesTarget target hit instant).Accounts isParentRead absoluteMaxDepth
      (fun answer _ => (answer = .found → facts.Reaches (facts.object target) (facts.object hit))
        ∧ (answer = .absent → facts.object hit ≠ facts.object target
          ∧ ∃ chain, Ancestors.Chain facts.up (facts.object hit) chain
            ∧ facts.object target ∉ chain))
      (fun _ => False) := by
  refine Prog.Accounts.ite (fun hsame => Prog.Accounts.pure ?_) (fun hother => ?_)
  · rw [h.sameElement, decide_eq_true_eq] at hsame
    exact ⟨fun _ => .inl hsame.symm, fun habsent => (by cases habsent)⟩
  · rw [h.sameElement, decide_eq_true_eq] at hother
    refine (h.ancestryFrom_accounts target instant absoluteMaxDepth hit []).mono le_rfl
      (fun answer _ htells => ⟨fun hfound => ?_, fun habsent => ?_⟩) (fun _ hfalse => hfalse)
    · rw [hfound] at htells
      exact .inr htells
    · rw [habsent] at htells
      exact ⟨fun heq => hother heq.symm, htells⟩

/-- **A classification is true** of the target and the hit. -/
theorem classifyHit_accounts (h : facts.Shown world) (target hit : E) (instant : ℕ) :
    (world.classifyHit target hit instant).Accounts isParentRead
      (absoluteMaxDepth + absoluteMaxDepth)
      (fun answer _ => ∀ classification, answer = some classification →
        facts.Classified (facts.object target) (facts.object hit) classification)
      (fun _ => False) := by
  refine Prog.Accounts.bind (h.reachesTarget_accounts target hit instant)
    (fun reaches _ hreaches => ?_)
  obtain ⟨hfound, habsent⟩ := hreaches
  cases reaches with
  | incomplete => exact Prog.Accounts.pure (fun _ hnone => (by cases hnone))
  | found =>
    refine Prog.Accounts.pure (fun classification hsome => ?_)
    obtain rfl := Option.some.inj hsome
    exact hfound rfl
  | absent =>
    obtain ⟨hne, hitChain, hhit, hbelow⟩ := habsent rfl
    refine Prog.Accounts.bind (m := 0) (n := absoluteMaxDepth)
      (h.ancestryFrom_accounts hit instant absoluteMaxDepth target []) (fun isAncestor _ htells => ?_)
    cases isAncestor with
    | incomplete => exact Prog.Accounts.pure (fun _ hnone => (by cases hnone))
    | found =>
      refine Prog.Accounts.pure (fun classification hsome => ?_)
      obtain rfl := Option.some.inj hsome
      trivial
    | absent =>
      obtain ⟨targetChain, htarget, habove⟩ := htells
      refine Prog.Accounts.pure (fun classification hsome => ?_)
      obtain rfl := Option.some.inj hsome
      exact ⟨targetChain, hitChain, htarget, hhit, hne, hbelow, habove⟩

end Shown

theorem hitAtPosition_accounts (scope : HitScope) (root : E) (point : Point) (instant : ℕ) :
    (world.hitAtPosition scope root point instant).Accounts isParentRead 0
      (fun answer log => ∀ hit, answer = some hit → .hit scope hit ∈ log) (fun _ => False) := by
  refine Prog.Accounts.ask_bind (fun s => ?_)
  rcases (world.elementAtPosition root (world.asF32 point.x, world.asF32 point.y) instant s).1
    with ⟨error, hit⟩
  cases hit with
  | none => exact Prog.Accounts.pure (fun _ hnone => (by cases hnone))
  | some hit =>
    refine Prog.Accounts.ite (fun _ => ?_)
      (fun _ => Prog.Accounts.pure (fun _ hnone => (by cases hnone)))
    refine Prog.Accounts.emit_bind_of_not rfl (Prog.Accounts.pure (fun hit' hsome => ?_))
    rw [Option.some.inj hsome]
    exact List.mem_singleton_self _

theorem interceptedBy_accounts (h : facts.Shown world) (hit : E) (instant : ℕ) :
    (world.interceptedBy hit instant).Accounts isParentRead 0
      (fun result _ => ∃ role name bounds, result = .interceptedBy role name bounds)
      (fun _ => True) := by
  have hread (name phase : String) : (world.readCompleteText hit name instant phase).Accounts
      isParentRead 0 (fun _ _ => True) (fun _ => True) := by
    refine Prog.Accounts.bind (m := 0) (Q := fun _ _ => True)
      (Prog.Accounts.call (fun _ _ _ => trivial) (fun _ _ _ => trivial)) (fun _ _ _ => ?_)
    exact Prog.Accounts.ask_bind (fun _ =>
      Prog.Accounts.ofExcept (fun _ _ => trivial) (fun _ _ => trivial))
  refine Prog.Accounts.bind (m := 0) (hread "AXRole" "hit_test.role") (fun axRole _ _ => ?_)
  refine Prog.Accounts.bind (m := 0) (hread "AXSubrole" "hit_test.subrole") (fun axSubrole _ _ => ?_)
  refine Prog.Accounts.bind (m := 0) (Q := fun _ _ => True)
    (Prog.Accounts.call (fun _ _ _ => trivial) (fun _ _ _ => trivial)) (fun name _ _ => ?_)
  have hbounds : (world.readBounds hit instant).Accounts isParentRead 0 (fun _ _ => True)
      (fun _ => True) :=
    (h.readBounds_accounts hit instant).mono le_rfl (fun _ _ _ => trivial) (fun _ _ => trivial)
  refine Prog.Accounts.bind (m := 0) hbounds (fun bounds _ _ => ?_)
  exact Prog.Accounts.pure ⟨_, _, _, rfl⟩

/-! ## The whole test -/

omit [DecidableEq Object] in
theorem MaySay.mono {target : E} {point : Point} {log log' : List (HitEvent E)}
    {result : HitTestResult} (hlog : ∀ event ∈ log, event ∈ log')
    (h : facts.MaySay target point log result) : facts.MaySay target point log' result := by
  cases result with
  | reachesTarget =>
    obtain ⟨scope, hit, hmem, hreaches⟩ := h
    exact ⟨scope, hit, hlog _ hmem, hreaches⟩
  | interceptedBy role name bounds =>
    obtain ⟨hit, hmem, hapart⟩ := h
    exact ⟨hit, hlog _ hmem, hapart⟩
  | unknown => trivial

namespace Shown

theorem hitTestInApplication_accounts (h : facts.Shown world) (target : E) (point : Point)
    (instant : ℕ) :
    (world.hitTestInApplication target point instant).Accounts isParentRead (2 * absoluteMaxDepth)
      (fun result log => facts.MaySay target point log result) (fun _ => False) := by
  refine Prog.Accounts.ask_bind (fun s => ?_)
  cases (world.pid target instant s).1 with
  | error error => exact Prog.Accounts.pure trivial
  | ok pid =>
    rw [show 2 * absoluteMaxDepth = 0 + ((absoluteMaxDepth + absoluteMaxDepth) + 0) by decide]
    refine Prog.Accounts.bind (hitAtPosition_accounts .application _ point instant)
      (fun answer log hlog => ?_)
    cases answer with
    | none => exact Prog.Accounts.pure trivial
    | some hit =>
      refine Prog.Accounts.bind (h.classifyHit_accounts target hit instant)
        (fun classification log' hclassified => Prog.Accounts.pure ?_)
      unfold HitWorld.applicationResult
      by_cases hreaches : classification = some .reachesTarget
      · rw [if_pos hreaches]
        exact ⟨.application, hit, List.mem_append_left _ (hlog hit rfl), hclassified _ hreaches⟩
      · rw [if_neg hreaches]
        trivial

/-- What is done with a hit in the whole system, where the point lies in the visible part. -/
theorem resultOfHit_accounts (h : facts.Shown world) {target : E} {point : Point} (hit : E)
    (instant : ℕ) {before : List (HitEvent E)} (hhit : .hit .systemWide hit ∈ before)
    (hvisible : ∀ chain, Ancestors.Chain facts.up (facts.object target) chain →
      facts.InVisiblePart (facts.object target) chain point) :
    (world.resultOfHit target point hit instant).Accounts isParentRead (4 * absoluteMaxDepth)
      (fun result log => facts.MaySay target point (before ++ log) result) (fun _ => False) := by
  rw [show 4 * absoluteMaxDepth
    = (absoluteMaxDepth + absoluteMaxDepth) + 2 * absoluteMaxDepth by decide]
  refine Prog.Accounts.bind (h.classifyHit_accounts target hit instant)
    (fun answer log hclassified => ?_)
  cases answer with
  | none => exact Prog.Accounts.pure trivial
  | some classification =>
    cases classification with
    | ancestorOfTarget =>
      refine (h.hitTestInApplication_accounts target point instant).mono le_rfl
        (fun result log' hsay => hsay.mono (fun event hevent => ?_)) (fun _ hfalse => hfalse)
      exact List.mem_append_right _ (List.mem_append_right _ hevent)
    | reachesTarget =>
      exact Prog.Accounts.pure
        ⟨.systemWide, hit, List.mem_append_left _ hhit, hclassified _ rfl⟩
    | unrelated =>
      obtain ⟨targetChain, hitChain, hapart⟩ := hclassified _ rfl
      refine (Prog.Accounts.bind (m := 0) (n := 0)
        (Prog.Accounts.attempt (interceptedBy_accounts h hit instant))
        (fun result _ hresult => ?_)).mono (Nat.zero_le _) (fun _ _ hsay => hsay)
        (fun _ hfalse => hfalse)
      cases result with
      | error error => exact Prog.Accounts.pure trivial
      | ok result =>
        obtain ⟨role, name, bounds, rfl⟩ := hresult result rfl
        have hinside := hvisible targetChain hapart.targetComplete
        exact Prog.Accounts.pure ⟨hit, List.mem_append_left _ hhit, targetChain, hitChain, hapart,
          hinside, hinside.withinAll⟩

end Shown

/-- **The hit test is sound**: it may say what it says, or bounds are not read; and it reads no
more parents than five walks do. -/
structure HitSound (facts : HitFacts E Object) (world : HitWorld σ E) (target : E) (point : Point)
    (o : Outcome AdapterError HitTestResult) (log : List (HitEvent E)) : Prop where
  /-- It may say what it says, or it fails to read bounds. -/
  answer : (∃ result, o = .ok result ∧ facts.MaySay target point log result)
    ∨ ∃ error, o = .error error ∧ world.BoundsFail error
  /-- The walks come to an end. -/
  reads : log.countP isParentRead ≤ 5 * absoluteMaxDepth

/-- **A point is inside** where it lies in the visible part of the target. -/
theorem Shown.clippingIsComplete_accounts (h : facts.Shown world) (target : E) (point : Point)
    (instant : ℕ) :
    (world.clippingIsComplete target point instant).Accounts isParentRead
      ((0 + absoluteMaxDepth) + 0)
      (fun inside _ => inside = true → ∀ chain,
        Ancestors.Chain facts.up (facts.object target) chain →
          facts.InVisiblePart (facts.object target) chain point) world.BoundsFail := by
  have hclipped : (world.clippedBounds target instant).Accounts isParentRead (0 + absoluteMaxDepth)
      (fun left _ => ∀ rect : Rect, left = some rect → rect.holds point = true → ∀ chain,
        Ancestors.Chain facts.up (facts.object target) chain →
          facts.InVisiblePart (facts.object target) chain point) world.BoundsFail := by
    refine Prog.Accounts.bind (h.readBounds_accounts target instant) (fun found _ hfound => ?_)
    cases found with
    | none => exact Prog.Accounts.pure (fun _ hnone => (by cases hnone))
    | some visible =>
      refine (h.clippedFrom_accounts instant absoluteMaxDepth target [] visible).mono le_rfl
        (fun left _ hleft rect hrect hholds chain hchain => ⟨rect, ?_, hholds⟩)
        (fun _ herror => herror)
      unfold visiblePart
      rw [hfound visible rfl]
      exact hleft rect hrect chain hchain
  refine Prog.Accounts.bind hclipped (fun left _ hleft => Prog.Accounts.pure (fun hinside => ?_))
  cases left with
  | none => cases hinside
  | some rect => exact hleft rect rfl hinside

theorem Shown.hitTestElement_accounts (h : facts.Shown world) (target : E) (point : Point)
    (instant : ℕ) :
    (world.hitTestElement target point instant).Accounts isParentRead (5 * absoluteMaxDepth)
      (fun result log => facts.MaySay target point log result) world.BoundsFail := by
  rw [show 5 * absoluteMaxDepth
    = 0 + (((0 + absoluteMaxDepth) + 0) + (0 + 4 * absoluteMaxDepth)) by decide]
  refine Prog.Accounts.bind (h.readBounds_accounts target instant) (fun found _ hbounds => ?_)
  cases found with
  | none => exact Prog.Accounts.pure trivial
  | some bounds =>
    refine Prog.Accounts.ite (fun _ => Prog.Accounts.pure trivial) (fun _ => ?_)
    refine Prog.Accounts.bind (h.clippingIsComplete_accounts target point instant) (fun inside _ hinside => ?_)
    refine Prog.Accounts.ite (fun htrue => ?_) (fun _ => Prog.Accounts.pure trivial)
    refine Prog.Accounts.ask_bind (fun s => ?_)
    cases (world.systemWide s).1 with
    | none => exact Prog.Accounts.pure trivial
    | some system =>
      refine Prog.Accounts.bind ((hitAtPosition_accounts .systemWide system point instant).mono
        le_rfl (fun _ _ hlog => hlog) (fun _ hfalse => hfalse.elim)) (fun answer log hlog => ?_)
      cases answer with
      | none => exact Prog.Accounts.pure trivial
      | some hit =>
        refine (h.resultOfHit_accounts hit instant (hlog hit rfl) (hinside htrue)).mono le_rfl
          (fun result log' hsay => hsay.mono (fun event hevent => ?_)) (fun _ hfalse => hfalse.elim)
        exact List.mem_append_right _ (List.mem_append_right _ hevent)

/-- **A hit test is sound under incomplete evidence**: whatever reads fail, and whatever the
parents of the elements are. -/
theorem hitTestElement_sound (h : facts.Shown world) (target : E) (point : Point) (instant : ℕ)
    (s : σ) :
    HitSound facts world target point ((world.hitTestElement target point instant).outcome s)
      ((world.hitTestElement target point instant).events s) := by
  have hrun := h.hitTestElement_accounts target point instant s
  refine ⟨?_, hrun.few⟩
  cases ho : (world.hitTestElement target point instant).outcome s with
  | ok result => exact .inl ⟨result, rfl, hrun.value result ho⟩
  | error error => exact .inr ⟨error, rfl, hrun.failed error ho⟩
  | running => exact absurd ho hrun.ended

/-! ## A window above an application

The target 2 is in the application 1, and this one is in a window 0 that is elsewhere. The
position of the element 3 cannot be read, and the element 5 is in front. -/

/-- A read that does not come to an end. -/
def positionUnread : AdapterError := AdapterError.new .appUnresponsive "Position is not read"

/-- Their roles. -/
def windowAboveRole (element : ℕ) : String :=
  if element = 0 then "AXWindow" else if element = 1 then "AXApplication" else "AXButton"

/-- The elements. -/
def windowAbove : HitFacts ℕ ℕ where
  object := id
  parent := fun o => .ok (if o = 2 then some 1 else if o = 1 then some 0 else none)
  role := fun o => .ok (some (windowAboveRole o))
  position := fun o => if o = 3 then .error positionUnread else
    .ok (some (if o = 0 then (.finite 100, .finite 100) else (.finite 0, .finite 0)))
  size := fun _ => .ok (some (.finite 10, .finite 10))

/-- A world of these elements, with one in front. -/
def inFront (hit : ℕ) : HitWorld Unit ℕ where
  sameElement := fun a b => decide (a = b)
  prepare := fun _ _ s => (.ok (), s)
  copyString := fun e name _ s =>
    (.ok (if name = "AXRole" then some (windowAboveRole e, true) else none), s)
  readElement := fun e _ _ s => (windowAbove.parent e, s)
  readPoint := fun e _ _ s => (windowAbove.position e, s)
  readSize := fun e _ _ s => (windowAbove.size e, s)
  systemWide := fun s => (some 7, s)
  elementAtPosition := fun _ _ _ s => ((.success, some hit), s)
  pid := fun _ _ s => (.ok 10, s)
  elementForPid := fun _ => 7
  resolveElementName := fun _ _ s => (.ok none, s)
  asF32 := id

theorem shown_inFront (hit : ℕ) : windowAbove.Shown (inFront hit) where
  sameElement := fun _ _ => rfl
  parent := fun _ _ _ _ hread => hread
  role := fun e _ _ text hread => by
    have htext : (windowAboveRole e, true) = (text, true) := Option.some.inj (Except.ok.inj hread)
    exact congrArg (fun copied : String × Bool => Except.ok (some copied.1)) htext
  noRole := fun _ _ _ hread => by cases hread
  position := fun _ _ _ _ hread => hread
  size := fun _ _ _ _ hread => hread

/-- Whether a hit test has come to an element in the way. -/
def saysIntercepted : Outcome AdapterError HitTestResult → Bool
  | .ok (.interceptedBy _ _ _) => true
  | .ok .reachesTarget | .ok .unknown | .error _ | .running => false

theorem exists_of_saysIntercepted {o : Outcome AdapterError HitTestResult}
    (h : saysIntercepted o = true) :
    ∃ role name bounds, o = .ok (.interceptedBy role name bounds) := by
  cases o with
  | ok result =>
    cases result with
    | interceptedBy role name bounds => exact ⟨role, name, bounds, rfl⟩
    | reachesTarget => cases h
    | unknown => cases h
  | error error => cases h
  | running => cases h

/-- The point that is tested. -/
def insideTarget : Point := ⟨.finite 5, .finite 5⟩

theorem hitTestElement_sound_inFront :
    HitSound windowAbove (inFront 5) 2 insideTarget
      (((inFront 5).hitTestElement 2 insideTarget 0).outcome ())
      (((inFront 5).hitTestElement 2 insideTarget 0).events ()) :=
  hitTestElement_sound (shown_inFront 5) 2 insideTarget 0 ()

/-- **The walk ends at the application, and bounds that are not read are an error**: a point is
intercepted that does not lie in a window above the application; and a test of an element of
which the position is not read does not say that nothing is known. -/
theorem intercepted_outside_of_window :
    ((∃ role name bounds, ((inFront 5).hitTestElement 2 insideTarget 0).outcome ()
          = .ok (.interceptedBy role name bounds))
        ∧ Ancestors.Chain windowAbove.up 2 [1, 0]
        ∧ windowAbove.role 0 = .ok (some "AXWindow") ∧ clipsDescendants "AXWindow" = true
        ∧ ∃ rect, windowAbove.bounds 0 = some rect ∧ rect.holds insideTarget = false)
      ∧ ((inFront 5).hitTestElement 3 insideTarget 0).outcome () = .error positionUnread := by
  refine ⟨⟨exists_of_saysIntercepted (by decide +kernel), ?_, rfl, by decide, ⟨_, rfl, by decide⟩⟩, rfl⟩
  exact .parent rfl (.parent rfl (.top rfl))

end HitFacts

end AgentDesktop
