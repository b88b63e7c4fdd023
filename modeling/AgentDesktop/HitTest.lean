import AgentDesktop.CollectionSelect
import AgentDesktop.Desktop
import AgentDesktop.Disclosure

/-!
# What a point hits

A point reaches an element if the accessibility element at the point is that element or has it
among its ancestors. The point is asked of the whole system first. A hit outside of the ancestors
of the target, on an element that is not an ancestor of it, is in the way; a hit on an ancestor is
asked again of the application of the target. A point that does not lie in the visible part of
the target is not asked at all.

The ancestors are read one by one, up to a number of them; the walk remembers where it was. The
parents that are read and the elements that are hit are recorded.
-/

namespace AgentDesktop

/-! ## Roles -/

/-- The table of `ax_role_and_subrole_to_str`. -/
def axSubroles : List (String × String) :=
  [("AXApplicationAlert", "alert"), ("AXApplicationAlertDialog", "alertdialog"),
    ("AXApplicationDialog", "dialog"), ("AXApplicationLog", "log"),
    ("AXApplicationMarquee", "marquee"), ("AXApplicationStatus", "status"),
    ("AXApplicationTimer", "timer"), ("AXDocumentArticle", "article"), ("AXDocumentMath", "math"),
    ("AXDocumentNote", "note"), ("AXDocumentRegion", "region"), ("AXLandmarkBanner", "banner"),
    ("AXLandmarkComplementary", "complementary"), ("AXLandmarkContentInfo", "contentinfo"),
    ("AXLandmarkForm", "form"), ("AXLandmarkMain", "main"), ("AXLandmarkNavigation", "navigation"),
    ("AXLandmarkSearch", "search"), ("AXDefinition", "definition"), ("AXTerm", "term"),
    ("AXTabPanel", "tabpanel"), ("AXUserInterfaceTooltip", "tooltip"), ("AXOutlineRow", "treeitem"),
    ("AXTableRow", "row"), ("AXSecureTextField", "textfield"), ("AXSearchField", "textfield"),
    ("AXDialog", "dialog"), ("AXSystemDialog", "dialog"), ("AXCloseButton", "button"),
    ("AXMinimizeButton", "button"), ("AXZoomButton", "button"), ("AXToolbarButton", "button"),
    ("AXFullScreenButton", "button"), ("AXSortButton", "button"), ("AXToggle", "switch"),
    ("AXSwitch", "switch"), ("AXContentList", "list"), ("AXDefinitionList", "list"),
    ("AXDescriptionList", "list"), ("AXSeparatorDockItem", "separator")]

/-- `ax_role_and_subrole_to_str`. -/
def axRoleAndSubroleToStr (axRole : String) (axSubrole : Option String) : String :=
  match axSubrole with
  | none => axRoleToStr axRole
  | some subrole =>
    if subrole = "AXToggleButton" then
      let primary := axRoleToStr axRole
      if ["checkbox", "switch", "radiobutton"].contains primary then primary else "button"
    else (axSubroles.lookup subrole).getD (axRoleToStr axRole)

/-- `clips_descendants`. -/
def clipsDescendants (role : String) : Bool :=
  ["AXWindow", "AXScrollArea", "AXWebArea", "AXSheet", "AXPopover"].contains role

/-- `ends_clipping_walk`. -/
def endsClippingWalk (role : Option String) : Bool := role == some "AXApplication"

/-- `ABSOLUTE_MAX_DEPTH`. -/
def absoluteMaxDepth : ℕ := 50

/-! ## Rectangles -/

/-- `rect_from_parts`: the numbers are finite. -/
def rectFromParts (point size : F64 × F64) : Option Rect :=
  if [point.1, point.2, size.1, size.2].all (fun number => number.finiteAnd (fun _ => true)) then
    some ⟨point.1, point.2, size.1, size.2⟩
  else none

/-- `intersect_rects`. -/
def intersectRects (left right : Rect) : Option Rect :=
  let x := F64.map₂ max left.x right.x
  let y := F64.map₂ max left.y right.y
  let width := F64.map₂ (· - ·)
    (F64.map₂ min (F64.map₂ (· + ·) left.x left.width) (F64.map₂ (· + ·) right.x right.width)) x
  let height := F64.map₂ (· - ·)
    (F64.map₂ min (F64.map₂ (· + ·) left.y left.height) (F64.map₂ (· + ·) right.y right.height)) y
  if width.finiteAnd (fun width => 0 < width) && height.finiteAnd (fun height => 0 < height) then
    some ⟨x, y, width, height⟩
  else none

/-- Whether a point lies in a rectangle, as `clipping_is_complete` compares them. -/
def Rect.holds (rect : Rect) (point : Point) : Bool :=
  F64.both (fun a b => b ≤ a) point.x rect.x && F64.both (fun a b => b ≤ a) point.y rect.y
    && F64.both (fun a b => a ≤ b) point.x (F64.map₂ (· + ·) rect.x rect.width)
    && F64.both (fun a b => a ≤ b) point.y (F64.map₂ (· + ·) rect.y rect.height)

/-! ## What is found out -/

/-- `Ancestry`. -/
inductive Ancestry
  /-- The element is an ancestor. -/
  | found
  /-- It is none. -/
  | absent
  /-- It is not known. -/
  | incomplete
  deriving DecidableEq

/-- `HitClassification`. -/
inductive HitClassification
  /-- The hit is the target, or below it. -/
  | reachesTarget
  /-- The hit is above the target. -/
  | ancestorOfTarget
  /-- Neither. -/
  | unrelated
  deriving DecidableEq

/-- `classify_relation`. -/
def classifyRelation (reachesTarget isAncestorOfTarget : Bool) : HitClassification :=
  if reachesTarget then .reachesTarget
  else if isAncestorOfTarget then .ancestorOfTarget
  else .unrelated

/-- `needs_application_retry`. -/
def needsApplicationRetry (classification : HitClassification) : Bool :=
  classification == .ancestorOfTarget

/-- Where a point is asked. -/
inductive HitScope
  /-- Of the whole system. -/
  | systemWide
  /-- Of the application of the target. -/
  | application
  deriving DecidableEq

/-- What is recorded of a hit test. -/
inductive HitEvent (E : Type)
  /-- The parent of an element is read. -/
  | parentRead (element : E)
  /-- An element is hit. -/
  | hit (scope : HitScope) (element : E)

/-! ## The world -/

/-- **What a hit test asks of the system.** -/
structure HitWorld (σ E : Type) where
  sameElement : E → E → Bool
  prepare : E → ℕ → σ → Except AdapterError Unit × σ
  /-- `copy_string_attr_bounded_result`: a text, and whether it is complete. What is left of the
  budget for texts is a part of the state. -/
  copyString : E → String → ℕ → σ → Except AXError (Option (String × Bool)) × σ
  readElement : E → String → ℕ → σ → Except AdapterError (Option E) × σ
  readPoint : E → String → ℕ → σ → Except AdapterError (Option (F64 × F64)) × σ
  readSize : E → String → ℕ → σ → Except AdapterError (Option (F64 × F64)) × σ
  /-- `AXUIElementCreateSystemWide`, if it is not null. -/
  systemWide : σ → Option E × σ
  elementAtPosition : E → F64 × F64 → ℕ → σ → (AXError × Option E) × σ
  pid : E → ℕ → σ → Except AXError ℤ × σ
  elementForPid : ℤ → E
  resolveElementName : E → ℕ → σ → Except AdapterError (Option String) × σ
  /-- A number with the precision a point is asked with. -/
  asF32 : F64 → F64

/-- A program of a hit test. -/
abbrev HitProg (σ E α : Type) : Type := Prog σ (HitEvent E) AdapterError α

namespace HitWorld

variable {σ E : Type} (world : HitWorld σ E)

/-- `read_bounds_with_deadline`. -/
def readBounds (element : E) (instant : ℕ) : HitProg σ E (Option Rect) := do
  let point ← Prog.call (world.readPoint element "AXPosition" instant)
  let size ← Prog.call (world.readSize element "AXSize" instant)
  return point.bind (fun point => size.bind (fun size => rectFromParts point size))

/-- The text that `read_complete_text` makes of what was copied. -/
def completeText (name phase : String) :
    Except AXError (Option (String × Bool)) → Except AdapterError (Option String)
  | .error error => .error (Disclosure.semanticRead error phase)
  | .ok none => .ok none
  | .ok (some (value, complete)) =>
    if complete then .ok (some value)
    else .error ((AdapterError.new .appUnresponsive
      "Hit-test text evidence exceeded its observation budget").withDetails
        (.obj [("kind", .str "hit_test_text_incomplete"), ("attribute", .str name),
          ("complete", .bool false)]))

/-- `read_complete_text`. -/
def readCompleteText (element : E) (name : String) (instant : ℕ) (phase : String) :
    HitProg σ E (Option String) := do
  Prog.call (world.prepare element instant)
  let copied ← Prog.ask (world.copyString element name instant)
  Prog.ofExcept (completeText name phase copied)

/-- The read of the parent of an element, which is recorded. -/
def readParent (element : E) (instant : ℕ) : HitProg σ E (Option E) := do
  Prog.emit (.parentRead element)
  Prog.call (world.readElement element "AXParent" instant)

/-- `remember_ancestor`. -/
def rememberAncestor (visited : List E) (current : E) : Option (List E) :=
  if visited.any (fun ancestor => world.sameElement ancestor current) then none
  else some (visited ++ [current])

/-! ## The ancestors -/

/-- The loop of `ancestry`. -/
def ancestryFrom (expected : E) (instant : ℕ) : ℕ → E → List E → HitProg σ E Ancestry
  | 0, _, _ => return .incomplete
  | limit + 1, current, visited =>
    match world.rememberAncestor visited current with
    | none => return .incomplete
    | some visited => do
      match ← (world.readParent current instant).attempt with
      | .error _ => return .incomplete
      | .ok none => return .absent
      | .ok (some parent) =>
        if world.sameElement parent expected then return .found
        else ancestryFrom expected instant limit parent visited

/-- `ancestry`. -/
def ancestry (start expected : E) (limit instant : ℕ) : HitProg σ E Ancestry :=
  world.ancestryFrom expected instant limit start []

/-- What an element leaves of the visible part. -/
def clippedBy (current : E) (role : Option String) (visible : Rect) (instant : ℕ) :
    HitProg σ E (Option Rect) :=
  if role.any clipsDescendants then do
    let bounds ← world.readBounds current instant
    return bounds.bind (intersectRects visible)
  else return some visible

/-- The loop of `clipped_bounds`. -/
def clippedFrom (instant : ℕ) : ℕ → E → List E → Rect → HitProg σ E (Option Rect)
  | 0, _, _, _ => return none
  | limit + 1, current, visited, visible =>
    match world.rememberAncestor visited current with
    | none => return none
    | some visited => do
      match ← (world.readCompleteText current "AXRole" instant "hit_test.clip_role").attempt with
      | .error _ => return none
      | .ok role =>
        if endsClippingWalk role then return some visible
        else do
          match ← world.clippedBy current role visible instant with
          | none => return none
          | some visible => do
            match ← (world.readParent current instant).attempt with
            | .error _ => return none
            | .ok none => return some visible
            | .ok (some parent) => clippedFrom instant limit parent visited visible

/-- `clipped_bounds`. -/
def clippedBounds (target : E) (instant : ℕ) : HitProg σ E (Option Rect) := do
  match ← world.readBounds target instant with
  | none => return none
  | some visible => world.clippedFrom instant absoluteMaxDepth target [] visible

/-- `clipping_is_complete`. -/
def clippingIsComplete (target : E) (point : Point) (instant : ℕ) : HitProg σ E Bool := do
  let bounds ← world.clippedBounds target instant
  return bounds.any (fun bounds => bounds.holds point)

/-! ## The hit -/

/-- `hit_at_position`. -/
def hitAtPosition (scope : HitScope) (root : E) (point : Point) (instant : ℕ) :
    HitProg σ E (Option E) := do
  let (error, hit) ← Prog.ask (world.elementAtPosition root
    (world.asF32 point.x, world.asF32 point.y) instant)
  match hit with
  | none => return none
  | some hit =>
    if error = .success then do
      Prog.emit (.hit scope hit)
      return some hit
    else return none

/-- Whether the hit reaches the target, in `classify_hit`. -/
def reachesTarget (target hit : E) (instant : ℕ) : HitProg σ E Ancestry :=
  if world.sameElement target hit then return .found
  else world.ancestry hit target absoluteMaxDepth instant

/-- Whether the hit is above the target, in `classify_hit`. -/
def isAncestorOfTarget (target hit : E) (reaches : Ancestry) (instant : ℕ) :
    HitProg σ E Ancestry :=
  if reaches = .found then return .absent
  else world.ancestry target hit absoluteMaxDepth instant

/-- `classify_hit`. -/
def classifyHit (target hit : E) (instant : ℕ) : HitProg σ E (Option HitClassification) := do
  let reaches ← world.reachesTarget target hit instant
  if reaches = .incomplete then return none
  else do
    let isAncestor ← world.isAncestorOfTarget target hit reaches instant
    if isAncestor = .incomplete then return none
    else return some (classifyRelation (reaches == .found) (isAncestor == .found))

/-- `intercepted_by`. -/
def interceptedBy (hit : E) (instant : ℕ) : HitProg σ E HitTestResult := do
  let axRole ← world.readCompleteText hit "AXRole" instant "hit_test.role"
  let axSubrole ← world.readCompleteText hit "AXSubrole" instant "hit_test.subrole"
  let role := (axRole.map (fun role => axRoleAndSubroleToStr role axSubrole)).getD "unknown"
  let name ← Prog.call (world.resolveElementName hit instant)
  let bounds ← world.readBounds hit instant
  return .interceptedBy (some role) name bounds

/-- `classification_result`. -/
def classificationResult (classification : HitClassification) (hit : E) (instant : ℕ) :
    HitProg σ E HitTestResult :=
  match classification with
  | .reachesTarget => return .reachesTarget
  | .ancestorOfTarget => return .unknown
  | .unrelated => do
    match ← (world.interceptedBy hit instant).attempt with
    | .ok result => return result
    | .error _ => return .unknown

/-- The answer of `hit_test_in_application` to what it has classified. -/
def applicationResult (classification : Option HitClassification) : HitTestResult :=
  if classification = some .reachesTarget then .reachesTarget else .unknown

/-- `hit_test_in_application`. -/
def hitTestInApplication (target : E) (point : Point) (instant : ℕ) :
    HitProg σ E HitTestResult := do
  match ← Prog.ask (world.pid target instant) with
  | .error _ => return .unknown
  | .ok pid =>
    match ← world.hitAtPosition .application (world.elementForPid pid) point instant with
    | none => return .unknown
    | some hit =>
      let classification ← world.classifyHit target hit instant
      return applicationResult classification

/-- What `hit_test_element` does with what is hit in the whole system. -/
def resultOfHit (target : E) (point : Point) (hit : E) (instant : ℕ) :
    HitProg σ E HitTestResult := do
  match ← world.classifyHit target hit instant with
  | none => return .unknown
  | some classification =>
    if needsApplicationRetry classification then world.hitTestInApplication target point instant
    else world.classificationResult classification hit instant

/-- What it does where the point lies in the visible part of the target. -/
def resultInSystem (target : E) (point : Point) (instant : ℕ) : HitProg σ E HitTestResult := do
  match ← Prog.ask world.systemWide with
  | none => return .unknown
  | some system =>
    match ← world.hitAtPosition .systemWide system point instant with
    | none => return .unknown
    | some hit => world.resultOfHit target point hit instant

/-- **`hit_test_element`.** -/
def hitTestElement (target : E) (point : Point) (instant : ℕ) : HitProg σ E HitTestResult := do
  match ← world.readBounds target instant with
  | none => return .unknown
  | some bounds =>
    if F64.both (fun a b => a ≤ b) bounds.width (.finite 0)
        || F64.both (fun a b => a ≤ b) bounds.height (.finite 0) then
      return .unknown
    else do
      let inside ← world.clippingIsComplete target point instant
      if inside then world.resultInSystem target point instant else return .unknown

end HitWorld

end AgentDesktop
