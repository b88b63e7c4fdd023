import AgentDesktop.Deadline
import AgentDesktop.Evidence
import AgentDesktop.Text
import AgentDesktop.Capability
import AgentDesktop.Util.Effect

/-!
# Selecting an item of a collection

An item of a collection is selected by a name or a text that stands somewhere inside of it. The
collection is searched depth-first, up to a depth and up to a number of nodes. From each element
that matches, a walk goes up to the collection, and finds the item that owns the element: the
first row on its way, or else the first element that is activated by being selected. Two
different items are an ambiguity.

The elements that are visited are recorded.
-/

namespace AgentDesktop

/-! ## Roles -/

/-- The table of `ax_role_to_str`. -/
def axRoles : List (String × String) :=
  [("AXApplication", "application"), ("AXButton", "button"), ("AXMenuButton", "menubutton"),
    ("AXTextField", "textfield"), ("AXTextArea", "textfield"), ("AXSearchField", "textfield"),
    ("AXSecureTextField", "textfield"), ("AXCheckBox", "checkbox"), ("AXSwitch", "switch"),
    ("AXToggle", "switch"), ("AXLink", "link"), ("AXMenuItem", "menuitem"),
    ("AXMenuBarItem", "menuitem"), ("AXRadioButton", "radiobutton"), ("AXTab", "tab"),
    ("AXTabGroup", "tablist"), ("AXSlider", "slider"), ("AXValueIndicator", "handle"),
    ("AXComboBox", "combobox"), ("AXPopUpButton", "combobox"), ("AXOutlineRow", "treeitem"),
    ("AXRow", "row"), ("AXCell", "cell"), ("AXColumn", "column"), ("AXWindow", "window"),
    ("AXSheet", "sheet"), ("AXDialog", "dialog"), ("AXGroup", "group"),
    ("AXGenericElement", "group"), ("AXSplitGroup", "group"), ("AXRadioGroup", "radiogroup"),
    ("AXToolbar", "toolbar"), ("AXStaticText", "statictext"), ("AXImage", "image"),
    ("AXTable", "table"), ("AXList", "list"), ("AXOutline", "outline"),
    ("AXScrollArea", "scrollarea"), ("AXScrollBar", "scrollbar"), ("AXSplitter", "splitter"),
    ("AXSeparator", "separator"), ("AXMenu", "menu"), ("AXMenuBar", "menu"),
    ("AXIncrementor", "incrementor"), ("AXStepper", "incrementor"),
    ("AXDisclosureTriangle", "disclosure"), ("AXProgressIndicator", "progressbar"),
    ("AXBusyIndicator", "progressbar"), ("AXColorWell", "colorwell"), ("AXWebArea", "webarea"),
    ("AXBrowser", "browser"), ("AXGrid", "grid"), ("AXHandle", "handle"),
    ("AXPopover", "popover"), ("AXDockItem", "dockitem"), ("AXRuler", "ruler"),
    ("AXRulerMarker", "rulermarker"), ("AXTimeField", "timefield"), ("AXDateField", "datefield"),
    ("AXHelpTag", "helptag"), ("AXMatte", "matte"), ("AXDrawer", "drawer"),
    ("AXLayoutArea", "layoutitem"), ("AXLayoutItem", "layoutitem"),
    ("AXLevelIndicator", "levelindicator"), ("AXRelevanceIndicator", "relevanceindicator"),
    ("AXDocument", "document"), ("AXPage", "page"), ("AXHeading", "heading"),
    ("AXParagraph", "paragraph"), ("AXStatus", "status"), ("AXToolTip", "tooltip")]

/-- `ax_role_to_str`. -/
def axRoleToStr (axRole : String) : String := (axRoles.lookup axRole).getD "unknown"

/-- `role_activates_by_selection`. -/
def roleActivatesBySelection (role : String) : Bool :=
  ["row", "treeitem", "cell", "listitem", "option", "tab"].contains role

/-! ## Limits and errors -/

/-- `MAX_SELECT_NODES`. -/
def maxSelectNodes : ℕ := 2048

/-- `MAX_SELECT_DEPTH`. -/
def maxSelectDepth : ℕ := 8

/-- The number of steps of `collection_owner`. -/
def maxOwnerSteps : ℕ := 8

/-- `incomplete`. -/
def incompleteSelection (phase : String) : AdapterError :=
  ((AdapterError.new .appUnresponsive "Selection candidate evidence was incomplete").withDetails
    (.obj [("kind", .str "selection_evidence"), ("phase", .str phase),
      ("complete", .bool false)])).withDisposition .notDelivered

/-- The limit on nodes is exceeded. -/
def selectNodeLimit : AdapterError :=
  (AdapterError.new .appUnresponsive
    "Select search exceeded its accessibility-node budget").withDetails
      (.obj [("kind", .str "select_node_limit"), ("limit", .num maxSelectNodes),
        ("complete", .bool false)])

/-- The limit on the depth is exceeded. -/
def selectDepthLimit : AdapterError :=
  (AdapterError.new .appUnresponsive
    "Collection selection search exceeded its depth budget").withDisposition .notDelivered

/-- There are two different items. -/
def collectionAmbiguous : AdapterError :=
  (AdapterError.ambiguousTarget
    "More than one collection item matched the requested value").withDisposition .notDelivered

/-! ## Matching -/

/-- `eq_ignore_ascii_case`. -/
def eqIgnoreAsciiCase (text value : String) : Bool := asciiLowercase text == asciiLowercase value

/-- What `candidate_read` reads of an element, with the counts of the read. -/
structure CandidateRead where
  role : Option String
  subrole : Option String
  evidence : LocatorEvidence
  /-- Whether the element is gone. -/
  invalidElement : Bool
  stats : Json

/-- `matches_evidence`. -/
def matchesEvidence (evidence : LocatorEvidence) (value : String) : Except AdapterError Bool :=
  match evidence.refEvidence.availableActions.known? with
  | none => .error (incompleteSelection "actions_unknown")
  | some actions =>
    if !actions.contains Capability.click then .ok false
    else if evidence.name.isUnknown then .error (incompleteSelection "name_unknown")
    else if evidence.description.isUnknown then .error (incompleteSelection "description_unknown")
    else
      .ok ([evidence.name, evidence.description].any (fun field =>
        field.known?.any (fun name => eqIgnoreAsciiCase name value)))

/-- The counts of the read are told with an error. -/
def withQueryStats (stats : Json) (error : AdapterError) : AdapterError :=
  { error with details := error.details.map (fun details => details.insert "query_stats" stats) }

/-- `evidence_matches`. -/
def evidenceMatches (read : CandidateRead) (value : String) : Except AdapterError Bool :=
  (matchesEvidence read.evidence value).mapError (withQueryStats read.stats)

/-- Whether `text_value_matches` reads the text. -/
def CandidateRead.isTextField (read : CandidateRead) : Bool :=
  read.role == some "AXTextField" && read.subrole != some "AXSecureTextField"

/-- A role that is typed into. -/
def isTextInput (role : Option String) : Bool :=
  role == some "AXTextField" || role == some "AXTextArea" || role == some "AXSecureTextField"

/-! ## The owner -/

/-- What the walk of `collection_owner` has come to. -/
structure OwnerSearch (E : Type) where
  /-- The element that can be selected. -/
  selectable : Option E
  row : Option E
  current : E

/-- One step of the walk, before it goes up: what the role of the current element says. -/
def OwnerSearch.see {E : Type} (sameElement : E → E → Bool) (element : E) (named : Bool)
    (search : OwnerSearch E) (role : Option String) : OwnerSearch E where
  row := if search.row.isNone && role == some "AXRow" then some search.current else search.row
  selectable :=
    if role.any (fun role => roleActivatesBySelection (axRoleToStr role)) then
      search.selectable.or (some search.current)
    else if named && search.selectable.isNone && sameElement search.current element
        && !isTextInput role then
      some search.current
    else search.selectable
  current := search.current

/-! ## The world -/

/-- **What selecting an item asks of the system.** -/
structure CollectionWorld (σ E : Type) where
  /-- `Instant::now`. -/
  clock : σ → ℕ × σ
  sameElement : E → E → Bool
  /-- `read_node`, as `candidate_read` calls it. -/
  readNode : E → ℕ → σ → Except AdapterError CandidateRead × σ
  /-- `surface_read::string`. -/
  readString : E → String → ℕ → σ → Except AdapterError (Option String) × σ
  /-- `surface_read::element`. -/
  readElement : E → String → ℕ → σ → Except AdapterError (Option E) × σ
  /-- `surface_read::elements`. -/
  readElements : E → String → ℕ → σ → Except AdapterError (List E) × σ

/-- A program that searches; it records the elements it visits. -/
abbrev SelectProg (σ E α : Type) : Type := Prog σ E AdapterError α

/-- `SelectSearch`. -/
inductive SelectSearch
  /-- The first item of a menu. -/
  | menuItem
  /-- The only item of a collection. -/
  | collection
  deriving DecidableEq

namespace CollectionWorld

variable {σ E : Type} (world : CollectionWorld σ E)

/-- `from_operation`. -/
def fromOperation (deadline : Deadline) : SelectProg σ E ℕ := do
  let now ← Prog.ask world.clock
  if deadline.remaining now = 0 then Prog.fail (deadline.timeoutError now)
  else
    let later ← Prog.ask world.clock
    return later + deadline.remaining now

/-- `candidate_read`. -/
def candidateRead (element : E) (instant : ℕ) : SelectProg σ E CandidateRead := do
  let read ← Prog.call (world.readNode element instant)
  if read.invalidElement then Prog.fail (.staleRef "Selection candidate became invalid")
  else return read

/-- `text_value_matches`. -/
def textValueMatches (element : E) (read : CandidateRead) (value : String) (instant : ℕ) :
    SelectProg σ E Bool := do
  if read.isTextField then
    let text ← Prog.call (world.readString element "AXValue" instant)
    return text.any (fun text => eqIgnoreAsciiCase text value)
  else return false

/-- `matches`. -/
def matchesCandidate (element : E) (value : String) (instant : ℕ) : SelectProg σ E Bool := do
  let read ← world.candidateRead element instant
  Prog.ofExcept (evidenceMatches read value)

/-- The loop of `collection_owner`. -/
def ownerFrom (element root : E) (named : Bool) (instant : ℕ) :
    ℕ → OwnerSearch E → SelectProg σ E (Option E)
  | 0, _ => Prog.fail (incompleteSelection "owner_depth_limit")
  | steps + 1, search => do
    if world.sameElement search.current root then return search.row.or search.selectable
    else
      let role ← Prog.call (world.readString search.current "AXRole" instant)
      match ← Prog.call (world.readElement search.current "AXParent" instant) with
      | none => Prog.fail (incompleteSelection "owner_parent_missing")
      | some parent =>
        ownerFrom element root named instant steps
          { search.see world.sameElement element named role with current := parent }

/-- `collection_owner`. -/
def collectionOwner (element root : E) (named : Bool) (instant : ℕ) : SelectProg σ E (Option E) :=
  world.ownerFrom element root named instant maxOwnerSteps ⟨none, none, element⟩

/-- `collection_target`. -/
def collectionTarget (element root : E) (value : String) (instant : ℕ) :
    SelectProg σ E (Option E) := do
  let read ← world.candidateRead element instant
  if ← Prog.ofExcept (evidenceMatches read value) then
    world.collectionOwner element root true instant
  else if ← world.textValueMatches element read value instant then
    world.collectionOwner element root false instant
  else return none

/-- The item that is selected, with a further target. -/
def keepUnique (selected target : Option E) : Except AdapterError (Option E) :=
  match target with
  | none => .ok selected
  | some target =>
    if selected.any (fun previous => !world.sameElement previous target) then
      .error collectionAmbiguous
    else .ok (some target)

/-- `boundary_children`. -/
def boundaryChildren (candidate : E) (depth : ℕ) (search : SelectSearch) (instant : ℕ) :
    SelectProg σ E (List E) := do
  if depth < maxSelectDepth then Prog.call (world.readElements candidate "AXChildren" instant)
  else if search = .menuItem then return []
  else
    let children ← Prog.call (world.readElements candidate "AXChildren" instant)
    if children.isEmpty then return []
    else Prog.fail selectDepthLimit

/-- What `find_named_descendant` does with a candidate of a collection: the item that is selected
then, and the children. -/
def examine (candidate root : E) (depth : ℕ) (value : String) (deadline : Deadline)
    (selected : Option E) : SelectProg σ E (Option E × List E) := do
  let instant ← world.fromOperation deadline
  let target ← world.collectionTarget candidate root value instant
  let selected ← Prog.ofExcept (world.keepUnique selected target)
  let children ← world.boundaryChildren candidate depth .collection instant
  return (selected, children)

/-- What it does with a candidate of a menu: the children, unless the candidate matches. -/
def examineMenuItem (candidate : E) (depth : ℕ) (value : String) (deadline : Deadline) :
    SelectProg σ E (Option (List E)) := do
  let instant ← world.fromOperation deadline
  if ← world.matchesCandidate candidate value instant then return none
  else
    let children ← world.boundaryChildren candidate depth .menuItem instant
    return some children

/-- The children of a candidate, with their depth. -/
def entriesBelow (depth : ℕ) (children : List E) : List (E × ℕ) :=
  children.map (fun child => (child, depth + 1))

/-- The loop of `find_named_descendant`, with the number of nodes that may still be visited. The
top of the stack stands first; no depth is larger than the limit on depths, so none saturates. -/
def searchLoop (root : E) (value : String) (deadline : Deadline) (search : SelectSearch) :
    ℕ → List (E × ℕ) → Option E → SelectProg σ E (Option E)
  | _, [], selected => return selected
  | 0, _ :: _, _ => Prog.fail selectNodeLimit
  | budget + 1, (candidate, depth) :: stack, selected => do
    Prog.emit candidate
    match search with
    | .collection => do
      let (selected, children) ← world.examine candidate root depth value deadline selected
      searchLoop root value deadline search budget
        (entriesBelow depth children ++ stack) selected
    | .menuItem => do
      match ← world.examineMenuItem candidate depth value deadline with
      | none => return some candidate
      | some children =>
        searchLoop root value deadline search budget
          (entriesBelow depth children ++ stack) selected

/-- **`find_named_descendant`.** -/
def findNamedDescendant (root : E) (value : String) (deadline : Deadline)
    (search : SelectSearch) : SelectProg σ E (Option E) :=
  world.searchLoop root value deadline search maxSelectNodes [(root, 0)] none

end CollectionWorld

end AgentDesktop
