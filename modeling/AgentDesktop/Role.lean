import AgentDesktop.Text

/-!
# Roles

The canonical roles, the tokens they are written with, and the folding of a
caller's role filter onto them. A token the table does not know reads as
`unknown`, and a valid filter never does.
-/

namespace AgentDesktop

/-- The canonical roles. -/
inductive Role
  | alert | alertDialog | application | article | banner | browser | button | cell
  | checkbox | colorWell | column | comboBox | complementary | contentInfo | dateField
  | definition | dialog | disclosure | dockItem | document | drawer | form | grid
  | group | handle | heading | helpTag | image | incrementor | layoutItem
  | levelIndicator | link | list | listBox | log | main | marquee | matte | math | menu
  | menuButton | menuItem | navigation | note | option | outline | page | paragraph
  | popover | progressBar | radioButton | radioGroup | region | relevanceIndicator
  | row | ruler | rulerMarker | scrollArea | scrollBar | search | separator | sheet
  | slider | splitter | staticText | status | switch | tab | tabList | tabPanel | table
  | textField | term | timeField | timer | toolbar | tooltip | treeItem | webArea
  | window | unknown
  deriving DecidableEq, Repr

namespace Role

/-- The token table, over a token already trimmed and lowered. -/
def ofLowered : String → Role
  | "alert" => .alert
  | "alertdialog" => .alertDialog
  | "application" => .application
  | "article" => .article
  | "banner" => .banner
  | "browser" => .browser
  | "button" => .button
  | "cell" => .cell
  | "checkbox" => .checkbox
  | "colorwell" => .colorWell
  | "column" => .column
  | "combobox" => .comboBox
  | "complementary" => .complementary
  | "contentinfo" => .contentInfo
  | "datefield" => .dateField
  | "definition" => .definition
  | "dialog" => .dialog
  | "disclosure" => .disclosure
  | "dockitem" => .dockItem
  | "document" => .document
  | "drawer" => .drawer
  | "form" => .form
  | "grid" => .grid
  | "group" => .group
  | "handle" => .handle
  | "heading" => .heading
  | "helptag" => .helpTag
  | "image" => .image
  | "incrementor" => .incrementor
  | "layoutitem" => .layoutItem
  | "levelindicator" => .levelIndicator
  | "link" => .link
  | "list" => .list
  | "listbox" => .listBox
  | "log" => .log
  | "main" => .main
  | "marquee" => .marquee
  | "matte" => .matte
  | "math" => .math
  | "menu" => .menu
  | "menubutton" => .menuButton
  | "menuitem" => .menuItem
  | "navigation" => .navigation
  | "note" => .note
  | "option" => .option
  | "outline" => .outline
  | "page" => .page
  | "paragraph" => .paragraph
  | "popover" => .popover
  | "progressbar" => .progressBar
  | "radiobutton" => .radioButton
  | "radiogroup" => .radioGroup
  | "region" => .region
  | "relevanceindicator" => .relevanceIndicator
  | "row" => .row
  | "ruler" => .ruler
  | "rulermarker" => .rulerMarker
  | "scrollarea" => .scrollArea
  | "scrollbar" => .scrollBar
  | "search" => .search
  | "separator" => .separator
  | "sheet" => .sheet
  | "slider" => .slider
  | "splitter" => .splitter
  | "statictext" => .staticText
  | "status" => .status
  | "switch" => .switch
  | "tab" => .tab
  | "tablist" => .tabList
  | "tabpanel" => .tabPanel
  | "table" => .table
  | "textfield" => .textField
  | "term" => .term
  | "timefield" => .timeField
  | "timer" => .timer
  | "toolbar" => .toolbar
  | "tooltip" => .tooltip
  | "treeitem" => .treeItem
  | "webarea" => .webArea
  | "window" => .window
  | _ => .unknown

/-- `Role::from_token`. -/
def fromToken (value : String) : Role := ofLowered (asciiLowercase (trim value))

/-- `Role::as_str`. -/
def asStr : Role → String
  | .alert => "alert"
  | .alertDialog => "alertdialog"
  | .application => "application"
  | .article => "article"
  | .banner => "banner"
  | .browser => "browser"
  | .button => "button"
  | .cell => "cell"
  | .checkbox => "checkbox"
  | .colorWell => "colorwell"
  | .column => "column"
  | .comboBox => "combobox"
  | .complementary => "complementary"
  | .contentInfo => "contentinfo"
  | .dateField => "datefield"
  | .definition => "definition"
  | .dialog => "dialog"
  | .disclosure => "disclosure"
  | .dockItem => "dockitem"
  | .document => "document"
  | .drawer => "drawer"
  | .form => "form"
  | .grid => "grid"
  | .group => "group"
  | .handle => "handle"
  | .heading => "heading"
  | .helpTag => "helptag"
  | .image => "image"
  | .incrementor => "incrementor"
  | .layoutItem => "layoutitem"
  | .levelIndicator => "levelindicator"
  | .link => "link"
  | .list => "list"
  | .listBox => "listbox"
  | .log => "log"
  | .main => "main"
  | .marquee => "marquee"
  | .matte => "matte"
  | .math => "math"
  | .menu => "menu"
  | .menuButton => "menubutton"
  | .menuItem => "menuitem"
  | .navigation => "navigation"
  | .note => "note"
  | .option => "option"
  | .outline => "outline"
  | .page => "page"
  | .paragraph => "paragraph"
  | .popover => "popover"
  | .progressBar => "progressbar"
  | .radioButton => "radiobutton"
  | .radioGroup => "radiogroup"
  | .region => "region"
  | .relevanceIndicator => "relevanceindicator"
  | .row => "row"
  | .ruler => "ruler"
  | .rulerMarker => "rulermarker"
  | .scrollArea => "scrollarea"
  | .scrollBar => "scrollbar"
  | .search => "search"
  | .separator => "separator"
  | .sheet => "sheet"
  | .slider => "slider"
  | .splitter => "splitter"
  | .staticText => "statictext"
  | .status => "status"
  | .switch => "switch"
  | .tab => "tab"
  | .tabList => "tablist"
  | .tabPanel => "tabpanel"
  | .table => "table"
  | .textField => "textfield"
  | .term => "term"
  | .timeField => "timefield"
  | .timer => "timer"
  | .toolbar => "toolbar"
  | .tooltip => "tooltip"
  | .treeItem => "treeitem"
  | .webArea => "webarea"
  | .window => "window"
  | .unknown => "unknown"

/-- `Role::is_interactive`. -/
def isInteractive : Role → Bool
  | .button | .cell | .checkbox | .colorWell | .comboBox | .dockItem | .incrementor
  | .link | .listBox | .menuButton | .menuItem | .option | .radioButton | .slider
  | .switch | .tab | .textField | .treeItem => true
  | _ => false

/-- `Role::is_transparent_wrapper`. -/
def isTransparentWrapper : Role → Bool
  | .group => true
  | _ => false

/-- `Role::is_canonical`. -/
def isCanonical (value : String) : Bool :=
  let normalized := asciiLowercase (trim value)
  normalized == "unknown" || fromToken normalized != .unknown

@[simp] theorem asciiLowercase_trim_asStr (role : Role) :
    asciiLowercase (trim role.asStr) = role.asStr := by
  cases role <;> decide

@[simp] theorem fromToken_asStr (role : Role) : fromToken role.asStr = role := by
  unfold fromToken
  rw [asciiLowercase_trim_asStr]
  cases role <;> decide

theorem asStr_injective : Function.Injective asStr :=
  Function.LeftInverse.injective fromToken_asStr

end Role

namespace Roles

/-- `INTERACTIVE_ROLES`. -/
def interactiveRoles : List String :=
  ["button", "cell", "checkbox", "colorwell", "combobox", "dockitem", "incrementor", "link",
    "listbox", "menubutton", "menuitem", "option", "radiobutton", "slider", "switch", "tab",
    "textfield", "treeitem"]

/-- `role_query_alias`: the web synonyms folded onto canonical roles. -/
def roleQueryAlias : String → Option Role
  | "gridcell" => some .cell
  | "img" => some .image
  | "radio" => some .radioButton
  | "searchbox" | "searchfield" | "textarea" | "textbox" => some .textField
  | "spinbutton" => some .incrementor
  | "togglebutton" => some .button
  | "tree" => some .outline
  | _ => none

/-- The canonical role a filter stands for: the synonym if there is one, else the
role of the token. -/
def canonicalRole (role : String) : Role :=
  let normalized := asciiLowercase (trim role)
  (roleQueryAlias normalized).getD (Role.fromToken normalized)

/-- `normalize_role_query`. -/
def normalizeRoleQuery (role : String) : String := (canonicalRole role).asStr

/-- `is_valid_role_query`. -/
def isValidRoleQuery (role : String) : Bool :=
  let normalized := asciiLowercase (trim role)
  (roleQueryAlias normalized).isSome
    || (normalized != "unknown" && Role.isCanonical normalized)

/-- `is_interactive_role`. -/
def isInteractiveRole (role : String) : Bool := (Role.fromToken role).isInteractive

@[simp] theorem roleQueryAlias_asStr (role : Role) : roleQueryAlias role.asStr = none := by
  cases role <;> decide

theorem normalizeRoleQuery_asStr (role : Role) :
    normalizeRoleQuery role.asStr = role.asStr := by
  simp [normalizeRoleQuery, canonicalRole]

@[simp] theorem normalizeRoleQuery_idem (role : String) :
    normalizeRoleQuery (normalizeRoleQuery role) = normalizeRoleQuery role := by
  rw [show normalizeRoleQuery role = (canonicalRole role).asStr from rfl,
    normalizeRoleQuery_asStr]

theorem roleQueryAlias_ne_unknown {token : String} {role : Role}
    (h : roleQueryAlias token = some role) : role ≠ .unknown := by
  unfold roleQueryAlias at h
  split at h <;> simp_all <;> subst h <;> decide

/-- **A valid filter never normalizes to `unknown`**, the role a node without
one is given. -/
theorem normalizeRoleQuery_ne_unknown {role : String} (h : isValidRoleQuery role = true) :
    normalizeRoleQuery role ≠ Role.unknown.asStr := by
  intro hnorm
  have hrole : canonicalRole role = Role.unknown := Role.asStr_injective hnorm
  simp only [canonicalRole] at hrole
  unfold isValidRoleQuery Role.isCanonical at h
  simp only [asciiLowercase_trim_idem, Bool.or_eq_true, Bool.and_eq_true, bne_iff_ne,
    beq_iff_eq, ne_eq] at h
  rcases h with halias | ⟨hne, hunknown | hknown⟩
  · obtain ⟨canonical, hcanonical⟩ := Option.isSome_iff_exists.mp halias
    rw [hcanonical, Option.getD_some] at hrole
    exact roleQueryAlias_ne_unknown hcanonical hrole
  · exact hne hunknown
  · cases halias : roleQueryAlias (asciiLowercase (trim role)) with
    | none =>
      rw [halias, Option.getD_none] at hrole
      exact hknown hrole
    | some canonical =>
      rw [halias, Option.getD_some] at hrole
      exact roleQueryAlias_ne_unknown halias hrole

end Roles

end AgentDesktop
