import AgentDesktop.Geometry
import AgentDesktop.Role

/-!
# Ref entries

What a ref remembers of the element it was given to: the process, the
identity, the geometry, the capabilities, the window it was found in, and the
scope – the path from the root of the observation, and the ref the
observation was rooted at when it was a drill-down.
-/

namespace AgentDesktop

/-- A path of native child indices. -/
abbrev RefPath := List ℕ

/-- `ProcessId`. -/
abbrev ProcessId := UInt32

/-- The parts of the desktop an observation can walk. -/
inductive SnapshotSurface
  | window | focused | menu | menubar | sheet | popover | alert | desktop | taskbar
  | systemTray | quickSettings | notificationCenter | toolbar | dock | spotlight
  | menuBarExtras | systemTrayOverflow | startMenu | actionCenter
  deriving DecidableEq, Repr

/-- The kinds of native identifiers. -/
inductive IdentifierKind
  | axIdentifier | axDomIdentifier | automationId | runtimeId | atspiObjectPath | unknown
  deriving DecidableEq, Repr

/-- `ElementIdentifier`. -/
structure ElementIdentifier where
  /-- The native attribute it comes from. -/
  kind : IdentifierKind
  value : String
  deriving DecidableEq

/-- `RefProcess`. -/
structure RefProcess where
  pid : ProcessId
  /-- The instance the id stood for. -/
  processInstance : Option String
  deriving DecidableEq

/-- `RefEntryIdentity`. -/
structure RefEntryIdentity where
  /-- The token of a retained native object. -/
  retainedObject : Option String
  role : String
  name : Option String
  value : Option String
  description : Option String
  /-- The native identifier. -/
  nativeId : Option ElementIdentifier
  deriving DecidableEq

/-- `RefGeometry`. -/
structure RefGeometry where
  bounds : Option Rect
  boundsHash : Option UInt64
  deriving DecidableEq

/-- `RefCapabilities`. -/
structure RefCapabilities where
  /-- The states at the time of the observation. -/
  states : List String
  /-- The actions the element offered. -/
  availableActions : List String
  deriving DecidableEq

/-- `RefSource`. -/
structure RefSource where
  sourceApp : Option String
  sourceWindowId : Option String
  sourceWindowTitle : Option String
  /-- The hash of the window's bounds. -/
  sourceWindowBoundsHash : Option UInt64
  sourceSurface : SnapshotSurface
  deriving DecidableEq

/-- `RefScope`. -/
structure RefScope where
  /-- The ref the observation was rooted at. -/
  rootRef : Option String
  /-- Whether the path starts at the surface although the observation was
  rooted at a ref. -/
  pathIsAbsolute : Bool
  path : RefPath
  deriving DecidableEq

/-- `RefEntry`. -/
structure RefEntry where
  process : RefProcess
  identity : RefEntryIdentity
  geometry : RefGeometry
  capabilities : RefCapabilities
  source : RefSource
  scope : RefScope
  deriving DecidableEq

namespace RefEntry

variable [BoundsHasher]

/-- The byte limit on a text of an entry. -/
def maxFieldBytes : ℕ := 65536

/-- The limit on the length of a path. -/
def maxPathDepth : ℕ := 256

/-- The texts of an entry that the field limit applies to. -/
def limitedFields (entry : RefEntry) : List String :=
  [entry.identity.name, entry.identity.value, entry.identity.description,
    entry.source.sourceApp, entry.source.sourceWindowId, entry.source.sourceWindowTitle,
    entry.process.processInstance].filterMap id

/-- Whether a native identifier is blank, too long or of no known kind. -/
def identifierIsInvalid (identifier : ElementIdentifier) : Bool :=
  (trim identifier.value).isEmpty || maxFieldBytes < identifier.value.utf8ByteSize
    || identifier.kind == .unknown

/-- Whether the role is one a ref can be given to. -/
def hasValidRole (entry : RefEntry) : Bool :=
  Role.isCanonical entry.identity.role && entry.identity.role != "unknown"

/-- `validate_ref_entry`. -/
def validate (entry : RefEntry) : Except AppError Unit := do
  if entry.process.pid == 0 || entry.process.processInstance.all String.isEmpty then
    throw (.invalidInput "RefEntry requires a positive pid and process instance")
  if !entry.hasValidRole then
    throw (.invalidInput "RefEntry contains an invalid role")
  if entry.limitedFields.any (fun field => maxFieldBytes < field.utf8ByteSize) then
    throw (.invalidInput "RefEntry string evidence exceeds the field limit")
  if entry.identity.nativeId.any identifierIsInvalid then
    throw (.invalidInput "RefEntry contains invalid typed identifier evidence")
  if maxPathDepth < entry.scope.path.length then
    throw (.invalidInput "RefEntry path is too deep")
  if let some bounds := entry.geometry.bounds then
    if let .error error := bounds.validate then
      throw (.adapter error)
    if entry.geometry.boundsHash != bounds.boundsHash then
      throw (.invalidInput "RefEntry bounds hash does not match its geometry")
  if 256 < entry.capabilities.states.length
      || 256 < entry.capabilities.availableActions.length
      || (entry.capabilities.states ++ entry.capabilities.availableActions).any
        (fun value => 256 < value.utf8ByteSize) then
    throw (.invalidInput "RefEntry state or action evidence exceeds its limit")

/-- Whether an entry passes its checks. -/
def isValid (entry : RefEntry) : Bool :=
  match entry.validate with
  | .ok _ => true
  | .error _ => false

end RefEntry

end AgentDesktop
