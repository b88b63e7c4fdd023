import AgentDesktop.Desktop

/-!
# Signals

What a desktop shows at one moment, read as inventories of its windows, its
applications and their surfaces, each marked complete or not. Two such
observations are compared into UI events: what is in the later inventory and
not in the earlier one has come, what is in the earlier and not in the later
one has gone, and the focus may have moved.

An inventory that was not read to its end says nothing of what it leaves out,
so an event is only read off two complete ones (`covers_of_mem_diffSignals`),
and a desktop that shows the same twice has no event (`diffSignals_self`).
-/

namespace AgentDesktop

/-- `SnapshotSurface::as_str`. -/
def SnapshotSurface.asStr : SnapshotSurface → String
  | window => "window"
  | focused => "focused"
  | menu => "menu"
  | menubar => "menubar"
  | sheet => "sheet"
  | popover => "popover"
  | alert => "alert"
  | desktop => "desktop"
  | taskbar => "taskbar"
  | systemTray => "system_tray"
  | quickSettings => "quick_settings"
  | notificationCenter => "notification_center"
  | toolbar => "toolbar"
  | dock => "dock"
  | spotlight => "spotlight"
  | menuBarExtras => "menu_bar_extras"
  | systemTrayOverflow => "system_tray_overflow"
  | startMenu => "start_menu"
  | actionCenter => "action_center"

/-- `SurfaceSignal`. -/
structure SurfaceSignal where
  /-- What part of the desktop it is. -/
  kind : SnapshotSurface
  app : String
  pid : ProcessId
  processInstance : String
  /-- The id of the surface. -/
  id : String
  title : Option String
  deriving DecidableEq

deriving instance DecidableEq for AppInfo

/-- `AppInfo`, with the identifier an application is also found by. -/
structure SignalApp extends AppInfo where
  /-- The bundle identifier. -/
  bundleId : Option String
  deriving DecidableEq

/-- `SignalCompleteness`: which inventories were read to their end. -/
structure SignalCompleteness where
  windows : Bool
  apps : Bool
  surfaces : Bool
  deriving DecidableEq

/-- `SignalCompleteness::complete`. -/
def SignalCompleteness.complete : SignalCompleteness where
  windows := true
  apps := true
  surfaces := true

/-- **`SignalBaseline`**: one observation of the desktop. -/
structure SignalBaseline where
  windows : List WindowInfo
  apps : List SignalApp
  surfaces : List SurfaceSignal
  /-- Which of the three were read to their end. -/
  completeness : SignalCompleteness
  deriving DecidableEq

/-- `SignalFilter`: what an observation is taken of. -/
structure SignalFilter where
  app : Option String
  process : Option ProcessIdentity

/-- `EventKind`. -/
inductive EventKind
  | windowOpened | windowClosed | appLaunched | appTerminated | focusChangedWindow
  | surfaceAppeared (surface : SnapshotSurface)
  | surfaceDismissed (surface : SnapshotSurface)
  deriving DecidableEq

namespace EventKind

/-- `cli_token`. -/
def cliToken : EventKind → String
  | windowOpened => "window-opened"
  | windowClosed => "window-closed"
  | appLaunched => "app-launched"
  | appTerminated => "app-terminated"
  | focusChangedWindow => "focus-changed"
  | surfaceAppeared _ => "surface-appeared"
  | surfaceDismissed _ => "surface-dismissed"

/-- `all_tokens`. -/
def allTokens : List String :=
  ["window-opened", "window-closed", "app-launched", "app-terminated", "focus-changed",
    "surface-appeared", "surface-dismissed"]

/-- `parse`. -/
def parse : String → Option EventKind
  | "window-opened" => some windowOpened
  | "window-closed" => some windowClosed
  | "app-launched" => some appLaunched
  | "app-terminated" => some appTerminated
  | "focus-changed" => some focusChangedWindow
  | "surface-appeared" => some (surfaceAppeared .window)
  | "surface-dismissed" => some (surfaceDismissed .window)
  | _ => none

/-- `same_variant`: the surface does not matter. -/
def sameVariant : EventKind → EventKind → Bool
  | windowOpened, windowOpened | windowClosed, windowClosed | appLaunched, appLaunched
  | appTerminated, appTerminated | focusChangedWindow, focusChangedWindow
  | surfaceAppeared _, surfaceAppeared _ | surfaceDismissed _, surfaceDismissed _ => true
  | _, _ => false

end EventKind

/-- `UiEvent`. -/
structure UiEvent where
  kind : EventKind
  /-- The window it happened to. -/
  windowId : Option String
  /-- The title of the window or the surface. -/
  title : Option String
  app : Option String
  pid : Option ProcessId
  deriving DecidableEq

/-! ## Comparing two observations -/

/-- `event_rank`: what has gone comes before what has come. -/
def eventRank : EventKind → ℕ
  | .windowClosed => 0
  | .appTerminated => 1
  | .surfaceDismissed _ => 2
  | .windowOpened => 3
  | .appLaunched => 4
  | .surfaceAppeared _ => 5
  | .focusChangedWindow => 6

/-- `compare_events`. -/
def compareEvents (left right : UiEvent) : Ordering :=
  (compare (eventRank left.kind) (eventRank right.kind)).then <|
  (compare left.app right.app).then <|
  (compare left.pid right.pid).then <|
  (compare left.windowId right.windowId).then <|
  (compare left.title right.title).then <|
  compare left.kind.cliToken right.kind.cliToken

/-- What is identified in one inventory and not found in another. -/
def unseen {α ι : Type} [BEq ι] (identity : α → Option ι) (seen items : List α) : List α :=
  items.filter (fun item =>
    (identity item).any (fun key => !(seen.filterMap identity).contains key))

/-- `window_identity`: a window of an unknown process instance has none. -/
def windowIdentity (window : WindowInfo) : Option (ProcessId × String × String) :=
  window.processInstance.map (fun processInstance => (window.pid, processInstance, window.id))

/-- `window_event`. -/
def windowEvent (kind : EventKind) (window : WindowInfo) : UiEvent where
  kind
  windowId := some window.id
  title := some window.title
  app := some window.app
  pid := some window.pid

/-- `diff_windows`. -/
def diffWindows (baseline current : SignalBaseline) : List UiEvent :=
  (unseen windowIdentity baseline.windows current.windows).map (windowEvent .windowOpened)
    ++ (unseen windowIdentity current.windows baseline.windows).map (windowEvent .windowClosed)

/-- `diff_focus`: the focus moved to a window, or it left one for none. -/
def diffFocus (baseline current : SignalBaseline) : List UiEvent :=
  let baselineFocusedId :=
    (baseline.windows.find? (fun window => window.state.isFocused)).bind windowIdentity
  match current.windows.find? (fun window => window.state.isFocused) with
  | some window =>
    if (windowIdentity window).any (fun key => some key != baselineFocusedId) then
      [windowEvent .focusChangedWindow window]
    else []
  | none =>
    if baselineFocusedId.isSome then
      [{ kind := .focusChangedWindow, windowId := none, title := none, app := none, pid := none }]
    else []

/-- `app_event`. -/
def appEvent (kind : EventKind) (app : SignalApp) : UiEvent where
  kind
  windowId := none
  title := none
  app := some app.name
  pid := some app.pid

/-- `app_identity`. -/
def appIdentity (app : SignalApp) : Option (ProcessId × String) :=
  app.processInstance.map (fun processInstance => (app.pid, processInstance))

/-- `diff_apps`. -/
def diffApps (baseline current : SignalBaseline) : List UiEvent :=
  (unseen appIdentity baseline.apps current.apps).map (appEvent .appLaunched)
    ++ (unseen appIdentity current.apps baseline.apps).map (appEvent .appTerminated)

/-- `surface_identity`: every surface has one. -/
def surfaceIdentity (surface : SurfaceSignal) : Option (ProcessId × String × String × String) :=
  some (surface.pid, surface.processInstance, surface.id, surface.kind.asStr)

/-- `surface_event`. -/
def surfaceEvent (appeared : Bool) (surface : SurfaceSignal) : UiEvent where
  kind := if appeared then .surfaceAppeared surface.kind else .surfaceDismissed surface.kind
  windowId := none
  title := surface.title
  app := some surface.app
  pid := some surface.pid

/-- `diff_surfaces`. -/
def diffSurfaces (baseline current : SignalBaseline) : List UiEvent :=
  (unseen surfaceIdentity baseline.surfaces current.surfaces).map (surfaceEvent true)
    ++ (unseen surfaceIdentity current.surfaces baseline.surfaces).map (surfaceEvent false)

/-- The events of two observations, in the order they are found. -/
def signalEvents (baseline current : SignalBaseline) : List UiEvent :=
  (if baseline.completeness.windows && current.completeness.windows then
    diffWindows baseline current ++ diffFocus baseline current else [])
  ++ (if baseline.completeness.apps && current.completeness.apps then
    diffApps baseline current else [])
  ++ (if baseline.completeness.surfaces && current.completeness.surfaces then
    diffSurfaces baseline current else [])

/-- **`diff_signals`**: the events between two observations, sorted. -/
def diffSignals (baseline current : SignalBaseline) : List UiEvent :=
  (signalEvents baseline current).mergeSort (fun left right => (compareEvents left right).isLE)

theorem mem_diffSignals {baseline current : SignalBaseline} {event : UiEvent} :
    event ∈ diffSignals baseline current ↔ event ∈ signalEvents baseline current := by
  unfold diffSignals
  exact List.mem_mergeSort

/-! ## Where an event is read off -/

/-- Whether the inventory that events of a kind are read off was read to its end. -/
def SignalCompleteness.covers (completeness : SignalCompleteness) : EventKind → Bool
  | .windowOpened | .windowClosed | .focusChangedWindow => completeness.windows
  | .appLaunched | .appTerminated => completeness.apps
  | .surfaceAppeared _ | .surfaceDismissed _ => completeness.surfaces

theorem SignalCompleteness.covers_of_sameVariant (completeness : SignalCompleteness)
    {kind kind' : EventKind} (h : kind.sameVariant kind' = true) :
    completeness.covers kind = completeness.covers kind' := by
  cases kind <;> cases kind' <;> first | rfl | cases h

theorem kind_of_mem_diffWindows {baseline current : SignalBaseline} {event : UiEvent}
    (h : event ∈ diffWindows baseline current) :
    event.kind = .windowOpened ∨ event.kind = .windowClosed := by
  rcases List.mem_append.mp h with h | h
  · obtain ⟨window, -, rfl⟩ := List.mem_map.mp h
    exact Or.inl rfl
  · obtain ⟨window, -, rfl⟩ := List.mem_map.mp h
    exact Or.inr rfl

theorem kind_of_mem_diffFocus {baseline current : SignalBaseline} {event : UiEvent}
    (h : event ∈ diffFocus baseline current) : event.kind = .focusChangedWindow := by
  unfold diffFocus at h
  dsimp only at h
  split at h
  all_goals split at h
  all_goals simp only [List.mem_singleton, List.not_mem_nil] at h
  all_goals rw [h]
  all_goals rfl

theorem kind_of_mem_diffApps {baseline current : SignalBaseline} {event : UiEvent}
    (h : event ∈ diffApps baseline current) :
    event.kind = .appLaunched ∨ event.kind = .appTerminated := by
  rcases List.mem_append.mp h with h | h
  · obtain ⟨app, -, rfl⟩ := List.mem_map.mp h
    exact Or.inl rfl
  · obtain ⟨app, -, rfl⟩ := List.mem_map.mp h
    exact Or.inr rfl

theorem kind_of_mem_diffSurfaces {baseline current : SignalBaseline} {event : UiEvent}
    (h : event ∈ diffSurfaces baseline current) :
    (∃ surface, event.kind = .surfaceAppeared surface)
      ∨ ∃ surface, event.kind = .surfaceDismissed surface := by
  rcases List.mem_append.mp h with h | h
  · obtain ⟨surface, -, rfl⟩ := List.mem_map.mp h
    exact Or.inl ⟨surface.kind, rfl⟩
  · obtain ⟨surface, -, rfl⟩ := List.mem_map.mp h
    exact Or.inr ⟨surface.kind, rfl⟩

/-- **Both inventories of an event are complete.** -/
theorem covers_of_mem_diffSignals {baseline current : SignalBaseline} {event : UiEvent}
    (h : event ∈ diffSignals baseline current) :
    baseline.completeness.covers event.kind = true
      ∧ current.completeness.covers event.kind = true := by
  rw [mem_diffSignals] at h
  unfold signalEvents at h
  rcases List.mem_append.mp h with h | h
  · rcases List.mem_append.mp h with h | h
    · obtain ⟨hcomplete, h⟩ := List.mem_ite_nil_right.mp h
      rw [Bool.and_eq_true] at hcomplete
      rcases List.mem_append.mp h with h | h
      · rcases kind_of_mem_diffWindows h with hkind | hkind
        all_goals rw [hkind]
        all_goals exact hcomplete
      · rw [kind_of_mem_diffFocus h]
        exact hcomplete
    · obtain ⟨hcomplete, h⟩ := List.mem_ite_nil_right.mp h
      rw [Bool.and_eq_true] at hcomplete
      rcases kind_of_mem_diffApps h with hkind | hkind
      all_goals rw [hkind]
      all_goals exact hcomplete
  · obtain ⟨hcomplete, h⟩ := List.mem_ite_nil_right.mp h
    rw [Bool.and_eq_true] at hcomplete
    rcases kind_of_mem_diffSurfaces h with ⟨surface, hkind⟩ | ⟨surface, hkind⟩
    all_goals rw [hkind]
    all_goals exact hcomplete

/-! ## The same desktop twice -/

theorem unseen_self {α ι : Type} [BEq ι] [LawfulBEq ι] (identity : α → Option ι)
    (items : List α) : unseen identity items items = [] := by
  unfold unseen
  rw [List.filter_eq_nil_iff]
  intro item hitem h
  cases hkey : identity item with
  | none =>
    rw [hkey] at h
    cases h
  | some key =>
    have hseen : (items.filterMap identity).contains key = true :=
      List.contains_iff_mem.mpr (List.mem_filterMap.mpr ⟨item, hitem, hkey⟩)
    rw [hkey, Option.any_some, hseen] at h
    cases h

theorem diffFocus_self (baseline : SignalBaseline) : diffFocus baseline baseline = [] := by
  unfold diffFocus
  cases hfocused : baseline.windows.find? (fun window => window.state.isFocused) with
  | none => rfl
  | some window =>
    show (if (windowIdentity window).any (fun key => some key != windowIdentity window) then
      [windowEvent .focusChangedWindow window] else []) = []
    cases windowIdentity window with
    | none => rfl
    | some key => rw [if_neg (by simp)]

/-- **A desktop that shows the same twice has no event.** -/
theorem diffSignals_self (baseline : SignalBaseline) : diffSignals baseline baseline = [] := by
  have hevents : signalEvents baseline baseline = [] := by
    unfold signalEvents diffWindows diffApps diffSurfaces
    simp only [unseen_self, diffFocus_self, List.map_nil, List.append_nil, ite_self]
  unfold diffSignals
  rw [hevents]
  exact List.mergeSort_nil

end AgentDesktop
