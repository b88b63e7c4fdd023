import AgentDesktop.Completion
import AgentDesktop.RefOwners

/-!
# Commands that write refs

A snapshot and a search each write a new map, a drill-down writes the map its root
comes from. A run is a sequence of such commands on the maps of a store; a command
that fails writes nothing. In a run of safe commands every map is well owned.

A search below a ref is where it goes wrong. Its entries name the ref they were
searched below, which is a ref of another map; the new map has refs of the same
names, and a drill-down at one of these removes what merely was found beside it.
-/

namespace AgentDesktop

/-- Where a search starts. -/
inductive FindRoot
  | window (window : WindowInfo)
  /-- At a ref of a snapshot, as it was given, and in the snapshot. -/
  | ref (snapshotId rootRefId root : String)

/-- A command that writes refs, with what it is told and what it observes. -/
inductive RefCommand
  | snapshot (newId : String) (options : RefAllocOptions) (source : RefAllocSource)
    (rawTree : AccessibilityNode)
  /-- A drill-down. -/
  | drill (snapshotId : String) (request : DrillRequest) (rawTree : AccessibilityNode)
  /-- A search: the tree it evaluates, and the second look at each match. -/
  | find (newId : String) (root : FindRoot) (surface : SnapshotSurface) (query : LocatorQuery)
    (selection : LocatorSelection) (tree : ObservedTree) (surroundings : ℕ → Hydration)

/-- The maps of a store, by snapshot. -/
abbrev SnapshotMaps : Type := String → Option RefMap

/-- `load_ref_entry`. -/
def loadRefEntry (maps : SnapshotMaps) (snapshotId rootRefId root : String) :
    Except AppError RefEntry :=
  match maps snapshotId with
  | none => .error (.adapter (.snapshotNotFound snapshotId))
  | some refmap =>
    match refmap.get root with
    | none => .error (.staleRef rootRefId)
    | some entry => .ok entry

/-- What a search observes. -/
def FindRoot.observationRoot (maps : SnapshotMaps) : FindRoot → Except AppError ObservationRoot
  | .window info => .ok (.window info)
  | .ref snapshotId rootRefId root =>
    (loadRefEntry maps snapshotId rootRefId root).map (fun entry => .element entry (some root))

/-- `resolve_request`. -/
def resolveRequest (selection : LocatorSelection) : LocatorResolveRequest where
  selection := selection
  maxRawDepth := 50
  materialization := if selection = .count then .none else .selectedMatches

/-- The error of `require_complete`. -/
def locatorIncomplete (resolution : LocatorResolution) : AdapterError :=
  (AdapterError.timeout "Locator traversal did not produce an authoritative result").withDetails
    (.obj [("kind", .str "locator_incomplete"),
      ("observed_matches", .num resolution.info.totalMatches),
      ("roles_present", .arr (resolution.info.rolesPresent.map .str))])

section

variable [BoundsHasher] [UnicodeLowercase] [RefMapFormat]

omit [RefMapFormat] in
/-- `find`, up to the map it writes: the attempt that gave the answer. -/
def findRefmap (maps : SnapshotMaps) (root : FindRoot) (surface : SnapshotSurface)
    (query : LocatorQuery) (selection : LocatorSelection) (tree : ObservedTree)
    (surroundings : ℕ → Hydration) : Except AppError (Option RefMap) := do
  let observationRoot ← root.observationRoot maps
  let resolution ← resolveQueryAttempt query (resolveRequest selection)
    (tree.observedAt observationRoot surface) surroundings
  if resolution.info.selectionComplete then return resolution.refmap
  else throw (.adapter (locatorIncomplete resolution))

/-- A map is written when it passes its check and fits. -/
def persistRefmap (snapshotId : String) (refmap : RefMap) :
    Except AppError (Option (String × RefMap)) :=
  refmap.serializeWithSizeCheck.map (fun _ => some (snapshotId, refmap))

/-- **What a command writes**: the snapshot, and its map. -/
def RefCommand.persists (maps : SnapshotMaps) :
    RefCommand → Except AppError (Option (String × RefMap))
  | .snapshot newId options source rawTree => do
    let (_, refmap) ← allocateRefs rawTree .new ⟨options, source, ⟨none, []⟩⟩
    persistRefmap newId refmap
  | .drill snapshotId request rawTree =>
    match maps snapshotId with
    | none => .error (.adapter (.snapshotNotFound snapshotId))
    | some refmap => do
      let (_, refmap) ←
        runFromRef request.rootRefId request.root request.options rawTree refmap
      persistRefmap snapshotId refmap
  | .find newId root surface query selection tree surroundings => do
    match ← findRefmap maps root surface query selection tree surroundings with
    | none => return none
    | some refmap => persistRefmap newId refmap

/-- A command on the maps of a store. -/
def RefCommand.run (maps : SnapshotMaps) (command : RefCommand) : SnapshotMaps :=
  match command.persists maps with
  | .ok (some (snapshotId, refmap)) => Function.update maps snapshotId (some refmap)
  | _ => maps

/-- Commands one after another. -/
def runCommands (maps : SnapshotMaps) (commands : List RefCommand) : SnapshotMaps :=
  commands.foldl RefCommand.run maps

/-- **A safe command**: a search below a ref does not give the name of the ref to a node beside
its other finds, and a drill-down does not give away a name that an entry has from another
map. -/
def RefCommand.Safe (maps : SnapshotMaps) : RefCommand → Prop
  | .snapshot .. => True
  | .drill snapshotId request rawTree => ∀ refmap parent, maps snapshotId = some refmap →
      refmap.get request.root = some parent →
        DrillSafe refmap request.root parent request.options rawTree
  | .find _ (.window _) .. => True
  | .find _ (.ref snapshotId _ root) surface query selection tree surroundings =>
    ∀ refmap entry evaluated, maps snapshotId = some refmap → refmap.get root = some entry →
      evaluateLocatorTree (tree.observedAt (.element entry (some root)) surface) query
          { resolveRequest selection with materialization := .none } = .ok evaluated →
        FindSafe root (hydratedPaths query surroundings 0 evaluated.selected)

/-- Commands each of which is safe where it runs. -/
def SafeCommands : SnapshotMaps → List RefCommand → Prop
  | _, [] => True
  | maps, command :: rest => command.Safe maps ∧ SafeCommands (command.run maps) rest

/-! ## Safe commands keep the owners -/

/-- **The maps of a store are well owned.** -/
def KeepsOwners (maps : SnapshotMaps) : Prop :=
  ∀ snapshotId refmap, maps snapshotId = some refmap → refmap.Numbered ∧ refmap.WellOwned

omit [UnicodeLowercase] in
theorem persistRefmap_eq_ok {snapshotId snapshotId' : String} {refmap refmap' : RefMap}
    (h : persistRefmap snapshotId refmap = .ok (some (snapshotId', refmap'))) :
    refmap' = refmap := by
  obtain ⟨_, -, heq⟩ := Except.map_eq_ok_iff.mp h
  cases heq
  rfl

omit [UnicodeLowercase] [RefMapFormat] in
theorem wellOwned_snapshot {rawTree tree : AccessibilityNode} {options : RefAllocOptions}
    {source : RefAllocSource} {refmap : RefMap}
    (h : allocateRefs rawTree .new ⟨options, source, ⟨none, []⟩⟩ = .ok (tree, refmap)) :
    refmap.Numbered ∧ refmap.WellOwned := by
  have hextends := allocateRefs_extends RefMap.numbered_new h
  refine ⟨hextends.numbered RefMap.numbered_new,
    RefMap.wellOwned_of_rootRef_eq_none (fun refId entry hget => ?_)⟩
  rcases hextends.fresh refId entry hget with hold | ⟨hentry, -⟩
  · cases hold
  · exact hentry.rootRef

omit [RefMapFormat] in
theorem findRefmap_eq_ok {maps : SnapshotMaps} {root : FindRoot} {surface : SnapshotSurface}
    {query : LocatorQuery} {selection : LocatorSelection} {tree : ObservedTree}
    {surroundings : ℕ → Hydration} {refmap : RefMap}
    (h : findRefmap maps root surface query selection tree surroundings = .ok (some refmap)) :
    ∃ observationRoot evaluated entries, root.observationRoot maps = .ok observationRoot
      ∧ evaluateLocatorTree (tree.observedAt observationRoot surface) query
          { resolveRequest selection with materialization := .none } = .ok evaluated
      ∧ RefMap.new.allocateAll entries = .ok refmap
      ∧ entries.map (fun entry => entry.scope.path)
        = hydratedPaths query surroundings 0 evaluated.selected
      ∧ ∀ entry ∈ entries, ∃ node normalized, entry.Continues (refEntryOf node
          (tree.observedAt observationRoot surface).source normalized) := by
  obtain ⟨observationRoot, hroot, h⟩ := Except.bind_eq_ok_iff.mp h
  obtain ⟨resolution, hattempt, h⟩ := Except.bind_eq_ok_iff.mp h
  split_ifs at h
  have hrefmap := Except.pure_eq_ok_iff.mp h
  have hrequest : (resolveRequest selection).materialization ≠ .fullRefMap := by
    unfold resolveRequest
    split_ifs with hcount
    · exact fun heq => by cases heq
    · exact fun heq => by cases heq
  obtain ⟨evaluated, selected, hevaluated, hmatches⟩ :=
    resolveQueryAttempt_refmap hrequest hattempt hrefmap
  obtain ⟨entries, hall, hpaths, hcontinues⟩ := hydrateMatches_allocateAll hmatches
  refine ⟨observationRoot, evaluated, entries, hroot, hevaluated, hall, hpaths,
    fun entry hmem => ?_⟩
  obtain ⟨found, hfound, hentry⟩ := hcontinues entry hmem
  obtain ⟨node, normalized, heq⟩ :=
    (evaluateLocatorTree_unmaterialized hevaluated).2 found hfound
  exact ⟨node, normalized, heq ▸ hentry⟩

omit [BoundsHasher] [UnicodeLowercase] [RefMapFormat] in
theorem loadRefEntry_eq_ok {maps : SnapshotMaps} {snapshotId rootRefId root : String}
    {entry : RefEntry} (h : loadRefEntry maps snapshotId rootRefId root = .ok entry) :
    ∃ refmap, maps snapshotId = some refmap ∧ refmap.get root = some entry := by
  unfold loadRefEntry at h
  cases hmap : maps snapshotId with
  | none =>
    rw [hmap] at h
    cases h
  | some refmap =>
    rw [hmap] at h
    dsimp only at h
    cases hget : refmap.get root with
    | none =>
      rw [hget] at h
      cases h
    | some found =>
      rw [hget] at h
      cases h
      exact ⟨refmap, rfl, hget⟩

omit [RefMapFormat] in
theorem wellOwned_find {maps : SnapshotMaps} {newId : String} {root : FindRoot}
    {surface : SnapshotSurface} {query : LocatorQuery} {selection : LocatorSelection}
    {tree : ObservedTree} {surroundings : ℕ → Hydration} {refmap : RefMap}
    (hsafe : (RefCommand.find newId root surface query selection tree surroundings).Safe maps)
    (h : findRefmap maps root surface query selection tree surroundings = .ok (some refmap)) :
    refmap.Numbered ∧ refmap.WellOwned := by
  obtain ⟨observationRoot, evaluated, entries, hroot, hevaluated, hall, hpaths, hcontinues⟩ :=
    findRefmap_eq_ok h
  refine ⟨RefMap.numbered_allocateAll_new hall, ?_⟩
  cases root with
  | window info =>
    cases hroot
    refine RefMap.wellOwned_of_rootRef_eq_none (fun refId entry hget => ?_)
    obtain ⟨index, -, hindex⟩ := (RefMap.get_allocateAll_new hall).mp hget
    obtain ⟨node, normalized, hentry⟩ := hcontinues entry (List.mem_of_getElem? hindex)
    exact hentry.rootRef
  | ref rootId rootRefId root =>
    obtain ⟨parent, hparent, heq⟩ := Except.map_eq_ok_iff.mp hroot
    cases heq
    obtain ⟨before, hmap, hget⟩ := loadRefEntry_eq_ok hparent
    have hentries : ∀ entry ∈ entries, entry.process = parent.process
        ∧ entry.source = parent.source ∧ entry.scope.rootRef = some root := by
      intro entry hmem
      obtain ⟨node, normalized, hentry⟩ := hcontinues entry hmem
      exact ⟨hentry.process, hentry.source, hentry.rootRef⟩
    refine RefMap.wellOwned_of_findSafe hall hentries ?_
    rw [hpaths]
    exact hsafe before parent evaluated hmap hget hevaluated

/-- **What a safe command writes is well owned.** -/
theorem KeepsOwners.persists {maps : SnapshotMaps} (h : KeepsOwners maps) {command : RefCommand}
    (hsafe : command.Safe maps) {snapshotId : String} {refmap : RefMap}
    (hpersists : command.persists maps = .ok (some (snapshotId, refmap))) :
    refmap.Numbered ∧ refmap.WellOwned := by
  cases command with
  | snapshot newId options source rawTree =>
    obtain ⟨⟨tree, refmap'⟩, hallocate, hwritten⟩ := Except.bind_eq_ok_iff.mp hpersists
    rw [persistRefmap_eq_ok hwritten]
    exact wellOwned_snapshot hallocate
  | drill drilledId request rawTree =>
    cases hmap : maps drilledId with
    | none =>
      simp only [RefCommand.persists, hmap] at hpersists
      cases hpersists
    | some before =>
      simp only [RefCommand.persists, hmap] at hpersists
      obtain ⟨⟨tree, refmap'⟩, hdrill, hwritten⟩ := Except.bind_eq_ok_iff.mp hpersists
      obtain ⟨parent, hparent, hupdate⟩ := runFromRef_eq_ok hdrill
      obtain ⟨hnumbered, howned⟩ := h drilledId before hmap
      rw [persistRefmap_eq_ok hwritten]
      exact howned.drillUpdate hnumbered hparent hupdate (hsafe before parent hmap hparent)
  | find newId root surface query selection tree surroundings =>
    obtain ⟨found, hfound, hwritten⟩ := Except.bind_eq_ok_iff.mp hpersists
    cases found with
    | none => cases hwritten
    | some refmap' =>
      rw [persistRefmap_eq_ok hwritten]
      exact wellOwned_find hsafe hfound

theorem RefCommand.run_eq_some {maps : SnapshotMaps} {command : RefCommand} {snapshotId : String}
    {refmap : RefMap} (h : command.run maps snapshotId = some refmap) :
    command.persists maps = .ok (some (snapshotId, refmap)) ∨ maps snapshotId = some refmap := by
  unfold RefCommand.run at h
  cases hpersists : command.persists maps with
  | error error =>
    rw [hpersists] at h
    exact Or.inr h
  | ok written =>
    cases written with
    | none =>
      rw [hpersists] at h
      exact Or.inr h
    | some written =>
      obtain ⟨writtenId, writtenMap⟩ := written
      rw [hpersists] at h
      dsimp only at h
      by_cases hid : snapshotId = writtenId
      · rw [hid, Function.update_self, Option.some.injEq] at h
        rw [hid, h]
        exact Or.inl rfl
      · rw [Function.update_of_ne hid] at h
        exact Or.inr h

theorem KeepsOwners.run {maps : SnapshotMaps} (h : KeepsOwners maps) {command : RefCommand}
    (hsafe : command.Safe maps) : KeepsOwners (command.run maps) := by
  intro snapshotId refmap hget
  rcases RefCommand.run_eq_some hget with hwritten | hbefore
  · exact h.persists hsafe hwritten
  · exact h snapshotId refmap hbefore

/-- **Safe commands keep the owners**, in every map on the way. -/
theorem KeepsOwners.runCommands {maps : SnapshotMaps} (h : KeepsOwners maps)
    {commands : List RefCommand} (hsafe : SafeCommands maps commands) {before : List RefCommand}
    (hbefore : before <+: commands) : KeepsOwners (runCommands maps before) := by
  induction commands generalizing maps before with
  | nil =>
    obtain rfl := List.prefix_nil.mp hbefore
    exact h
  | cons command rest ih =>
    rcases List.prefix_cons_iff.mp hbefore with rfl | ⟨others, rfl, hothers⟩
    · exact h
    · exact ih (h.run hsafe.1) hsafe.2 hothers

/-- **In a run of safe commands an entry lies under the owner it names**, in every map on the
way, and a removal at a ref takes only what lies under it. -/
theorem runCommands_wellOwned {commands before : List RefCommand}
    (hsafe : SafeCommands (fun _ => none) commands) (hbefore : before <+: commands)
    {snapshotId : String} {refmap : RefMap}
    (hmap : runCommands (fun _ => none) before snapshotId = some refmap) :
    refmap.WellOwned ∧ ∀ root parent refId entry, refmap.get root = some parent →
      refmap.get refId = some entry → (refmap.removeByRootRef root).get refId = none →
        entry.LiesUnder parent := by
  have hnone : KeepsOwners (fun _ => none) := by
    intro snapshotId refmap h
    cases h
  obtain ⟨-, howned⟩ := hnone.runCommands hsafe hbefore snapshotId refmap hmap
  exact ⟨howned, fun root parent refId entry hparent hget hremoved =>
    howned.liesUnder_of_removed hparent hget hremoved⟩

end

/-! ## A list and its buttons

A window is walked down to a list, which gets `@e2`. A search below the list finds its two
buttons. When both are wanted, the second is given `@e2` in the new map. -/

namespace Sample

/-- The buttons. -/
def buttonQuery : LocatorQuery :=
  ⟨⟨some "button", none, none, none, none⟩, none, true, [], none, none⟩

/-- The list, walked from itself. -/
def listTree : ObservedTree :=
  (ObservedTree.fromRoots [.new (element "list" "Entries")
    [.new (element "button" "Open") [] true none,
      .new (element "button" "Delete") [] true none] true none]
    source stats true).toOption.get (by decide)

/-- A button, walked from itself. -/
def lookAt (name : String) : Hydration where
  remaining := .ok ()
  observed := (ObservedTree.fromRoots [.new (element "button" name) [] true none]
    source stats true).mapError .adapter
  deterministicLimit := false

/-- The window is walked. -/
def snapshotWindow : RefCommand :=
  .snapshot "s1" snapshotConfig.options snapshotConfig.source rawWindow

/-- The buttons are searched for, below the list. -/
def findButtons (selection : LocatorSelection) : RefCommand :=
  .find "s2" (.ref "s1" "@e2" "@e2") .window buttonQuery selection listTree
    (fun index => lookAt (if index = 0 then "Open" else "Delete"))

/-- The list is drilled into. -/
def drillList : RefCommand := .drill "s1" ⟨"@e2", "@e2", ⟨false, true, true⟩⟩ rawList

/-- The maps after some commands. -/
def mapsAfter (commands : List RefCommand) : SnapshotMaps :=
  @runCommands noBoundsHash Sample.asciiLowercase mapFormat (fun _ => none) commands

/-- The map of the search for both buttons. -/
def foundButtons : RefMap :=
  (mapsAfter [snapshotWindow, findButtons (.all none)] "s2").get (by decide +kernel)

/-- The entry of the first button. -/
def foundOpen : RefEntry := (foundButtons.get "@e1").get (by decide +kernel)

/-- The entry of the second. -/
def foundDelete : RefEntry := (foundButtons.get "@e2").get (by decide +kernel)

/-- The first button only is searched for, and the list is drilled into. -/
def careful : List RefCommand := [snapshotWindow, findButtons .first, drillList]

/-- The map of the snapshot after that. -/
def carefulMap : RefMap := (mapsAfter careful "s1").get (by decide +kernel)

theorem findButtons_safe :
    @RefCommand.Safe noBoundsHash Sample.asciiLowercase (mapsAfter [snapshotWindow])
      (findButtons .first) := by
  let _ := noBoundsHash
  let _ := Sample.asciiLowercase
  intro refmap entry evaluated hmap hget hevaluated
  have hall : ((mapsAfter [snapshotWindow] "s1").bind (fun refmap => refmap.get "@e2")).all
      (fun entry => (evaluateLocatorTree
          (listTree.observedAt (.element entry (some "@e2")) .window) buttonQuery
          { resolveRequest .first with materialization := .none }).toOption.all
        (fun evaluated => decide ((hydratedPaths buttonQuery
          (fun index => lookAt (if index = 0 then "Open" else "Delete")) 0
          evaluated.selected).length < 2))) = true := by decide +kernel
  rw [hmap, Option.bind_some, hget, Option.all_some, hevaluated] at hall
  exact findSafe_of_length_lt (of_decide_eq_true hall)

theorem drillList_safe :
    @RefCommand.Safe noBoundsHash Sample.asciiLowercase
      (mapsAfter [snapshotWindow, findButtons .first]) drillList := by
  let _ := noBoundsHash
  intro refmap parent hmap hparent
  have hold : mapsAfter [snapshotWindow, findButtons .first] "s1" = some allocatedWindow.2 := by
    decide +kernel
  rw [hold, Option.some.injEq] at hmap
  rw [← hmap]
  exact (@RefMap.anchored_snapshot noBoundsHash _ _ _ _ rfl allocateRefs_rawWindow).drillSafe

end Sample

/-- The map is well owned after the drill-down. -/
theorem runCommands_wellOwned_sample :
    Sample.mapsAfter Sample.careful "s1" = some Sample.carefulMap
      ∧ (Sample.carefulMap.get "@e3").isSome = true
      ∧ Sample.carefulMap.WellOwned
      ∧ ∀ root parent refId entry, Sample.carefulMap.get root = some parent →
        Sample.carefulMap.get refId = some entry →
        (Sample.carefulMap.removeByRootRef root).get refId = none → entry.LiesUnder parent := by
  have hmap : Sample.mapsAfter Sample.careful "s1" = some Sample.carefulMap :=
    (Option.some_get _).symm
  exact ⟨hmap, by decide,
    @runCommands_wellOwned Sample.noBoundsHash Sample.asciiLowercase Sample.mapFormat
      Sample.careful Sample.careful
      ⟨trivial, Sample.findButtons_safe, Sample.drillList_safe, trivial⟩ List.prefix_rfl _ _ hmap⟩

/-- The first button, found below the list, does not lie under the second, which has the name
of the list – and it goes where the second is drilled into. -/
theorem runCommands_wellOwned_failing :
    Sample.mapsAfter [Sample.snapshotWindow, Sample.findButtons (.all none)] "s2"
        = some Sample.foundButtons
      ∧ Sample.foundButtons.get "@e1" = some Sample.foundOpen
      ∧ Sample.foundButtons.get "@e2" = some Sample.foundDelete
      ∧ Sample.foundOpen.scope.rootRef = some "@e2"
      ∧ ¬ Sample.foundOpen.LiesUnder Sample.foundDelete
      ∧ (Sample.foundButtons.removeByRootRef "@e2").get "@e1" = none
      ∧ ¬ Sample.foundButtons.WellOwned := by
  have hopen : Sample.foundButtons.get "@e1" = some Sample.foundOpen := (Option.some_get _).symm
  have hdelete : Sample.foundButtons.get "@e2" = some Sample.foundDelete :=
    (Option.some_get _).symm
  have hroot : Sample.foundOpen.scope.rootRef = some "@e2" := by decide
  have hunder : ¬ Sample.foundOpen.LiesUnder Sample.foundDelete := by
    rintro ⟨-, -, hpath⟩
    exact absurd hpath (by decide)
  exact ⟨(Option.some_get _).symm, hopen, hdelete, hroot, hunder, by decide,
    fun howned => hunder (howned _ _ _ _ hopen hroot hdelete)⟩

end AgentDesktop
