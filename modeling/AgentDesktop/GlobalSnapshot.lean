import AgentDesktop.GlobalInventory
import AgentDesktop.Util.Ends
import AgentDesktop.Util.Traced

/-!
# The inventory of all windows is a snapshot

What processes start, end and reuse numbers between the reads: the windows that an inventory lists
have owners of one generation before and after, and the instance of each window is of it. The
focused window is one of the application in front. There is one at most unless the window server
has listed one number twice, and the application has reported its focus by a title.
-/

namespace AgentDesktop

open OwnerSnapshotView

/-! ## What a run has read

The events of a capture are a list, and what they were read for has to be recovered from it: the
owners before, the checks of the processes, the application in front, the owners after, and the
checks again. A run is these parts with their order, and its events determine it. -/

/-- **What a capture reads**: the owners twice, the records, and the application in front. -/
structure InventoryRun (S : Type) where
  before : S
  records : List InventoryRecord
  /-- What the processes of the instances were found to be before. -/
  checks : List (ℤ × Option MacProcessIdentity)
  /-- The application in front, and what was read of it. -/
  focus : Option (ℤ × WindowAxState)
  after : S
  /-- What the processes of the instances were found to be after. -/
  rechecks : List (ℤ × Option MacProcessIdentity)

namespace InventoryRun

variable {S : Type} (run : InventoryRun S)

/-- What is recorded of the processes of the instances. -/
def checkEvents (checks : List (ℤ × Option MacProcessIdentity)) : List (InventoryEvent S) :=
  checks.map (fun check => .captured check.1 check.2)

/-- What is recorded of the application in front. -/
def frontEvents (focus : Option (ℤ × WindowAxState)) : List (InventoryEvent S) :=
  (focus.map (fun front => InventoryEvent.front front.1 front.2)).toList

/-- What is recorded of a capture. -/
def events : List (InventoryEvent S) :=
  .owners run.before :: .records run.records ::
    (checkEvents run.checks
      ++ (frontEvents run.focus ++ .owners run.after :: checkEvents run.rechecks))

/-- The records that are listed. -/
def listed : List InventoryRecord := run.records.filter (fun record => 0 < record.windowNumber)

/-- **A focus that is reported by a title is one window**: if one record of the application in
front has the title, no other is listed under its number. -/
def TitleIsOneWindow : Prop :=
  ∀ pid state title record, run.focus = some (pid, state) → state.focused = some (title, none) →
    titleMatches run.listed pid title = [record] →
      run.listed.countP (fun other => some other.key == some record.key) ≤ 1

/-- Checks that something else follows are determined by what is recorded. -/
theorem checkEvents_append_inj {checks checks' : List (ℤ × Option MacProcessIdentity)}
    {rest rest' : List (InventoryEvent S)}
    (hrest : ∀ pid identity, rest.head? ≠ some (.captured pid identity))
    (hrest' : ∀ pid identity, rest'.head? ≠ some (.captured pid identity))
    (h : checkEvents checks ++ rest = checkEvents checks' ++ rest') :
    checks = checks' ∧ rest = rest' := by
  induction checks generalizing checks' with
  | nil =>
    cases checks' with
    | nil => exact ⟨rfl, h⟩
    | cons check checks' => exact absurd (congrArg List.head? h) (hrest check.1 check.2)
  | cons check checks ih =>
    cases checks' with
    | nil => exact absurd (congrArg List.head? h.symm) (hrest' check.1 check.2)
    | cons check' checks' =>
      obtain ⟨hcheck, htail⟩ := List.cons.inj h
      obtain ⟨hpid, hidentity⟩ := InventoryEvent.captured.inj hcheck
      obtain ⟨rfl, rfl⟩ := ih htail
      exact ⟨congrArg (· :: checks) (Prod.ext hpid hidentity), rfl⟩

theorem frontEvents_append_inj {focus focus' : Option (ℤ × WindowAxState)} {after after' : S}
    {rest rest' : List (InventoryEvent S)}
    (h : frontEvents focus ++ .owners after :: rest = frontEvents focus' ++ .owners after' :: rest') :
    focus = focus' ∧ after = after' ∧ rest = rest' := by
  cases focus with
  | none =>
    cases focus' with
    | none =>
      obtain ⟨hafter, hrest⟩ := List.cons.inj h
      exact ⟨rfl, InventoryEvent.owners.inj hafter, hrest⟩
    | some front' => cases (List.cons.inj h).1
  | some front =>
    cases focus' with
    | none => cases (List.cons.inj h).1
    | some front' =>
      obtain ⟨hfront, htail⟩ := List.cons.inj h
      obtain ⟨hafter, hrest⟩ := List.cons.inj htail
      obtain ⟨hpid, hstate⟩ := InventoryEvent.front.inj hfront
      exact ⟨congrArg some (Prod.ext hpid hstate), InventoryEvent.owners.inj hafter, hrest⟩

/-- **What is recorded determines the run**: the checks before end where the application in front or
the owners after are recorded, and the rest are the checks after. -/
theorem events_injective {run run' : InventoryRun S} (h : run.events = run'.events) : run = run' := by
  -- what follows the first checks is no check, and so they end there
  have hother : ∀ (focus : Option (ℤ × WindowAxState)) (after : S) rest pid identity,
      (frontEvents focus ++ InventoryEvent.owners after :: rest).head?
        ≠ some (.captured pid identity) := by
    intro focus after rest pid identity
    cases focus <;> exact fun hhead => by cases hhead
  obtain ⟨hbefore, h⟩ := List.cons.inj h
  obtain ⟨hrecords, h⟩ := List.cons.inj h
  obtain ⟨hchecks, h⟩ := checkEvents_append_inj (hother _ _ _) (hother _ _ _) h
  obtain ⟨hfocus, hafter, h⟩ := frontEvents_append_inj h
  have hnothing : ∀ pid identity, ([] : List (InventoryEvent S)).head?
      ≠ some (.captured pid identity) := fun _ _ hnone => by cases hnone
  have hrechecks : run.rechecks = run'.rechecks :=
    (checkEvents_append_inj hnothing hnothing (congrArg (· ++ []) h)).1
  cases run
  cases run'
  obtain rfl := InventoryEvent.owners.inj hbefore
  obtain rfl := InventoryEvent.records.inj hrecords
  subst hchecks hfocus hafter hrechecks
  rfl

end InventoryRun

/-- **An instance is of a generation**: it was started when the owner was launched, or it has been
seen to be alive. -/
def OwnerGeneration.Admits {σ S : Type} (world : InventoryWorld σ S) (pid : ℤ) (token : String)
    (seen : List (ℤ × Option MacProcessIdentity)) : OwnerGeneration → Prop
  | .launchTime time => world.instanceMatchesLaunchTime pid token time = .ok true
  | .liveProcess => ∃ identity, parseToken pid token = .ok identity
      ∧ (identity.pid, some identity) ∈ seen

/-- **A record is of the generation of its owner** in a snapshot. -/
def InventoryRecord.MatchesOwner {σ S : Type} [OwnerSnapshotView S] (world : InventoryWorld σ S)
    (owners : S) (seen : List (ℤ × Option MacProcessIdentity)) (record : InventoryRecord) : Prop :=
  ∃ token generation, record.processInstance = some token
    ∧ OwnerSnapshotView.generation owners record.pid = some generation
    ∧ generation.Admits world record.pid token seen

/-- **A consistent inventory.** -/
structure ConsistentInventory {σ : Type} (world : InventoryWorld σ WindowOwnerSnapshot)
    (run : InventoryRun WindowOwnerSnapshot) (windows : List WindowInfo) : Prop where
  /-- The owners are the same before and after. -/
  agree : run.before = run.after
  /-- Every window is one of a record, which is of the generation of its owner in both. -/
  owned : ∀ window ∈ windows, ∃ record ∈ run.records,
    (∃ isFocused minimized, record.intoWindowInfo isFocused minimized true = .ok window)
      ∧ record.MatchesOwner world run.before run.checks
      ∧ record.MatchesOwner world run.after run.rechecks
  /-- One window has the focus at most. -/
  single : (windows.filter (fun window => window.state.isFocused)).length ≤ 1
  /-- It is one of the application in front. -/
  frontmost : ∀ window ∈ windows, window.state.isFocused = true →
    OwnerSnapshotView.frontmostPid run.before = some (window.pid.toNat : ℤ)

/-! ## Owners -/

theorem eq_of_sameLaunchTime {time time' : Option F64} (h : sameLaunchTime time time' = true) :
    time = time' := by
  cases time with
  | none =>
    cases time' with
    | none => rfl
    | some time' => cases h
  | some time =>
    cases time' with
    | none => cases h
    | some time' =>
      cases time with
      | notFinite => cases h
      | finite value =>
        cases time' with
        | notFinite => cases h
        | finite value' => rw [show value = value' from of_decide_eq_true h]

theorem WindowOwner.eq_of_same {owner owner' : WindowOwner} (h : owner.same owner' = true) :
    owner = owner' := by
  unfold WindowOwner.same at h
  simp only [Bool.and_eq_true, beq_iff_eq] at h
  obtain ⟨⟨⟨⟨hpid, hname⟩, hbundle⟩, htime⟩, hpolicy⟩ := h
  have htime' := eq_of_sameLaunchTime htime
  cases owner
  cases owner'
  subst hpid hname hbundle htime' hpolicy
  rfl

theorem eq_of_isEqv_same {owners owners' : List WindowOwner}
    (h : owners.isEqv owners' WindowOwner.same = true) : owners = owners' := by
  induction owners generalizing owners' with
  | nil =>
    cases owners' with
    | nil => rfl
    | cons owner' owners' => cases h
  | cons owner owners ih =>
    cases owners' with
    | nil => cases h
    | cons owner' owners' =>
      have hboth : (owner.same owner' && owners.isEqv owners' WindowOwner.same) = true := h
      rw [Bool.and_eq_true] at hboth
      rw [WindowOwner.eq_of_same hboth.1, ih hboth.2]

/-- **Snapshots of one generation are one snapshot.** -/
theorem WindowOwnerSnapshot.eq_of_sameGeneration {before after : WindowOwnerSnapshot}
    (h : sameGeneration before after = true) : before = after := by
  have hboth : (before.owners.isEqv after.owners WindowOwner.same
      && before.frontmostPid == after.frontmostPid) = true := h
  rw [Bool.and_eq_true, beq_iff_eq] at hboth
  have howners := eq_of_isEqv_same hboth.1
  cases before
  cases after
  obtain ⟨-, hfront⟩ := hboth
  subst howners hfront
  rfl

/-! ## The instances -/

theorem mem_of_uniqueInstancesFrom {records : List InventoryRecord}
    {known instances : List (ℤ × String)} (h : uniqueInstancesFrom records known = .ok instances) :
    (∀ entry ∈ known, entry ∈ instances) ∧ ∀ record ∈ records, ∃ token,
      record.processInstance = some token ∧ (record.pid, token) ∈ instances := by
  induction records generalizing known with
  | nil =>
    rw [← Except.ok.inj h]
    exact ⟨fun _ hentry => hentry, fun _ hrecord => absurd hrecord List.not_mem_nil⟩
  | cons record records ih =>
    unfold uniqueInstancesFrom at h
    cases htoken : record.processInstance.filter (fun token => !token.isEmpty) with
    | none =>
      rw [htoken] at h
      cases h
    | some token =>
      rw [htoken] at h
      have hinstance : record.processInstance = some token := (Option.filter_eq_some_iff.mp htoken).1
      dsimp only at h
      cases hknown : known.lookup record.pid with
      | none =>
        rw [hknown] at h
        have hrest := ih h
        have hhere : (record.pid, token) ∈ instances := hrest.1 _ List.mem_cons_self
        refine ⟨fun entry hentry => hrest.1 entry (List.mem_cons_of_mem _ hentry), ?_⟩
        exact List.forall_mem_cons.mpr ⟨⟨token, hinstance, hhere⟩, hrest.2⟩
      | some token' =>
        rw [hknown] at h
        dsimp only at h
        split_ifs at h with hsame
        have hrest := ih h
        obtain ⟨front, back, hsplit, -⟩ := List.lookup_eq_some_iff.mp hknown
        have hmem : (record.pid, token) ∈ known := by
          rw [hsplit, ← hsame]
          exact List.mem_append_right _ List.mem_cons_self
        exact ⟨hrest.1, List.forall_mem_cons.mpr ⟨⟨token, hinstance, hrest.1 _ hmem⟩, hrest.2⟩⟩

theorem mem_of_uniqueProcessInstances {records : List InventoryRecord}
    {instances : List (ℤ × String)} (h : uniqueProcessInstances records = .ok instances) :
    ∀ record ∈ records, ∃ token, record.processInstance = some token
      ∧ (record.pid, token) ∈ instances := by
  unfold uniqueProcessInstances at h
  cases hfrom : uniqueInstancesFrom records [] with
  | error error =>
    rw [hfrom] at h
    cases h
  | ok found =>
    rw [hfrom] at h
    intro record hrecord
    obtain ⟨token, htoken, hmem⟩ := (mem_of_uniqueInstancesFrom hfrom).2 record hrecord
    rw [← Except.ok.inj h]
    exact ⟨token, htoken, (sortByKey_perm Prod.fst found).mem_iff.mpr hmem⟩

/-! ## The list of windows -/

theorem toNat_ofNat_of_pid {pid : ℤ} (hpos : 0 < pid) (hle : pid ≤ i32Max) :
    ((UInt32.ofNat pid.toNat).toNat : ℤ) = pid := by
  have hsmall : pid.toNat < 2 ^ 32 := by
    unfold i32Max at hle
    omega
  rw [UInt32.toNat_ofNat_of_lt' hsmall]
  omega

namespace InventoryRecord

variable (record : InventoryRecord)

/-- The window of a record. -/
def windowInfo (isFocused : Bool) (minimized : Option Bool) : WindowInfo where
  id := "w-" ++ toString record.windowNumber
  title := record.title.getD record.appName
  app := record.appName
  pid := UInt32.ofNat record.pid.toNat
  processInstance := record.processInstance
  bounds := some record.bounds
  state := ⟨isFocused, true, minimized, some record.visible⟩

/-- **The window of a record is always there**: its process has a positive number. -/
theorem intoWindowInfo_eq (isFocused : Bool) (minimized : Option Bool) :
    record.intoWindowInfo isFocused minimized true = .ok (record.windowInfo isFocused minimized) := by
  unfold intoWindowInfo fromPidT
  rw [if_pos (le_of_lt record.pid_pos)]
  rfl

end InventoryRecord

section

variable (frontmostPid : Option ℤ) (focusState : Option WindowAxState)
  (focusedWindow : Option (ℤ × ℤ))

/-- The window that is listed of a record. -/
def windowOf (record : InventoryRecord) : WindowInfo :=
  record.windowInfo (some record.key == focusedWindow)
    (minimizedOf record frontmostPid focusState)

/-- **What is listed**: all windows, or those with the focus. -/
theorem listedWindows_eq (focusedOnly : Bool) (records : List InventoryRecord) :
    listedWindows focusedOnly frontmostPid focusState focusedWindow records
      = .ok ((records.filter (fun record => !(focusedOnly && !(some record.key == focusedWindow)))).map
          (windowOf frontmostPid focusState focusedWindow)) := by
  induction records with
  | nil => rfl
  | cons record records ih =>
    unfold listedWindows
    cases hskip : focusedOnly && !(some record.key == focusedWindow) with
    | true =>
      rw [List.filter_cons_of_neg (by rw [hskip]; decide)]
      dsimp only
      rw [if_pos hskip]
      exact ih
    | false =>
      rw [List.filter_cons_of_pos (by rw [hskip]; rfl), List.map_cons]
      dsimp only
      rw [hskip, if_neg Bool.false_ne_true, record.intoWindowInfo_eq, ih]
      rfl

/-- **The windows with the focus are those of the whole list.** -/
theorem listedWindows_focusedOnly (records : List InventoryRecord) :
    listedWindows true frontmostPid focusState focusedWindow records
      = (listedWindows false frontmostPid focusState focusedWindow records).map
          (fun windows => windows.filter (fun window => window.state.isFocused)) := by
  rw [listedWindows_eq, listedWindows_eq]
  refine congrArg Except.ok ?_
  show _ = List.filter (fun window : WindowInfo => window.state.isFocused) (List.map _ _)
  rw [List.filter_map, List.filter_filter]
  refine congrArg (List.map _) (List.filter_congr (fun record _ => ?_))
  show (!(true && !(some record.key == focusedWindow)))
    = ((some record.key == focusedWindow) && !(false && !(some record.key == focusedWindow)))
  cases some record.key == focusedWindow
  · rfl
  · rfl

theorem length_filter_isFocused (focusedOnly : Bool) (records : List InventoryRecord) :
    (((records.filter (fun record => !(focusedOnly && !(some record.key == focusedWindow)))).map
      (windowOf frontmostPid focusState focusedWindow)).filter
        (fun window => window.state.isFocused)).length
      = records.countP (fun record => some record.key == focusedWindow) := by
  rw [List.filter_map, List.length_map, List.filter_filter, List.countP_eq_length_filter]
  refine congrArg List.length (List.filter_congr (fun record _ => ?_))
  show ((some record.key == focusedWindow) && !(focusedOnly && !(some record.key == focusedWindow)))
    = (some record.key == focusedWindow)
  cases some record.key == focusedWindow
  · rfl
  · cases focusedOnly <;> rfl

end

/-! ## The focused window

The application in front reports its focus by a number or by a title. A number is that of one
window; a title may be that of several records, and then one listing shows several windows with the
focus. -/

section

variable {records : List InventoryRecord} {frontmostPid owner : Option ℤ}
  {state : Option WindowAxState} {focusedWindow : Option (ℤ × ℤ)}

theorem joinFocus_of_windows_nil
    (hjoin : matchingFocusWindows records frontmostPid state = .windows [])
    (h : joinFocus records frontmostPid owner state = .ok focusedWindow) : focusedWindow = none := by
  unfold joinFocus at h
  rw [hjoin] at h
  dsimp only at h
  split_ifs at h
  exact (Except.ok.inj h).symm

theorem joinFocus_of_windows {windows : List InventoryRecord} (howner : owner.isSome = true)
    (hreported : (state.bind WindowAxState.focused).isSome = true)
    (hjoin : matchingFocusWindows records frontmostPid state
      = .windows (windows.map InventoryRecord.key))
    (h : joinFocus records frontmostPid owner state = .ok focusedWindow) :
    ∃ record, windows = [record] ∧ focusedWindow = some record.key := by
  unfold joinFocus at h
  rw [hjoin, howner, hreported] at h
  dsimp only at h
  split_ifs at h with hlength
  have hone : (windows.map InventoryRecord.key).length = 1 := by
    by_contra hne
    exact hlength (bne_iff_ne.mpr hne)
  rw [List.length_map] at hone
  obtain ⟨record, rfl⟩ := List.length_eq_one_iff.mp hone
  exact ⟨record, rfl, (Except.ok.inj h).symm⟩

theorem countP_none (records : List InventoryRecord) :
    records.countP (fun record => some record.key == (none : Option (ℤ × ℤ))) ≤ 1 := by
  have hcount : records.countP (fun record => some record.key == (none : Option (ℤ × ℤ))) = 0 :=
    List.countP_eq_zero.mpr (fun _ _ => Bool.false_ne_true)
  rw [hcount]
  exact Nat.zero_le 1

theorem countP_of_numberMatches {pid number : ℤ}
    {record : InventoryRecord} (h : numberMatches records pid number = [record]) :
    records.countP (fun other => some other.key == some record.key) = 1 := by
  have hrecord : record ∈ numberMatches records pid number := by
    rw [h]
    exact List.mem_singleton_self record
  have hkey := (List.mem_filter.mp hrecord).2
  rw [Bool.and_eq_true, beq_iff_eq, beq_iff_eq] at hkey
  have hcount : records.countP (fun other => some other.key == some record.key)
      = (numberMatches records pid number).length := by
    unfold numberMatches
    rw [List.countP_eq_length_filter]
    refine congrArg List.length (List.filter_congr (fun other _ => ?_))
    rw [Bool.eq_iff_iff]
    simp only [InventoryRecord.key, beq_iff_eq, Option.some.injEq, Prod.mk.injEq, Bool.and_eq_true,
      hkey.1, hkey.2]
  rw [hcount, h]
  rfl

/-- **When one window has the focus at most**: when the focus is joined to a window, by its number
or by a title that is the one of one window. -/
theorem countP_focusedWindow_iff (hstate : state.isSome = true → owner.isSome = true)
    (h : joinFocus records frontmostPid owner state = .ok focusedWindow) :
    records.countP (fun record => some record.key == focusedWindow) ≤ 1
      ↔ ∀ pid title record, frontmostPid = some pid →
          state.bind WindowAxState.focused = some (title, none) →
            titleMatches records pid title = [record] →
              records.countP (fun other => some other.key == some record.key) ≤ 1 := by
  have hreport : ∀ focus, state.bind WindowAxState.focused = some focus →
      (state.bind WindowAxState.focused).isSome = true ∧ owner.isSome = true := by
    intro focus hfocus
    rw [hfocus]
    refine ⟨rfl, hstate ?_⟩
    cases state with
    | none => cases hfocus
    | some state => rfl
  cases frontmostPid with
  | none =>
    obtain rfl := joinFocus_of_windows_nil rfl h
    exact ⟨fun _ pid title record hsome => (by cases hsome), fun _ => countP_none records⟩
  | some pid =>
    cases hfocus : state.bind WindowAxState.focused with
    | none =>
      have hjoin : matchingFocusWindows records (some pid) state = .windows [] := by
        unfold matchingFocusWindows
        rw [hfocus]
      obtain rfl := joinFocus_of_windows_nil hjoin h
      exact ⟨fun _ pid title record _ hsome => (by cases hsome), fun _ => countP_none records⟩
    | some focus =>
      obtain ⟨title, number⟩ := focus
      obtain ⟨hreported, howner⟩ := hreport _ hfocus
      cases number with
      | some number =>
        have hjoin : matchingFocusWindows records (some pid) state
            = .windows ((numberMatches records pid number).map InventoryRecord.key) := by
          unfold matchingFocusWindows
          rw [hfocus]
        obtain ⟨record, hrecord, rfl⟩ := joinFocus_of_windows howner hreported hjoin h
        refine ⟨fun _ pid' title' record' _ hsome => (by cases hsome), fun _ => ?_⟩
        rw [countP_of_numberMatches hrecord]
      | none =>
        have hjoin : matchingFocusWindows records (some pid) state
            = if 1 < ((titleMatches records pid title).map InventoryRecord.key).length
              then .titleAmbiguous
              else .windows ((titleMatches records pid title).map InventoryRecord.key) := by
          unfold matchingFocusWindows
          rw [hfocus]
        by_cases hmany : 1 < ((titleMatches records pid title).map InventoryRecord.key).length
        · -- Several windows have the title: none of them gets the focus.
          rw [if_pos hmany] at hjoin
          have hnone : focusedWindow = none := by
            unfold joinFocus at h
            rw [hjoin] at h
            exact (Except.ok.inj h).symm
          subst hnone
          refine ⟨fun _ pid' title' record' hpid hsome hone => ?_, fun _ => countP_none records⟩
          obtain rfl := Option.some.inj hpid
          obtain rfl := (Prod.mk.inj (Option.some.inj hsome)).1
          rw [hone] at hmany
          exact absurd hmany (lt_irrefl 1)
        · rw [if_neg hmany] at hjoin
          obtain ⟨record, hrecord, rfl⟩ := joinFocus_of_windows howner hreported hjoin h
          refine ⟨fun hcount pid' title' record' hpid hsome hone => ?_, fun hall => ?_⟩
          · obtain rfl := Option.some.inj hpid
            obtain rfl := (Prod.mk.inj (Option.some.inj hsome)).1
            rw [hrecord] at hone
            obtain rfl := (List.cons.inj hone).1
            exact hcount
          · exact hall pid title record rfl rfl hrecord

theorem pid_of_mem_map_filter {pid : ℤ} {p : InventoryRecord → Bool} {key : ℤ × ℤ}
    (hp : ∀ record, p record = true → record.pid = pid)
    (hkey : key ∈ (records.filter p).map InventoryRecord.key) : key.1 = pid := by
  obtain ⟨record, hrecord, rfl⟩ := List.mem_map.mp hkey
  exact hp record (List.mem_filter.mp hrecord).2

/-- **What is joined to the focus is of the application in front.** -/
theorem pid_of_matchingFocusWindows {windows : List (ℤ × ℤ)} {key : ℤ × ℤ}
    (h : matchingFocusWindows records frontmostPid state = .windows windows)
    (hkey : key ∈ windows) : frontmostPid = some key.1 := by
  unfold matchingFocusWindows at h
  cases frontmostPid with
  | none =>
    rw [← FocusJoin.windows.inj h] at hkey
    exact absurd hkey List.not_mem_nil
  | some pid =>
    refine congrArg some (Eq.symm ?_)
    cases hfocus : state.bind WindowAxState.focused with
    | none =>
      rw [hfocus] at h
      rw [← FocusJoin.windows.inj h] at hkey
      exact absurd hkey List.not_mem_nil
    | some focus =>
      obtain ⟨title, number⟩ := focus
      rw [hfocus] at h
      cases number with
      | some number =>
        rw [← FocusJoin.windows.inj h] at hkey
        refine pid_of_mem_map_filter (fun record hrecord => ?_) hkey
        exact beq_iff_eq.mp (Bool.and_eq_true_iff.mp hrecord).1
      | none =>
        dsimp only at h
        split_ifs at h
        rw [← FocusJoin.windows.inj h] at hkey
        refine pid_of_mem_map_filter (fun record hrecord => ?_) hkey
        exact beq_iff_eq.mp (Bool.and_eq_true_iff.mp hrecord).1

theorem frontmostPid_of_joinFocus {key : ℤ × ℤ}
    (h : joinFocus records frontmostPid owner state = .ok (some key)) :
    frontmostPid = some key.1 := by
  unfold joinFocus at h
  cases hjoin : matchingFocusWindows records frontmostPid state with
  | titleAmbiguous =>
    rw [hjoin] at h
    cases Except.ok.inj h
  | windows windows =>
    rw [hjoin] at h
    dsimp only at h
    split_ifs at h
    exact pid_of_matchingFocusWindows hjoin (List.mem_of_head? (Except.ok.inj h))

end

/-! ## The run -/

namespace InventoryWorld

variable {σ S : Type} (world : InventoryWorld σ S)

theorem quiet_captureIdentity {Ev : Type} (pid : ℤ) :
    (world.captureIdentity pid : Prog σ Ev AdapterError _).Quiet := by
  unfold captureIdentity
  split_ifs
  · exact Prog.Quiet.fail _
  · exact (Prog.Quiet.call _).bind (fun _ => Prog.Quiet.pure _)

theorem matchesGeneration_traced (pid : ℤ) (token : String) (generation : OwnerGeneration) :
    (world.matchesGeneration pid token generation).Traced (fun matched events =>
      ∃ seen, events = InventoryRun.checkEvents seen
        ∧ (matched = true → generation.Admits world pid token seen)) := by
  cases generation with
  | launchTime time =>
    refine Prog.Traced.ofExcept (fun matched hmatched => ⟨[], rfl, fun htrue => ?_⟩)
    rw [htrue] at hmatched
    exact hmatched
  | liveProcess =>
    refine Prog.Traced.bind
      (Q := fun expected before => parseToken pid token = .ok expected ∧ before = [])
      (Prog.Traced.ofExcept (fun expected hexpected => ⟨hexpected, rfl⟩))
      (fun expected before hbefore => ?_)
    rw [hbefore.2]
    refine Prog.Traced.quiet_bind (world.quiet_captureIdentity expected.pid) (fun current => ?_)
    refine Prog.Traced.emit_bind (Prog.Traced.pure ⟨[(expected.pid, current)], rfl, fun htrue => ?_⟩)
    refine ⟨expected, hbefore.1, ?_⟩
    rw [← beq_iff_eq.mp htrue]
    exact List.mem_cons_self

theorem admits_mono {pid : ℤ} {token : String} {seen seen' : List (ℤ × Option MacProcessIdentity)}
    {generation : OwnerGeneration} (hseen : ∀ check ∈ seen, check ∈ seen')
    (h : generation.Admits world pid token seen) : generation.Admits world pid token seen' := by
  cases generation with
  | launchTime time => exact h
  | liveProcess =>
    obtain ⟨identity, hidentity, hmem⟩ := h
    exact ⟨identity, hidentity, hseen _ hmem⟩

variable [OwnerSnapshotView S]

/-- **The loop over the instances**: each is of the generation of its owner. -/
theorem validateInstances_traced (owners : S) (instances : List (ℤ × String)) :
    (world.validateInstances owners instances).Traced (fun _ events =>
      ∃ seen, events = InventoryRun.checkEvents seen
        ∧ ∀ entry ∈ instances, ∃ generation,
          OwnerSnapshotView.generation owners entry.1 = some generation
            ∧ generation.Admits world entry.1 entry.2 seen) := by
  induction instances with
  | nil => exact Prog.Traced.pure ⟨[], rfl, fun _ hentry => absurd hentry List.not_mem_nil⟩
  | cons entry instances ih =>
    obtain ⟨pid, token⟩ := entry
    unfold validateInstances
    cases hgeneration : OwnerSnapshotView.generation owners pid with
    | none => exact Prog.Traced.fail _
    | some generation =>
      refine Prog.Traced.bind (world.matchesGeneration_traced pid token generation)
        (fun matched before hmatched => ?_)
      cases matched with
      | false => exact Prog.Traced.fail _
      | true =>
        obtain ⟨first, rfl, hmatched⟩ := hmatched
        refine Prog.Traced.mono ih (fun _ events hrest => ?_)
        obtain ⟨seen, rfl, hrest⟩ := hrest
        refine ⟨first ++ seen, List.map_append.symm, List.forall_mem_cons.mpr ⟨?_, ?_⟩⟩
        · exact ⟨generation, hgeneration, world.admits_mono
            (fun _ hcheck => List.mem_append_left _ hcheck) (hmatched rfl)⟩
        · intro entry hentry
          obtain ⟨generation', hgeneration', hadmits⟩ := hrest entry hentry
          exact ⟨generation', hgeneration', world.admits_mono
            (fun _ hcheck => List.mem_append_right _ hcheck) hadmits⟩

/-- **Every record is of the generation of its owner.** -/
theorem validateRecordGenerations_traced (records : List InventoryRecord) (owners : S) :
    (world.validateRecordGenerations records owners).Traced (fun _ events =>
      ∃ seen, events = InventoryRun.checkEvents seen
        ∧ ∀ record ∈ records, record.MatchesOwner world owners seen) := by
  refine Prog.Traced.bind
    (Q := fun instances before => uniqueProcessInstances records = .ok instances ∧ before = [])
    (Prog.Traced.ofExcept (fun instances hinstances => ⟨hinstances, rfl⟩))
    (fun instances before hbefore => ?_)
  rw [hbefore.2]
  refine Prog.Traced.mono (world.validateInstances_traced owners instances) (fun _ events hall => ?_)
  obtain ⟨seen, hevents, hall⟩ := hall
  refine ⟨seen, hevents, fun record hrecord => ?_⟩
  obtain ⟨token, htoken, hmem⟩ := mem_of_uniqueProcessInstances hbefore.1 record hrecord
  obtain ⟨generation, hgeneration, hadmits⟩ := hall _ hmem
  exact ⟨token, generation, htoken, hgeneration, hadmits⟩

omit [OwnerSnapshotView S] in
theorem readFocus_traced (readFrontmost : ℤ → InventoryProg σ S WindowAxState)
    (hquiet : ∀ pid, (readFrontmost pid).Quiet) (owner : Option ℤ) :
    (readFocus readFrontmost owner).Traced (fun state events =>
      ∃ focus, events = InventoryRun.frontEvents focus ∧ focus.map Prod.fst = owner
        ∧ focus.map Prod.snd = state) := by
  cases owner with
  | none => exact Prog.Traced.pure ⟨none, rfl, rfl, rfl⟩
  | some pid =>
    refine Prog.Traced.quiet_bind ((hquiet pid).mapError frontmostReadError) (fun state => ?_)
    exact Prog.Traced.emit_bind (Prog.Traced.pure ⟨some (pid, state), rfl, rfl, rfl⟩)

/-- **What is known of the windows that are assembled.** -/
structure Assembled (owners : S) (records : List InventoryRecord) (focusedOnly : Bool)
    (checks : List (ℤ × Option MacProcessIdentity)) (focus : Option (ℤ × WindowAxState))
    (focusedWindow : Option (ℤ × ℤ)) (windows : List WindowInfo) : Prop where
  /-- The records are of the generations of their owners. -/
  owned : ∀ record ∈ records, record.MatchesOwner world owners checks
  /-- The application in front is read if it has a window. -/
  read : focus.map Prod.fst = frontmostWindowOwner records (frontmostPid owners)
  /-- The focus is joined to a window. -/
  joined : joinFocus records (frontmostPid owners)
    (frontmostWindowOwner records (frontmostPid owners)) (focus.map Prod.snd) = .ok focusedWindow
  /-- The windows are listed. -/
  listed : listedWindows focusedOnly (frontmostPid owners) (focus.map Prod.snd) focusedWindow records
    = .ok windows

theorem assembleGlobalWindows_traced (records : List InventoryRecord) (owners : S)
    (focusedOnly : Bool) (readFrontmost : ℤ → InventoryProg σ S WindowAxState)
    (hquiet : ∀ pid, (readFrontmost pid).Quiet) :
    (world.assembleGlobalWindows records owners focusedOnly readFrontmost).Traced
      (fun windows events => ∃ checks focus focusedWindow,
        events = InventoryRun.checkEvents checks ++ InventoryRun.frontEvents focus
          ∧ world.Assembled owners (records.filter (fun record => 0 < record.windowNumber))
            focusedOnly checks focus focusedWindow windows) := by
  refine Prog.Traced.bind (world.validateRecordGenerations_traced _ owners)
    (fun _ _ howned => ?_)
  obtain ⟨checks, rfl, howned⟩ := howned
  refine Prog.Traced.bind (readFocus_traced readFrontmost hquiet _) (fun state later hread => ?_)
  obtain ⟨focus, rfl, hread, rfl⟩ := hread
  refine Prog.Traced.bind (Q := fun focusedWindow before => joinFocus _ (frontmostPid owners)
      (frontmostWindowOwner _ (frontmostPid owners)) (focus.map Prod.snd) = .ok focusedWindow
        ∧ before = [])
    (Prog.Traced.ofExcept (fun focusedWindow hjoined => ⟨hjoined, rfl⟩))
    (fun focusedWindow before hjoined => ?_)
  refine Prog.Traced.ofExcept (fun windows hlisted => ?_)
  refine ⟨checks, focus, focusedWindow, ?_, howned, hread, hjoined.1, hlisted⟩
  rw [hjoined.2, List.append_nil, List.append_nil]

omit [OwnerSnapshotView S] in
theorem quiet_readFrontmostUntil (deadline : ℕ) (pid : ℤ) :
    (world.readFrontmostUntil deadline pid).Quiet :=
  (Prog.Quiet.call _).bind (fun _ => Prog.Quiet.pure _)

/-- **What a capture has read** when it gives a list. -/
theorem captureGlobalWith_traced (focusedOnly : Bool) (deadline fuel : ℕ) :
    (world.captureGlobalWith focusedOnly deadline fuel).Traced (fun windows events =>
      ∃ (run : InventoryRun S) (focusedWindow : Option (ℤ × ℤ)), run.events = events
        ∧ sameGeneration run.before run.after = true
        ∧ (∀ record ∈ run.records, record.MatchesOwner world run.after run.rechecks)
        ∧ world.Assembled run.before run.listed focusedOnly run.checks run.focus focusedWindow
          windows) := by
  have howners : (world.readOwners deadline).Traced
      (fun snapshot events => events = [.owners snapshot]) :=
    Prog.Traced.quiet_bind (Prog.Quiet.call _)
      (fun _ => Prog.Traced.emit_bind (Prog.Traced.pure rfl))
  refine Prog.Traced.bind howners (fun before read hbefore => ?_)
  obtain rfl := hbefore
  refine Prog.Traced.bind (Q := fun records events => events = [.records records])
    (Prog.Traced.quiet_bind (Prog.Quiet.unrecorded _)
      (fun _ => Prog.Traced.emit_bind (Prog.Traced.pure rfl))) (fun records read hrecords => ?_)
  obtain rfl := hrecords
  refine Prog.Traced.bind (Prog.Traced.attempt (world.assembleGlobalWindows_traced records before
    focusedOnly _ (world.quiet_readFrontmostUntil deadline))) (fun assembled early hearly => ?_)
  refine Prog.Traced.bind howners (fun after read hafter => ?_)
  obtain rfl := hafter
  refine Prog.Traced.bind (Q := fun _ events => sameGeneration before after = true
      ∧ ∃ rechecks, events = InventoryRun.checkEvents rechecks
        ∧ ∀ record ∈ records, record.MatchesOwner world after rechecks) ?_
    (fun _ _ hvalid => ?_)
  · refine Prog.Traced.ite (fun hsame => ?_) (fun _ => Prog.Traced.fail _)
    exact Prog.Traced.mono (world.validateRecordGenerations_traced records after)
      (fun _ _ hall => ⟨hsame, hall⟩)
  · refine Prog.Traced.ofExcept (fun windows hwindows => ?_)
    obtain ⟨hsame, rechecks, rfl, hafter⟩ := hvalid
    obtain ⟨checks, focus, focusedWindow, rfl, hassembled⟩ := hearly windows hwindows
    refine ⟨⟨before, records, checks, focus, after, rechecks⟩, focusedWindow, ?_, hsame,
      hafter, hassembled⟩
    simp only [InventoryRun.events, List.append_nil, List.append_assoc,
      List.cons_append, List.nil_append]

/-! ## The windows with the focus only -/

/-- The windows with the focus. -/
def focusedOf (windows : List WindowInfo) : List WindowInfo :=
  windows.filter (fun window => window.state.isFocused)

theorem assembleGlobalWindows_focusedOnly (records : List InventoryRecord) (owners : S)
    (readFrontmost : ℤ → InventoryProg σ S WindowAxState) :
    world.assembleGlobalWindows records owners true readFrontmost
      = world.assembleGlobalWindows records owners false readFrontmost
        >>= fun windows => pure (focusedOf windows) := by
  unfold assembleGlobalWindows
  dsimp only
  rw [Prog.bind_assoc]
  refine congrArg (_ >>= ·) (funext fun _ => ?_)
  rw [Prog.bind_assoc]
  refine congrArg (_ >>= ·) (funext fun state => ?_)
  rw [Prog.bind_assoc]
  refine congrArg (_ >>= ·) (funext fun focusedWindow => ?_)
  rw [listedWindows_focusedOnly]
  exact Prog.ofExcept_map _ focusedOf

/-- **A capture of the windows with the focus is the whole capture, with the others left out**: it
reads the same, and ends in the same way. -/
theorem captureGlobalWith_focusedOnly (deadline fuel : ℕ) :
    world.captureGlobalWith true deadline fuel
      = world.captureGlobalWith false deadline fuel
        >>= fun windows => pure (focusedOf windows) := by
  unfold captureGlobalWith captureValidatedWith
  dsimp only
  rw [Prog.bind_assoc]
  refine congrArg (_ >>= ·) (funext fun before => ?_)
  rw [Prog.bind_assoc]
  refine congrArg (_ >>= ·) (funext fun records => ?_)
  rw [Prog.bind_assoc, assembleGlobalWindows_focusedOnly, Prog.attempt_bind_pure, Prog.bind_assoc]
  refine congrArg (_ >>= ·) (funext fun assembled => ?_)
  show (world.readOwners deadline >>= fun after => _) = _
  rw [Prog.bind_assoc]
  refine congrArg (_ >>= ·) (funext fun after => ?_)
  rw [Prog.bind_assoc]
  refine congrArg (_ >>= ·) (funext fun _ => ?_)
  exact Prog.ofExcept_map assembled focusedOf

end InventoryWorld

/-! ## The whole -/

namespace InventoryWorld

variable {σ : Type} (world : InventoryWorld σ WindowOwnerSnapshot)

theorem titleIsOneWindow_iff {run : InventoryRun WindowOwnerSnapshot}
    (hread : run.focus.map Prod.fst
      = frontmostWindowOwner run.listed (OwnerSnapshotView.frontmostPid run.before)) :
    run.TitleIsOneWindow ↔ ∀ pid title record, OwnerSnapshotView.frontmostPid run.before = some pid →
      (run.focus.map Prod.snd).bind WindowAxState.focused = some (title, none) →
        titleMatches run.listed pid title = [record] →
          run.listed.countP (fun other => some other.key == some record.key) ≤ 1 := by
  have hfront : ∀ pid state, run.focus = some (pid, state) →
      OwnerSnapshotView.frontmostPid run.before = some pid := by
    intro pid state hfocus
    rw [hfocus] at hread
    exact (Option.filter_eq_some_iff.mp hread.symm).1
  constructor
  · intro htitle pid title record hpid hfocused hone
    cases hfocus : run.focus with
    | none =>
      rw [hfocus] at hfocused
      cases hfocused
    | some front =>
      obtain ⟨pid', state⟩ := front
      rw [hfocus] at hfocused
      obtain rfl : pid' = pid := Option.some.inj ((hfront pid' state hfocus).symm.trans hpid)
      exact htitle pid' state title record hfocus hfocused hone
  · intro hall pid state title record hfocus hfocused hone
    refine hall pid title record (hfront pid state hfocus) ?_ hone
    rw [hfocus]
    exact hfocused

/-- **The windows that are assembled are consistent with the owners**, as far as the focus is not
asked for. -/
theorem consistentInventory_of_assembled {run : InventoryRun WindowOwnerSnapshot}
    {focusedOnly : Bool} {focusedWindow : Option (ℤ × ℤ)} {windows : List WindowInfo}
    (hsame : run.before = run.after)
    (hafter : ∀ record ∈ run.records, record.MatchesOwner world run.after run.rechecks)
    (h : world.Assembled run.before run.listed focusedOnly run.checks run.focus focusedWindow
      windows)
    (hsingle : (windows.filter (fun window => window.state.isFocused)).length ≤ 1) :
    ConsistentInventory world run windows := by
  have hlisted := h.listed
  rw [listedWindows_eq] at hlisted
  have hrecord : ∀ window ∈ windows, ∃ record ∈ run.listed,
      windowOf (OwnerSnapshotView.frontmostPid run.before) (run.focus.map Prod.snd) focusedWindow
        record = window := by
    intro window hwindow
    rw [← Except.ok.inj hlisted] at hwindow
    obtain ⟨record, hmem, hwindow⟩ := List.mem_map.mp hwindow
    exact ⟨record, (List.mem_filter.mp hmem).1, hwindow⟩
  refine ⟨hsame, fun window hwindow => ?_, hsingle, fun window hwindow hfocused => ?_⟩
  · obtain ⟨record, hmem, rfl⟩ := hrecord window hwindow
    have hmem' : record ∈ run.records := (List.mem_filter.mp hmem).1
    exact ⟨record, hmem', ⟨_, _, record.intoWindowInfo_eq _ _⟩, h.owned record hmem,
      hafter record hmem'⟩
  · obtain ⟨record, hmem, rfl⟩ := hrecord window hwindow
    have hkey : some record.key = focusedWindow := beq_iff_eq.mp hfocused
    have hjoined := h.joined
    rw [← hkey] at hjoined
    rw [frontmostPid_of_joinFocus hjoined]
    exact congrArg some (toNat_ofNat_of_pid record.pid_pos record.pid_le).symm

/-- **An inventory is a consistent snapshot exactly when a focus that is reported by a title is one
window**, whatever starts, ends and changes between the reads. What was read is the one run that the
recorded events are of. The windows with the focus are those of the whole inventory. -/
theorem captureGlobalWith_consistent_iff (deadline fuel : ℕ) :
    (∀ focusedOnly, (world.captureGlobalWith focusedOnly deadline fuel).Traced
      (fun windows events => ∃ run : InventoryRun WindowOwnerSnapshot, run.events = events
        ∧ (∀ other : InventoryRun WindowOwnerSnapshot, other.events = events → other = run)
        ∧ (ConsistentInventory world run windows ↔ run.TitleIsOneWindow)))
      ∧ world.captureGlobalWith true deadline fuel
        = world.captureGlobalWith false deadline fuel
          >>= fun windows => pure (focusedOf windows) := by
  refine ⟨fun focusedOnly => ?_, world.captureGlobalWith_focusedOnly deadline fuel⟩
  refine Prog.Traced.mono (world.captureGlobalWith_traced focusedOnly deadline fuel)
    (fun windows events hrun => ?_)
  obtain ⟨run, focusedWindow, hevents, hsame, hafter, hassembled⟩ := hrun
  refine ⟨run, hevents, fun other hother => InventoryRun.events_injective (hother.trans hevents.symm),
    ?_⟩
  have hstate : (run.focus.map Prod.snd).isSome = true →
      (frontmostWindowOwner run.listed (OwnerSnapshotView.frontmostPid run.before)).isSome
        = true := by
    rw [← hassembled.read, Option.isSome_map, Option.isSome_map]
    exact id
  have hcount : (windows.filter (fun window => window.state.isFocused)).length
      = run.listed.countP (fun record => some record.key == focusedWindow) := by
    have hlisted := hassembled.listed
    rw [listedWindows_eq] at hlisted
    rw [← Except.ok.inj hlisted]
    exact length_filter_isFocused _ _ focusedWindow focusedOnly run.listed
  have hiff := countP_focusedWindow_iff hstate hassembled.joined
  rw [← hcount, ← titleIsOneWindow_iff hassembled.read] at hiff
  constructor
  · exact fun hconsistent => hiff.mp hconsistent.single
  · exact fun htitle => world.consistentInventory_of_assembled
      (WindowOwnerSnapshot.eq_of_sameGeneration hsame) hafter hassembled (hiff.mpr htitle)

end InventoryWorld

namespace InventoryWorld

variable {σ S : Type} [OwnerSnapshotView S] (world : InventoryWorld σ S)

/-! ## Labels and attempts -/

/-- A window without the label that says whether accessibility reaches it. -/
def unlabelled (window : WindowInfo) : WindowInfo :=
  { window with state := { window.state with accessible := true } }

theorem map_unlabelled_labelWindow (pid : ProcessId) (accessibleIds : List ℤ)
    (windows : List WindowInfo) :
    (windows.map (labelWindow pid accessibleIds)).map unlabelled = windows.map unlabelled := by
  rw [List.map_map]
  refine List.map_congr_left (fun window _ => ?_)
  show unlabelled (labelWindow pid accessibleIds window) = unlabelled window
  unfold labelWindow
  split_ifs
  · rfl
  · rfl

omit [OwnerSnapshotView S] in
theorem labelFrom_traced (deadline : ℕ) (pids : List ProcessId) (windows : List WindowInfo) :
    (world.labelFrom deadline pids windows).Traced
      (fun labelled _ => labelled.map unlabelled = windows.map unlabelled) := by
  induction pids generalizing windows with
  | nil => exact Prog.Traced.pure rfl
  | cons pid pids ih =>
    unfold labelFrom
    cases toPidT pid with
    | error error => exact ih windows
    | ok native =>
      refine Prog.Traced.quiet_bind (Prog.Quiet.ask _) (fun now => ?_)
      refine Prog.Traced.quiet_bind (Prog.Quiet.attempt (Prog.Quiet.call _)) (fun answer => ?_)
      cases answer with
      | error error => exact ih windows
      | ok accessibleIds =>
        refine Prog.Traced.mono (ih _) (fun labelled _ hlabelled => ?_)
        rw [hlabelled, map_unlabelled_labelWindow]

/-- A list that a capture gives, but for the labels. -/
def Captured (focusedOnly : Bool) (deadline : ℕ) (windows : List WindowInfo) : Prop :=
  ∃ s fuel captured, (world.captureGlobalWith focusedOnly deadline fuel).outcome s = .ok captured
    ∧ windows.map unlabelled = captured.map unlabelled

theorem captureGlobalOnce_traced (focusedOnly : Bool) (deadline fuel : ℕ) :
    (world.captureGlobalOnce focusedOnly deadline fuel).Traced
      (fun windows _ => world.Captured focusedOnly deadline windows) := by
  refine Prog.Traced.bind (Q := fun captured _ => ∃ s,
      (world.captureGlobalWith focusedOnly deadline fuel).outcome s = .ok captured)
    (fun s captured hcaptured => ⟨s, hcaptured⟩) (fun captured _ hcaptured => ?_)
  obtain ⟨s, hcaptured⟩ := hcaptured
  exact Prog.Traced.mono (world.labelFrom_traced deadline _ captured)
    (fun _ _ hlabelled => ⟨s, fuel, captured, hcaptured, hlabelled⟩)

theorem stabilizeGlobal_traced (focusedOnly : Bool) (deadline fuel attempts : ℕ)
    (lastError : Option AdapterError) :
    (world.stabilizeGlobal focusedOnly deadline fuel attempts lastError).Traced
      (fun windows _ => world.Captured focusedOnly deadline windows) := by
  induction fuel generalizing attempts lastError with
  | zero => exact fun _ _ hcut => by cases hcut
  | succ fuel ih =>
    refine Prog.Traced.quiet_bind (Prog.Quiet.ask _) (fun now => ?_)
    refine Prog.Traced.ite (fun _ => Prog.Traced.fail _) (fun _ => ?_)
    refine Prog.Traced.bind (Prog.Traced.attempt
      (world.captureGlobalOnce_traced focusedOnly deadline fuel)) (fun answer _ hanswer => ?_)
    cases answer with
    | ok windows => exact Prog.Traced.pure (hanswer windows rfl)
    | error error =>
      refine Prog.Traced.ite (fun _ => ?_) (fun _ => Prog.Traced.fail _)
      exact Prog.Traced.bind (Q := fun _ _ => True) (fun _ _ _ => trivial)
        (fun _ _ _ => ih (attempts + 1) (some error))

/-- **A list of windows is one that a capture gives**, but for the labels: attempts that fail
leave nothing behind. -/
theorem listWindowsUntil_traced (focusedOnly : Bool) (deadline fuel : ℕ) :
    (world.listWindowsUntil focusedOnly deadline fuel).Traced
      (fun windows _ => world.Captured focusedOnly deadline windows) :=
  world.stabilizeGlobal_traced focusedOnly deadline fuel 0 none

end InventoryWorld

namespace Sample

/-- A window of a process, with this title; every window has the number 1. -/
def mailDictionary (title : String) : WindowDictionary where
  layer := some 0
  ownerPid := some 10
  number := some 1
  ownerName := some (some "Mail")
  bounds := some ⟨.finite 0, .finite 0, .finite 100, .finite 100⟩
  name := some title
  isOnscreen := some (some true)

/-- A world in which the window server lists these titles. The application in front reports the
title of its focused window, and no number. -/
def mailWorld (titles : List String) : InventoryWorld Unit WindowOwnerSnapshot where
  clock _ := (0, ())
  sleep _ _ := ((), ())
  windowDictionaries _ := (.ok (titles.map mailDictionary), ())
  processStart _ _ := (.ok (some (100, 0)), ())
  boundsBits _ := []
  captureOwners _ _ := (.ok ⟨[⟨10, "Mail", none, some (.finite 100), .regular⟩], some 10⟩, ())
  withinLaunchDelta identity time :=
    decide (|(identity.startSeconds : ℚ) + identity.startMicroseconds / 1000000 - time| ≤ 5)
  focusedIdentity _ _ _ := (.ok (some (some "Inbox", none)), ())
  accessibleWindowIds _ _ _ := (.ok [1], ())

/-- How many windows an inventory lists with the focus. -/
def focusCount : Outcome AdapterError (List WindowInfo) → Option ℕ
  | .ok windows => some (windows.filter (fun window => window.state.isFocused)).length
  | .error _ | .running => none

theorem exists_of_focusCount {o : Outcome AdapterError (List WindowInfo)} {n : ℕ}
    (h : focusCount o = some n) : ∃ windows, o = .ok windows
      ∧ (windows.filter (fun window => window.state.isFocused)).length = n := by
  cases o with
  | ok windows => exact ⟨windows, rfl, Option.some.inj h⟩
  | error error => cases h
  | running => cases h

end Sample

/-- One window is listed, and it has the focus. -/
theorem captureGlobalWith_consistent_iff_mail :
    ∃ windows, ((Sample.mailWorld ["Inbox"]).captureGlobalWith false 10 3).outcome () = .ok windows
      ∧ (windows.filter (fun window => window.state.isFocused)).length = 1
      ∧ ∃ run : InventoryRun WindowOwnerSnapshot,
        run.events = ((Sample.mailWorld ["Inbox"]).captureGlobalWith false 10 3).events ()
          ∧ (∀ other : InventoryRun WindowOwnerSnapshot, other.events
            = ((Sample.mailWorld ["Inbox"]).captureGlobalWith false 10 3).events () → other = run)
          ∧ (ConsistentInventory (Sample.mailWorld ["Inbox"]) run windows
            ↔ run.TitleIsOneWindow) := by
  obtain ⟨windows, hwindows, hcount⟩ := Sample.exists_of_focusCount
    (o := ((Sample.mailWorld ["Inbox"]).captureGlobalWith false 10 3).outcome ()) (n := 1)
      (by decide +kernel)
  exact ⟨windows, hwindows, hcount, ((Sample.mailWorld ["Inbox"]).captureGlobalWith_consistent_iff
    10 3).1 false () windows hwindows⟩

/-- **Two windows have the focus**: the window server lists a number twice, with two titles, and
the application in front reports the title of one. -/
theorem listed_twice_two_focused :
    ∃ windows, ((Sample.mailWorld ["Inbox", "Drafts"]).captureGlobalWith false 10 3).outcome ()
        = .ok windows
      ∧ (windows.filter (fun window => window.state.isFocused)).length = 2
      ∧ ∀ run, ¬ ConsistentInventory (Sample.mailWorld ["Inbox", "Drafts"]) run windows := by
  obtain ⟨windows, hwindows, hcount⟩ := Sample.exists_of_focusCount
    (o := ((Sample.mailWorld ["Inbox", "Drafts"]).captureGlobalWith false 10 3).outcome ())
      (n := 2) (by decide +kernel)
  refine ⟨windows, hwindows, hcount, fun run hrun => ?_⟩
  have hsingle := hrun.single
  rw [hcount] at hsingle
  exact absurd hsingle (by decide)

end AgentDesktop
