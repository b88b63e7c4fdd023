import Mathlib.Data.List.Perm.Basic
import Mathlib.Data.Set.Basic
import AgentDesktop.Util.StableSort
import AgentDesktop.Signals

/-!
# Laws of the comparison of two observations

What is told of two observations of a desktop is told of them as sets: what has come
and gone is the difference of the identities, each told for what was observed
completely, and what has come one way has gone the other way.

How an observation lists its windows, applications and surfaces does not matter
either, with one exception. Events are sorted by what they show, and the kind of a
surface is not part of that. So two surfaces of one title that differ in their kind
are told in the order they are listed in (`orderDoesNotShow_iff`).
-/

namespace AgentDesktop

/-! ## The order of events

Events are compared by everything they show but the kind of a surface, and the sort is stable. So
two events that compare as equal stay in the order in which they were listed. -/

/-- The comparison of events, as one of several numbers and texts. -/
instance : Std.TransCmp compareEvents :=
  inferInstanceAs (Std.TransCmp (compareLex (compareOn (fun event : UiEvent => eventRank event.kind))
    (compareLex (compareOn UiEvent.app) (compareLex (compareOn UiEvent.pid)
      (compareLex (compareOn UiEvent.windowId) (compareLex (compareOn UiEvent.title)
        (compareOn (fun event : UiEvent => event.kind.cliToken))))))))

/-- **What tied events have in common**: everything but the kind of a surface. -/
theorem eq_of_compareEvents {left right : UiEvent} (htied : compareEvents left right = .eq) :
    eventRank left.kind = eventRank right.kind ∧ left.app = right.app ∧ left.pid = right.pid
      ∧ left.windowId = right.windowId ∧ left.title = right.title := by
  unfold compareEvents at htied
  simp only [Ordering.then_eq_eq] at htied
  obtain ⟨hrank, happ, hpid, hwindow, htitle, -⟩ := htied
  exact ⟨Std.LawfulEqCmp.eq_of_compare hrank, Std.LawfulEqCmp.eq_of_compare happ,
    Std.LawfulEqCmp.eq_of_compare hpid, Std.LawfulEqCmp.eq_of_compare hwindow,
    Std.LawfulEqCmp.eq_of_compare htitle⟩

theorem compareEvents_eq {left right : UiEvent} (hrank : eventRank left.kind = eventRank right.kind)
    (htoken : left.kind.cliToken = right.kind.cliToken) (happ : left.app = right.app)
    (hpid : left.pid = right.pid) (hwindow : left.windowId = right.windowId)
    (htitle : left.title = right.title) : compareEvents left right = .eq := by
  unfold compareEvents
  rw [hrank, htoken, happ, hpid, hwindow, htitle]
  simp only [Ordering.then_eq_eq, Std.ReflCmp.compare_self, and_self]

theorem diffSignals_eq_sort (baseline current : SignalBaseline) :
    diffSignals baseline current = sortByCmp compareEvents (signalEvents baseline current) := rfl

/-! ## Observations that list the same -/

/-- At most one window has the focus. -/
def AtMostOneFocused (baseline : SignalBaseline) : Prop :=
  ∀ window ∈ baseline.windows, ∀ other ∈ baseline.windows,
    window.state.isFocused = true → other.state.isFocused = true → window = other

/-- Two observations list the same, in one order or another. -/
structure SameInventories (baseline other : SignalBaseline) : Prop where
  windows : baseline.windows.Perm other.windows
  apps : baseline.apps.Perm other.apps
  surfaces : baseline.surfaces.Perm other.surfaces
  /-- What was observed completely. -/
  completeness : baseline.completeness = other.completeness

theorem unseen_perm {α ι : Type} [BEq ι] [LawfulBEq ι] (identity : α → Option ι)
    {seen seen' items items' : List α} (hseen : seen.Perm seen') (hitems : items.Perm items') :
    (unseen identity seen items).Perm (unseen identity seen' items') := by
  unfold unseen
  have htest : (fun item => (identity item).any (fun key => !(seen.filterMap identity).contains key))
      = fun item => (identity item).any (fun key => !(seen'.filterMap identity).contains key) := by
    funext item
    congr 1
    funext key
    rw [Bool.eq_iff_iff, Bool.not_eq_true', Bool.not_eq_true', ← Bool.not_eq_true,
      ← Bool.not_eq_true, List.contains_iff_mem, List.contains_iff_mem,
      (hseen.filterMap identity).mem_iff]
  rw [htest]
  exact hitems.filter _

theorem find_focused_perm {windows windows' : List WindowInfo} (hperm : windows.Perm windows')
    (hone : ∀ window ∈ windows, ∀ other ∈ windows, window.state.isFocused = true →
      other.state.isFocused = true → window = other) :
    windows.find? (fun window => window.state.isFocused)
      = windows'.find? (fun window => window.state.isFocused) := by
  cases hfound : windows.find? (fun window => window.state.isFocused) with
  | none =>
    symm
    rw [List.find?_eq_none] at hfound ⊢
    exact fun window hwindow => hfound window (hperm.mem_iff.mpr hwindow)
  | some window =>
    have hfocused := List.find?_some hfound
    cases hfound' : windows'.find? (fun window => window.state.isFocused) with
    | none =>
      rw [List.find?_eq_none] at hfound'
      exact absurd hfocused
        (hfound' window (hperm.mem_iff.mp (List.mem_of_find?_eq_some hfound)))
    | some other =>
      have hfocused' := List.find?_some hfound'
      have hmem := hperm.mem_iff.mpr (List.mem_of_find?_eq_some hfound')
      rw [hone window (List.mem_of_find?_eq_some hfound) other hmem hfocused hfocused']

/-- **Observations that list the same have the same events**, in one order or another. -/
theorem signalEvents_perm {baseline baseline' current current' : SignalBaseline}
    (hbaseline : SameInventories baseline baseline') (hcurrent : SameInventories current current')
    (hfocus : AtMostOneFocused baseline) (hfocus' : AtMostOneFocused current) :
    (signalEvents baseline current).Perm (signalEvents baseline' current') := by
  have hfocused : diffFocus baseline current = diffFocus baseline' current' := by
    unfold diffFocus
    rw [find_focused_perm hbaseline.windows hfocus, find_focused_perm hcurrent.windows hfocus']
  have hwindows : (diffWindows baseline current).Perm (diffWindows baseline' current') :=
    ((unseen_perm windowIdentity hbaseline.windows hcurrent.windows).map _).append
      ((unseen_perm windowIdentity hcurrent.windows hbaseline.windows).map _)
  have happs : (diffApps baseline current).Perm (diffApps baseline' current') :=
    ((unseen_perm appIdentity hbaseline.apps hcurrent.apps).map _).append
      ((unseen_perm appIdentity hcurrent.apps hbaseline.apps).map _)
  have hsurfaces : (diffSurfaces baseline current).Perm (diffSurfaces baseline' current') :=
    ((unseen_perm surfaceIdentity hbaseline.surfaces hcurrent.surfaces).map _).append
      ((unseen_perm surfaceIdentity hcurrent.surfaces hbaseline.surfaces).map _)
  unfold signalEvents
  rw [← hbaseline.completeness, ← hcurrent.completeness, hfocused]
  refine List.Perm.append (List.Perm.append ?_ ?_) ?_
  · split
    · exact hwindows.append_right _
    · exact List.Perm.refl _
  · split
    · exact happs
    · exact List.Perm.refl _
  · split
    · exact hsurfaces
    · exact List.Perm.refl _

/-! ## What has come and what has gone

The three inventories are compared in the same way, and so they are one definition: what identifies
an item, and the events of its coming and going. The laws are proved of that, and hold of the
windows, the applications and the surfaces at once. -/

/-- The identities of the items of a list. -/
def identitySet {α ι : Type} (identity : α → Option ι) (items : List α) : Set ι :=
  { key | ∃ item ∈ items, identity item = some key }

/-- An item is one of those whose identity is not found among others. -/
def Came {α ι : Type} (identity : α → Option ι) (seen items : List α) (item : α) : Prop :=
  item ∈ items
    ∧ ∃ key ∈ identitySet identity items \ identitySet identity seen, identity item = some key

/-- **What is missing from a list** is told by the identities. -/
theorem mem_unseen_iff {α ι : Type} [BEq ι] [LawfulBEq ι] {identity : α → Option ι}
    {seen items : List α} {item : α} :
    item ∈ unseen identity seen items ↔ Came identity seen items item := by
  unfold unseen Came
  rw [List.mem_filter]
  refine and_congr_right (fun hitem => ?_)
  rw [Option.any_eq_true]
  refine exists_congr (fun key => ?_)
  rw [Bool.not_eq_true', ← Bool.not_eq_true, List.contains_iff_mem, List.mem_filterMap]
  constructor
  · rintro ⟨hkey, hnot⟩
    exact ⟨⟨⟨item, hitem, hkey⟩, hnot⟩, hkey⟩
  · rintro ⟨⟨-, hnot⟩, hkey⟩
    exact ⟨hkey, hnot⟩

/-- **An inventory that things come to and go from**: what identifies them, and the events of their
coming and going. -/
structure Inventory (α ι : Type) where
  /-- What identifies an item. -/
  identity : α → Option ι
  /-- The items of an observation. -/
  items : SignalBaseline → List α
  /-- Whether they were read to their end. -/
  complete : SignalBaseline → Bool
  /-- An item has come. -/
  came : α → UiEvent
  /-- An item has gone. -/
  gone : α → UiEvent
  /-- The rank of its events: those of going come first. -/
  rank : ℕ
  /-- The events of coming have a rank of their own. -/
  came_rank : ∀ item, eventRank (came item).kind = rank + 3
  /-- The events of going have. -/
  gone_rank : ∀ item, eventRank (gone item).kind = rank

/-- The windows. -/
def windowInventory : Inventory WindowInfo (ProcessId × String × String) where
  identity := windowIdentity
  items := SignalBaseline.windows
  complete baseline := baseline.completeness.windows
  came := windowEvent .windowOpened
  gone := windowEvent .windowClosed
  rank := 0
  came_rank _ := rfl
  gone_rank _ := rfl

/-- The applications. -/
def appInventory : Inventory SignalApp (ProcessId × String) where
  identity := appIdentity
  items := SignalBaseline.apps
  complete baseline := baseline.completeness.apps
  came := appEvent .appLaunched
  gone := appEvent .appTerminated
  rank := 1
  came_rank _ := rfl
  gone_rank _ := rfl

/-- The surfaces. -/
def surfaceInventory : Inventory SurfaceSignal (ProcessId × String × String × String) where
  identity := surfaceIdentity
  items := SignalBaseline.surfaces
  complete baseline := baseline.completeness.surfaces
  came := surfaceEvent true
  gone := surfaceEvent false
  rank := 2
  came_rank _ := rfl
  gone_rank _ := rfl

namespace Inventory

variable {α ι : Type} [BEq ι] (inventory : Inventory α ι) (baseline current : SignalBaseline)

/-- The events of coming. -/
def cameEvents : List UiEvent :=
  if inventory.complete baseline && inventory.complete current then
    (unseen inventory.identity (inventory.items baseline) (inventory.items current)).map
      inventory.came
  else []

/-- The events of going. -/
def goneEvents : List UiEvent :=
  if inventory.complete baseline && inventory.complete current then
    (unseen inventory.identity (inventory.items current) (inventory.items baseline)).map
      inventory.gone
  else []

theorem filter_cameEvents (test : ℕ → Bool) :
    (inventory.cameEvents baseline current).filter (fun event => test (eventRank event.kind))
      = if test (inventory.rank + 3) then inventory.cameEvents baseline current else [] := by
  have hrank : ∀ event ∈ inventory.cameEvents baseline current,
      eventRank event.kind = inventory.rank + 3 := by
    intro event hevent
    unfold cameEvents at hevent
    split at hevent
    · obtain ⟨item, -, rfl⟩ := List.mem_map.mp hevent
      exact inventory.came_rank item
    · exact absurd hevent List.not_mem_nil
  split
  · next hpass =>
    exact List.filter_eq_self.mpr (fun event h => by rw [hrank event h, hpass])
  · next hfail =>
    exact List.filter_eq_nil_iff.mpr (fun event h => by rw [hrank event h]; exact hfail)

theorem filter_goneEvents (test : ℕ → Bool) :
    (inventory.goneEvents baseline current).filter (fun event => test (eventRank event.kind))
      = if test inventory.rank then inventory.goneEvents baseline current else [] := by
  have hrank : ∀ event ∈ inventory.goneEvents baseline current,
      eventRank event.kind = inventory.rank := by
    intro event hevent
    unfold goneEvents at hevent
    split at hevent
    · obtain ⟨item, -, rfl⟩ := List.mem_map.mp hevent
      exact inventory.gone_rank item
    · exact absurd hevent List.not_mem_nil
  split
  · next hpass =>
    exact List.filter_eq_self.mpr (fun event h => by rw [hrank event h, hpass])
  · next hfail =>
    exact List.filter_eq_nil_iff.mpr (fun event h => by rw [hrank event h]; exact hfail)

end Inventory

/-- The events of the focus. -/
def focusEvents (baseline current : SignalBaseline) : List UiEvent :=
  if baseline.completeness.windows && current.completeness.windows then diffFocus baseline current
  else []

theorem filter_focusEvents (baseline current : SignalBaseline) (test : ℕ → Bool) :
    (focusEvents baseline current).filter (fun event => test (eventRank event.kind))
      = if test 6 then focusEvents baseline current else [] := by
  have hrank : ∀ event ∈ focusEvents baseline current, eventRank event.kind = 6 := by
    intro event hevent
    unfold focusEvents at hevent
    split at hevent
    · rw [kind_of_mem_diffFocus hevent]
      rfl
    · exact absurd hevent List.not_mem_nil
  split
  · next hpass =>
    exact List.filter_eq_self.mpr (fun event h => by rw [hrank event h, hpass])
  · next hfail =>
    exact List.filter_eq_nil_iff.mpr (fun event h => by rw [hrank event h]; exact hfail)

/-- **The events are those of the three inventories and those of the focus.** -/
theorem signalEvents_eq (baseline current : SignalBaseline) :
    signalEvents baseline current
      = windowInventory.cameEvents baseline current ++ windowInventory.goneEvents baseline current
        ++ focusEvents baseline current
        ++ (appInventory.cameEvents baseline current ++ appInventory.goneEvents baseline current)
        ++ (surfaceInventory.cameEvents baseline current
          ++ surfaceInventory.goneEvents baseline current) := by
  unfold signalEvents Inventory.cameEvents Inventory.goneEvents focusEvents
  refine congrArg₂ (· ++ ·) (congrArg₂ (· ++ ·) ?_ ?_) ?_
  · show _ = (if baseline.completeness.windows && current.completeness.windows then _ else _)
      ++ (if baseline.completeness.windows && current.completeness.windows then _ else _) ++ _
    split <;> rfl
  · show _ = (if baseline.completeness.apps && current.completeness.apps then _ else _)
      ++ (if baseline.completeness.apps && current.completeness.apps then _ else _)
    split <;> rfl
  · show _ = (if baseline.completeness.surfaces && current.completeness.surfaces then _ else _)
      ++ (if baseline.completeness.surfaces && current.completeness.surfaces then _ else _)
    split <;> rfl

/-- The events whose rank passes a test. -/
def ofRank (test : ℕ → Bool) (events : List UiEvent) : List UiEvent :=
  events.filter (fun event => test (eventRank event.kind))

/-- **The events of some ranks** are those of the inventories that have them. -/
theorem ofRank_signalEvents (baseline current : SignalBaseline) (test : ℕ → Bool) :
    ofRank test (signalEvents baseline current)
      = (if test 3 then windowInventory.cameEvents baseline current else [])
        ++ (if test 0 then windowInventory.goneEvents baseline current else [])
        ++ (if test 6 then focusEvents baseline current else [])
        ++ ((if test 4 then appInventory.cameEvents baseline current else [])
          ++ (if test 1 then appInventory.goneEvents baseline current else []))
        ++ ((if test 5 then surfaceInventory.cameEvents baseline current else [])
          ++ (if test 2 then surfaceInventory.goneEvents baseline current else [])) := by
  unfold ofRank
  rw [signalEvents_eq]
  simp only [List.filter_append, Inventory.filter_cameEvents, Inventory.filter_goneEvents,
    filter_focusEvents]
  rfl

theorem Inventory.mem_cameEvents {α ι : Type} [BEq ι] [LawfulBEq ι] (inventory : Inventory α ι)
    {baseline current : SignalBaseline} {event : UiEvent} :
    event ∈ inventory.cameEvents baseline current
      ↔ inventory.complete baseline = true ∧ inventory.complete current = true
        ∧ ∃ item, Came inventory.identity (inventory.items baseline) (inventory.items current) item
          ∧ event = inventory.came item := by
  unfold cameEvents
  rw [List.mem_ite_nil_right, Bool.and_eq_true, List.mem_map, and_assoc]
  refine and_congr_right (fun _ => and_congr_right (fun _ => exists_congr (fun item => ?_)))
  rw [mem_unseen_iff, eq_comm]

theorem Inventory.mem_goneEvents {α ι : Type} [BEq ι] [LawfulBEq ι] (inventory : Inventory α ι)
    {baseline current : SignalBaseline} {event : UiEvent} :
    event ∈ inventory.goneEvents baseline current
      ↔ inventory.complete baseline = true ∧ inventory.complete current = true
        ∧ ∃ item, Came inventory.identity (inventory.items current) (inventory.items baseline) item
          ∧ event = inventory.gone item := by
  unfold goneEvents
  rw [List.mem_ite_nil_right, Bool.and_eq_true, List.mem_map, and_assoc]
  refine and_congr_right (fun _ => and_congr_right (fun _ => exists_congr (fun item => ?_)))
  rw [mem_unseen_iff, eq_comm]

/-- An inventory's events are those of its ranks. -/
structure Inventory.Told {α ι : Type} [BEq ι] (inventory : Inventory α ι) : Prop where
  /-- Those of coming. -/
  came : ∀ baseline current, ofRank (· == inventory.rank + 3) (signalEvents baseline current)
    = inventory.cameEvents baseline current
  /-- Those of going. -/
  gone : ∀ baseline current, ofRank (· == inventory.rank) (signalEvents baseline current)
    = inventory.goneEvents baseline current

theorem windowInventory_told : windowInventory.Told where
  came baseline current := by
    rw [ofRank_signalEvents]
    simp [windowInventory]
  gone baseline current := by
    rw [ofRank_signalEvents]
    simp [windowInventory]

theorem appInventory_told : appInventory.Told where
  came baseline current := by
    rw [ofRank_signalEvents]
    simp [appInventory]
  gone baseline current := by
    rw [ofRank_signalEvents]
    simp [appInventory]

theorem surfaceInventory_told : surfaceInventory.Told where
  came baseline current := by
    rw [ofRank_signalEvents]
    simp [surfaceInventory]
  gone baseline current := by
    rw [ofRank_signalEvents]
    simp [surfaceInventory]

/-! ## The laws -/

/-- **What has come and gone is the difference of the identities**, where both observations were
complete: each event of coming is that of an item whose identity is new, and each such item has its
event; so it is with what has gone. -/
structure TellsDifference {α ι : Type} (inventory : Inventory α ι)
    (baseline current : SignalBaseline) : Prop where
  /-- What has come. -/
  came : inventory.complete baseline = true → inventory.complete current = true → ∀ event,
    event ∈ diffSignals baseline current ∧ eventRank event.kind = inventory.rank + 3
      ↔ ∃ item, Came inventory.identity (inventory.items baseline) (inventory.items current) item
        ∧ event = inventory.came item
  gone : inventory.complete baseline = true → inventory.complete current = true → ∀ event,
    event ∈ diffSignals baseline current ∧ eventRank event.kind = inventory.rank
      ↔ ∃ item, Came inventory.identity (inventory.items current) (inventory.items baseline) item
        ∧ event = inventory.gone item

theorem mem_diffSignals_rank {baseline current : SignalBaseline} {event : UiEvent} {rank : ℕ} :
    event ∈ diffSignals baseline current ∧ eventRank event.kind = rank
      ↔ event ∈ ofRank (· == rank) (signalEvents baseline current) := by
  unfold ofRank
  rw [mem_diffSignals, List.mem_filter, beq_iff_eq]

theorem Inventory.Told.tellsDifference {α ι : Type} [BEq ι] [LawfulBEq ι]
    {inventory : Inventory α ι} (htold : inventory.Told) (baseline current : SignalBaseline) :
    TellsDifference inventory baseline current where
  came hbaseline hcurrent event := by
    rw [mem_diffSignals_rank, htold.came, inventory.mem_cameEvents]
    exact ⟨fun h => h.2.2, fun h => ⟨hbaseline, hcurrent, h⟩⟩
  gone hbaseline hcurrent event := by
    rw [mem_diffSignals_rank, htold.gone, inventory.mem_goneEvents]
    exact ⟨fun h => h.2.2, fun h => ⟨hbaseline, hcurrent, h⟩⟩

/-- The kind of an event, seen the other way. -/
def EventKind.reversed : EventKind → EventKind
  | windowOpened => windowClosed
  | windowClosed => windowOpened
  | appLaunched => appTerminated
  | appTerminated => appLaunched
  | focusChangedWindow => focusChangedWindow
  | surfaceAppeared surface => surfaceDismissed surface
  | surfaceDismissed surface => surfaceAppeared surface

/-- An event, seen the other way. -/
def UiEvent.reversed (event : UiEvent) : UiEvent := { event with kind := event.kind.reversed }

/-- The events of coming: opened, launched and appeared. -/
def comings (events : List UiEvent) : List UiEvent := ofRank (fun rank => 3 ≤ rank && rank < 6) events

/-- The events of going: closed, terminated and dismissed. -/
def goings (events : List UiEvent) : List UiEvent := ofRank (fun rank => rank < 3) events

theorem Inventory.map_reversed {α ι : Type} [BEq ι] (inventory : Inventory α ι)
    (hreversed : ∀ item, (inventory.came item).reversed = inventory.gone item)
    (baseline current : SignalBaseline) :
    (inventory.cameEvents baseline current).map UiEvent.reversed
      = inventory.goneEvents current baseline := by
  unfold cameEvents goneEvents
  rw [Bool.and_comm]
  split
  · rw [List.map_map]
    exact List.map_congr_left (fun item _ => hreversed item)
  · rfl

/-- **Two observations that are swapped** have gone what had come. -/
theorem comings_reversed (baseline current : SignalBaseline) :
    (comings (signalEvents baseline current)).map UiEvent.reversed
      = goings (signalEvents current baseline) := by
  unfold comings goings
  rw [ofRank_signalEvents, ofRank_signalEvents]
  simp only [Nat.reduceLeDiff, Nat.reduceLT, decide_true, decide_false, Bool.and_true,
    Bool.and_false, Bool.false_eq_true, if_true, if_false, List.append_nil, List.nil_append,
    List.map_append, windowInventory.map_reversed (fun _ => rfl),
    appInventory.map_reversed (fun _ => rfl), surfaceInventory.map_reversed (fun _ => rfl)]

/-- **The laws of the comparison** that hold of every two observations. -/
structure SignalLaws (baseline current : SignalBaseline) : Prop where
  /-- An observation does not differ from itself. -/
  same : diffSignals baseline baseline = [] ∧ diffSignals current current = []
  /-- Windows that opened and closed are the difference of the identities. -/
  windows : TellsDifference windowInventory baseline current
  /-- So are applications that were launched and terminated. -/
  apps : TellsDifference appInventory baseline current
  /-- So are surfaces that appeared and were dismissed. -/
  surfaces : TellsDifference surfaceInventory baseline current
  /-- Nothing is told of what the later observation has not read to its end. -/
  incomplete : ∀ event ∈ diffSignals baseline current,
    current.completeness.covers event.kind = true
  /-- Swapping the observations swaps coming and going. -/
  swapped : ((comings (diffSignals baseline current)).map UiEvent.reversed).Perm
    (goings (diffSignals current baseline))

theorem signalLaws (baseline current : SignalBaseline) : SignalLaws baseline current where
  same := ⟨diffSignals_self baseline, diffSignals_self current⟩
  windows := windowInventory_told.tellsDifference baseline current
  apps := appInventory_told.tellsDifference baseline current
  surfaces := surfaceInventory_told.tellsDifference baseline current
  incomplete _ hevent := (covers_of_mem_diffSignals hevent).2
  swapped := by
    have hcomings := ((sortByCmp_perm compareEvents (signalEvents baseline current)).filter
      (fun event => 3 ≤ eventRank event.kind && eventRank event.kind < 6)).map UiEvent.reversed
    have hgoings := (sortByCmp_perm compareEvents (signalEvents current baseline)).filter
      (fun event => decide (eventRank event.kind < 3))
    refine hcomings.trans (List.Perm.trans (List.Perm.of_eq ?_) hgoings.symm)
    exact comings_reversed baseline current

/-! ## Whether the order of the listings shows

One direction is an argument about sorting: where no two events are tied, the sorted list is
determined by the events. For the other, two surfaces that are tied are each put first in a listing,
and what is told differs. -/

/-- How the inventories are listed does not show in what is told. -/
def OrderDoesNotShow (baseline current : SignalBaseline) : Prop :=
  ∀ baseline' current', SameInventories baseline baseline' → SameInventories current current' →
    diffSignals baseline' current' = diffSignals baseline current

/-- Surfaces that look alike are of one kind. -/
def KindsTold (surfaces : SurfaceSignal → Prop) : Prop :=
  ∀ surface other, surfaces surface → surfaces other → surface.app = other.app →
    surface.pid = other.pid → surface.title = other.title → surface.kind = other.kind

/-- **The surfaces are told apart**: of those that have come, and of those that have gone, no two have
one application, process and title and differ in their kind. -/
def SurfacesToldApart (baseline current : SignalBaseline) : Prop :=
  baseline.completeness.surfaces = true → current.completeness.surfaces = true →
    KindsTold (Came surfaceIdentity baseline.surfaces current.surfaces)
      ∧ KindsTold (Came surfaceIdentity current.surfaces baseline.surfaces)

theorem eq_of_tied {left right : UiEvent} (htied : compareEvents left right = .eq)
    (hkind : left.kind = right.kind) : left = right := by
  obtain ⟨-, happ, hpid, hwindow, htitle⟩ := eq_of_compareEvents htied
  cases left
  cases right
  simp only at happ hpid hwindow htitle hkind
  rw [happ, hpid, hwindow, htitle, hkind]

theorem kind_eq_of_tied {surfaces : SurfaceSignal → Prop} (htold : KindsTold surfaces)
    {surface other : SurfaceSignal} {appeared : Bool} (hsurface : surfaces surface)
    (hother : surfaces other)
    (htied : compareEvents (surfaceEvent appeared surface) (surfaceEvent appeared other) = .eq) :
    surfaceEvent appeared surface = surfaceEvent appeared other := by
  obtain ⟨-, happ, hpid, -, htitle⟩ := eq_of_compareEvents htied
  have hkind := htold surface other hsurface hother (Option.some.inj happ) (Option.some.inj hpid)
    htitle
  refine eq_of_tied htied ?_
  unfold surfaceEvent
  rw [hkind]

/-- **Where the surfaces are told apart, events that are tied are equal.** -/
theorem SurfacesToldApart.eq_of_tied {baseline current : SignalBaseline}
    (htold : SurfacesToldApart baseline current) {left right : UiEvent}
    (hleft : left ∈ signalEvents baseline current) (hright : right ∈ signalEvents baseline current)
    (htied : compareEvents left right = .eq) : left = right := by
  have hrank := (eq_of_compareEvents htied).1
  have hmem : ∀ {event : UiEvent}, event ∈ signalEvents baseline current → ∀ rank,
      eventRank event.kind = rank → event ∈ ofRank (· == rank) (signalEvents baseline current) := by
    intro event hevent rank hrank
    exact List.mem_filter.mpr ⟨hevent, by simpa using hrank⟩
  cases hkind : left.kind with
  | surfaceAppeared surface =>
    -- both are surfaces that have come
    rw [hkind] at hrank
    have hcame : ofRank (· == 5) (signalEvents baseline current)
        = surfaceInventory.cameEvents baseline current := surfaceInventory_told.came _ _
    have hleft' := hmem hleft 5 (by rw [hkind]; rfl)
    have hright' := hmem hright 5 hrank.symm
    rw [hcame, Inventory.mem_cameEvents] at hleft' hright'
    obtain ⟨hbaseline, hcurrent, item, hcame, rfl⟩ := hleft'
    obtain ⟨-, -, item', hcame', rfl⟩ := hright'
    exact kind_eq_of_tied (htold hbaseline hcurrent).1 hcame hcame' htied
  | surfaceDismissed surface =>
    rw [hkind] at hrank
    have hgone : ofRank (· == 2) (signalEvents baseline current)
        = surfaceInventory.goneEvents baseline current := surfaceInventory_told.gone _ _
    have hleft' := hmem hleft 2 (by rw [hkind]; rfl)
    have hright' := hmem hright 2 hrank.symm
    rw [hgone, Inventory.mem_goneEvents] at hleft' hright'
    obtain ⟨hbaseline, hcurrent, item, hcame, rfl⟩ := hleft'
    obtain ⟨-, -, item', hcame', rfl⟩ := hright'
    exact kind_eq_of_tied (htold hbaseline hcurrent).2 hcame hcame' htied
  | windowOpened | windowClosed | appLaunched | appTerminated | focusChangedWindow =>
    -- the rank tells these kinds
    refine AgentDesktop.eq_of_tied htied ?_
    rw [hkind] at hrank ⊢
    cases hother : right.kind <;> rw [hother] at hrank <;> first | rfl | cases hrank

theorem SurfacesToldApart.orderDoesNotShow {baseline current : SignalBaseline}
    (htold : SurfacesToldApart baseline current) (hfocus : AtMostOneFocused baseline)
    (hfocus' : AtMostOneFocused current) : OrderDoesNotShow baseline current := by
  intro baseline' current' hbaseline hcurrent
  have hperm := signalEvents_perm hbaseline hcurrent hfocus hfocus'
  rw [diffSignals_eq_sort, diffSignals_eq_sort]
  refine (sortByCmp_eq_of_perm compareEvents hperm ?_).symm
  exact fun left hleft right hright htied => htold.eq_of_tied hleft hright htied

/-- **The first event of a rank is the first of those it is tied with**, also once the events are
sorted. -/
theorem head?_tied {events : List UiEvent} {event : UiEvent} {rest : List UiEvent} {rank : ℕ}
    (hrank : eventRank event.kind = rank) (hfirst : ofRank (· == rank) events = event :: rest) :
    ((sortByCmp compareEvents events).filter
      (fun other => compareEvents other event == .eq)).head? = some event := by
  have htied : ∀ left right, (compareEvents left event == .eq) = true →
      (compareEvents right event == .eq) = true → compareEvents left right = .eq := by
    intro left right hleft hright
    exact Std.TransCmp.eq_trans (beq_iff_eq.mp hleft) (Std.OrientedCmp.eq_symm (beq_iff_eq.mp hright))
  rw [filter_sortByCmp compareEvents events _ htied]
  -- what is tied with the event has its rank
  have hranked : events.filter (fun other => compareEvents other event == .eq)
      = (event :: rest).filter (fun other => compareEvents other event == .eq) := by
    rw [← hfirst]
    unfold ofRank
    rw [List.filter_filter]
    refine List.filter_congr (fun other _ => ?_)
    cases hother : compareEvents other event == .eq with
    | false => rfl
    | true =>
      have hsame : (eventRank other.kind == rank) = true := by
        rw [(eq_of_compareEvents (beq_iff_eq.mp hother)).1, hrank, beq_self_eq_true]
      exact (Bool.and_eq_true _ _ ▸ ⟨rfl, hsame⟩ : (true && _) = true).symm
  have hself : (compareEvents event event == .eq) = true :=
    beq_iff_eq.mpr (compareEvents_eq rfl rfl rfl rfl rfl rfl)
  rw [hranked, List.filter_cons, if_pos hself]
  rfl

/-- Two events that are each the first of their rank, in listings that are told alike, are equal when
they are tied. -/
theorem eq_of_first {events events' : List UiEvent} {event event' : UiEvent}
    {rest rest' : List UiEvent} {rank : ℕ} (hrank : eventRank event.kind = rank)
    (hfirst : ofRank (· == rank) events = event :: rest)
    (hfirst' : ofRank (· == rank) events' = event' :: rest')
    (hsame : sortByCmp compareEvents events = sortByCmp compareEvents events')
    (htied : compareEvents event event' = .eq) : event = event' := by
  have htests : (fun other => compareEvents other event == .eq)
      = fun other => compareEvents other event' == .eq := by
    funext other
    rw [Bool.eq_iff_iff, beq_iff_eq, beq_iff_eq]
    exact ⟨fun h => Std.TransCmp.eq_trans h htied,
      fun h => Std.TransCmp.eq_trans h (Std.OrientedCmp.eq_symm htied)⟩
  have hrank' : eventRank event'.kind = rank := (eq_of_compareEvents htied).1.symm.trans hrank
  have hhead := head?_tied hrank hfirst
  rw [hsame, htests, head?_tied hrank' hfirst'] at hhead
  exact (Option.some.inj hhead).symm

/-- An observation that lists a surface first. -/
def surfaceFirst (baseline : SignalBaseline) (surface : SurfaceSignal) : SignalBaseline :=
  { baseline with surfaces := surface :: baseline.surfaces.erase surface }

theorem sameInventories_refl (baseline : SignalBaseline) : SameInventories baseline baseline :=
  ⟨List.Perm.refl _, List.Perm.refl _, List.Perm.refl _, rfl⟩

theorem sameInventories_surfaceFirst {baseline : SignalBaseline} {surface : SurfaceSignal}
    (hmem : surface ∈ baseline.surfaces) :
    SameInventories baseline (surfaceFirst baseline surface) :=
  ⟨List.Perm.refl _, List.Perm.refl _, List.perm_cons_erase hmem, rfl⟩

theorem unseen_surfaceFirst {seen : List SurfaceSignal} {baseline : SignalBaseline}
    {surface : SurfaceSignal} (hcame : Came surfaceIdentity seen baseline.surfaces surface) :
    ∃ rest, unseen surfaceIdentity seen (surfaceFirst baseline surface).surfaces
      = surface :: rest := by
  have hnew := (List.mem_filter.mp (mem_unseen_iff.mpr hcame)).2
  exact ⟨_, List.filter_cons_of_pos hnew⟩

theorem surfaceEvent_tied {surface other : SurfaceSignal} (appeared : Bool)
    (happ : surface.app = other.app) (hpid : surface.pid = other.pid)
    (htitle : surface.title = other.title) :
    compareEvents (surfaceEvent appeared surface) (surfaceEvent appeared other) = .eq := by
  refine compareEvents_eq ?_ ?_ (congrArg some happ) (congrArg some hpid) rfl htitle
  · cases appeared <;> rfl
  · cases appeared <;> rfl

theorem kind_of_surfaceEvent_eq {surface other : SurfaceSignal} {appeared : Bool}
    (h : surfaceEvent appeared surface = surfaceEvent appeared other) :
    surface.kind = other.kind := by
  have hkind := congrArg UiEvent.kind h
  cases appeared with
  | false => exact EventKind.surfaceDismissed.inj hkind
  | true => exact EventKind.surfaceAppeared.inj hkind

theorem ofRank_came_first {baseline current : SignalBaseline} {surface : SurfaceSignal}
    (hcomplete : (baseline.completeness.surfaces && current.completeness.surfaces) = true)
    (hcame : Came surfaceIdentity baseline.surfaces current.surfaces surface) :
    ∃ rest, ofRank (· == 5) (signalEvents baseline (surfaceFirst current surface))
      = surfaceEvent true surface :: rest := by
  obtain ⟨rest, hrest⟩ := unseen_surfaceFirst hcame
  have htold : ofRank (· == 5) (signalEvents baseline (surfaceFirst current surface))
      = surfaceInventory.cameEvents baseline (surfaceFirst current surface) :=
    surfaceInventory_told.came _ _
  rw [htold]
  refine ⟨rest.map (surfaceEvent true), ?_⟩
  show (if baseline.completeness.surfaces && current.completeness.surfaces then
    (unseen surfaceIdentity baseline.surfaces (surfaceFirst current surface).surfaces).map _
    else []) = _
  rw [if_pos hcomplete, hrest, List.map_cons]
  rfl

theorem ofRank_gone_first {baseline current : SignalBaseline} {surface : SurfaceSignal}
    (hcomplete : (baseline.completeness.surfaces && current.completeness.surfaces) = true)
    (hgone : Came surfaceIdentity current.surfaces baseline.surfaces surface) :
    ∃ rest, ofRank (· == 2) (signalEvents (surfaceFirst baseline surface) current)
      = surfaceEvent false surface :: rest := by
  obtain ⟨rest, hrest⟩ := unseen_surfaceFirst hgone
  have htold : ofRank (· == 2) (signalEvents (surfaceFirst baseline surface) current)
      = surfaceInventory.goneEvents (surfaceFirst baseline surface) current :=
    surfaceInventory_told.gone _ _
  rw [htold]
  refine ⟨rest.map (surfaceEvent false), ?_⟩
  show (if baseline.completeness.surfaces && current.completeness.surfaces then
    (unseen surfaceIdentity current.surfaces (surfaceFirst baseline surface).surfaces).map _
    else []) = _
  rw [if_pos hcomplete, hrest, List.map_cons]
  rfl

/-- **Where the order does not show, the surfaces are told apart.** Of two that look alike, either
may be listed first, and is told first then. -/
theorem OrderDoesNotShow.surfacesToldApart {baseline current : SignalBaseline}
    (horder : OrderDoesNotShow baseline current) : SurfacesToldApart baseline current := by
  intro hbaseline hcurrent
  have hcomplete : (baseline.completeness.surfaces && current.completeness.surfaces) = true := by
    rw [hbaseline, hcurrent]
    rfl
  refine ⟨?_, ?_⟩
  · intro surface other hsurface hother happ hpid htitle
    obtain ⟨rest, hrest⟩ := ofRank_came_first hcomplete hsurface
    obtain ⟨rest', hrest'⟩ := ofRank_came_first hcomplete hother
    have hrank : eventRank (surfaceEvent true surface).kind = 5 := rfl
    refine kind_of_surfaceEvent_eq (eq_of_first hrank hrest hrest' ?_
      (surfaceEvent_tied true happ hpid htitle))
    rw [← diffSignals_eq_sort, ← diffSignals_eq_sort,
      horder baseline _ (sameInventories_refl _) (sameInventories_surfaceFirst hsurface.1),
      horder baseline _ (sameInventories_refl _) (sameInventories_surfaceFirst hother.1)]
  · intro surface other hsurface hother happ hpid htitle
    obtain ⟨rest, hrest⟩ := ofRank_gone_first hcomplete hsurface
    obtain ⟨rest', hrest'⟩ := ofRank_gone_first hcomplete hother
    have hrank : eventRank (surfaceEvent false surface).kind = 2 := rfl
    refine kind_of_surfaceEvent_eq (eq_of_first hrank hrest hrest' ?_
      (surfaceEvent_tied false happ hpid htitle))
    rw [← diffSignals_eq_sort, ← diffSignals_eq_sort,
      horder _ current (sameInventories_surfaceFirst hsurface.1) (sameInventories_refl _),
      horder _ current (sameInventories_surfaceFirst hother.1) (sameInventories_refl _)]

/-- **The laws of the comparison.** They hold of every two observations, but for the order: with at
most one focused window each, how the inventories are listed does not show just when the surfaces
that have come, and those that have gone, are told apart by application, process and title. -/
theorem orderDoesNotShow_iff (baseline current : SignalBaseline) :
    SignalLaws baseline current
    ∧ (AtMostOneFocused baseline → AtMostOneFocused current →
      (OrderDoesNotShow baseline current ↔ SurfacesToldApart baseline current)) :=
  ⟨signalLaws baseline current, fun hfocus hfocus' => ⟨OrderDoesNotShow.surfacesToldApart,
    fun htold => htold.orderDoesNotShow hfocus hfocus'⟩⟩

/-- An observation of nothing but surfaces. -/
def sampleSurfaces (surfaces : List SurfaceSignal) : SignalBaseline := ⟨[], [], surfaces, .complete⟩

/-- A surface of one application with this kind. -/
def sampleSurface (kind : SnapshotSurface) (id : String) : SurfaceSignal :=
  ⟨kind, "TextEdit", 200, "instance-200", id, some "Confirm"⟩

theorem atMostOneFocused_sampleSurfaces (surfaces : List SurfaceSignal) :
    AtMostOneFocused (sampleSurfaces surfaces) :=
  fun _ hwindow => absurd hwindow List.not_mem_nil

/-- A window of one application with this id and this focus. -/
def sampleWindow (id : String) (isFocused : Bool) : WindowInfo :=
  ⟨id, "Notes", "TextEdit", 200, some "instance-200", none, ⟨isFocused, true, none, none⟩⟩

/-- The sheet of the window. -/
def savedSheet : SurfaceSignal := { sampleSurface .sheet "a" with title := some "Saved" }

/-- Before: one window, which has the focus. -/
def beforeSheet : SignalBaseline := ⟨[sampleWindow "w-1" true], [], [], .complete⟩

/-- After: a second window has the focus, and these surfaces are shown. -/
def afterSheet (surfaces : List SurfaceSignal) : SignalBaseline :=
  ⟨[sampleWindow "w-1" false, sampleWindow "w-2" true], [], surfaces, .complete⟩

/-- A sheet and an alert of different titles are told in one order, however they are listed. -/
theorem orderDoesNotShow_iff_sample :
    (SurfacesToldApart beforeSheet (afterSheet [savedSheet, sampleSurface .alert "b"])
      ∧ OrderDoesNotShow beforeSheet (afterSheet [savedSheet, sampleSurface .alert "b"]))
    ∧ diffSignals beforeSheet (afterSheet [sampleSurface .alert "b", savedSheet])
      = diffSignals beforeSheet (afterSheet [savedSheet, sampleSurface .alert "b"]) := by
  have htold : SurfacesToldApart beforeSheet
      (afterSheet [savedSheet, sampleSurface .alert "b"]) := by
    refine fun _ _ => ⟨fun surface other hsurface hother _ _ htitle => ?_,
      fun surface other hsurface => ?_⟩
    · have hall : ∀ surface ∈ unseen surfaceIdentity [] [savedSheet, sampleSurface .alert "b"],
          ∀ other ∈ unseen surfaceIdentity [] [savedSheet, sampleSurface .alert "b"],
            surface.title = other.title → surface.kind = other.kind := by decide
      exact hall surface (mem_unseen_iff.mpr hsurface) other (mem_unseen_iff.mpr hother) htitle
    · exact absurd hsurface.1 List.not_mem_nil
  have horder := ((orderDoesNotShow_iff beforeSheet
    (afterSheet [savedSheet, sampleSurface .alert "b"])).2 (by unfold AtMostOneFocused; decide)
      (by unfold AtMostOneFocused; decide)).mpr htold
  exact ⟨⟨htold, horder⟩, horder beforeSheet (afterSheet [sampleSurface .alert "b", savedSheet])
    (sameInventories_refl _) ⟨.refl _, .refl _, List.Perm.swap _ _ [], rfl⟩⟩

/-- **A sheet and an alert of one title** that appear together are told in the order they are listed
in. -/
theorem diffSignals_shows_order :
    ¬ ∀ baseline current, AtMostOneFocused baseline → AtMostOneFocused current →
      OrderDoesNotShow baseline current := by
  intro hclaim
  have horder := hclaim (sampleSurfaces [])
    (sampleSurfaces [sampleSurface .sheet "a", sampleSurface .alert "b"])
    (atMostOneFocused_sampleSurfaces _) (atMostOneFocused_sampleSurfaces _)
  have htold := (horder.surfacesToldApart rfl rfl).1 (sampleSurface .sheet "a")
    (sampleSurface .alert "b") (mem_unseen_iff.mp (by decide))
    (mem_unseen_iff.mp (by decide)) rfl rfl rfl
  cases htold

end AgentDesktop
