import AgentDesktop.Util.Ends
import AgentDesktop.WindowResolve

/-!
# Which window is found

The accessible windows of an application are shown with a role, a title and an answer of the
bridge each. A search for a number that comes to a window with it returns that window. Where it
does not, the only window with the title is returned – also when the bridge has just answered
that its number is another one.
-/

namespace AgentDesktop

/-- An answer of the bridge. -/
inductive BridgeAnswer
  /-- The window has a number. -/
  | number (number : ℤ)
  | none
  /-- The bridge is not there. -/
  | unavailable
  deriving DecidableEq

/-- What `window_bridge::window_id` makes of it. -/
def BridgeAnswer.result : BridgeAnswer → Except AdapterError (Option ℤ)
  | .number actual => .ok (some actual)
  | .none => .ok Option.none
  | .unavailable => .error bridgeUnavailable

/-- **What the accessible windows show.** -/
structure WindowFacts (W : Type) where
  role : W → Option String
  title : W → Option String
  /-- What the bridge answers. -/
  answer : W → BridgeAnswer

namespace WindowFacts

variable {σ W : Type} (facts : WindowFacts W) (windowNumber : ℤ)

/-- Whether an element is a window. -/
def isWindow (window : W) : Bool := facts.role window == some "AXWindow"

/-- Whether a window is reported to have the number. -/
def reports (window : W) : Bool :=
  facts.isWindow window && facts.answer window == .number windowNumber

/-- Whether the number of a window is known to differ. -/
def differs (window : W) : Bool :=
  match facts.answer window with
  | .number actual => actual != windowNumber
  | .none | .unavailable => false

/-- Whether an element is a window with a title. -/
def titled (title : String) (window : W) : Bool :=
  facts.isWindow window && facts.title window == some title

/-- Whether the bridge is not there when it is asked about a window. -/
def endsBridge (window : W) : Bool :=
  facts.isWindow window && facts.answer window == .unavailable

/-- **A window with the number is reported** before the bridge is found not to be there. -/
def FoundByNumber (windows : List W) : Prop :=
  ∃ front window back, windows = front ++ window :: back
    ∧ facts.reports windowNumber window = true ∧ ∀ w ∈ front, facts.endsBridge w = false

/-- The windows are the accessible ones of an application, and every read answers what they
show. -/
structure Shown (world : WindowWorld σ W) (windows : List W) (pid : ℤ) (deadline : ℕ) :
    Prop where
  /-- There is time left. -/
  clock : ∀ s, (world.clock s).1 < deadline
  /-- They are the windows. -/
  readWindows : ∀ s, (world.readWindows pid deadline s).1
    = .ok (if windows.isEmpty then none else some windows)
  /-- They are prepared for reads. -/
  setMessagingTimeout : ∀ w ∈ windows, ∀ s, (world.setMessagingTimeout w deadline s).1 = .ok ()
  /-- Their roles are read. -/
  role : ∀ w ∈ windows, ∀ s, (world.readString w "AXRole" deadline s).1 = .ok (facts.role w)
  /-- Their titles are read. -/
  title : ∀ w ∈ windows, ∀ s, (world.readString w "AXTitle" deadline s).1 = .ok (facts.title w)
  /-- The bridge answers. -/
  windowId : ∀ w ∈ windows, ∀ s, (world.windowId w deadline s).1 = (facts.answer w).result

/-! ## Windows with the number -/

theorem foundByNumber_cons {window : W} {rest : List W} :
    facts.FoundByNumber windowNumber (window :: rest)
      ↔ facts.reports windowNumber window = true
        ∨ (facts.endsBridge window = false ∧ facts.FoundByNumber windowNumber rest) := by
  constructor
  · rintro ⟨front, found, back, hsplit, hreports, hfront⟩
    cases front with
    | nil => exact .inl ((List.cons.inj hsplit).1 ▸ hreports)
    | cons head tail =>
      obtain ⟨rfl, rfl⟩ := List.cons.inj hsplit
      exact .inr ⟨hfront window (List.mem_cons_self ..), tail, found, back, rfl, hreports,
        fun w hw => hfront w (List.mem_cons_of_mem _ hw)⟩
  · rintro (hreports | ⟨hbridge, front, found, back, rfl, hreports, hfront⟩)
    · exact ⟨[], window, rest, rfl, hreports, fun _ hw => absurd hw List.not_mem_nil⟩
    · exact ⟨window :: front, found, back, rfl, hreports, List.forall_mem_cons.mpr ⟨hbridge, hfront⟩⟩

theorem FoundByNumber.exists_reports {windows : List W}
    (h : facts.FoundByNumber windowNumber windows) :
    ∃ w ∈ windows, facts.reports windowNumber w = true := by
  obtain ⟨front, window, back, rfl, hreports, -⟩ := h
  exact ⟨window, List.mem_append_right _ (List.mem_cons_self ..), hreports⟩

theorem differs_of_reports {window : W} (h : facts.reports windowNumber window = true) :
    facts.differs windowNumber window = false := by
  have hanswer : facts.answer window = .number windowNumber :=
    eq_of_beq (Bool.and_eq_true_iff.mp h).2
  unfold differs
  rw [hanswer]
  exact bne_self_eq_false windowNumber

/-- What the windows with a title come to. -/
def singleOutcome (title : String) : List W → Outcome AdapterError (Option W)
  | [] => .ok none
  | [window] => .ok (some window)
  | _ :: _ :: _ => .error (verifiedTitleAmbiguous title)

/-! ## The loops

The loops read one window after the other. The first asks the bridge for the number of each, returns
at the first that has it, and gives up when the bridge is not there. The second does not ask the
bridge: it goes through all titles, and a second window with the title ends it with an error. -/

namespace Shown

variable {facts} {world : WindowWorld σ W} {windows : List W} {pid : ℤ} {deadline : ℕ}

theorem locatorRemaining_ends (h : facts.Shown world windows pid deadline) :
    (world.locatorRemaining deadline).Ends (.ok ()) := by
  refine Prog.Ends.ask_bind (fun s => ?_)
  have hclock : deadline - (world.clock s).1 ≠ 0 := Nat.sub_ne_zero_of_lt (h.clock s)
  unfold remainingAt
  rw [if_neg hclock]
  exact fun _ => rfl

theorem prepareForRead_ends (h : facts.Shown world windows pid deadline) {window : W}
    (hwindow : window ∈ windows) : (world.prepareForRead window deadline).Ends (.ok ()) :=
  h.locatorRemaining_ends.bind (Prog.Ends.call (h.setMessagingTimeout window hwindow))

theorem axWindowId_ends (h : facts.Shown world windows pid deadline) {window : W}
    (hwindow : window ∈ windows) (actual : Option ℤ)
    (hanswer : (facts.answer window).result = .ok actual) :
    (world.axWindowId window deadline).Ends (.ok actual) := by
  refine (h.prepareForRead_ends hwindow).bind ?_
  refine (Prog.Ends.call (fun s => (h.windowId window hwindow s).trans hanswer)).bind ?_
  exact h.locatorRemaining_ends.bind (Prog.Ends.pure actual)

theorem axWindowId_ends_error (h : facts.Shown world windows pid deadline) {window : W}
    (hwindow : window ∈ windows) (error : AdapterError)
    (hanswer : (facts.answer window).result = .error error) :
    (world.axWindowId window deadline).Ends (.error error) := by
  refine (h.prepareForRead_ends hwindow).bind ?_
  exact (Prog.Ends.call_error
    (fun s => (h.windowId window hwindow s).trans hanswer)).bind_error

theorem windowsForPid_ends (h : facts.Shown world windows pid deadline) :
    (world.windowsForPid pid deadline).Ends (.ok windows) := by
  refine (Prog.Ends.call h.readWindows).bind ?_
  cases windows with
  | nil => exact Prog.Ends.pure _
  | cons window rest => exact Prog.Ends.pure _

theorem role_bind_ends (h : facts.Shown world windows pid deadline) {window : W}
    (hwindow : window ∈ windows) {α : Type} {f : Option String → WindowProg σ α}
    {o : Outcome AdapterError α} (hf : (f (facts.role window)).Ends o) :
    (world.prepareForRead window deadline >>= fun _ =>
      Prog.call (world.readString window "AXRole" deadline) >>= f).Ends o :=
  (h.prepareForRead_ends hwindow).bind ((Prog.Ends.call (h.role window hwindow)).bind hf)

theorem findByNumber_of_reports (h : facts.Shown world windows pid deadline) {window : W}
    (hwindow : window ∈ windows) (rest : List W)
    (hreports : facts.reports windowNumber window = true) :
    (world.findByNumber windowNumber deadline (window :: rest)).Ends (.ok (some window, none)) := by
  obtain ⟨hrole, hanswer⟩ := Bool.and_eq_true_iff.mp hreports
  refine h.role_bind_ends hwindow ?_
  rw [if_neg (not_not.mpr (eq_of_beq hrole))]
  refine (h.axWindowId_ends hwindow (some windowNumber) ?_).attempt.bind ?_
  · rw [eq_of_beq hanswer]
    rfl
  · show (ite _ _ _ : WindowProg σ _).Ends _
    rw [if_pos rfl]
    exact Prog.Ends.pure _

theorem findByNumber_of_endsBridge (h : facts.Shown world windows pid deadline) {window : W}
    (hwindow : window ∈ windows) (rest : List W) (hbridge : facts.endsBridge window = true) :
    (world.findByNumber windowNumber deadline (window :: rest)).Ends
      (.ok (none, some bridgeUnavailable)) := by
  obtain ⟨hrole, hanswer⟩ := Bool.and_eq_true_iff.mp hbridge
  refine h.role_bind_ends hwindow ?_
  rw [if_neg (not_not.mpr (eq_of_beq hrole))]
  refine (h.axWindowId_ends_error hwindow bridgeUnavailable ?_).attempt_error.bind ?_
  · rw [eq_of_beq hanswer]
    rfl
  · show (ite _ _ _ : WindowProg σ _).Ends _
    rw [if_pos (by decide)]
    exact Prog.Ends.pure _

theorem findByNumber_of_passed (h : facts.Shown world windows pid deadline) {window : W}
    (hwindow : window ∈ windows) {rest : List W} {o : Outcome AdapterError _}
    (hreports : facts.reports windowNumber window = false)
    (hbridge : facts.endsBridge window = false)
    (hrest : (world.findByNumber windowNumber deadline rest).Ends o) :
    (world.findByNumber windowNumber deadline (window :: rest)).Ends o := by
  refine h.role_bind_ends hwindow ?_
  by_cases hrole : facts.role window = some "AXWindow"
  · rw [if_neg (not_not.mpr hrole)]
    have hiswindow : facts.isWindow window = true := beq_iff_eq.mpr hrole
    unfold reports at hreports
    unfold endsBridge at hbridge
    rw [hiswindow, Bool.true_and] at hreports hbridge
    cases hanswer : facts.answer window with
    | number actual =>
      refine (h.axWindowId_ends hwindow (some actual) ?_).attempt.bind ?_
      · rw [hanswer]
        rfl
      · have hactual : ¬some actual = some windowNumber := by
          rintro hactual
          rw [hanswer, Option.some.inj hactual, beq_self_eq_true] at hreports
          exact Bool.false_ne_true hreports.symm
        show (ite _ _ _ : WindowProg σ _).Ends _
        rw [if_neg hactual]
        exact hrest
    | none =>
      refine (h.axWindowId_ends hwindow none ?_).attempt.bind ?_
      · rw [hanswer]
        rfl
      · show (ite _ _ _ : WindowProg σ _).Ends _
        rw [if_neg (Option.some_ne_none _).symm]
        exact hrest
    | unavailable =>
      rw [hanswer, beq_self_eq_true] at hbridge
      exact absurd hbridge.symm Bool.false_ne_true
  · rw [if_pos hrole]
    exact hrest

/-- **The first loop finds a window with the number**, where one is reported. -/
theorem findByNumber_found (h : facts.Shown world windows pid deadline) {rest : List W}
    (hrest : ∀ w ∈ rest, w ∈ windows) (hfound : facts.FoundByNumber windowNumber rest) :
    ∃ w ∈ rest, facts.reports windowNumber w = true
      ∧ (world.findByNumber windowNumber deadline rest).Ends (.ok (some w, none)) := by
  induction rest with
  | nil =>
    obtain ⟨w, hw, -⟩ := hfound.exists_reports
    exact absurd hw List.not_mem_nil
  | cons window rest ih =>
    obtain ⟨hwindow, hrest⟩ := List.forall_mem_cons.mp hrest
    cases hreports : facts.reports windowNumber window with
    | true =>
      exact ⟨window, List.mem_cons_self .., hreports,
        h.findByNumber_of_reports windowNumber hwindow rest hreports⟩
    | false =>
      obtain hfirst | ⟨hbridge, hfound⟩ := (facts.foundByNumber_cons windowNumber).mp hfound
      · rw [hreports] at hfirst
        exact absurd hfirst Bool.false_ne_true
      · obtain ⟨w, hw, hwreports, hends⟩ := ih hrest hfound
        exact ⟨w, List.mem_cons_of_mem _ hw, hwreports,
          h.findByNumber_of_passed windowNumber hwindow hreports hbridge hends⟩

/-- **The first loop finds no window** where none is reported before the bridge is not there. -/
theorem findByNumber_none (h : facts.Shown world windows pid deadline) {rest : List W}
    (hrest : ∀ w ∈ rest, w ∈ windows) (hfound : ¬facts.FoundByNumber windowNumber rest) :
    ∃ unavailableBridge,
      (world.findByNumber windowNumber deadline rest).Ends (.ok (none, unavailableBridge)) := by
  induction rest with
  | nil => exact ⟨none, Prog.Ends.pure _⟩
  | cons window rest ih =>
    obtain ⟨hwindow, hrest⟩ := List.forall_mem_cons.mp hrest
    have hcons := mt (facts.foundByNumber_cons windowNumber).mpr hfound
    have hreports : facts.reports windowNumber window = false :=
      eq_false_of_ne_true (fun hreports => hcons (.inl hreports))
    cases hbridge : facts.endsBridge window with
    | true => exact ⟨_, h.findByNumber_of_endsBridge windowNumber hwindow rest hbridge⟩
    | false =>
      obtain ⟨unavailableBridge, hends⟩ := ih hrest (fun hfound => hcons (.inr ⟨hbridge, hfound⟩))
      exact ⟨unavailableBridge,
        h.findByNumber_of_passed windowNumber hwindow hreports hbridge hends⟩

/-- **The second loop looks for the only window with the title.** -/
theorem findByTitle_ends (h : facts.Shown world windows pid deadline) (title : String)
    {rest : List W} (hrest : ∀ w ∈ rest, w ∈ windows) (singleMatch : Option W) :
    (world.findByTitle title deadline rest singleMatch).Ends
      (singleOutcome title (singleMatch.toList ++ rest.filter (facts.titled title))) := by
  induction rest generalizing singleMatch with
  | nil =>
    rw [List.filter_nil, List.append_nil]
    cases singleMatch <;> exact Prog.Ends.pure _
  | cons window rest ih =>
    obtain ⟨hwindow, hrest⟩ := List.forall_mem_cons.mp hrest
    refine h.role_bind_ends hwindow ?_
    by_cases hrole : facts.role window = some "AXWindow"
    · rw [if_neg (not_not.mpr hrole)]
      have hiswindow : facts.isWindow window = true := beq_iff_eq.mpr hrole
      refine (Prog.Ends.call (h.title window hwindow)).bind ?_
      by_cases htitle : facts.title window = some title
      · have htitled : facts.titled title window = true := by
          unfold titled
          rw [hiswindow, htitle, beq_self_eq_true, Bool.true_and]
        rw [if_neg (not_not.mpr htitle), List.filter_cons_of_pos htitled]
        cases singleMatch with
        | none => exact ih hrest (some window)
        | some first => exact Prog.Ends.fail _
      · have htitled : ¬facts.titled title window = true := by
          unfold titled
          rw [hiswindow, Bool.true_and, beq_iff_eq]
          exact htitle
        rw [if_pos htitle, List.filter_cons_of_neg htitled]
        exact ih hrest singleMatch
    · have htitled : ¬facts.titled title window = true := by
        unfold titled isWindow
        rw [Bool.and_eq_true, beq_iff_eq]
        exact fun hboth => hrole hboth.1
      rw [if_pos hrole, List.filter_cons_of_neg htitled]
      exact ih hrest singleMatch

theorem noWindow_ends (unavailableBridge : Option AdapterError) :
    ∃ o : Outcome AdapterError (Option W), (∀ window, o ≠ .ok (some window))
      ∧ (WindowWorld.noWindow unavailableBridge : WindowProg σ (Option W)).Ends o := by
  cases unavailableBridge with
  | none => exact ⟨.ok none, fun window => (by simp), Prog.Ends.pure _⟩
  | some error => exact ⟨.error error, fun window => (by simp), Prog.Ends.fail _⟩

/-- **The title stands in** where exactly one window has it. -/
theorem fallBackToTitle_ends (h : facts.Shown world windows pid deadline)
    (fallbackTitle : Option String) (unavailableBridge : Option AdapterError) :
    (∃ title window, fallbackTitle = some title
        ∧ windows.filter (facts.titled title) = [window]
        ∧ (world.fallBackToTitle windows fallbackTitle unavailableBridge deadline).Ends
          (.ok (some window)))
      ∨ ((∀ title window, fallbackTitle = some title →
          windows.filter (facts.titled title) ≠ [window])
        ∧ ∃ o, (∀ window, o ≠ .ok (some window))
          ∧ (world.fallBackToTitle windows fallbackTitle unavailableBridge deadline).Ends o) := by
  cases fallbackTitle with
  | none => exact .inr ⟨fun _ _ htitle => (by cases htitle), noWindow_ends unavailableBridge⟩
  | some title =>
    have hends := h.findByTitle_ends title (fun _ hw => hw) none
    rw [Option.toList_none, List.nil_append] at hends
    cases hmatches : windows.filter (facts.titled title) with
    | nil =>
      rw [hmatches] at hends
      obtain ⟨o, ho, hnone⟩ := noWindow_ends (σ := σ) (W := W) unavailableBridge
      refine .inr ⟨?_, o, ho, hends.bind hnone⟩
      rintro title' window htitle hsingle
      rw [← Option.some.inj htitle, hmatches] at hsingle
      exact absurd hsingle.symm (List.cons_ne_nil _ _)
    | cons window others =>
      rw [hmatches] at hends
      cases others with
      | nil => exact .inl ⟨title, window, rfl, hmatches, hends.bind (Prog.Ends.pure _)⟩
      | cons second others =>
        refine .inr ⟨?_, .error (verifiedTitleAmbiguous title), fun _ => (by simp),
          hends.bind_error⟩
        rintro title' window' htitle hsingle
        rw [← Option.some.inj htitle, hmatches] at hsingle
        exact absurd (List.cons.inj hsingle).2 (List.cons_ne_nil _ _)

/-- **What the lookup comes to**: a window with the number, or what the title comes to. -/
theorem axWindowElementForNumber_ends (h : facts.Shown world windows pid deadline)
    (fallbackTitle : Option String) :
    (facts.FoundByNumber windowNumber windows ∧ ∃ window ∈ windows,
        facts.reports windowNumber window = true
          ∧ (world.axWindowElementForNumber pid windowNumber fallbackTitle deadline).Ends
            (.ok (some window)))
      ∨ (¬facts.FoundByNumber windowNumber windows ∧ ∃ unavailableBridge, ∀ o,
        (world.fallBackToTitle windows fallbackTitle unavailableBridge deadline).Ends o →
          (world.axWindowElementForNumber pid windowNumber fallbackTitle deadline).Ends o) := by
  by_cases hfound : facts.FoundByNumber windowNumber windows
  · obtain ⟨window, hwindow, hreports, hends⟩ :=
      h.findByNumber_found windowNumber (fun _ hw => hw) hfound
    exact .inl ⟨hfound, window, hwindow, hreports,
      h.windowsForPid_ends.bind (hends.bind (Prog.Ends.pure _))⟩
  · obtain ⟨unavailableBridge, hends⟩ :=
      h.findByNumber_none windowNumber (fun _ hw => hw) hfound
    exact .inr ⟨hfound, unavailableBridge,
      fun o ho => h.windowsForPid_ends.bind (hends.bind ho)⟩

end Shown

/-! ## A strict lookup

The lookup can go wrong only where the title decides. So the condition is about what the windows
show, and not about the lookup: the number is reported, or there is not exactly one window with the
title, or nothing says that the number of this one differs. -/

/-- **A strict lookup** for a number, by how it ends. -/
structure StrictLookup (fallbackTitle : Option String) (windows : List W)
    (o : Outcome AdapterError (Option W)) : Prop where
  /-- No other number is reported for the window that is returned. -/
  same : ∀ window, o = .ok (some window) → facts.differs windowNumber window = false
  /-- Where a window reports the number, that one is returned. -/
  reported : (∃ window ∈ windows, facts.reports windowNumber window = true) →
    ∃ window ∈ windows, facts.reports windowNumber window = true ∧ o = .ok (some window)
  /-- What the title returns is the only window that has it and is not known to differ. -/
  titled : ∀ window, o = .ok (some window) → ¬facts.FoundByNumber windowNumber windows →
    ∃ title, fallbackTitle = some title
      ∧ windows.filter (fun w => facts.titled title w && !facts.differs windowNumber w) = [window]

/-- **The title does not mislead**: the number is found, or the only window with the title is not
known to differ, and reports the number itself if any does. -/
def TitleSafe (fallbackTitle : Option String) (windows : List W) : Prop :=
  facts.FoundByNumber windowNumber windows
    ∨ ((∀ title window, fallbackTitle = some title →
        windows.filter (facts.titled title) = [window] →
          facts.differs windowNumber window = false)
      ∧ ((∃ window ∈ windows, facts.reports windowNumber window = true) →
        ∃ title window, fallbackTitle = some title
          ∧ windows.filter (facts.titled title) = [window]
          ∧ facts.reports windowNumber window = true))

/-- The only window with a title that is not known to differ, if it is the only one at all. -/
theorem filter_titled_not_differs {title : String} {windows : List W} {window : W}
    (hsingle : windows.filter (facts.titled title) = [window])
    (hdiffers : facts.differs windowNumber window = false) :
    windows.filter (fun w => facts.titled title w && !facts.differs windowNumber w) = [window] := by
  have hand : (fun w => facts.titled title w && !facts.differs windowNumber w)
      = fun w => !facts.differs windowNumber w && facts.titled title w :=
    funext (fun w => Bool.and_comm _ _)
  rw [hand, ← List.filter_filter, hsingle]
  simp [hdiffers]

variable {facts} in
theorem StrictLookup.of_found {fallbackTitle : Option String} {windows : List W} {window : W}
    (hfound : facts.FoundByNumber windowNumber windows) (hwindow : window ∈ windows)
    (hreports : facts.reports windowNumber window = true) :
    facts.StrictLookup windowNumber fallbackTitle windows (.ok (some window)) where
  same := fun window' ho => by
    rw [← Option.some.inj (Outcome.ok.inj ho)]
    exact facts.differs_of_reports windowNumber hreports
  reported := fun _ => ⟨window, hwindow, hreports, rfl⟩
  titled := fun _ _ hnot => absurd hfound hnot

variable {facts} {windowNumber}

/-- Where the title returns a window, the lookup is strict if and only if it does not mislead. -/
theorem strictLookup_of_single {title : String} {windows : List W} {window : W}
    (hfound : ¬facts.FoundByNumber windowNumber windows)
    (hsingle : windows.filter (facts.titled title) = [window]) :
    facts.StrictLookup windowNumber (some title) windows (.ok (some window))
      ↔ facts.TitleSafe windowNumber (some title) windows := by
  have hsame : ∀ title' window', some title = some title' →
      windows.filter (facts.titled title') = [window'] → window' = window := by
    rintro title' window' htitle hsingle'
    rw [← Option.some.inj htitle, hsingle] at hsingle'
    exact (List.singleton_inj.mp hsingle').symm
  constructor
  · refine fun hstrict => .inr ⟨fun title' window' htitle hsingle' => ?_, fun hreported => ?_⟩
    · rw [hsame title' window' htitle hsingle']
      exact hstrict.same window rfl
    · obtain ⟨window', -, hreports, hwindow⟩ := hstrict.reported hreported
      rw [← Option.some.inj (Outcome.ok.inj hwindow)] at hreports
      exact ⟨title, window, rfl, hsingle, hreports⟩
  · rintro (h | ⟨hdiffers, hreported⟩)
    · exact absurd h hfound
    · refine ⟨fun window' ho => ?_, fun hany => ?_, fun window' ho _ => ?_⟩
      · rw [← Option.some.inj (Outcome.ok.inj ho)]
        exact hdiffers title window rfl hsingle
      · obtain ⟨title', window', htitle, hsingle', hreports⟩ := hreported hany
        obtain rfl := hsame title' window' htitle hsingle'
        have hmem : window' ∈ windows.filter (facts.titled title) :=
          hsingle ▸ List.mem_singleton_self window'
        exact ⟨window', List.mem_of_mem_filter hmem, hreports, rfl⟩
      · rw [← Option.some.inj (Outcome.ok.inj ho)]
        exact ⟨title, rfl, facts.filter_titled_not_differs windowNumber hsingle
          (hdiffers title window rfl hsingle)⟩

/-- Where the title returns no window, the lookup is strict if and only if no window reports the
number. -/
theorem strictLookup_of_no_single {fallbackTitle : Option String} {windows : List W}
    {o : Outcome AdapterError (Option W)} (hfound : ¬facts.FoundByNumber windowNumber windows)
    (hsingle : ∀ title window, fallbackTitle = some title →
      windows.filter (facts.titled title) ≠ [window]) (ho : ∀ window, o ≠ .ok (some window)) :
    facts.StrictLookup windowNumber fallbackTitle windows o
      ↔ facts.TitleSafe windowNumber fallbackTitle windows := by
  constructor
  · refine fun hstrict => .inr ⟨fun title window htitle hone => ?_, fun hreported => ?_⟩
    · exact absurd hone (hsingle title window htitle)
    · obtain ⟨window, -, -, hwindow⟩ := hstrict.reported hreported
      exact absurd hwindow (ho window)
  · rintro (h | ⟨-, hreported⟩)
    · exact absurd h hfound
    · refine ⟨fun window hwindow => absurd hwindow (ho window), fun hany => ?_,
        fun window hwindow _ => absurd hwindow (ho window)⟩
      obtain ⟨title, window, htitle, hone, -⟩ := hreported hany
      exact absurd hone (hsingle title window htitle)

/-- Where the bridge is there for all windows or for none, as that of one process is, the title
does not mislead if the number is reported, or if the only window with the title is not known to
differ. -/
theorem titleSafe_iff_of_bridge {fallbackTitle : Option String} {windows : List W}
    (hbridge : (∀ window ∈ windows, facts.answer window ≠ .unavailable)
      ∨ ∀ window ∈ windows, facts.answer window = .unavailable) :
    facts.TitleSafe windowNumber fallbackTitle windows
      ↔ (∃ window ∈ windows, facts.reports windowNumber window = true)
        ∨ ∀ title window, fallbackTitle = some title →
          windows.filter (facts.titled title) = [window] →
            facts.differs windowNumber window = false := by
  have hfound : (∃ window ∈ windows, facts.reports windowNumber window = true) →
      facts.FoundByNumber windowNumber windows := by
    rintro ⟨window, hwindow, hreports⟩
    obtain ⟨front, back, rfl⟩ := List.append_of_mem hwindow
    refine ⟨front, window, back, rfl, hreports, fun w hw => ?_⟩
    rcases hbridge with hthere | hnone
    · have hanswer := hthere w (List.mem_append_left _ hw)
      unfold endsBridge
      rw [beq_eq_false_iff_ne.mpr hanswer, Bool.and_false]
    · have hanswer : facts.answer window = .number windowNumber :=
        eq_of_beq (Bool.and_eq_true_iff.mp hreports).2
      rw [hnone window hwindow] at hanswer
      cases hanswer
  constructor
  · rintro (h | ⟨hdiffers, -⟩)
    · exact .inl h.exists_reports
    · exact .inr hdiffers
  · rintro (hany | hdiffers)
    · exact .inl (hfound hany)
    · by_cases hany : ∃ window ∈ windows, facts.reports windowNumber window = true
      · exact .inl (hfound hany)
      · exact .inr ⟨hdiffers, fun h => absurd h hany⟩

namespace Shown

variable {world : WindowWorld σ W} {windows : List W} {pid : ℤ} {deadline : ℕ}

variable (windowNumber) in
theorem countByNumber_ends (h : facts.Shown world windows pid deadline) {rest : List W}
    (hrest : ∀ w ∈ rest, w ∈ windows) (matched : WindowWorld.NumberMatches W)
    (hmatched : ∀ w ∈ matched.found, facts.answer w = .number windowNumber) :
    ∃ matched' : WindowWorld.NumberMatches W, ∃ unavailableBridge,
      (world.countByNumber windowNumber deadline rest matched).Ends
          (.ok (matched', unavailableBridge))
        ∧ ∀ w ∈ matched'.found, facts.answer w = .number windowNumber := by
  induction rest generalizing matched with
  | nil => exact ⟨matched, none, Prog.Ends.pure _, hmatched⟩
  | cons window rest ih =>
    obtain ⟨hwindow, hrest⟩ := List.forall_mem_cons.mp hrest
    cases hanswer : facts.answer window with
    | number actual =>
      have hid : (world.axWindowId window deadline).Ends (.ok (some actual)) :=
        h.axWindowId_ends hwindow (some actual) (by rw [hanswer]; rfl)
      by_cases hactual : some actual = some windowNumber
      · have hpush : ∀ w ∈ (matched.push window).found, facts.answer w = .number windowNumber := by
          intro w hw
          rcases Option.or_eq_some_iff.mp hw with hold | ⟨-, hnew⟩
          · exact hmatched w hold
          · rw [← Option.some.inj hnew, hanswer, Option.some.inj hactual]
        obtain ⟨matched', unavailableBridge, hends, hfound⟩ := ih hrest _ hpush
        refine ⟨matched', unavailableBridge,
          h.locatorRemaining_ends.bind (hid.attempt.bind ?_), hfound⟩
        show (ite _ _ _ : WindowProg σ _).Ends _
        rw [if_pos hactual]
        exact hends
      · obtain ⟨matched', unavailableBridge, hends, hfound⟩ := ih hrest matched hmatched
        refine ⟨matched', unavailableBridge,
          h.locatorRemaining_ends.bind (hid.attempt.bind ?_), hfound⟩
        show (ite _ _ _ : WindowProg σ _).Ends _
        rw [if_neg hactual]
        exact hends
    | none =>
      have hid : (world.axWindowId window deadline).Ends (.ok none) :=
        h.axWindowId_ends hwindow none (by rw [hanswer]; rfl)
      obtain ⟨matched', unavailableBridge, hends, hfound⟩ := ih hrest matched hmatched
      exact ⟨matched', unavailableBridge,
        h.locatorRemaining_ends.bind (hid.attempt.bind hends), hfound⟩
    | unavailable =>
      have hid : (world.axWindowId window deadline).Ends (.error bridgeUnavailable) :=
        h.axWindowId_ends_error hwindow bridgeUnavailable (by rw [hanswer]; rfl)
      refine ⟨matched, some bridgeUnavailable,
        h.locatorRemaining_ends.bind (hid.attempt_error.bind ?_), hmatched⟩
      show (ite _ _ _ : WindowProg σ _).Ends _
      rw [if_pos (by decide)]
      exact Prog.Ends.pure _

/-- **The search for a saved window** returns windows with its number only. -/
theorem windowByNumber_gives (h : facts.Shown world windows pid deadline) (entry : RefEntry) :
    (world.windowByNumber windows entry deadline).Gives (fun found => ∀ window ∈ found,
      ∃ windowNumber, WindowWorld.sourceWindowNumber entry = some windowNumber
        ∧ facts.answer window = .number windowNumber) := by
  unfold WindowWorld.windowByNumber
  cases hnumber : WindowWorld.sourceWindowNumber entry with
  | none => exact Prog.Gives.pure (fun _ hw => by cases hw)
  | some windowNumber =>
    obtain ⟨matched, unavailableBridge, hends, hfound⟩ :=
      h.countByNumber_ends windowNumber (fun _ hw => hw) ⟨none, 0⟩
        (fun _ hw => by cases hw)
    refine Prog.Gives.bind (Q := fun answer => answer = (matched, unavailableBridge))
      (fun s answer hanswer => ?_) ?_
    · rw [hends s] at hanswer
      exact (Outcome.ok.inj hanswer).symm
    · rintro answer rfl
      cases unavailableBridge with
      | some error => exact Prog.Gives.fail error
      | none =>
        refine Prog.Gives.bind' (fun _ => ?_)
        cases hmatched : matched.found with
        | none => exact Prog.Gives.fail _
        | some window =>
          refine Prog.Gives.pure (fun w hw => ⟨windowNumber, rfl, ?_⟩)
          exact hfound w (hmatched ▸ hw)

end Shown

end WindowFacts

/-! ## The verified record -/

namespace WindowWorld

variable {σ W : Type} (world : WindowWorld σ W)

theorem exactWindowRecordUntil_gives (windowNumber : ℤ) (deadline : ℕ) :
    (world.exactWindowRecordUntil windowNumber deadline).Gives
      (fun found => ∀ record ∈ found, record.windowNumber = windowNumber) := by
  refine Prog.Gives.bind' (fun _ => Prog.Gives.bind' (fun records => Prog.Gives.bind' (fun _ => ?_)))
  refine Prog.Gives.ite (fun _ => Prog.Gives.fail _) (fun _ => ?_)
  refine Prog.Gives.ite (fun _ => Prog.Gives.fail _) (fun hany => Prog.Gives.pure ?_)
  intro record hrecord
  rw [Option.mem_def.mp hrecord, Option.any_some, Bool.not_eq_true, bne_eq_false_iff_eq] at hany
  exact hany

theorem verifyWindowRecord_gives (win : WindowInfo) (record : WindowRecord) :
    (world.verifyWindowRecord win record).Gives (fun _ => toPidT win.pid = .ok record.pid) := by
  refine Prog.Gives.bind (Prog.Gives.ofExcept (fun _ h => h)) (fun pid hpid => ?_)
  refine Prog.Gives.ite (fun _ => Prog.Gives.fail _) (fun hsame => ?_)
  have hrecord : toPidT win.pid = .ok record.pid := not_not.mp hsame ▸ hpid
  cases win.processInstance with
  | none => exact Prog.Gives.fail _
  | some token =>
    refine Prog.Gives.ite (fun _ => Prog.Gives.fail _) (fun _ => Prog.Gives.bind' (fun alive => ?_))
    cases alive with
    | true => exact Prog.Gives.ofExcept (fun _ _ => hrecord)
    | false => exact Prog.Gives.fail _

theorem locateVerifiedRecordUntil_gives (win : WindowInfo) (deadline : ℕ) :
    (world.locateVerifiedRecordUntil win deadline).Gives (fun located =>
      parseWindowNumber win.id = some located.1 ∧ located.2.windowNumber = located.1
        ∧ toPidT win.pid = .ok located.2.pid) := by
  unfold locateVerifiedRecordUntil
  cases parseWindowNumber win.id with
  | none => exact Prog.Gives.fail _
  | some windowNumber =>
    refine (world.exactWindowRecordUntil_gives windowNumber deadline).bind (fun found hfound => ?_)
    cases found with
    | none => exact Prog.Gives.fail _
    | some record =>
      refine (world.verifyWindowRecord_gives win record).bind (fun _ hpid => ?_)
      exact Prog.Gives.pure ⟨rfl, hfound record rfl, hpid⟩

/-- **A window that is resolved strictly** is what the lookup returns for the number of the id and
the title of the record. -/
theorem resolveWindowElementStrict_gives (win : WindowInfo) (deadline : ℕ) :
    (world.resolveWindowElementStrict win deadline).Gives (fun window =>
      ∃ (windowNumber : ℤ) (record : WindowRecord) (s : σ),
        parseWindowNumber win.id = some windowNumber
        ∧ record.windowNumber = windowNumber ∧ toPidT win.pid = .ok record.pid
        ∧ (world.axWindowElementForNumber record.pid windowNumber record.title deadline).outcome s
          = .ok (some window)) := by
  refine Prog.Gives.bind' (fun _ => ?_)
  refine (world.locateVerifiedRecordUntil_gives win deadline).bind (fun located hlocated => ?_)
  obtain ⟨hnumber, hrecord, hpid⟩ := hlocated
  refine Prog.Gives.bind' (fun _ => ?_)
  refine Prog.Gives.bind (Q := fun pid => pid = located.2.pid) (Prog.Gives.ofExcept
    (fun pid h => Except.ok.inj (h.symm.trans hpid))) ?_
  rintro pid rfl
  refine Prog.Gives.bind (Q := fun found => ∃ s, (world.axWindowElementForNumber located.2.pid
    located.1 located.2.title deadline).outcome s = .ok found) (fun s found h => ⟨s, h⟩) ?_
  rintro found ⟨s, hs⟩
  cases found with
  | none => exact Prog.Gives.fail _
  | some window => exact Prog.Gives.pure ⟨located.1, located.2, s, hnumber, hrecord, hpid, hs⟩

end WindowWorld

namespace WindowFacts

variable {σ W : Type} {facts : WindowFacts W} {world : WindowWorld σ W} {windows : List W}
  {pid : ℤ} {deadline : ℕ}

/-- **When strict window resolution never returns a different window**: the lookup for a number
is strict if and only if the title does not mislead. Where the bridge is there for all windows or
for none, that is if and only if the number is reported, or the only window with the title is not
known to differ. A window that is resolved strictly is what the lookup returns for the number of
the id; and the search for a saved window, which has no title to fall back on, returns windows
with its number only. -/
theorem strictLookup_iff (h : facts.Shown world windows pid deadline) :
    (∀ windowNumber fallbackTitle s,
        (facts.StrictLookup windowNumber fallbackTitle windows
            ((world.axWindowElementForNumber pid windowNumber fallbackTitle deadline).outcome s)
          ↔ facts.TitleSafe windowNumber fallbackTitle windows)
        ∧ ((∀ window ∈ windows, facts.answer window ≠ .unavailable)
            ∨ (∀ window ∈ windows, facts.answer window = .unavailable) →
          (facts.TitleSafe windowNumber fallbackTitle windows
            ↔ (∃ window ∈ windows, facts.reports windowNumber window = true)
              ∨ ∀ title window, fallbackTitle = some title →
                windows.filter (facts.titled title) = [window] →
                  facts.differs windowNumber window = false)))
      ∧ (∀ win, (world.resolveWindowElementStrict win deadline).Gives (fun window =>
        ∃ (windowNumber : ℤ) (record : WindowRecord) (s : σ),
        parseWindowNumber win.id = some windowNumber
          ∧ record.windowNumber = windowNumber ∧ toPidT win.pid = .ok record.pid
          ∧ (world.axWindowElementForNumber record.pid windowNumber record.title
            deadline).outcome s = .ok (some window)))
      ∧ ∀ entry, (world.windowByNumber windows entry deadline).Gives (fun found =>
        ∀ window ∈ found, ∃ windowNumber,
          WindowWorld.sourceWindowNumber entry = some windowNumber
            ∧ facts.answer window = .number windowNumber) := by
  refine ⟨fun windowNumber fallbackTitle s => ⟨?_, titleSafe_iff_of_bridge⟩,
    fun win => world.resolveWindowElementStrict_gives win deadline, h.windowByNumber_gives⟩
  obtain ⟨hfound, window, hwindow, hreports, hends⟩ | ⟨hfound, unavailableBridge, hends⟩ :=
    h.axWindowElementForNumber_ends windowNumber fallbackTitle
  · rw [hends s]
    exact ⟨fun _ => .inl hfound, fun _ => .of_found windowNumber hfound hwindow hreports⟩
  · obtain ⟨title, window, rfl, hsingle, htitle⟩ | ⟨hsingle, o, ho, hnone⟩ :=
      h.fallBackToTitle_ends fallbackTitle unavailableBridge
    · rw [hends _ htitle s]
      exact strictLookup_of_single hfound hsingle
    · rw [hends o hnone s]
      exact strictLookup_of_no_single hfound hsingle ho

/-! ## A window that is not shown

A window may be verified by the window server and have no accessible element. Its title then finds
the only accessible window with the same title. -/

/-- A system with one application, whose windows show their facts. Its window server has a record
for every number. -/
def sampleWorld (facts : WindowFacts ℕ) (windows : List ℕ) : WindowWorld Unit ℕ where
  clock := fun s => (0, s)
  setMessagingTimeout := fun _ _ s => (.ok (), s)
  readString := fun window attr _ s =>
    (.ok (if attr = "AXRole" then facts.role window else facts.title window), s)
  readWindows := fun _ _ s => (.ok (if windows.isEmpty then none else some windows), s)
  windowId := fun window _ s => ((facts.answer window).result, s)
  windowRecords := fun windowNumber _ s =>
    (.ok [⟨"TextEdit", 10, some "Untitled", windowNumber, some "token"⟩], s)
  matchesInstance := fun _ _ s => (.ok true, s)

theorem shown_sampleWorld (facts : WindowFacts ℕ) (windows : List ℕ) (pid : ℤ) :
    facts.Shown (sampleWorld facts windows) windows pid 1 where
  clock := fun _ => Nat.one_pos
  readWindows := fun _ => rfl
  setMessagingTimeout := fun _ _ _ => rfl
  role := fun _ _ _ => rfl
  title := fun _ _ _ => rfl
  windowId := fun _ _ _ => rfl

/-- One window is shown, with the number 7. -/
def otherUntitled : WindowFacts ℕ where
  role := fun _ => some "AXWindow"
  title := fun _ => some "Untitled"
  answer := fun _ => .number 7

/-- The window 5, which has the same title and is not shown. -/
def hiddenUntitled : WindowInfo where
  id := "w-5"
  title := "Untitled"
  app := "TextEdit"
  pid := 10
  processInstance := some "token"
  bounds := none
  state := ⟨false, false, none, none⟩

/-- Three windows are shown: the first and the last have their numbers, the middle one has none. -/
def threeWindows : WindowFacts ℕ where
  role := fun _ => some "AXWindow"
  title := fun window => if window = 1 then some "Untitled" else some "Notes"
  answer := fun window => if window = 1 then .none else .number (window + 7)

/-- Of three windows, the last is found by its number. The middle one is found for the window 5 by
its title, since nothing says that it is another one. -/
theorem strictLookup_iff_otherUntitled :
    (threeWindows.StrictLookup 9 (some "Untitled") [0, 1, 2]
        (((sampleWorld threeWindows [0, 1, 2]).axWindowElementForNumber 10 9 (some "Untitled")
          1).outcome ())
      ∧ ((sampleWorld threeWindows [0, 1, 2]).axWindowElementForNumber 10 9 (some "Untitled")
          1).outcome () = .ok (some 2))
    ∧ threeWindows.StrictLookup 5 (some "Untitled") [0, 1, 2]
        (((sampleWorld threeWindows [0, 1, 2]).axWindowElementForNumber 10 5 (some "Untitled")
          1).outcome ())
      ∧ ((sampleWorld threeWindows [0, 1, 2]).axWindowElementForNumber 10 5 (some "Untitled")
          1).outcome () = .ok (some 1) := by
  have hstrict := (strictLookup_iff (shown_sampleWorld threeWindows [0, 1, 2] 10)).1
  refine ⟨⟨(hstrict 9 (some "Untitled") ()).1.mpr ?_, Outcome.eq_ok_of_value? (by decide)⟩,
    (hstrict 5 (some "Untitled") ()).1.mpr ?_, Outcome.eq_ok_of_value? (by decide)⟩
  · exact .inl ⟨[0, 1], 2, [], rfl, by decide, by decide⟩
  · refine .inr ⟨fun title window htitle hsingle => ?_, fun hreported => ?_⟩
    · obtain rfl := Option.some.inj htitle
      obtain rfl : 1 = window := List.head_eq_of_cons_eq hsingle
      rfl
    · exact absurd hreported (by decide)

/-- **The title misleads**: for the window 5, which is verified but not shown, the window with
the number 7 is returned, although the bridge has answered that its number is another one. -/
theorem resolve_returns_other :
    otherUntitled.Shown (sampleWorld otherUntitled [0]) [0] 10 1
      ∧ ((sampleWorld otherUntitled [0]).resolveWindowElementStrict hiddenUntitled 1).outcome ()
        = .ok 0
      ∧ ((sampleWorld otherUntitled [0]).axWindowElementForNumber 10 5 (some "Untitled")
          1).outcome () = .ok (some 0)
      ∧ otherUntitled.answer 0 = .number 7
      ∧ ¬otherUntitled.StrictLookup 5 (some "Untitled") [0]
        (((sampleWorld otherUntitled [0]).axWindowElementForNumber 10 5 (some "Untitled")
          1).outcome ()) := by
  have hlookup : ((sampleWorld otherUntitled [0]).axWindowElementForNumber 10 5 (some "Untitled")
      1).outcome () = .ok (some 0) := Outcome.eq_ok_of_value? (by decide)
  have hresolve : ((sampleWorld otherUntitled [0]).resolveWindowElementStrict hiddenUntitled
      1).outcome () = .ok 0 := Outcome.eq_ok_of_value? (by decide +kernel)
  refine ⟨shown_sampleWorld otherUntitled [0] 10, hresolve, hlookup, rfl, fun h => ?_⟩
  exact absurd (h.same 0 hlookup) (by decide)

end WindowFacts

end AgentDesktop
