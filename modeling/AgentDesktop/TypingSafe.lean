import AgentDesktop.TypingRun

/-!
# What is typed follows a check

A key or a chunk is posted as a pair, or not at all. In a run that types, each pair stands right
after the reads of a check that passed, and the pairs are those of the first keys or chunks, in
their order.

Keys and texts are typed by two loops of the same form: a check, a pair, and the rest. So a run of
either is described by one relation (`TypedRun`), with what is typed and which pair it makes as
parameters, and what a run shows is proved of that relation.
-/

namespace AgentDesktop

variable {σ E : Type}

/-! ## Pairs

A press and its release are posted together, after both events were made. So a part that fails has
posted the pair or nothing. -/

/-- **A pair that is posted, or nothing**; the pair, if the part ends well. -/
def PostsPair {α : Type} (down up : InputEvent) (o : Outcome AdapterError α)
    (events : List InputEvent) : Prop :=
  (events = [] ∨ events = [down, up]) ∧ ∀ a, o = .ok a → events = [down, up]

theorem PostsPair.error {α : Type} {down up : InputEvent} {error : AdapterError} :
    PostsPair down up (.error error : Outcome AdapterError α) [] :=
  ⟨Or.inl rfl, fun _ h => by cases h⟩

theorem PostsPair.running {α : Type} {down up : InputEvent} :
    PostsPair down up (.running : Outcome AdapterError α) [] :=
  ⟨Or.inl rfl, fun _ h => by cases h⟩

namespace InputWorld

variable (world : InputWorld σ) {delivery : DeliveryTracker}

theorem ensureKeyBudget_quiet (deadline : Deadline) (total : ℕ) :
    (world.ensureKeyBudget deadline total delivery).Quiet := by
  have hchecks : Checks delivery (world.ensureKeyBudget deadline total delivery) :=
    world.ensureBudgetWith_checks _ deadline
  exact Prog.Sat.mono hchecks (fun _ _ h => h.1)

theorem releasing_sat {α : Type} (up : InputEvent) {body : InputProg σ AdapterError α}
    (hquiet : body.Quiet) (hends : Ends body) :
    (releasing up body).Sat (fun _ events => events = [up]) := by
  have hboth : body.Sat (fun o events => events = [] ∧ o ≠ .running) :=
    fun s => ⟨hquiet s, hends s⟩
  unfold releasing
  refine Prog.Sat.attempt_bind hboth (fun a events h => ?_) (fun error events h => ?_)
    (fun events h => absurd rfl h.2)
  · rw [h.1]
    exact Prog.sat_emit_bind (Prog.sat_pure rfl)
  · rw [h.1]
    exact Prog.sat_emit_bind (Prog.sat_fail rfl)

theorem postPair_pair (down up : KeyEvent) (targetPid : Option ℤ) (deadline : Deadline)
    (total : ℕ) :
    (world.postPair down up targetPid deadline delivery total).Sat
      (PostsPair (.key down targetPid) (.key up targetPid)) := by
  rw [postPair_eq]
  refine (world.ensureKeyBudget_quiet deadline total).bind_sat (fun _ => ?_)
    (fun _ => PostsPair.error) PostsPair.running
  refine Prog.sat_emit_bind ?_
  have hsleep : (world.keySleepBounded deadline keySettle delivery.markDelivered total).Quiet :=
    (world.keySleepBounded_checks deadline keySettle total).mono (fun _ _ h => h.1)
  refine (releasing_sat (.key up targetPid) hsleep
    (world.keySleepBounded_ends deadline keySettle total)).bind
    (fun _ events h => ?_) (fun _ events h => ?_) (fun events h => ?_)
  · rw [h]
    refine (world.ensureKeyBudget_quiet deadline total).bind_sat
      (fun _ => Prog.sat_pure ⟨Or.inr rfl, fun _ _ => rfl⟩) (fun _ => ⟨Or.inr rfl, fun _ _ => rfl⟩)
      ⟨Or.inr rfl, fun _ _ => rfl⟩
  · rw [h]
    exact ⟨Or.inr rfl, fun _ _ => rfl⟩
  · rw [h]
    exact ⟨Or.inr rfl, fun _ _ => rfl⟩

theorem postKey_pair (keyCode : UInt16) (flags : UInt64) (targetPid : Option ℤ)
    (deadline : Deadline) (progress : ℕ × ℕ) :
    (world.postKey keyCode flags targetPid deadline progress).Sat
      (PostsPair (.key ⟨keyCode, true, flags, none⟩ targetPid)
        (.key ⟨keyCode, false, flags, none⟩ targetPid)) := by
  unfold postKey
  refine Prog.Sat.bind (Φ := PostsPair (.key ⟨keyCode, true, flags, none⟩ targetPid)
    (.key ⟨keyCode, false, flags, none⟩ targetPid)) ?_ (fun _ events h => Prog.sat_pure ?_)
    (fun _ events h => ?_) (fun events h => ?_)
  · refine (world.ensureKeyBudget_quiet deadline progress.2).bind_sat (fun _ => ?_)
      (fun _ => PostsPair.error) PostsPair.running
    refine world.keyEventSource_makes.mapError_bind_sat ?_ (fun _ => PostsPair.error)
    refine (world.createKeyEvent_makes keyCode true flags).mapError_bind_sat ?_
      (fun _ => PostsPair.error)
    refine (world.createKeyEvent_makes keyCode false flags).mapError_bind_sat ?_
      (fun _ => PostsPair.error)
    exact world.postPair_pair _ _ targetPid deadline progress.2
  · rw [List.append_nil]
    exact ⟨h.1, fun _ _ => h.2 _ rfl⟩
  · exact ⟨h.1, fun _ ha => by cases ha⟩
  · exact ⟨h.1, fun _ ha => by cases ha⟩

end InputWorld

namespace TypingWorld

variable (world : TypingWorld σ E) {delivery : DeliveryTracker}

theorem postVerifiedChunk_pair (targetPid : ℤ) (deadline : Deadline) (total : ℕ)
    (chunk : List Char) :
    (world.postVerifiedChunk targetPid deadline total chunk delivery).Sat
      (PostsPair (.key ⟨0, true, 0, some chunk⟩ (some targetPid))
        (.key ⟨0, false, 0, none⟩ (some targetPid))) := by
  refine world.keyEventSource_makes.mapError_bind_sat ?_ (fun _ => PostsPair.error)
  refine (world.createKeyEvent_makes 0 true 0).mapError_bind_sat ?_ (fun _ => PostsPair.error)
  refine (world.createKeyEvent_makes 0 false 0).mapError_bind_sat ?_ (fun _ => PostsPair.error)
  exact world.postPair_pair _ _ (some targetPid) deadline total

/-- **A pair of a kind that is posted to a process, or nothing**; the pair, if the part ends
well. -/
def PairOrNothing {α : Type} (isPair : KeyEvent → KeyEvent → Prop) (pid : ℤ)
    (o : Outcome AdapterError α) (events : List (TypingEvent σ E)) : Prop :=
  (events = [] ∨ ∃ down up, isPair down up
    ∧ events = [.noted (.posted (.key down (some pid))), .noted (.posted (.key up (some pid)))])
    ∧ ∀ a, o = .ok a → events ≠ []

theorem posting_pair {α : Type} {isPair : KeyEvent → KeyEvent → Prop} {pid : ℤ}
    {down up : KeyEvent} (hpair : isPair down up) {p : InputProg σ AdapterError α}
    (hp : p.Sat (PostsPair (.key down (some pid)) (.key up (some pid)))) :
    (posting p : TypingProg σ E AdapterError α).Sat (PairOrNothing isPair pid) := by
  refine Prog.Sat.mapEvents (Prog.Sat.mono hp (fun o events h => ⟨?_, fun a ha => ?_⟩))
  · rcases h.1 with rfl | rfl
    · exact Or.inl rfl
    · exact Or.inr ⟨down, up, hpair, rfl⟩
  · rw [h.2 a ha]
    exact List.cons_ne_nil _ _

/-! ## Runs

A run is described item by item, so that the order of checks and pairs can be read off its events;
the two loops differ only in what an item is, and in the check before it. -/

/-- **A run that types**, item by item: what it was to type, what is left, and its events. Each
pair stands right after a check that found the target. A run may stop before any item, in the
middle of a check or after it, and then it has only read. -/
inductive TypedRun {α : Type} (isPair : α → KeyEvent → KeyEvent → Prop) (target : E)
    (identity : MacProcessIdentity) : List α → List α → List (TypingEvent σ E) → Prop
  /-- Nothing more is posted. -/
  | stop {left : List α} {events : List (TypingEvent σ E)}
      (hreads : ∀ event ∈ events, IsRead event) : TypedRun isPair target identity left left events
  /-- The target is found, and a pair is posted. -/
  | step {item : α} {planned left : List α} {check rest : List (TypingEvent σ E)}
      {down up : KeyEvent} (hfound : world.Found target identity check)
      (hpair : isPair item down up) (hrest : TypedRun isPair target identity planned left rest) :
      TypedRun isPair target identity (item :: planned) left
        (check ++ .noted (.posted (.key down (some identity.pid)))
          :: .noted (.posted (.key up (some identity.pid))) :: rest)

/-- What a loop that types leaves behind; nothing is left to type, if it ends well. -/
def Types {α : Type} (isPair : α → KeyEvent → KeyEvent → Prop) (target : E)
    (identity : MacProcessIdentity) (planned : List α) (o : Outcome AdapterError Unit)
    (events : List (TypingEvent σ E)) : Prop :=
  ∃ left, world.TypedRun isPair target identity planned left events ∧ (o = .ok () → left = [])

variable {world}

theorem Found.reads {target : E} {identity : MacProcessIdentity} {events : List (TypingEvent σ E)}
    (h : world.Found target identity events) : ∀ event ∈ events, IsRead event := by
  obtain ⟨focused, -, rfl⟩ := h
  intro event hevent
  rcases List.mem_cons.mp hevent with rfl | hevent
  · exact ⟨_, rfl, trivial⟩
  rcases List.mem_cons.mp hevent with rfl | hevent
  · exact ⟨_, rfl, trivial⟩
  · rw [List.mem_singleton.mp hevent]
    exact ⟨_, rfl, trivial⟩

section Loop

variable {α : Type} {isPair : α → KeyEvent → KeyEvent → Prop} {target : E}
  {identity : MacProcessIdentity} {planned : List α}

theorem Types.of_reads {o : Outcome AdapterError Unit} {events : List (TypingEvent σ E)}
    (hreads : ∀ event ∈ events, IsRead event) (ho : o ≠ .ok ()) :
    world.Types isPair target identity planned o events :=
  ⟨planned, .stop hreads, fun h => absurd h ho⟩

/-- **One item**: a check, its pair, and the items after it. -/
theorem Types.bind {β : Type} {item : α} {check : TypingProg σ E AdapterError Unit}
    {post : TypingProg σ E AdapterError β} {rest : β → TypingProg σ E AdapterError Unit}
    (hcheck : ReadsWith (fun _ events => world.Found target identity events) check)
    (hpost : post.Sat (PairOrNothing (isPair item) identity.pid))
    (hrest : ∀ b, (rest b).Sat (world.Types isPair target identity planned)) :
    (check >>= fun _ => post >>= rest).Sat
      (world.Types isPair target identity (item :: planned)) := by
  refine Prog.Sat.bind hcheck (fun _ read h => ?_)
    (fun error read h => Types.of_reads h.1 (fun ho => by cases ho))
    (fun read h => Types.of_reads h.1 (fun ho => by cases ho))
  have hfound := h.2 () rfl
  -- a pair that was posted, and an end after it
  have hstop : ∀ o : Outcome AdapterError β, ∀ events,
      PairOrNothing (isPair item) identity.pid o events →
      ∀ o' : Outcome AdapterError Unit, o' ≠ .ok () →
        world.Types isPair target identity (item :: planned) o' (read ++ events) := by
    intro o events hevents o' ho'
    rcases hevents.1 with rfl | ⟨down, up, hpair, rfl⟩
    · rw [List.append_nil]
      exact Types.of_reads h.1 ho'
    · exact ⟨planned, .step hfound hpair (.stop (fun _ hevent => absurd hevent List.not_mem_nil)),
        fun hok => absurd hok ho'⟩
  refine Prog.Sat.bind hpost (fun b events hevents => ?_)
    (fun error events hevents => hstop _ events hevents _ (fun ho => by cases ho))
    (fun events hevents => hstop _ events hevents _ (fun ho => by cases ho))
  obtain ⟨down, up, hpair, rfl⟩ := hevents.1.resolve_left (hevents.2 b rfl)
  refine (hrest b).mono (fun o events' h' => ?_)
  obtain ⟨left, hrun, hleft⟩ := h'
  exact ⟨left, .step hfound hpair hrun, hleft⟩

end Loop

/-! ## The two loops -/

/-- The codes a key may have: that of its name, or one that the layout of the keyboard gives. -/
def IsKeyCode (key : String) (code : UInt16) : Prop :=
  namedKeys.lookup key = some code ∨ namedKeys.lookup key = none ∧ (punctuation key).isSome

/-- The pair of a key. -/
def IsKeyPair (combo : KeyCombo) (down up : KeyEvent) : Prop :=
  ∃ code, IsKeyCode combo.key code ∧ down = ⟨code, true, eventFlags combo.modifiers, none⟩
    ∧ up = ⟨code, false, eventFlags combo.modifiers, none⟩

/-- The pair of a chunk. -/
def IsChunkPair (chunk : List Char) (down up : KeyEvent) : Prop :=
  down = ⟨0, true, 0, some chunk⟩ ∧ up = ⟨0, false, 0, none⟩

variable (world)

theorem keyNameToCode_sat (key : String) :
    (world.keyNameToCode key).Sat (fun o events =>
      events = [] ∧ ∀ code, o = .ok code → IsKeyCode key code) := by
  unfold keyNameToCode
  cases hname : namedKeys.lookup key with
  | some code => exact Prog.sat_pure ⟨rfl, fun code' h => Or.inl (Outcome.ok.inj h ▸ hname)⟩
  | none =>
    dsimp only
    cases hsymbol : punctuation key with
    | none => exact Prog.sat_fail ⟨rfl, fun _ h => by cases h⟩
    | some symbol =>
      refine Prog.sat_ask_bind (fun lookup => Prog.sat_ofExcept (fun code _ => ⟨rfl, ?_⟩)
        (fun _ _ => ⟨rfl, fun _ h => by cases h⟩))
      exact fun _ _ => Or.inr ⟨hname, by rw [hsymbol]; rfl⟩

/-- **A key is posted as its pair**, to the process it is for. -/
theorem synthesizeKey_pair (combo : KeyCombo) (pid : ℤ) (deadline : Deadline) :
    (world.synthesizeKey combo (some pid) deadline).Sat (PairOrNothing (IsKeyPair combo) pid) := by
  have hnothing : ∀ o : Outcome AdapterError Unit, o ≠ .ok () →
      (PairOrNothing (IsKeyPair combo) pid o ([] : List (TypingEvent σ E))) :=
    fun o ho => ⟨Or.inl rfl, fun _ h => absurd h ho⟩
  refine Prog.Sat.bind (world.keyNameToCode_sat combo.key) (fun code events h => ?_)
    (fun error events h => ?_) (fun events h => ?_)
  · rw [h.1]
    exact posting_pair ⟨code, h.2 code rfl, rfl, rfl⟩
      (world.toInputWorld.postKey_pair code (eventFlags combo.modifiers) (some pid) deadline (0, 1))
  · rw [h.1]
    exact hnothing _ (fun ho => by cases ho)
  · rw [h.1]
    exact hnothing _ (fun ho => by cases ho)

theorem pressCombos_types (element : E) (identity : MacProcessIdentity) (deadline : Deadline)
    (combos : List KeyCombo) :
    (world.pressCombos element identity deadline combos delivery).Sat
      (world.Types IsKeyPair element identity combos) := by
  induction combos generalizing delivery with
  | nil =>
    exact Prog.sat_pure ⟨[], .stop (fun _ hevent => absurd hevent List.not_mem_nil), fun _ => rfl⟩
  | cons combo rest ih =>
    refine Types.bind ((world.verifyDeliveryTarget_reads element identity deadline).mapError _)
      (Prog.Sat.mapError (Prog.Sat.mono (world.synthesizeKey_pair combo identity.pid deadline)
        (fun o events h => ?_))) (fun _ => ih)
    exact ⟨h.1, fun a ha => h.2 a (eq_ok_of_mapError ha)⟩

theorem postCheckedChunks_types (element : E) (identity : MacProcessIdentity)
    (deadline : Deadline) (total : ℕ) (chunks : List (List Char)) :
    (world.postCheckedChunks identity.pid deadline (world.verifyDeliveryTarget element identity)
      total chunks delivery).Sat (world.Types IsChunkPair element identity chunks) := by
  induction chunks generalizing delivery with
  | nil =>
    exact Prog.sat_pure ⟨[], .stop (fun _ hevent => absurd hevent List.not_mem_nil), fun _ => rfl⟩
  | cons chunk rest ih =>
    have hquiet : (posting (world.ensureKeyBudget deadline total delivery) :
        TypingProg σ E AdapterError Unit).Quiet :=
      Prog.Sat.mapEvents (Prog.Sat.mono (world.toInputWorld.ensureKeyBudget_quiet deadline total)
        (fun _ events h => by rw [h]; rfl))
    refine hquiet.bind_sat (fun _ => ?_)
      (fun _ => Types.of_reads (fun _ h => absurd h List.not_mem_nil) (fun ho => by cases ho))
      (Types.of_reads (fun _ h => absurd h List.not_mem_nil) (fun ho => by cases ho))
    exact Types.bind ((world.verifyDeliveryTarget_reads element identity deadline).mapError _)
      (posting_pair ⟨rfl, rfl⟩ (world.postVerifiedChunk_pair identity.pid deadline total chunk))
      (fun _ => ih)

/-! ## What a run shows

Three things follow from the shape of a run alone: what was posted is a beginning of what was
planned, all of it goes to the process that was checked, and each press comes right after a check
that passed. -/

theorem split_of_posts_eq_nil {lead events front back : List (TypingEvent σ E)}
    {event : InputEvent} (hlead : postsOf lead = [])
    (h : lead ++ events = front ++ .noted (.posted event) :: back) :
    ∃ front', front = lead ++ front' ∧ events = front' ++ .noted (.posted event) :: back := by
  rcases List.append_eq_append_iff.mp h with ⟨front', hfront, hevents⟩ | ⟨middle, hfront, hback⟩
  · exact ⟨front', hfront, hevents⟩
  · cases middle with
    | nil => exact ⟨[], by rw [hfront, List.append_nil, List.append_nil], hback.symm⟩
    | cons first middle =>
      have hfirst := (List.cons.inj hback).1
      rw [hfront, ← hfirst, postsOf_append, postsOf_posted_cons] at hlead
      exact absurd (List.append_eq_nil_iff.mp hlead).2 (List.cons_ne_nil _ _)

section Run

variable {world} {α : Type} {isPair : α → KeyEvent → KeyEvent → Prop} {target : E}
  {identity : MacProcessIdentity} {planned left : List α} {events : List (TypingEvent σ E)}

/-- **What was posted is a beginning of what was planned.** -/
theorem TypedRun.posts (h : world.TypedRun isPair target identity planned left events) :
    ∃ typed pairs, planned = typed ++ left
      ∧ List.Forall₂ (fun item pair => isPair item pair.1 pair.2) typed pairs
      ∧ postsOf events = pairs.flatMap (fun pair : KeyEvent × KeyEvent =>
        [.key pair.1 (some identity.pid), .key pair.2 (some identity.pid)]) := by
  induction h with
  | stop hreads => exact ⟨[], [], rfl, .nil, postsOf_of_reads hreads⟩
  | @step item planned left check rest down up hfound hpair _ ih =>
    obtain ⟨typed, pairs, rfl, hpairs, hposts⟩ := ih
    refine ⟨item :: typed, (down, up) :: pairs, rfl, .cons hpair hpairs, ?_⟩
    rw [postsOf_append, postsOf_of_reads hfound.reads, List.nil_append, postsOf_posted_cons,
      postsOf_posted_cons, hposts]
    rfl

/-- **What is posted goes to the process, and a press stands right after a check.** -/
theorem TypedRun.checked (h : world.TypedRun isPair target identity planned left events)
    (hup : ∀ item down up, isPair item down up → up.down = false) {event : InputEvent}
    {front back : List (TypingEvent σ E)}
    (hevents : events = front ++ .noted (.posted event) :: back) :
    ∃ key, event = .key key (some identity.pid) ∧ (key.down = true →
      ∃ earlier check, front = earlier ++ check ∧ world.Found target identity check) := by
  induction h generalizing front with
  | stop hreads =>
    have hmem : .noted (.posted event) ∈ front ++ .noted (.posted event) :: back :=
      List.mem_append_right _ List.mem_cons_self
    obtain ⟨note, heq, hanswer⟩ := hreads _ (hevents ▸ hmem)
    rw [← AXEvent.noted.inj heq] at hanswer
    exact hanswer.elim
  | @step item planned left check rest down up hfound hpair _ ih =>
    obtain ⟨front', rfl, hback⟩ := split_of_posts_eq_nil (postsOf_of_reads hfound.reads) hevents
    cases front' with
    | nil =>
      obtain rfl := KeyboardNote.posted.inj (AXEvent.noted.inj (List.cons.inj hback).1)
      exact ⟨down, rfl, fun _ => ⟨[], check, by rw [List.append_nil]; rfl, hfound⟩⟩
    | cons first front' =>
      have hback := (List.cons.inj hback).2
      cases front' with
      | nil =>
        obtain rfl := KeyboardNote.posted.inj (AXEvent.noted.inj (List.cons.inj hback).1)
        refine ⟨up, rfl, fun hdown => ?_⟩
        rw [hup item down up hpair] at hdown
        cases hdown
      | cons second front' =>
        obtain ⟨key, hkey, hchecked⟩ := ih (List.cons.inj hback).2
        refine ⟨key, hkey, fun hdown => ?_⟩
        obtain ⟨earlier, check', rfl, hfound'⟩ := hchecked hdown
        exact ⟨check ++ first :: second :: earlier, check', by simp, hfound'⟩

end Run

/-- **A run that types safely.** -/
structure SafelyTyped {α : Type} (isPair : α → KeyEvent → KeyEvent → Prop) (target : E)
    (planned : List α) (identity : MacProcessIdentity) (o : Outcome AdapterError Unit)
    (events : List (TypingEvent σ E)) : Prop where
  /-- The process is the one that was found first. -/
  captured : postsOf events ≠ [] → ∃ rest, events = capturedRead identity :: rest
  /-- What is posted goes to it, and a press stands right after a check that found the target. -/
  checked : ∀ front event back, events = front ++ .noted (.posted event) :: back →
    ∃ key, event = .key key (some identity.pid) ∧ (key.down = true →
      ∃ earlier check, front = earlier ++ check ∧ world.Found target identity check)
  /-- What is posted is a beginning of what was planned; all of it, if the run ends well. -/
  posted : ∃ typed left pairs, planned = typed ++ left
    ∧ List.Forall₂ (fun item pair => isPair item pair.1 pair.2) typed pairs
    ∧ postsOf events = pairs.flatMap (fun pair : KeyEvent × KeyEvent =>
        [.key pair.1 (some identity.pid), .key pair.2 (some identity.pid)])
    ∧ (o = .ok () → left = [])
  /-- After the write or a post, no error says that nothing was delivered. -/
  reported : ∀ error, o = .error error →
    (postsOf events ≠ [] ∨ ∃ call ∈ AXEvent.calls events, call.MayHaveHappened) →
      error.disposition ≠ .notDelivered

variable {world}

theorem SafelyTyped.of_nothing {α : Type} {isPair : α → KeyEvent → KeyEvent → Prop} {target : E}
    {planned : List α} {identity : MacProcessIdentity} {o : Outcome AdapterError Unit}
    {events : List (TypingEvent σ E)} (hposts : postsOf events = []) (ho : o ≠ .ok ())
    (hreported : ∀ error, o = .error error →
      (∃ call ∈ AXEvent.calls events, call.MayHaveHappened) →
        error.disposition ≠ .notDelivered) :
    world.SafelyTyped isPair target planned identity o events where
  captured := fun hne => absurd hposts hne
  checked := by
    rintro front event back rfl
    rw [postsOf_append, postsOf_posted_cons] at hposts
    exact absurd (List.append_eq_nil_iff.mp hposts).2 (List.cons_ne_nil _ _)
  posted := ⟨[], planned, [], rfl, .nil, hposts, fun hok => absurd hok ho⟩
  reported := fun error he hdelivered =>
    hreported error he (hdelivered.resolve_left (fun hne => hne hposts))

theorem SafelyTyped.of_run {α : Type} {isPair : α → KeyEvent → KeyEvent → Prop} {target : E}
    {planned : List α} {identity : MacProcessIdentity} {o : Outcome AdapterError Unit}
    {lead rest events : List (TypingEvent σ E)} (hlead : postsOf lead = [])
    (hcaptured : lead = capturedRead identity :: rest)
    (htypes : world.Types isPair target identity planned o events)
    (hup : ∀ item down up, isPair item down up → up.down = false)
    (hreported : ∀ error, o = .error error → error.disposition ≠ .notDelivered) :
    world.SafelyTyped isPair target planned identity o (lead ++ events) := by
  obtain ⟨left, hrun, hleft⟩ := htypes
  refine ⟨fun _ => ⟨rest ++ events, by rw [hcaptured]; rfl⟩, ?_, ?_, fun error he _ =>
    hreported error he⟩
  · intro front event back hevents
    obtain ⟨front', rfl, hback⟩ := split_of_posts_eq_nil hlead hevents
    obtain ⟨key, hkey, hchecked⟩ := hrun.checked hup hback
    refine ⟨key, hkey, fun hdown => ?_⟩
    obtain ⟨earlier, check, rfl, hfound⟩ := hchecked hdown
    exact ⟨lead ++ earlier, check, (List.append_assoc _ _ _).symm, hfound⟩
  · obtain ⟨typed, pairs, hplanned, hpairs, hposts⟩ := hrun.posts
    refine ⟨typed, left, pairs, hplanned, hpairs, ?_, hleft⟩
    rw [postsOf_append, hlead, hposts, List.nil_append]

/-! ## Typing -/

/-- An error that does not say that nothing was delivered. -/
def Remembers {α : Type} (o : Outcome AdapterError α) (_ : List (TypingEvent σ E)) : Prop :=
  ∀ error, o = .error error → error.disposition ≠ .notDelivered

theorem mapError_remembers {α : Type} (hpos : 0 < delivery.deliveredUnits)
    (p : TypingProg σ E AdapterError α) : (p.mapError delivery.annotate).Sat Remembers := by
  refine Prog.Sat.mapError (fun s error herror => ?_)
  cases hp : p.outcome s with
  | ok a =>
    rw [hp] at herror
    cases herror
  | error error' =>
    rw [hp] at herror
    rw [← Outcome.error.inj herror]
    exact DeliveryTracker.disposition_annotate_of_delivered hpos error'
  | running =>
    rw [hp] at herror
    cases herror

variable (world)

theorem pressCombos_remembers (element : E) (identity : MacProcessIdentity) (deadline : Deadline)
    (combos : List KeyCombo) (hpos : 0 < delivery.deliveredUnits) :
    (world.pressCombos element identity deadline combos delivery).Sat Remembers := by
  induction combos generalizing delivery with
  | nil => exact Prog.sat_pure (fun _ h => by cases h)
  | cons combo rest ih =>
    refine (mapError_remembers hpos (world.verifyDeliveryTarget element identity deadline)).bind
      (fun _ _ _ => ?_) (fun error _ h => fun e he => h e (by cases he; rfl))
      (fun _ _ => fun _ he => by cases he)
    refine (mapError_remembers hpos (world.synthesizeKey combo (some identity.pid) deadline)).bind
      (fun _ _ _ => ?_) (fun error _ h => fun e he => h e (by cases he; rfl))
      (fun _ _ => fun _ he => by cases he)
    exact ih (Nat.succ_pos _)

theorem eq_textChunksFrom {text : String} {chunks : List (List Char)}
    (h : textChunks text = .ok chunks) : chunks = textChunksFrom text.toList [] := by
  unfold textChunks at h
  cases hcount : plannedChunkCount text with
  | error error =>
    rw [hcount] at h
    cases h
  | ok count =>
    rw [hcount] at h
    exact (Except.ok.inj h).symm

theorem synthesizeText_types (element : E) (text : String) (identity : MacProcessIdentity)
    (deadline : Deadline) :
    (world.synthesizeText text identity.pid deadline
      (world.verifyDeliveryTarget element identity)).Sat
        (world.Types IsChunkPair element identity (textChunksFrom text.toList [])) := by
  have hnothing : ∀ error : AdapterError,
      world.Types IsChunkPair element identity (textChunksFrom text.toList []) (.error error) [] :=
    fun error => Types.of_reads (fun _ h => absurd h List.not_mem_nil) (fun ho => by cases ho)
  refine Prog.sat_ask_bind (fun now => ?_)
  refine Prog.sat_ofExcept_bind (fun _ _ => ?_) (fun error _ => hnothing error)
  refine Prog.sat_ofExcept_bind (fun chunks hchunks => ?_) (fun error _ => hnothing error)
  rw [← eq_textChunksFrom hchunks]
  exact world.postCheckedChunks_types element identity deadline chunks.length chunks

theorem prepareTarget_bind_safely {α : Type} {isPair : α → KeyEvent → KeyEvent → Prop}
    {planned : List α} (hup : ∀ item down up, isPair item down up → up.down = false) (fuel : ℕ)
    (element : E) (policy : InteractionPolicy) (deadline : Deadline)
    {f : MacProcessIdentity × DeliveryTracker → TypingProg σ E AdapterError Unit}
    (htypes : ∀ identity delivery, 0 < delivery.deliveredUnits →
      (f (identity, delivery)).Sat (world.Types isPair element identity planned))
    (hremembers : ∀ identity delivery, 0 < delivery.deliveredUnits →
      (f (identity, delivery)).Sat Remembers) :
    ((world.prepareTarget fuel element policy deadline .empty).mapError
      (fun error => error.2.annotate error.1) >>= f).Sat
        (fun o events => ∃ identity, world.SafelyTyped isPair element planned identity o events) := by
  refine (world.prepareTarget_sat fuel element policy deadline).mapError_bind
    (fun prepared lead h => ?_) (fun error lead h => ?_) (fun lead h => ?_)
  · obtain ⟨identity, delivery⟩ := prepared
    obtain ⟨rest, hcaptured⟩ := h.captured identity delivery rfl
    have hpos := h.delivered identity delivery rfl
    exact fun s => ⟨identity, .of_run h.posts hcaptured (htypes identity delivery hpos s) hup
      (hremembers identity delivery hpos s)⟩
  · refine ⟨⟨0, 0, 0⟩, .of_nothing h.posts (fun ho => by cases ho) (fun error' he hmay => ?_)⟩
    rw [← Outcome.error.inj he]
    exact h.reported error.1 error.2 rfl hmay
  · exact ⟨⟨0, 0, 0⟩, .of_nothing h.posts (fun ho => by cases ho) (fun _ he => by cases he)⟩

/-- **Keystrokes go to the verified target only**, for keys and for texts, whatever the system
answers. Each press stands right after reads that found the same process, its application in
front, and the element with the focus. What was posted is a beginning of what was planned. And
once the focus was written or a key was posted, no error says that nothing was delivered. -/
theorem typing_safe (fuel : ℕ) (element : E) (policy : InteractionPolicy) (deadline : Deadline) :
    (∀ combos, (world.pressSequence fuel element combos policy deadline).Sat (fun o events =>
        ∃ identity, world.SafelyTyped IsKeyPair element combos identity o events))
      ∧ ∀ text, (world.typeText fuel element text policy deadline).Sat (fun o events =>
        ∃ identity, world.SafelyTyped IsChunkPair element (textChunksFrom text.toList []) identity
          o events) := by
  refine ⟨fun combos => ?_, fun text => ?_⟩
  · refine world.prepareTarget_bind_safely ?_ fuel element policy deadline
      (fun identity delivery _ => world.pressCombos_types element identity deadline combos)
      (fun identity delivery hpos =>
        world.pressCombos_remembers element identity deadline combos hpos)
    rintro combo down up ⟨code, -, -, rfl⟩
    rfl
  · refine Prog.sat_ask_bind (fun now => Prog.sat_ofExcept_bind (fun _ _ => ?_) (fun error _ => ?_))
    · refine world.prepareTarget_bind_safely ?_ fuel element policy deadline
        (fun identity delivery _ => ?_) (fun identity delivery hpos => mapError_remembers hpos _)
      · rintro chunk down up ⟨-, rfl⟩
        rfl
      · refine Prog.Sat.mapError (Prog.Sat.mono
          (world.synthesizeText_types element text identity deadline) (fun o events h => ?_))
        obtain ⟨left, hrun, hleft⟩ := h
        exact ⟨left, hrun, fun ho => hleft (eq_ok_of_mapError ho)⟩
    · exact ⟨⟨0, 0, 0⟩, .of_nothing rfl (fun ho => by cases ho)
        (fun _ _ hmay => absurd hmay.choose_spec.1 List.not_mem_nil)⟩

end TypingWorld

end AgentDesktop
