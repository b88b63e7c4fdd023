import AgentDesktop.AxMutation
import AgentDesktop.KeyboardEvent

/-!
# Typing into an element

An element that is typed into gets the focus first, by a write that may have been carried out
even if its answer does not say so. What is typed is posted to the process, not to the element:
it goes wherever the focus is. So before each key, and before each chunk of a text, it is read
again whether the process is the one that was found at first, whether its application is in
front, and whether the element has the focus.

The reads are recorded with their answers, in one list with the write and the posted events.
-/

namespace AgentDesktop

/-- The identity of a process on this system: its number, and when it was started. -/
structure MacProcessIdentity where
  pid : ℤ
  startSeconds : ℕ
  startMicroseconds : ℕ
  deriving DecidableEq

/-! ## Keys -/

/-- `LayoutLookup`. -/
inductive LayoutLookup
  | found (code : UInt16)
  | noKeyForSymbol
  | layoutUnavailable

/-- `PUNCTUATION`. -/
def punctuationKeys : List (Char × String) :=
  [(',', "comma"), ('.', "period"), ('/', "slash"), (';', "semicolon"), ('\'', "quote"),
    ('[', "leftbracket"), (']', "rightbracket"), ('\\', "backslash"), ('-', "minus"),
    ('=', "equal"), (Char.ofNat 96, "grave")]

/-- `punctuation`. -/
def punctuation (key : String) : Option Char :=
  (punctuationKeys.find? (fun entry => entry.2 == key || key.toList == [entry.1])).map Prod.fst

/-- The codes of the keys with a name of their own. -/
def namedKeys : List (String × UInt16) :=
  [("a", 0), ("b", 11), ("c", 8), ("d", 2), ("e", 14), ("f", 3), ("g", 5), ("h", 4), ("i", 34),
    ("j", 38), ("k", 40), ("l", 37), ("m", 46), ("n", 45), ("o", 31), ("p", 35), ("q", 12),
    ("r", 15), ("s", 1), ("t", 17), ("u", 32), ("v", 9), ("w", 13), ("x", 7), ("y", 16), ("z", 6),
    ("0", 29), ("1", 18), ("2", 19), ("3", 20), ("4", 21), ("5", 23), ("6", 22), ("7", 26),
    ("8", 28), ("9", 25), ("return", 36), ("enter", 36), ("escape", 53), ("esc", 53), ("tab", 48),
    ("space", 49), ("delete", 51), ("backspace", 51), ("forwarddelete", 117), ("home", 115),
    ("end", 119), ("pageup", 116), ("pagedown", 121), ("left", 123), ("right", 124), ("down", 125),
    ("up", 126), ("cmd", 55), ("command", 55), ("shift", 56), ("alt", 58), ("option", 58),
    ("ctrl", 59), ("control", 59), ("f1", 122), ("f2", 120), ("f3", 99), ("f4", 118), ("f5", 96),
    ("f6", 97), ("f7", 98), ("f8", 100), ("f9", 101), ("f10", 109), ("f11", 103), ("f12", 111)]

/-- An unknown key. -/
def unknownKey (key : String) : AdapterError :=
  (AdapterError.new .invalidArgs ("Unknown key: '" ++ key ++ "'")).withSuggestion
    ("Valid keys: a-z, 0-9, return, escape, tab, space, delete, left, right, up, down, f1-f12, "
      ++ "and , . / ; ' [ ] \\ - = " ++ String.singleton (Char.ofNat 96)
      ++ " (or comma, period, slash, semicolon, quote, leftbracket, rightbracket, backslash, "
      ++ "minus, equal, grave)")

/-- `layout_code`. -/
def layoutCode (symbol : Char) : LayoutLookup → Except AdapterError UInt16
  | .found code => .ok code
  | .noKeyForSymbol =>
    .error ((AdapterError.new .invalidArgs ("No unmodified key types '" ++ String.singleton symbol
      ++ "' in the active keyboard layout")).withSuggestion
        "This symbol needs a modifier or is missing in the active layout; nothing was sent")
  | .layoutUnavailable =>
    .error (((AdapterError.new .actionFailed
      ("Could not read the active keyboard layout to resolve '" ++ String.singleton symbol
        ++ "'")).withDisposition .notDelivered).withSuggestion
        ("Nothing was sent; the layout is readable only from the process main thread. "
          ++ "Retry from the main thread or with a named key"))

/-! ## The world -/

/-- A note of a run that types. -/
inductive KeyboardNote (E : Type)
  /-- What is found of a process: the time of its start, or that it is gone. -/
  | captured (pid : ℤ) (answer : Except AdapterError (Option (ℕ × ℕ)))
  /-- A truth value that was read. -/
  | boolRead (element : E) (attr : String) (answer : Except AXError (Option Bool))
  | elementRead (element : E) (attr : String) (answer : Except AXError (Option E))
  /-- An event that was posted. -/
  | posted (event : InputEvent)

/-- An event of a run that types. -/
abbrev TypingEvent (σ E : Type) : Type := AXEvent σ E (KeyboardNote E)

/-- A program that types. -/
abbrev TypingProg (σ E ε α : Type) : Type := Prog σ (TypingEvent σ E) ε α

/-- **What typing asks of the system.** -/
structure TypingWorld (σ E : Type) extends AXWorld σ E, InputWorld σ where
  sameElement : E → E → Bool
  /-- What `ProcessIdentity::capture` finds of a process with a positive number. -/
  processStart : ℤ → σ → Except AdapterError (Option (ℕ × ℕ)) × σ
  codeForSymbol : Char → σ → LayoutLookup × σ

/-- The error of a read that failed, as `read_error` of the keyboard has it. -/
def keyboardReadError (attr : String) (error : AXError) : AdapterError :=
  let code : ErrorCode :=
    if error = .apiDisabled then .permDenied
    else if error = .cannotComplete then .timeout
    else if error = .invalidUIElement then .staleRef
    else .actionFailed
  ((AdapterError.new code ("Could not read " ++ attr ++ " for keyboard targeting")).withDetails
    (.obj [("attribute", .str attr), ("ax_error", .num error.code)])).withDisposition .notDelivered

/-- `map_ax_read_error`. -/
def mapAxReadError (error : AXError) (operation : String) : AdapterError :=
  let code : ErrorCode :=
    if error = .apiDisabled then .permDenied
    else if error = .cannotComplete then .timeout
    else if error = .invalidUIElement then .staleRef
    else .actionFailed
  (((AdapterError.new code ("Could not " ++ operation ++ " through accessibility")).withDetails
    (.obj [("ax_error", .num error.code)])).withSuggestion
    "Refresh the target and retry").withDisposition .notDelivered

namespace TypingWorld

variable {σ E : Type} (world : TypingWorld σ E)

/-! ## Reads -/

/-- `prepare`. -/
def prepareTyping (element : E) (deadline : Deadline) : TypingProg σ E AdapterError Unit :=
  Prog.call (world.setMessagingTimeout element deadline)

/-- `ensure_budget`, and `ensure_remaining`. -/
def ensureRemaining (deadline : Deadline) : TypingProg σ E AdapterError Unit := do
  let now ← Prog.ask world.toInputWorld.clock
  if deadline.isExpired now then Prog.fail (deadline.timeoutError now) else return ()

/-- `ProcessIdentity::capture`. -/
def capture (pid : ℤ) : TypingProg σ E AdapterError (Option MacProcessIdentity) := do
  if pid ≤ 0 then
    Prog.fail (.new .invalidArgs "Process identity requires a positive PID")
  else
    let start ← Prog.recordedCall (fun answer => .noted (.captured pid answer))
      (world.processStart pid)
    return start.map (fun start => ⟨pid, start.1, start.2⟩)

/-- `still_matches`. -/
def stillMatches (identity : MacProcessIdentity) : TypingProg σ E AdapterError Bool := do
  let current ← world.capture identity.pid
  return current == some identity

/-- `read_boolean`. -/
def readBoolean (element : E) (attr : String) (deadline : Deadline) :
    TypingProg σ E AdapterError Bool := do
  world.prepareTyping element deadline
  let result ← Prog.ask (world.copyBoolAttr element attr deadline)
  Prog.emit (.noted (.boolRead element attr result))
  world.ensureRemaining deadline
  match result with
  | .ok value => return value.getD false
  | .error error => Prog.fail (mapAxReadError error "verify focus")

/-- A read of an element, as `target_window` and `focused_element_matches` make it. -/
def readElementAttr (element : E) (attr : String) (deadline : Deadline) :
    TypingProg σ E AdapterError (Option E) := do
  world.prepareTyping element deadline
  let result ← Prog.ask (world.copyElementAttr element attr deadline)
  Prog.emit (.noted (.elementRead element attr result))
  world.ensureRemaining deadline
  match result with
  | .ok value => return value
  | .error error => Prog.fail (keyboardReadError attr error)

/-- `verify_app_focused`. -/
def verifyAppFocused (pid : ℤ) (deadline : Deadline) : TypingProg σ E AdapterError Unit := do
  if ← world.readBoolean (world.elementForPid pid) "AXFrontmost" deadline then return ()
  else
    Prog.fail (((AdapterError.new .actionFailed
      "Target application lost focus before physical input delivery").withDetails
        (.obj [("pid", .num pid), ("physical_delivery_started", .bool false)])).withSuggestion
        "Retry after ensuring the target application remains frontmost")

/-- `verify_window_main`. -/
def verifyWindowMain (window : E) (deadline : Deadline) : TypingProg σ E AdapterError Unit := do
  if ← world.readBoolean window "AXMain" deadline then return ()
  else
    Prog.fail (((AdapterError.new .actionFailed
      "Target window lost main-window status before physical input delivery").withDetails
        (.obj [("physical_delivery_started", .bool false)])).withSuggestion
        "Retry after bringing the target window to the front")

/-- `focused_element_matches`. -/
def focusedElementMatches (expected : E) (pid : ℤ) (deadline : Deadline) :
    TypingProg σ E AdapterError Bool := do
  let focused ← world.readElementAttr (world.elementForPid pid) "AXFocusedUIElement" deadline
  return focused.any (fun focused => world.sameElement focused expected)

/-- `verify_focused_element`. -/
def verifyFocusedElement (expected : E) (pid : ℤ) (deadline : Deadline) :
    TypingProg σ E AdapterError Unit := do
  world.verifyAppFocused pid deadline
  if ← world.focusedElementMatches expected pid deadline then return ()
  else
    Prog.fail ((AdapterError.new .actionFailed
      "Target element lost focus before PID-targeted keyboard delivery").withDisposition
        .notDelivered)

/-- **`verify_delivery_target`.** -/
def verifyDeliveryTarget (expected : E) (identity : MacProcessIdentity) (deadline : Deadline) :
    TypingProg σ E AdapterError Unit := do
  if ← world.stillMatches identity then world.verifyFocusedElement expected identity.pid deadline
  else
    Prog.fail ((AdapterError.new .staleRef
      "Keyboard target process instance changed before physical input delivery").withDisposition
        .notDelivered)

/-- The loop of `wait_for_focused_element`. -/
def awaitFocused (expected : E) (pid : ℤ) (localDeadline : ℕ) (deadline : Deadline) :
    ℕ → TypingProg σ E AdapterError Unit
  | 0 => Prog.cutOff
  | fuel + 1 => do
    if ← world.focusedElementMatches expected pid deadline then return ()
    else
      world.ensureRemaining deadline
      let now ← Prog.ask world.toInputWorld.clock
      if localDeadline ≤ now then
        Prog.fail ((AdapterError.timeout
          "Target element did not become focused before keyboard delivery").withDisposition
            .notDelivered)
      else
        let now ← Prog.ask world.toInputWorld.clock
        let pause ← Prog.ofExcept (deadline.remainingSlice now (5 * nanosPerMs))
        Prog.ask (world.sleep (min pause (5 * nanosPerMs)))
        awaitFocused expected pid localDeadline deadline fuel

/-- `wait_for_focused_element`. -/
def waitForFocusedElement (fuel : ℕ) (expected : E) (pid : ℤ) (deadline : Deadline) :
    TypingProg σ E AdapterError Unit := do
  let now ← Prog.ask world.toInputWorld.clock
  world.awaitFocused expected pid (now + 500 * nanosPerMs) deadline fuel

/-! ## The target -/

/-- `prepare_target`, the window of the target. -/
def verifyTargetWindow (element : E) (deadline : Deadline) : TypingProg σ E AdapterError Unit := do
  match ← world.readElementAttr element "AXWindow" deadline with
  | none => return ()
  | some window => world.verifyWindowMain window deadline

/-- `prepare_target`, before the write. -/
def findTarget (element : E) (policy : InteractionPolicy) (deadline : Deadline) :
    TypingProg σ E AdapterError MacProcessIdentity := do
  if policy.allowFocusSteal = false then
    Prog.fail (.policyDeniedForPolicy "Physical keyboard fallback requires focus permission"
      policy)
  else
    match (← Prog.ask (world.pidFromElement element deadline)).filter (fun pid => 0 < pid) with
    | none => Prog.fail (.new .staleRef "Keyboard target no longer has a valid owning process")
    | some pid =>
      match ← world.capture pid with
      | none =>
        Prog.fail (.new .staleRef
          "Keyboard target process exited before physical input preparation")
      | some identity =>
        world.verifyTargetWindow element deadline
        world.verifyAppFocused pid deadline
        world.prepareTyping element deadline
        return identity

/-- `prepare_target`, after the write. -/
def confirmTarget (fuel : ℕ) (element : E) (identity : MacProcessIdentity) (deadline : Deadline) :
    TypingProg σ E AdapterError Unit := do
  world.waitForFocusedElement fuel element identity.pid deadline
  world.verifyAppFocused identity.pid deadline
  world.verifyDeliveryTarget element identity deadline

/-- `prepare_target`: an error comes with the tracker as it is then. -/
def prepareTarget (fuel : ℕ) (element : E) (policy : InteractionPolicy) (deadline : Deadline)
    (delivery : DeliveryTracker) :
    TypingProg σ E (AdapterError × DeliveryTracker) (MacProcessIdentity × DeliveryTracker) := do
  let identity ← (world.findTarget element policy deadline).mapError (fun error =>
    (error, delivery))
  let focused ← (world.setAxBoolOrErr element "AXFocused" true deadline).mapError (fun error =>
    (error, delivery))
  if focused then
    let delivery := delivery.markDelivered
    (world.confirmTarget fuel element identity deadline).mapError (fun error => (error, delivery))
    return (identity, delivery)
  else
    Prog.fail ((AdapterError.new .actionNotSupported
      "Target element could not be focused for keyboard input").withDisposition .notDelivered,
        delivery)

/-! ## Keys and texts -/

/-- The events of a part that posts. -/
def posting {ε α : Type} (p : InputProg σ ε α) : TypingProg σ E ε α :=
  p.mapEvents (fun event => .noted (.posted event))

/-- `key_name_to_code`. -/
def keyNameToCode (key : String) : TypingProg σ E AdapterError UInt16 :=
  match namedKeys.lookup key with
  | some code => return code
  | none =>
    match punctuation key with
    | none => Prog.fail (unknownKey key)
    | some symbol => do
      let lookup ← Prog.ask (world.codeForSymbol symbol)
      Prog.ofExcept (layoutCode symbol lookup)

/-- `synthesize_key`. -/
def synthesizeKey (combo : KeyCombo) (targetPid : Option ℤ) (deadline : Deadline) :
    TypingProg σ E AdapterError Unit := do
  let keyCode ← world.keyNameToCode combo.key
  posting (world.toInputWorld.postKey keyCode (eventFlags combo.modifiers) targetPid deadline
    (0, 1))

/-- The loop of `press_sequence`. -/
def pressCombos (element : E) (identity : MacProcessIdentity) (deadline : Deadline) :
    List KeyCombo → DeliveryTracker → TypingProg σ E AdapterError Unit
  | [], _ => return ()
  | combo :: rest, delivery => do
    (world.verifyDeliveryTarget element identity deadline).mapError delivery.annotate
    (world.synthesizeKey combo (some identity.pid) deadline).mapError delivery.annotate
    pressCombos element identity deadline rest delivery.markDelivered

/-- **`press_sequence`.** -/
def pressSequence (fuel : ℕ) (element : E) (combos : List KeyCombo) (policy : InteractionPolicy)
    (deadline : Deadline) : TypingProg σ E AdapterError Unit := do
  let (identity, delivery) ← (world.prepareTarget fuel element policy deadline .empty).mapError
    (fun error => error.2.annotate error.1)
  world.pressCombos element identity deadline combos delivery

/-- One of the chunks of `post_text`, after the check. -/
def postVerifiedChunk (targetPid : ℤ) (deadline : Deadline) (total : ℕ) (chunk : List Char)
    (delivery : DeliveryTracker) : InputProg σ AdapterError DeliveryTracker := do
  Prog.mapError delivery.annotate world.keyEventSource
  let down ← Prog.mapError delivery.annotate (world.createKeyEvent 0 true 0)
  let down := { down with text := some chunk }
  let up ← Prog.mapError delivery.annotate (world.createKeyEvent 0 false 0)
  world.postPair down up (some targetPid) deadline delivery total

/-- The loop of `post_text`, with the check as it is recorded. -/
def postCheckedChunks (targetPid : ℤ) (deadline : Deadline)
    (verifyTarget : Deadline → TypingProg σ E AdapterError Unit) (total : ℕ) :
    List (List Char) → DeliveryTracker → TypingProg σ E AdapterError Unit
  | [], _ => return ()
  | chunk :: rest, delivery => do
    posting (world.ensureKeyBudget deadline total delivery)
    (verifyTarget deadline).mapError (fun error => delivery.annotate
      (error.withDetails (InputWorld.deliveredChunks total delivery)))
    let delivery ← posting (world.postVerifiedChunk targetPid deadline total chunk delivery)
    postCheckedChunks targetPid deadline verifyTarget total rest delivery

/-- `synthesize_text`, which is `post_text`, with the check as it is recorded. -/
def synthesizeText (text : String) (targetPid : ℤ) (deadline : Deadline)
    (verifyTarget : Deadline → TypingProg σ E AdapterError Unit) :
    TypingProg σ E AdapterError Unit := do
  let now ← Prog.ask world.toInputWorld.clock
  Prog.ofExcept (preflightText text deadline now)
  let chunks ← Prog.ofExcept (textChunks text)
  world.postCheckedChunks targetPid deadline verifyTarget chunks.length chunks .empty

/-- **`type_text`.** -/
def typeText (fuel : ℕ) (element : E) (text : String) (policy : InteractionPolicy)
    (deadline : Deadline) : TypingProg σ E AdapterError Unit := do
  let now ← Prog.ask world.toInputWorld.clock
  Prog.ofExcept (preflightText text deadline now)
  let (identity, delivery) ← (world.prepareTarget fuel element policy deadline .empty).mapError
    (fun error => error.2.annotate error.1)
  (world.synthesizeText text identity.pid deadline
    (world.verifyDeliveryTarget element identity)).mapError delivery.annotate

/-! ## The check as it is recorded -/

variable (targetPid : ℤ) (deadline : Deadline)
  (verifyTarget : Deadline → σ → Except AdapterError Unit × σ)

/-- The loop that posts chunks is that of `post_text`, if the check records nothing. -/
theorem postCheckedChunks_call (total : ℕ) (chunks : List (List Char))
    (delivery : DeliveryTracker) :
    world.postCheckedChunks targetPid deadline (fun deadline => Prog.call (verifyTarget deadline))
        total chunks delivery
      = posting (world.postChunks targetPid deadline verifyTarget total chunks delivery >>=
        fun _ => pure ()) := by
  induction chunks generalizing delivery with
  | nil => rfl
  | cons chunk rest ih =>
    rw [postCheckedChunks, InputWorld.postChunks, Prog.bind_assoc, InputWorld.postChunk,
      Prog.bind_assoc]
    unfold posting
    rw [Prog.mapEvents_bind]
    refine congrArg (fun f => Prog.mapEvents _ _ >>= f) (funext fun _ => ?_)
    rw [Prog.bind_assoc, Prog.mapEvents_bind]
    refine congrArg₂ (fun p f => p >>= f) ?_ (funext fun _ => ?_)
    · exact congrArg (Prog.mapError _) (Prog.mapEvents_call _ _).symm
    · show _ = Prog.mapEvents _
        (world.postVerifiedChunk targetPid deadline total chunk delivery >>= _)
      rw [Prog.mapEvents_bind]
      exact congrArg (fun f => Prog.mapEvents _ _ >>= f) (funext fun delivery' => ih delivery')

/-- **Texts are posted as before**, if the check records nothing. -/
theorem synthesizeText_call (text : String) :
    world.synthesizeText text targetPid deadline
        (fun deadline => Prog.call (verifyTarget deadline))
      = posting (world.postText text targetPid deadline verifyTarget) := by
  unfold synthesizeText InputWorld.postText posting
  rw [Prog.mapEvents_bind]
  refine congrArg₂ (fun p f => p >>= f) (Prog.mapEvents_ask _ _).symm (funext fun now => ?_)
  rw [Prog.mapEvents_bind]
  refine congrArg₂ (fun p f => p >>= f) (Prog.mapEvents_ofExcept _ _).symm (funext fun _ => ?_)
  rw [Prog.mapEvents_bind]
  refine congrArg₂ (fun p f => p >>= f) (Prog.mapEvents_ofExcept _ _).symm
    (funext fun chunks => ?_)
  exact world.postCheckedChunks_call targetPid deadline verifyTarget chunks.length chunks .empty

end TypingWorld

end AgentDesktop
