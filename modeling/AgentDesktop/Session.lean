import AgentDesktop.Geometry

/-!
# Sessions

A session is a directory with a manifest: when it was created, when it ended, what
is traced, and how its cursor is shown. An operation on a session reads the
manifest, computes a new one from the copy it has read, and replaces the file.
What is computed is a function of the copy; the reading and the replacing are
steps of their own.
-/

namespace AgentDesktop

/-! ## The presentation of the cursor -/

/-- `CursorOverlayStyle`. -/
structure CursorOverlayStyle where
  /-- The colour of the cursor. -/
  fill : String
  /-- The colour of its rim. -/
  rim : String
  /-- The colour of its effects. -/
  accent : String
  size : F64
  /-- Whether a click shows a ripple. -/
  ripple : Bool
  /-- Whether a click outlines its target. -/
  highlight : Bool
  deriving DecidableEq

namespace CursorOverlayStyle

/-- `CursorOverlayStyle::default`. -/
def default : CursorOverlayStyle := ⟨"#FFFFFF", "#111318", "#4299FF", .finite 1, true, true⟩

/-- Whether a character is a hexadecimal digit. -/
def isHexDigit (character : Char) : Bool :=
  let code := character.toNat
  (48 ≤ code && code ≤ 57) || (65 ≤ code && code ≤ 70) || (97 ≤ code && code ≤ 102)

/-- Whether `u8::from_str_radix` reads the pair: two digits, or a plus and a digit. -/
def isChannel (first second : Char) : Bool := (isHexDigit first || first == '+') && isHexDigit second

/-- Whether `rgb` knows the colour: three or six digits behind an optional hash. -/
def isColor (value : String) : Bool :=
  let digits := match value.toList with
    | '#' :: digits => digits
    | digits => digits
  match digits with
  | [r, g, b] => isHexDigit r && isHexDigit g && isHexDigit b
  | [r, r', g, g', b, b'] => isChannel r r' && isChannel g g' && isChannel b b'
  | _ => false

/-- `CursorOverlayStyle::validated`. -/
def validated (style : CursorOverlayStyle) : Except AdapterError CursorOverlayStyle :=
  match [style.fill, style.rim, style.accent].find? (fun color => !isColor color) with
  | some color =>
    .error (.new .invalidArgs
      ("Cursor overlay color '" ++ color ++ "' must be a hex value like #FFFFFF"))
  | none =>
    if style.size.finiteAnd (fun size => 1 / 2 ≤ size && size ≤ 4) then .ok style
    else .error (.new .invalidArgs "Cursor overlay size must be between 0.5 and 4")

end CursorOverlayStyle

/-- `CursorOverlayConfig`. -/
structure CursorOverlayConfig where
  /-- Whether a cursor is shown. -/
  enabled : Bool
  /-- What is written beside it. -/
  label : Option String
  maxWords : ℕ
  style : CursorOverlayStyle
  /-- Whether each agent has its own. -/
  multiAgent : Bool
  deriving DecidableEq

namespace CursorOverlayConfig

/-- `CursorOverlayConfig::default`. -/
def default : CursorOverlayConfig := ⟨false, none, 6, .default, false⟩

/-- The words of a text, given the word that has been begun. -/
def wordsFrom : List Char → List Char → List String
  | [], word => if word.isEmpty then [] else [String.ofList word]
  | character :: rest, word =>
    if isWhitespace character then
      if word.isEmpty then wordsFrom rest [] else String.ofList word :: wordsFrom rest []
    else wordsFrom rest (word ++ [character])

/-- `limit_words`. -/
def limitWords (value : String) (maxWords : ℕ) : Option String :=
  let words := wordsFrom value.toList []
  if words.isEmpty then none
  else if words.length ≤ maxWords then some (" ".intercalate words)
  else some (" ".intercalate (words.take maxWords) ++ "…")

/-- `CursorOverlayConfig::validated`. -/
def validated (config : CursorOverlayConfig) : Except AdapterError CursorOverlayConfig :=
  if config.maxWords < 1 ∨ 12 < config.maxWords then
    .error (.new .invalidArgs "Agent cursor label word limit must be between 1 and 12")
  else if !config.enabled && config.label.isSome then
    .error (.new .invalidArgs "Agent cursor label requires agent cursor mode 'on'")
  else if config.label.any (fun label => 512 < (trim label).utf8ByteSize) then
    .error (.new .invalidArgs "Agent cursor label must be at most 512 bytes")
  else do
    let style ← config.style.validated
    return { config with
      label := config.label.bind (fun label => limitWords (trim label) config.maxWords)
      style := style }

end CursorOverlayConfig

/-! ## The manifest -/

/-- `ArtifactsMode`. -/
inductive ArtifactsMode
  | full | events
  deriving DecidableEq

/-- `SessionTraceMode`. -/
inductive SessionTraceMode
  | on | off
  deriving DecidableEq

/-- `SessionManifest`. -/
structure SessionManifest where
  id : String
  name : Option String
  createdAt : ℕ
  /-- When it ended, if it did. -/
  endedAt : Option ℕ
  trace : SessionTraceMode
  artifacts : ArtifactsMode
  /-- How its cursor is shown. -/
  cursorOverlay : CursorOverlayConfig
  deriving DecidableEq

namespace SessionManifest

/-- A session has ended. -/
def isEnded (manifest : SessionManifest) : Bool := manifest.endedAt.isSome

/-- `trace_enabled`. -/
def traceEnabled (manifest : SessionManifest) : Bool :=
  manifest.trace == .on && manifest.endedAt.isNone

/-- `artifacts_full`. -/
def artifactsFull (manifest : SessionManifest) : Bool :=
  manifest.artifacts == .full && manifest.endedAt.isNone

/-- **The manifest as its file holds it**: a cursor that is not shown is left out, and read
back as the default. -/
def stored (manifest : SessionManifest) : SessionManifest :=
  if manifest.cursorOverlay.enabled then manifest
  else { manifest with cursorOverlay := .default }

@[simp] theorem stored_id (manifest : SessionManifest) : manifest.stored.id = manifest.id := by
  unfold stored
  split <;> rfl

@[simp] theorem stored_endedAt (manifest : SessionManifest) :
    manifest.stored.endedAt = manifest.endedAt := by
  unfold stored
  split <;> rfl

end SessionManifest

/-! ## What the operations compute -/

/-- `validate_session_id`. -/
def validateSessionId (id : String) : Except AppError Unit :=
  if !id.isEmpty && id.utf8ByteSize ≤ 64
      && id.toList.all (fun c => c.isAlphanum || c == '-' || c == '_') then .ok ()
  else
    .error (.invalidInputWithSuggestion
      "Session id must be 1-64 chars using letters, numbers, '-' or '_'"
      "Use a short filesystem-safe session id such as run_1 or agent-a.")

/-- `validate_session_name`. -/
def validateSessionName (name : String) : Except AppError String :=
  if name.isEmpty then
    .error (.invalidInputWithSuggestion "Session name must not be empty"
      "Omit --name or provide a short descriptive label.")
  else if 128 < name.utf8ByteSize then
    .error (.invalidInputWithSuggestion "Session name must be at most 128 characters"
      "Use a shorter session name.")
  else if name.toList.any (fun c => c.toNat < 0x20 || (0x7f ≤ c.toNat && c.toNat < 0xa0)) then
    .error (.invalidInputWithSuggestion "Session name must not contain control characters"
      "Use printable ASCII or Unicode text for --name.")
  else .ok name

/-- The manifest `set_cursor_overlay` writes, from the copy it has read. -/
def cursorOverlayUpdate (sessionId : String) (config : CursorOverlayConfig)
    (copy : Option SessionManifest) : Except AppError SessionManifest :=
  match copy with
  | none =>
    .error (.invalidInputWithSuggestion ("Session '" ++ sessionId ++ "' has no manifest")
      "Run `session start`, then pass its id with --session.")
  | some manifest =>
    if manifest.isEnded then
      .error (.invalidInputWithSuggestion ("Session '" ++ sessionId ++ "' has ended")
        "Start a new session before changing cursor overlay settings.")
    else
      match config.validated with
      | .ok config => .ok { manifest with cursorOverlay := config }
      | .error error => .error (.adapter error)

/-- The manifest `end_session` returns, from the copy it has read, and whether it writes it:
a session that has ended already is left alone. -/
def endUpdate (sessionId : String) (nowMillis : ℕ) (copy : Option SessionManifest) :
    Except AppError (SessionManifest × Bool) :=
  match copy with
  | none =>
    .error (.invalidInputWithSuggestion ("Session '" ++ sessionId ++ "' has no manifest")
      "Use `session list` to see known sessions.")
  | some manifest =>
    if manifest.isEnded then .ok (manifest, false)
    else .ok ({ manifest with endedAt := some nowMillis }, true)

/-- `StartSessionOptions`. -/
structure StartSessionOptions where
  name : Option String
  trace : SessionTraceMode
  artifacts : ArtifactsMode
  deriving DecidableEq

/-- The manifest `start_session` writes, under the id it has been given. -/
def startManifest (options : StartSessionOptions) (id : String) (nowMillis : ℕ) :
    Except AppError SessionManifest := do
  if options.trace = .off ∧ options.artifacts = .full then
    throw (.invalidInputWithSuggestion "Artifacts mode full requires tracing"
      "Remove --no-trace or omit --screenshots.")
  let name ← options.name.mapM validateSessionName
  return {
    id
    name
    createdAt := nowMillis
    endedAt := none
    trace := options.trace
    artifacts := options.artifacts
    cursorOverlay := .default }

/-! ## What an update keeps -/

/-- **A changed cursor is that of the copy otherwise**, and the copy has not ended. -/
theorem eq_of_cursorOverlayUpdate {sessionId : String} {config : CursorOverlayConfig}
    {copy : Option SessionManifest} {manifest : SessionManifest}
    (h : cursorOverlayUpdate sessionId config copy = .ok manifest) :
    ∃ read config', copy = some read ∧ read.endedAt = none ∧ config.validated = .ok config'
      ∧ manifest = { read with cursorOverlay := config' } := by
  cases copy with
  | none => nomatch h
  | some read =>
    simp only [cursorOverlayUpdate] at h
    split_ifs at h with hended
    · cases hconfig : config.validated with
      | error error =>
        rw [hconfig] at h
        nomatch h
      | ok config' =>
        rw [hconfig] at h
        exact ⟨read, config', rfl, by simpa [SessionManifest.isEnded] using hended, rfl,
          (Except.ok.inj h).symm⟩

/-- **An end changes the time of the end only**, and only where there was none. -/
theorem eq_of_endUpdate {sessionId : String} {nowMillis : ℕ} {copy : Option SessionManifest}
    {manifest : SessionManifest} {writes : Bool}
    (h : endUpdate sessionId nowMillis copy = .ok (manifest, writes)) :
    ∃ read, copy = some read ∧ manifest.isEnded
      ∧ ((writes = false ∧ manifest = read)
        ∨ (writes = true ∧ manifest = { read with endedAt := some nowMillis })) := by
  cases copy with
  | none => nomatch h
  | some read =>
    simp only [endUpdate] at h
    split_ifs at h with hended
    · obtain ⟨rfl, rfl⟩ := Prod.mk.inj (Except.ok.inj h)
      exact ⟨read, rfl, hended, .inl ⟨rfl, rfl⟩⟩
    · obtain ⟨rfl, rfl⟩ := Prod.mk.inj (Except.ok.inj h)
      exact ⟨read, rfl, rfl, .inr ⟨rfl, rfl⟩⟩

theorem id_of_startManifest {options : StartSessionOptions} {id : String} {nowMillis : ℕ}
    {manifest : SessionManifest} (h : startManifest options id nowMillis = .ok manifest) :
    manifest.id = id := by
  unfold startManifest at h
  split_ifs at h
  · nomatch h
  · cases hname : options.name.mapM validateSessionName with
    | error error =>
      rw [hname] at h
      nomatch h
    | ok name =>
      rw [hname] at h
      exact (Except.ok.inj h) ▸ rfl

end AgentDesktop
