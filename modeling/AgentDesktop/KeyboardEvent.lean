import Mathlib.Algebra.Ring.Nat
import AgentDesktop.InputEvent

/-!
# The keyboard

A key is pressed and released as a pair; its release is kept by a guard while the
key is down. A text is sent in chunks of a bounded number of UTF-16 units, none
of which splits a character, and each chunk is the text of one such pair. Before
the first chunk it is checked that the time is enough for all of them.
-/

namespace AgentDesktop

/-- `KEY_SETTLE`, in nanoseconds. -/
def keySettle : ℕ := 4 * nanosPerMs

/-- `TEXT_CHUNK_BUDGET`, in nanoseconds. -/
def textChunkBudget : ℕ := 400 * nanosPerMs

/-- `MAX_TEXT_UTF16`. -/
def maxTextUtf16 : ℕ := 1000000

/-- `TEXT_CHUNK_UTF16`. -/
def textChunkUtf16 : ℕ := 32

/-- `text_too_large`. -/
def textTooLarge : AdapterError :=
  .new .invalidArgs "Text input must not exceed 1000000 UTF-16 code units"

/-- `len_utf16`. -/
def lenUtf16 (character : Char) : ℕ := if character.val < 0x10000 then 1 else 2

/-- The number of UTF-16 units of some characters. -/
def utf16Length (characters : List Char) : ℕ := (characters.map lenUtf16).sum

/-- The loop of `planned_chunk_count`: the units and the chunks so far, and the units of the
current chunk. -/
def plannedChunkCountFrom : List Char → ℕ → ℕ → ℕ → Except AdapterError ℕ
  | [], _, chunks, current => .ok (chunks + if 0 < current then 1 else 0)
  | character :: rest, units, chunks, current =>
    let encoded := lenUtf16 character
    if maxTextUtf16 < units + encoded then .error textTooLarge
    else if 0 < current ∧ textChunkUtf16 < current + encoded then
      plannedChunkCountFrom rest (units + encoded) (chunks + 1) encoded
    else plannedChunkCountFrom rest (units + encoded) chunks (current + encoded)

/-- `planned_chunk_count`. -/
def plannedChunkCount (text : String) : Except AdapterError ℕ :=
  plannedChunkCountFrom text.toList 0 0 0

/-- The loop of `text_chunks`, with the current chunk; a chunk is kept as its characters. -/
def textChunksFrom : List Char → List Char → List (List Char)
  | [], current => if current.isEmpty then [] else [current]
  | character :: rest, current =>
    if !current.isEmpty && textChunkUtf16 < utf16Length current + lenUtf16 character then
      current :: textChunksFrom rest [character]
    else textChunksFrom rest (current ++ [character])

/-- `text_chunks`. -/
def textChunks (text : String) : Except AdapterError (List (List Char)) := do
  let _ ← plannedChunkCount text
  return textChunksFrom text.toList []

/-- `preflight_text`, at a time. -/
def preflightText (text : String) (deadline : Deadline) (now : ℕ) : Except AdapterError Unit := do
  let chunks ← plannedChunkCount text
  if u32Max < chunks then throw (.new .invalidArgs "Text payload is too large")
  let required := textChunkBudget * chunks
  let remaining := deadline.remaining now
  if remaining < required then
    throw (DeliveryTracker.empty.annotate ((AdapterError.timeout
      "Text cannot be delivered safely within the remaining deadline").withDetails
        (.obj [("delivered_chunks", .num 0), ("total_chunks", .num chunks),
          ("required_ms", .num ↑(required / nanosPerMs)),
          ("remaining_ms", .num ↑(remaining / nanosPerMs))])))

namespace InputWorld

variable {σ : Type} (world : InputWorld σ)

/-- `ensure_budget` of the keyboard. -/
def ensureKeyBudget (deadline : Deadline) (total : ℕ) (delivery : DeliveryTracker) :
    InputProg σ AdapterError Unit :=
  world.ensureBudgetWith (deliveredChunks total delivery) deadline delivery

/-- `sleep_bounded` of the keyboard. -/
def keySleepBounded (deadline : Deadline) (duration : ℕ) (delivery : DeliveryTracker)
    (total : ℕ) : InputProg σ AdapterError Unit := do
  let now ← Prog.ask world.clock
  let pause ← Prog.ofExcept ((deadline.remainingSlice now duration).mapError delivery.annotate)
  Prog.ask (world.sleep pause)
  if pause < duration then world.ensureKeyBudget deadline total delivery else return ()

/-- `event_source` of the keyboard. -/
def keyEventSource : InputProg σ AdapterError Unit := do
  if ← Prog.ask world.newEventSource then return ()
  else Prog.fail (.internal "Failed to create keyboard CGEventSource")

/-- `create_key_event`. -/
def createKeyEvent (keyCode : UInt16) (down : Bool) (flags : UInt64) :
    InputProg σ AdapterError KeyEvent := do
  let event : KeyEvent := ⟨keyCode, down, flags, none⟩
  if ← Prog.ask (world.newKeyboardEvent event) then return event
  else Prog.fail (.internal "CGEvent::new_keyboard_event failed")

/-- `KeyReleaseGuard`, before the key is down. -/
def keyReleaseGuard (up : KeyEvent) (targetPid : Option ℤ) : ReleaseGuard :=
  ⟨some (.key up targetPid)⟩

/-- `post_pair`: the tracker it leaves. -/
def postPair (down up : KeyEvent) (targetPid : Option ℤ) (deadline : Deadline)
    (delivery : DeliveryTracker) (total : ℕ) : InputProg σ AdapterError DeliveryTracker := do
  world.ensureKeyBudget deadline total delivery
  guarded (keyReleaseGuard up targetPid) (fun release => do
    post (.key down targetPid)
    let delivery := delivery.markDelivered
    Prog.mapError (·, release) (world.keySleepBounded deadline keySettle delivery total)
    let release ← takeRelease (delivery.annotate
      (.internal "Keyboard release guard lost its key-up event")) release
    let delivery ← Prog.mapError (·, release) (do
      world.ensureKeyBudget deadline total delivery
      return delivery)
    return (delivery, release))

/-- **A pair has its release pending** while the key is down. -/
theorem postPair_eq (down up : KeyEvent) (targetPid : Option ℤ) (deadline : Deadline)
    (delivery : DeliveryTracker) (total : ℕ) :
    world.postPair down up targetPid deadline delivery total = (do
      world.ensureKeyBudget deadline total delivery
      post (.key down targetPid)
      releasing (.key up targetPid)
        (world.keySleepBounded deadline keySettle delivery.markDelivered total)
      world.ensureKeyBudget deadline total delivery.markDelivered
      return delivery.markDelivered) := by
  unfold postPair
  simp only [keyReleaseGuard, guarded_post, guarded_eq_releasing]

/-- `post_key`; the progress is what was delivered before, and the total. -/
def postKey (keyCode : UInt16) (flags : UInt64) (targetPid : Option ℤ) (deadline : Deadline)
    (progress : ℕ × ℕ) : InputProg σ AdapterError Unit := do
  let delivery := DeliveryTracker.fromDeliveredUnits progress.1
  let _ ← (do
    world.ensureKeyBudget deadline progress.2 delivery
    Prog.mapError delivery.annotate world.keyEventSource
    let down ← Prog.mapError delivery.annotate (world.createKeyEvent keyCode true flags)
    let up ← Prog.mapError delivery.annotate (world.createKeyEvent keyCode false flags)
    world.postPair down up targetPid deadline delivery progress.2)
  return ()

/-- One of the chunks of `post_text`. -/
def postChunk (targetPid : ℤ) (deadline : Deadline)
    (verifyTarget : Deadline → σ → Except AdapterError Unit × σ) (total : ℕ) (chunk : List Char)
    (delivery : DeliveryTracker) : InputProg σ AdapterError DeliveryTracker := do
  world.ensureKeyBudget deadline total delivery
  Prog.mapError (fun error => delivery.annotate
    (error.withDetails (deliveredChunks total delivery))) (Prog.call (verifyTarget deadline))
  Prog.mapError delivery.annotate world.keyEventSource
  let down ← Prog.mapError delivery.annotate (world.createKeyEvent 0 true 0)
  let down := { down with text := some chunk }
  let up ← Prog.mapError delivery.annotate (world.createKeyEvent 0 false 0)
  world.postPair down up (some targetPid) deadline delivery total

/-- The loop of `post_text`. -/
def postChunks (targetPid : ℤ) (deadline : Deadline)
    (verifyTarget : Deadline → σ → Except AdapterError Unit × σ) (total : ℕ) :
    List (List Char) → DeliveryTracker → InputProg σ AdapterError DeliveryTracker
  | [], delivery => return delivery
  | chunk :: rest, delivery => do
    let delivery ← world.postChunk targetPid deadline verifyTarget total chunk delivery
    postChunks targetPid deadline verifyTarget total rest delivery

/-- `post_text`. -/
def postText (text : String) (targetPid : ℤ) (deadline : Deadline)
    (verifyTarget : Deadline → σ → Except AdapterError Unit × σ) :
    InputProg σ AdapterError Unit := do
  let now ← Prog.ask world.clock
  Prog.ofExcept (preflightText text deadline now)
  let chunks ← Prog.ofExcept (textChunks text)
  let _ ← world.postChunks targetPid deadline verifyTarget chunks.length chunks .empty
  return ()

end InputWorld

/-! ## The chunks of a text -/

theorem lenUtf16_pos_le (character : Char) : 0 < lenUtf16 character ∧ lenUtf16 character ≤ 2 := by
  unfold lenUtf16
  split_ifs <;> exact ⟨by decide, by decide⟩

@[simp] theorem utf16Length_append (characters characters' : List Char) :
    utf16Length (characters ++ characters') = utf16Length characters + utf16Length characters' := by
  unfold utf16Length
  rw [List.map_append, List.sum_append]

@[simp] theorem utf16Length_singleton (character : Char) :
    utf16Length [character] = lenUtf16 character := by
  unfold utf16Length
  simp

theorem utf16Length_eq_zero_iff (characters : List Char) :
    utf16Length characters = 0 ↔ characters = [] := by
  cases characters with
  | nil => simp [utf16Length]
  | cons character rest =>
    have hpos := (lenUtf16_pos_le character).1
    simp [utf16Length]
    omega

/-- **The chunks are the text**: nothing of it is lost, and no character is split. -/
theorem flatten_textChunksFrom (characters current : List Char) :
    (textChunksFrom characters current).flatten = current ++ characters := by
  induction characters generalizing current with
  | nil =>
    unfold textChunksFrom
    cases current <;> simp
  | cons character rest ih =>
    unfold textChunksFrom
    split_ifs with h
    · rw [List.flatten_cons, ih]
      rfl
    · rw [ih, List.append_assoc]
      rfl

/-- **No chunk has more units than a chunk may have.** -/
theorem utf16Length_textChunksFrom_le (characters current : List Char)
    (hcurrent : utf16Length current ≤ textChunkUtf16) :
    ∀ chunk ∈ textChunksFrom characters current, utf16Length chunk ≤ textChunkUtf16 := by
  induction characters generalizing current with
  | nil =>
    unfold textChunksFrom
    intro chunk hchunk
    split_ifs at hchunk with h
    · exact absurd hchunk List.not_mem_nil
    · rw [List.mem_singleton.mp hchunk]
      exact hcurrent
  | cons character rest ih =>
    have hcharacter := lenUtf16_pos_le character
    unfold textChunksFrom
    intro chunk hchunk
    split_ifs at hchunk with h
    · rcases List.mem_cons.mp hchunk with rfl | hchunk
      · exact hcurrent
      · refine ih [character] ?_ chunk hchunk
        rw [utf16Length_singleton]
        exact hcharacter.2.trans (by decide)
    · refine ih (current ++ [character]) ?_ chunk hchunk
      rw [utf16Length_append, utf16Length_singleton]
      cases current with
      | nil => exact (by simpa [utf16Length] using hcharacter.2.trans (by decide))
      | cons head tail => simpa using h

/-- **What is planned is what is sent**: the count is the number of the chunks. -/
theorem plannedChunkCountFrom_eq {characters current : List Char} {units chunks count : ℕ}
    (h : plannedChunkCountFrom characters units chunks (utf16Length current) = .ok count) :
    count = chunks + (textChunksFrom characters current).length := by
  induction characters generalizing current units chunks with
  | nil =>
    unfold plannedChunkCountFrom at h
    obtain rfl := Except.ok.inj h
    have hempty := utf16Length_eq_zero_iff current
    unfold textChunksFrom
    cases current with
    | nil => simp [utf16Length]
    | cons head tail =>
      have hpos : 0 < utf16Length (head :: tail) :=
        Nat.pos_of_ne_zero (fun hzero => absurd (hempty.mp hzero) (by simp))
      simp [hpos]
  | cons character rest ih =>
    have hempty := utf16Length_eq_zero_iff current
    have hnonempty : (0 < utf16Length current) ↔ (!current.isEmpty) = true := by
      rw [Nat.pos_iff_ne_zero, Ne, hempty]
      simp
    have hguard : (!current.isEmpty && decide (textChunkUtf16 < utf16Length current
        + lenUtf16 character)) = true
          ↔ 0 < utf16Length current ∧ textChunkUtf16 < utf16Length current + lenUtf16 character := by
      rw [Bool.and_eq_true, decide_eq_true_iff, hnonempty]
    unfold plannedChunkCountFrom at h
    unfold textChunksFrom
    by_cases hlarge : maxTextUtf16 < units + lenUtf16 character
    · exact absurd h (by simp [hlarge])
    · dsimp only at h
      rw [if_neg hlarge] at h
      by_cases hfull : 0 < utf16Length current
          ∧ textChunkUtf16 < utf16Length current + lenUtf16 character
      · rw [if_pos hfull, ← utf16Length_singleton] at h
        rw [if_pos (hguard.mpr hfull), ih h, List.length_cons]
        omega
      · rw [if_neg hfull, ← utf16Length_singleton character, ← utf16Length_append] at h
        rw [if_neg (mt hguard.mp hfull)]
        exact ih h

end AgentDesktop
