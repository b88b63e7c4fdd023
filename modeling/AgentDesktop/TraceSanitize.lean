import AgentDesktop.Text
import AgentDesktop.Error

/-!
# Redacting what is traced

A trace shows what a command did, but not what was typed or read. Before a value
is written, what stands beneath a sensitive key is replaced, at every depth: null
stays null, and anything else becomes one and the same object. A key is sensitive
when one of the words it is made of is; words are told apart by what is no letter
or digit, and by capitals.

So a sanitized value tells whatever stands outside of the sensitive keys and
nothing beneath them (`sanitize_eq_iff`).
-/

namespace AgentDesktop

/-! ## The words of a key -/

/-- `char::is_ascii_uppercase`. -/
def isAsciiUppercase (character : Char) : Bool :=
  65 ≤ character.toNat && character.toNat ≤ 90

/-- `char::is_ascii_lowercase`. -/
def isAsciiLowercase (character : Char) : Bool :=
  97 ≤ character.toNat && character.toNat ≤ 122

/-- `char::is_ascii_alphanumeric`. -/
def isAsciiAlphanumeric (character : Char) : Bool :=
  isAsciiUppercase character || isAsciiLowercase character || isAsciiDigit character

/-- The variables of `trace_key_tokens`. -/
structure KeyTokens where
  /-- The words that are complete. -/
  tokens : List String
  /-- The word that is not. -/
  current : List Char
  /-- Whether the last character was a small letter or a digit. -/
  previousWasLowerOrDigit : Bool
  /-- Whether it was a capital. -/
  previousWasUppercase : Bool

namespace KeyTokens

/-- `push_trace_key_token`. -/
def push (state : KeyTokens) : KeyTokens :=
  if state.current.isEmpty then state
  else { state with tokens := state.tokens ++ [String.ofList state.current], current := [] }

/-- One character of `trace_key_tokens`. -/
def next (state : KeyTokens) (ch : Char) : KeyTokens :=
  if !isAsciiAlphanumeric ch then
    { state.push with previousWasLowerOrDigit := false, previousWasUppercase := false }
  else
    let state := if isAsciiUppercase ch && state.previousWasLowerOrDigit then state.push else state
    -- the last capital of several belongs to the word that begins with it
    let state :=
      if isAsciiLowercase ch && state.previousWasUppercase && 1 < state.current.length then
        { { state with current := state.current.dropLast }.push with
          current := state.current.getLast?.toList }
      else state
    { state with
      current := state.current ++ [toAsciiLowercase ch]
      previousWasLowerOrDigit := isAsciiLowercase ch || isAsciiDigit ch
      previousWasUppercase := isAsciiUppercase ch }

end KeyTokens

/-- `trace_key_tokens`. -/
def traceKeyTokens (key : String) : List String :=
  (key.toList.foldl KeyTokens.next ⟨[], [], false, false⟩).push.tokens

/-- Words are told apart by capitals, also after several of them. -/
example : ["typedText", "APIToken", "user_name", "URL", "filename"].map traceKeyTokens
    = [["typed", "text"], ["api", "token"], ["user", "name"], ["url"], ["filename"]] := by
  decide

/-- `SENSITIVE_KEYS`. -/
def sensitiveKeys : List String :=
  ["text", "value", "expected", "name", "username", "description", "label", "query", "selector",
    "secret", "token", "password", "title", "url", "help", "placeholder"]

/-- `is_sensitive_trace_key`. -/
def isSensitiveTraceKey (key : String) : Bool := (traceKeyTokens key).any sensitiveKeys.contains

/-! ## Sanitizing -/

/-- `redacted_value`. -/
def redactedValue : Json → Json
  | .null => .null
  | _ => .obj [("redacted", .bool true)]

mutual

/-- `sanitize_trace_value`. -/
def sanitizeTraceValue : Json → Json
  | .obj fields => .obj (sanitizeFields fields)
  | .arr items => .arr (sanitizeItems items)
  | .null => .null
  | .bool value => .bool value
  | .num value => .num value
  | .real value => .real value
  | .str value => .str value

/-- The items of an array. -/
def sanitizeItems : List Json → List Json
  | [] => []
  | item :: rest => sanitizeTraceValue item :: sanitizeItems rest

/-- The fields of an object. -/
def sanitizeFields : List (String × Json) → List (String × Json)
  | [] => []
  | (key, value) :: rest =>
    (key, if isSensitiveTraceKey key then redactedValue value else sanitizeTraceValue value)
      :: sanitizeFields rest

end

/-! ## What a sanitized value tells -/

mutual

/-- **Two values that differ only beneath sensitive keys**, and are null there both or neither. -/
inductive SameOutside : Json → Json → Prop
  /-- They do not differ. -/
  | same (value : Json) : SameOutside value value
  /-- Arrays whose items do. -/
  | arr {items items' : List Json} (h : SameItems items items') :
    SameOutside (.arr items) (.arr items')
  /-- Objects with the same keys. -/
  | obj {fields fields' : List (String × Json)} (h : SameFields fields fields') :
    SameOutside (.obj fields) (.obj fields')

/-- Items that differ only so. -/
inductive SameItems : List Json → List Json → Prop
  /-- There are none. -/
  | nil : SameItems [] []
  /-- The first ones do, and the others. -/
  | cons {item item' : Json} {rest rest' : List Json} (hitem : SameOutside item item')
    (hrest : SameItems rest rest') : SameItems (item :: rest) (item' :: rest')

/-- Fields that differ only so. -/
inductive SameFields : List (String × Json) → List (String × Json) → Prop
  /-- There are none. -/
  | nil : SameFields [] []
  /-- What is beneath the key is shown. -/
  | shown {key : String} {value value' : Json} {rest rest' : List (String × Json)}
    (hvalue : SameOutside value value') (hrest : SameFields rest rest') :
    SameFields ((key, value) :: rest) ((key, value') :: rest')
  /-- The key is sensitive: what is beneath it may be anything. -/
  | hidden {key : String} {value value' : Json} {rest rest' : List (String × Json)}
    (hkey : isSensitiveTraceKey key = true) (hnull : value = .null ↔ value' = .null)
    (hrest : SameFields rest rest') :
    SameFields ((key, value) :: rest) ((key, value') :: rest')

end

theorem redactedValue_eq_null_iff {value : Json} : redactedValue value = .null ↔ value = .null := by
  cases value <;> simp [redactedValue]

theorem redactedValue_eq_iff {value value' : Json} :
    redactedValue value = redactedValue value' ↔ (value = .null ↔ value' = .null) := by
  constructor
  · intro h
    rw [← redactedValue_eq_null_iff, h, redactedValue_eq_null_iff]
  · cases value <;> cases value' <;> simp [redactedValue]

theorem redactedValue_idem (value : Json) :
    redactedValue (redactedValue value) = redactedValue value := by
  cases value <;> rfl

theorem SameOutside.null_iff {value value' : Json} (h : SameOutside value value') :
    value = .null ↔ value' = .null := by
  cases h with
  | same => exact Iff.rfl
  | arr | obj => exact iff_of_false (by simp) (by simp)

/-! ### Nothing beneath a sensitive key is told -/

mutual

theorem SameOutside.sanitize_eq {value value' : Json} (h : SameOutside value value') :
    sanitizeTraceValue value = sanitizeTraceValue value' := by
  cases h with
  | same => rfl
  | arr h =>
    rw [sanitizeTraceValue, sanitizeTraceValue]
    exact congrArg Json.arr h.sanitize_eq
  | obj h =>
    rw [sanitizeTraceValue, sanitizeTraceValue]
    exact congrArg Json.obj h.sanitize_eq

theorem SameItems.sanitize_eq {items items' : List Json} (h : SameItems items items') :
    sanitizeItems items = sanitizeItems items' := by
  cases h with
  | nil => rfl
  | cons hitem hrest =>
    rw [sanitizeItems, sanitizeItems, hitem.sanitize_eq, hrest.sanitize_eq]

theorem SameFields.sanitize_eq {fields fields' : List (String × Json)}
    (h : SameFields fields fields') : sanitizeFields fields = sanitizeFields fields' := by
  cases h with
  | nil => rfl
  | shown hvalue hrest =>
    rw [sanitizeFields, sanitizeFields, hrest.sanitize_eq, hvalue.sanitize_eq,
      redactedValue_eq_iff.mpr hvalue.null_iff]
  | hidden hkey hnull hrest =>
    rw [sanitizeFields, sanitizeFields, hrest.sanitize_eq, if_pos hkey, if_pos hkey,
      redactedValue_eq_iff.mpr hnull]

end

/-! ### Everything else is -/

theorem sanitize_of_scalar {value : Json} (harr : ∀ items, value ≠ .arr items)
    (hobj : ∀ fields, value ≠ .obj fields) : sanitizeTraceValue value = value := by
  cases value with
  | arr items => exact absurd rfl (harr items)
  | obj fields => exact absurd rfl (hobj fields)
  | _ => rw [sanitizeTraceValue]

mutual

theorem sameOutside_of_sanitize_eq (value value' : Json)
    (h : sanitizeTraceValue value = sanitizeTraceValue value') : SameOutside value value' := by
  cases value with
  | arr items =>
    cases value' with
    | arr items' =>
      rw [sanitizeTraceValue, sanitizeTraceValue] at h
      exact .arr (sameItems_of_sanitize_eq items items' (Json.arr.inj h))
    | _ => exact absurd h (by simp [sanitizeTraceValue])
  | obj fields =>
    cases value' with
    | obj fields' =>
      rw [sanitizeTraceValue, sanitizeTraceValue] at h
      exact .obj (sameFields_of_sanitize_eq fields fields' (Json.obj.inj h))
    | _ => exact absurd h (by simp [sanitizeTraceValue])
  | _ =>
    -- a scalar is left as it is
    cases value' with
    | arr | obj => exact absurd h (by simp [sanitizeTraceValue])
    | _ =>
      have heq := (sanitize_of_scalar (by simp) (by simp)).symm.trans
        (h.trans (sanitize_of_scalar (by simp) (by simp)))
      rw [heq]
      exact .same _

theorem sameItems_of_sanitize_eq (items items' : List Json)
    (h : sanitizeItems items = sanitizeItems items') : SameItems items items' := by
  match items, items' with
  | [], [] => exact .nil
  | [], _ :: _ | _ :: _, [] => exact absurd h (by simp [sanitizeItems])
  | item :: rest, item' :: rest' =>
    rw [sanitizeItems, sanitizeItems, List.cons.injEq] at h
    exact .cons (sameOutside_of_sanitize_eq item item' h.1)
      (sameItems_of_sanitize_eq rest rest' h.2)

theorem sameFields_of_sanitize_eq (fields fields' : List (String × Json))
    (h : sanitizeFields fields = sanitizeFields fields') : SameFields fields fields' := by
  match fields, fields' with
  | [], [] => exact .nil
  | [], _ :: _ | _ :: _, [] => exact absurd h (by simp [sanitizeFields])
  | (key, value) :: rest, (key', value') :: rest' =>
    rw [sanitizeFields, sanitizeFields, List.cons.injEq, Prod.mk.injEq] at h
    obtain ⟨⟨rfl, hvalue⟩, hrest⟩ := h
    have hrest := sameFields_of_sanitize_eq rest rest' hrest
    by_cases hkey : isSensitiveTraceKey key = true
    · rw [if_pos hkey, if_pos hkey] at hvalue
      exact .hidden hkey (redactedValue_eq_iff.mp hvalue) hrest
    · rw [if_neg hkey, if_neg hkey] at hvalue
      exact .shown (sameOutside_of_sanitize_eq value value' hvalue) hrest

end

/-- **A sanitized value tells what stands outside of the sensitive keys, and nothing else.** -/
theorem sanitize_eq_iff (value value' : Json) :
    sanitizeTraceValue value = sanitizeTraceValue value' ↔ SameOutside value value' :=
  ⟨sameOutside_of_sanitize_eq value value', SameOutside.sanitize_eq⟩

/-! ### Sanitizing again changes nothing -/

mutual

theorem sanitize_idem (value : Json) :
    sanitizeTraceValue (sanitizeTraceValue value) = sanitizeTraceValue value := by
  cases value with
  | arr items =>
    rw [sanitizeTraceValue, sanitizeTraceValue]
    exact congrArg Json.arr (sanitizeItems_idem items)
  | obj fields =>
    rw [sanitizeTraceValue, sanitizeTraceValue]
    exact congrArg Json.obj (sanitizeFields_idem fields)
  | _ => simp only [sanitizeTraceValue]

theorem sanitizeItems_idem (items : List Json) :
    sanitizeItems (sanitizeItems items) = sanitizeItems items := by
  match items with
  | [] => rfl
  | item :: rest =>
    rw [sanitizeItems, sanitizeItems, sanitize_idem item, sanitizeItems_idem rest]

theorem sanitizeFields_idem (fields : List (String × Json)) :
    sanitizeFields (sanitizeFields fields) = sanitizeFields fields := by
  match fields with
  | [] => rfl
  | (key, value) :: rest =>
    rw [sanitizeFields, sanitizeFields, sanitizeFields_idem rest]
    by_cases hkey : isSensitiveTraceKey key = true
    · rw [if_pos hkey, if_pos hkey, redactedValue_idem]
    · rw [if_neg hkey, if_neg hkey, sanitize_idem value]

end

/-- **Sanitizing is a barrier.** Two values are sanitized to the same value exactly when they differ
only in what stands beneath sensitive keys, with the same nulls, at whatever depth; and a value that
was sanitized is not changed by sanitizing it again. -/
theorem sanitize_is_a_barrier (value value' : Json) :
    (SameOutside value value' ↔ sanitizeTraceValue value = sanitizeTraceValue value')
      ∧ sanitizeTraceValue (sanitizeTraceValue value) = sanitizeTraceValue value :=
  ⟨(sanitize_eq_iff value value').symm, sanitize_idem value⟩

/-- What was typed is not told, at whatever depth it stands. -/
example : sanitizeTraceValue (.arr [.obj [("kind", .num 3), ("typedText", .str "hunter2")]])
    = sanitizeTraceValue (.arr [.obj [("kind", .num 3), ("typedText", .arr [.num 1])]]) :=
  (sanitize_eq_iff _ _).mpr (.arr (.cons (.obj (.shown (.same _)
    (.hidden (by decide) (by simp) .nil))) .nil))

end AgentDesktop
