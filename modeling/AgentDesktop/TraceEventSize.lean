import Mathlib.Tactic.Ring
import Mathlib.Data.List.Nodup
import AgentDesktop.JsonSize
import AgentDesktop.TraceSanitize

/-!
# The size of a traced event

Before an event is written its fields are estimated, and an event that is too large is
refused. The estimate is made on a walk through the fields: each value takes an
amount from what remains of the limit, and the event is refused where too little
remains.

What a value takes is not what its text takes. A string is charged six bytes for each
of its own and none for its quotes, an array one for each of its items and none for
its brackets, and a value under a sensitive key for itself and not for what is
written instead. What is missing can be told from the fields alone, without the
estimate (`ValueFits.unchargedFields`), and all that there is to pay for it is the
allowance of 512 bytes for what an event is written with. Where the allowance covers
it, a line keeps to the limit (`line_fits_of_uncharged`); a million empty texts are
accepted and take three times the limit (`writeEventLocked_exceeds_limit`), and no
line takes more than that (`lineSize_le`).
-/

namespace AgentDesktop

/-- `MAX_TRACE_EVENT_BYTES`. -/
def maxTraceEventBytes : ℕ := 1024 * 1024

/-- `MAX_TRACE_FILE_BYTES`. -/
def maxTraceFileBytes : ℕ := 64 * 1024 * 1024

/-! ## The estimate -/

namespace ValueFits

/-- `take`. -/
def take (remaining amount : ℕ) : Option ℕ :=
  if amount ≤ remaining then some (remaining - amount) else none

mutual

/-- `visit`: what remains, where there is enough. -/
def visit : Json → ℕ → Option ℕ
  | .null, remaining => take remaining 4
  | .bool _, remaining => take remaining 5
  | .num _, remaining => take remaining 32
  | .real _, remaining => take remaining 32
  | .str string, remaining => take remaining (string.utf8ByteSize * 6)
  | .arr values, remaining => (take remaining values.length).bind (visitItems values)
  | .obj values, remaining => visitFields values remaining

/-- The values of an array. -/
def visitItems : List Json → ℕ → Option ℕ
  | [], remaining => some remaining
  | value :: rest, remaining => (visit value remaining).bind (visitItems rest)

/-- The keys and the values of an object. -/
def visitFields : List (String × Json) → ℕ → Option ℕ
  | [], remaining => some remaining
  | (key, value) :: rest, remaining =>
    ((take remaining (key.utf8ByteSize * 6 + 4)).bind (visit value)).bind (visitFields rest)

end

/-! ### The walk takes the charge -/

mutual

/-- What a value takes. -/
def charge : Json → ℕ
  | .null => 4
  | .bool _ => 5
  | .num _ => 32
  | .real _ => 32
  | .str string => string.utf8ByteSize * 6
  | .arr values => values.length + chargeItems values
  | .obj values => chargeFields values

/-- What the values of an array take. -/
def chargeItems : List Json → ℕ
  | [] => 0
  | value :: rest => charge value + chargeItems rest

/-- What the keys and the values of an object take. -/
def chargeFields : List (String × Json) → ℕ
  | [] => 0
  | (key, value) :: rest => key.utf8ByteSize * 6 + 4 + charge value + chargeFields rest

end

theorem take_bind_take (remaining amount amount' : ℕ) :
    (take remaining amount).bind (fun left => take left amount')
      = take remaining (amount + amount') := by
  unfold take
  by_cases hfits : amount ≤ remaining
  · rw [if_pos hfits, Option.bind_some]
    by_cases hrest : amount' ≤ remaining - amount
    · rw [if_pos hrest, if_pos (by omega), Nat.sub_sub]
    · rw [if_neg hrest, if_neg (by omega)]
  · rw [if_neg hfits, if_neg (by omega)]
    rfl

theorem take_zero (remaining : ℕ) : take remaining 0 = some remaining := if_pos (Nat.zero_le _)

mutual

theorem visit_eq (value : Json) : visit value = fun remaining => take remaining (charge value) := by
  funext remaining
  cases value with
  | arr values =>
    rw [visit, charge, visitItems_eq values]
    exact take_bind_take remaining _ _
  | obj values =>
    rw [visit, charge, visitFields_eq values]
  | _ => rw [visit, charge]

theorem visitItems_eq (values : List Json) :
    visitItems values = fun remaining => take remaining (chargeItems values) := by
  funext remaining
  match values with
  | [] =>
    rw [visitItems, chargeItems, take_zero]
  | value :: rest =>
    rw [visitItems, chargeItems, visit_eq value, visitItems_eq rest]
    exact take_bind_take remaining _ _

theorem visitFields_eq (values : List (String × Json)) :
    visitFields values = fun remaining => take remaining (chargeFields values) := by
  funext remaining
  match values with
  | [] =>
    rw [visitFields, chargeFields, take_zero]
  | (key, value) :: rest =>
    rw [visitFields, chargeFields, visit_eq value, visitFields_eq rest, take_bind_take]
    exact take_bind_take remaining _ _

end

end ValueFits

/-- `value_fits`. -/
def valueFits (value : Json) (maxBytes : ℕ) : Bool := (ValueFits.visit value maxBytes).isSome

open ValueFits in
theorem valueFits_iff (value : Json) (maxBytes : ℕ) :
    valueFits value maxBytes = true ↔ charge value ≤ maxBytes := by
  unfold valueFits
  rw [visit_eq]
  show (take maxBytes (charge value)).isSome = true ↔ _
  unfold take
  by_cases hfits : charge value ≤ maxBytes
  · rw [if_pos hfits]
    exact iff_of_true rfl hfits
  · rw [if_neg hfits]
    exact iff_of_false Bool.false_ne_true hfits

/-! ## The line -/

/-- What the process knows when it writes an event. -/
structure TraceStamp where
  /-- The number of the event. -/
  seq : ℕ
  writerPid : ℕ
  writerProcStartMs : ℕ

/-- What is set apart for what an event is written with. -/
def envelopeBytes (event : String) (sessionId : Option String) : ℕ :=
  event.utf8ByteSize * 6 + (sessionId.map (fun session => session.utf8ByteSize * 6)).getD 0 + 512

variable [FloatText]

/-- `reject_oversized_trace`, on a file of this length. -/
def rejectOversizedTrace (length incoming : ℕ) : Except AppError Unit :=
  if length + incoming ≤ maxTraceFileBytes then .ok ()
  else
    .error (.invalidInputWithSuggestion "Trace file reached the maximum supported size"
      "Start a new --trace file or rotate the existing trace before retrying.")

/-- The size of a line: the text of a value and the line feed. -/
def lineSize (body : Json) : ℕ := body.size + 1

/-- **`write_event_locked`**, up to the line that is written to a file of this length; the time may
not be known. -/
def writeEventLocked (length : ℕ) (now : Except String ℕ) (stamp : TraceStamp) (event : String)
    (sessionId : Option String) (fields : Json) : Except AppError Json := do
  let envelope := envelopeBytes event sessionId
  if maxTraceEventBytes ≤ envelope || !valueFits fields (maxTraceEventBytes - envelope) then
    throw (.invalidInputWithSuggestion "Trace event exceeds the maximum supported event size"
      "Emit bounded metadata and omit raw application content from trace fields.")
  let body :=
    match sanitizeTraceValue fields with
    | .obj fields => Json.obj fields
    | _ => .obj []
  let body := body.insert "event" (.str event)
  let tsMs ← now.mapError AppError.internal
  let body := body.insert "ts_ms" (.num tsMs)
  let body := body.insert "seq" (.num stamp.seq)
  let body := body.insert "writer_pid" (.num stamp.writerPid)
  let body := body.insert "writer_proc_start_ms" (.num stamp.writerProcStartMs)
  let body :=
    match sessionId with
    | some sid => body.insert "session_id" (.str sid)
    | none => body
  rejectOversizedTrace length (lineSize body)
  return body

/-! ## What the estimate does not charge for

Every character of a text is charged with six bytes, and a key with four more for its quotes, its colon
and its comma. What is charged with nothing are the quotes of a text that is a value, the brackets of an
array or an object, but for the comma that its last item is charged with and does not have, and what the
placeholder beneath a sensitive key takes beyond the charge of the value that it stands for. The amounts
below are found from the fields alone. They count what may be missing and set off nothing against it, so
that the text of a sanitized value is at most its charge and what is uncharged (`size_sanitize_le`); the
quotes of a text are the exception, as any character that is not escaped by its code makes up for them. -/

namespace ValueFits

/-- The quotes of a text, unless there is a character in it that is charged with more than it takes:
only those that are escaped by their code take six bytes. -/
def unchargedQuotes (text : String) : ℕ :=
  if text.toList.all (fun character => Json.charSize character == 6) then 2 else 0

/-- The brackets of an array or an object, less a comma. -/
def unchargedBrackets {α : Type} (items : List α) : ℕ := if items.isEmpty then 2 else 1

/-- What the placeholder takes beyond what a value is charged with for its kind. -/
def unchargedPlaceholder : Json → ℕ
  | .null => 0
  | .bool _ => 17 - 5
  | .num _ => 0
  | .real _ => 0
  | .str text => 17 - 6 * text.utf8ByteSize
  | .arr items => 17 - items.length
  | .obj fields => 17 - 4 * fields.length

mutual

/-- **What is not charged for in a value.** The digits of a number are charged with 32 bytes, and no
number of the JSON library takes more. -/
def uncharged : Json → ℕ
  | .null => 0
  | .bool _ => 0
  | .num value => (toString value).length - 32
  | .real value => FloatText.size value - 32
  | .str text => unchargedQuotes text
  | .arr items => unchargedBrackets items + unchargedItems items
  | .obj fields => unchargedBrackets fields + unchargedFields fields

/-- What is not charged for in the items of an array. -/
def unchargedItems : List Json → ℕ
  | [] => 0
  | item :: rest => uncharged item + unchargedItems rest

/-- What is not charged for in the fields of an object. -/
def unchargedFields : List (String × Json) → ℕ
  | [] => 0
  | (key, value) :: rest =>
    (if isSensitiveTraceKey key then unchargedPlaceholder value else uncharged value)
      + unchargedFields rest

end

/-! ### The text of a value is at most its charge and what is uncharged -/

omit [FloatText] in
theorem charSize_le (character : Char) : Json.charSize character ≤ 6 * character.utf8Size := by
  have hpositive := character.utf8Size_pos
  unfold Json.charSize
  split_ifs <;> omega

omit [FloatText] in
theorem charSize_add_two_le {character : Char} (h : Json.charSize character ≠ 6) :
    Json.charSize character + 2 ≤ 6 * character.utf8Size := by
  have hpositive := character.utf8Size_pos
  unfold Json.charSize at h ⊢
  split_ifs at h ⊢ <;> omega

omit [FloatText] in
theorem utf8ByteSize_eq_sum (text : String) :
    text.utf8ByteSize = (text.toList.map Char.utf8Size).sum := by
  show text.toByteArray.size = _
  rw [← String.utf8Encode_toList]
  show (text.toList.flatMap String.utf8EncodeChar).toByteArray.size = _
  rw [List.size_toByteArray, List.length_flatMap]
  simp only [String.length_utf8EncodeChar]

omit [FloatText] in
theorem sum_charSize_le (characters : List Char) :
    (characters.map Json.charSize).sum ≤ 6 * (characters.map Char.utf8Size).sum := by
  induction characters with
  | nil => exact Nat.zero_le _
  | cons character rest ih =>
    have hcharacter := charSize_le character
    rw [List.map_cons, List.map_cons, List.sum_cons, List.sum_cons]
    omega

omit [FloatText] in
theorem textSize_le (text : String) : Json.textSize text ≤ 6 * text.utf8ByteSize + 2 := by
  have hsum := sum_charSize_le text.toList
  rw [utf8ByteSize_eq_sum]
  unfold Json.textSize
  omega

omit [FloatText] in
theorem textSize_le_uncharged (text : String) :
    Json.textSize text ≤ text.utf8ByteSize * 6 + unchargedQuotes text := by
  unfold unchargedQuotes
  split_ifs with hcodes
  · have hsize := textSize_le text
    omega
  · -- a character that takes less than six bytes makes up for the quotes
    rw [List.all_eq_true] at hcodes
    push Not at hcodes
    obtain ⟨character, hmem, hcode⟩ := hcodes
    have hcharacter := charSize_add_two_le (by simpa using hcode)
    obtain ⟨before, after, hsplit⟩ := List.append_of_mem hmem
    have hbefore := sum_charSize_le before
    have hafter := sum_charSize_le after
    rw [utf8ByteSize_eq_sum]
    unfold Json.textSize
    rw [hsplit]
    simp only [List.map_append, List.map_cons, List.sum_append, List.sum_cons]
    omega

omit [FloatText] in
theorem bracketed_le_uncharged {α : Type} (items : List α) {size : ℕ}
    (hempty : items = [] ↔ size = 0) :
    Json.bracketed size ≤ size + unchargedBrackets items := by
  unfold unchargedBrackets Json.bracketed
  cases items with
  | nil =>
    rw [if_pos (hempty.mp rfl)]
    exact Nat.le_add_left _ _
  | cons item rest =>
    rw [if_neg (fun hzero => List.cons_ne_nil _ _ (hempty.mpr hzero))]
    exact Nat.le_refl _

theorem sanitizeItems_eq_nil_iff (items : List Json) :
    items = [] ↔ Json.itemsSize (sanitizeItems items) = 0 := by
  cases items with
  | nil => exact iff_of_true rfl (by rw [sanitizeItems, Json.itemsSize])
  | cons item rest =>
    exact iff_of_false (List.cons_ne_nil item rest) (by rw [sanitizeItems, Json.itemsSize]; omega)

theorem sanitizeFields_eq_nil_iff (fields : List (String × Json)) :
    fields = [] ↔ Json.fieldsSize (sanitizeFields fields) = 0 := by
  cases fields with
  | nil => exact iff_of_true rfl (by rw [sanitizeFields, Json.fieldsSize])
  | cons field rest =>
    exact iff_of_false (List.cons_ne_nil field rest)
      (by rw [sanitizeFields, Json.fieldsSize]; omega)

omit [FloatText] in
theorem length_le_chargeFields (fields : List (String × Json)) :
    4 * fields.length ≤ chargeFields fields := by
  induction fields with
  | nil => exact Nat.zero_le _
  | cons field rest ih =>
    rw [chargeFields, List.length_cons]
    omega

theorem size_redactedValue_le (value : Json) :
    (redactedValue value).size ≤ charge value + unchargedPlaceholder value := by
  have hplaceholder : (Json.obj [("redacted", .bool true)]).size = 17 := by
    rw [Json.size_obj_cons, Json.fieldsSize_nil, Json.size_bool]
    rfl
  cases value with
  | null => rw [redactedValue, Json.size, charge]; exact Nat.le_add_right _ _
  | bool value => exact hplaceholder.le.trans (by rw [charge]; exact Nat.le_refl 17)
  | obj fields =>
    have hlength := length_le_chargeFields fields
    rw [redactedValue, hplaceholder, charge, unchargedPlaceholder]
    · omega
    · intro hnull
      cases hnull
  | _ =>
    rw [redactedValue, hplaceholder, charge, unchargedPlaceholder]
    · omega
    · intro hnull
      cases hnull

mutual

/-- **The text of a sanitized value** is at most its charge and what is uncharged in it. -/
theorem size_sanitize_le (value : Json) :
    (sanitizeTraceValue value).size ≤ charge value + uncharged value := by
  cases value with
  | null => rw [sanitizeTraceValue, Json.size, charge]; omega
  | bool value =>
    rw [sanitizeTraceValue, Json.size, charge]
    split <;> omega
  | num value =>
    rw [sanitizeTraceValue, Json.size, charge, uncharged]
    omega
  | real value =>
    rw [sanitizeTraceValue, Json.size, charge, uncharged]
    omega
  | str text =>
    rw [sanitizeTraceValue, Json.size, charge, uncharged]
    exact textSize_le_uncharged text
  | arr items =>
    have hitems := itemsSize_sanitize_le items
    have hbrackets := bracketed_le_uncharged items (sanitizeItems_eq_nil_iff items)
    rw [sanitizeTraceValue, Json.size, charge, uncharged]
    omega
  | obj fields =>
    have hfields := fieldsSize_sanitize_le fields
    have hbrackets := bracketed_le_uncharged fields (sanitizeFields_eq_nil_iff fields)
    rw [sanitizeTraceValue, Json.size, charge, uncharged]
    omega

theorem itemsSize_sanitize_le (items : List Json) :
    Json.itemsSize (sanitizeItems items)
      ≤ items.length + chargeItems items + unchargedItems items := by
  match items with
  | [] => rw [sanitizeItems, Json.itemsSize]; exact Nat.zero_le _
  | item :: rest =>
    have hitem := size_sanitize_le item
    have hrest := itemsSize_sanitize_le rest
    rw [sanitizeItems, Json.itemsSize, chargeItems, unchargedItems, List.length_cons]
    omega

theorem fieldsSize_sanitize_le (fields : List (String × Json)) :
    Json.fieldsSize (sanitizeFields fields) ≤ chargeFields fields + unchargedFields fields := by
  match fields with
  | [] => rw [sanitizeFields, Json.fieldsSize]; exact Nat.zero_le _
  | (key, value) :: rest =>
    have hkey := textSize_le key
    have hvalue := size_sanitize_le value
    have hredacted := size_redactedValue_le value
    have hrest := fieldsSize_sanitize_le rest
    rw [sanitizeFields, Json.fieldsSize_cons, chargeFields, unchargedFields]
    split_ifs <;> omega

end

/-! ### What is uncharged is less than twice the charge

A short value is charged with little, but with something for each key and each item. So what is uncharged
in a value is bounded by its charge, and what is written of an event is not much longer than the limit,
however it is nested. -/

mutual

/-- Whether each number takes 32 bytes at most, as the numbers of the JSON library do. -/
def numbersFit : Json → Bool
  | .null => true
  | .bool _ => true
  | .num value => decide ((toString value).length ≤ 32)
  | .real value => decide (FloatText.size value ≤ 32)
  | .str _ => true
  | .arr items => numbersFitItems items
  | .obj fields => numbersFitFields fields

/-- Whether those of the items of an array do. -/
def numbersFitItems : List Json → Bool
  | [] => true
  | item :: rest => numbersFit item && numbersFitItems rest

/-- Whether those of the fields of an object do. -/
def numbersFitFields : List (String × Json) → Bool
  | [] => true
  | (_, value) :: rest => numbersFit value && numbersFitFields rest

end

theorem numbersFitFields_eq_all (fields : List (String × Json)) :
    numbersFitFields fields = fields.all (fun field => numbersFit field.2) := by
  induction fields with
  | nil => rw [numbersFitFields, List.all_nil]
  | cons field rest ih => rw [numbersFitFields, List.all_cons, ih]

omit [FloatText] in
theorem unchargedPlaceholder_le (value : Json) : unchargedPlaceholder value ≤ 17 := by
  cases value with
  | null | num | real => exact Nat.zero_le _
  | bool value => exact Nat.sub_le 17 5
  | str | arr | obj => exact Nat.sub_le _ _

omit [FloatText] in
theorem utf8ByteSize_pos_of_sensitive {key : String} (h : isSensitiveTraceKey key = true) :
    0 < key.utf8ByteSize := by
  rw [Nat.pos_iff_ne_zero]
  intro hzero
  rw [String.utf8ByteSize_eq_zero_iff.mp hzero] at h
  exact absurd h (by decide +kernel)

mutual

/-- **What is uncharged in a value is bounded by its charge.** -/
theorem uncharged_le (value : Json) (hfit : numbersFit (sanitizeTraceValue value) = true) :
    uncharged value ≤ 2 * charge value + 2 := by
  cases value with
  | null => rw [uncharged]; exact Nat.zero_le _
  | bool value => rw [uncharged]; exact Nat.zero_le _
  | num value =>
    rw [sanitizeTraceValue, numbersFit, decide_eq_true_eq] at hfit
    rw [uncharged]
    omega
  | real value =>
    rw [sanitizeTraceValue, numbersFit, decide_eq_true_eq] at hfit
    rw [uncharged]
    omega
  | str text =>
    rw [uncharged, unchargedQuotes]
    split_ifs <;> omega
  | arr items =>
    rw [sanitizeTraceValue, numbersFit] at hfit
    have hitems := unchargedItems_le items hfit
    rw [uncharged, charge, unchargedBrackets]
    cases items with
    | nil => rw [unchargedItems, List.isEmpty_nil, if_pos rfl]; omega
    | cons item rest =>
      rw [List.length_cons] at hitems ⊢
      rw [List.isEmpty_cons, if_neg Bool.false_ne_true]
      omega
  | obj fields =>
    rw [sanitizeTraceValue, numbersFit] at hfit
    have hfields := unchargedFields_le fields hfit
    rw [uncharged, charge, unchargedBrackets]
    split_ifs <;> omega

theorem unchargedItems_le (items : List Json)
    (hfit : numbersFitItems (sanitizeItems items) = true) :
    unchargedItems items ≤ 2 * (items.length + chargeItems items) := by
  match items with
  | [] => rw [unchargedItems]; exact Nat.zero_le _
  | item :: rest =>
    rw [sanitizeItems, numbersFitItems, Bool.and_eq_true] at hfit
    have hitem := uncharged_le item hfit.1
    have hrest := unchargedItems_le rest hfit.2
    rw [unchargedItems, chargeItems, List.length_cons]
    omega

theorem unchargedFields_le (fields : List (String × Json))
    (hfit : numbersFitFields (sanitizeFields fields) = true) :
    unchargedFields fields ≤ 2 * chargeFields fields := by
  match fields with
  | [] => rw [unchargedFields]; exact Nat.zero_le _
  | (key, value) :: rest =>
    rw [sanitizeFields, numbersFitFields, Bool.and_eq_true] at hfit
    have hrest := unchargedFields_le rest hfit.2
    rw [unchargedFields, chargeFields]
    by_cases hkey : isSensitiveTraceKey key = true
    · have hplaceholder := unchargedPlaceholder_le value
      have hpositive := utf8ByteSize_pos_of_sensitive hkey
      rw [if_pos hkey]
      omega
    · rw [if_neg hkey] at hfit ⊢
      have hvalue := uncharged_le value hfit.1
      omega

end

end ValueFits

/-! ## The line of an event -/

/-- The fields an event is written with, besides its own. -/
def envelopeFields (tsMs : ℕ) (stamp : TraceStamp) (event : String) (sessionId : Option String) :
    List (String × Json) :=
  [("event", .str event), ("ts_ms", .num tsMs), ("seq", .num stamp.seq),
    ("writer_pid", .num stamp.writerPid),
    ("writer_proc_start_ms", .num stamp.writerProcStartMs)]
    ++ (sessionId.map (fun sid => ("session_id", Json.str sid))).toList

/-- Their keys. -/
def envelopeKeys (sessionId : Option String) : List String :=
  ["event", "ts_ms", "seq", "writer_pid", "writer_proc_start_ms"]
    ++ (sessionId.map (fun _ => "session_id")).toList

/-- The fields of a value, none where it is no object. -/
def fieldsOf : Json → List (String × Json)
  | .obj fields => fields
  | _ => []

/-- The fields that are written: those that no other replaces. -/
def keptFields (sessionId : Option String) (fields : Json) : List (String × Json) :=
  (fieldsOf fields).filter (fun field => field.1 ∉ envelopeKeys sessionId)

/-- **What an event is written with besides its texts**: the keys, the numbers, and the quotes of its
name and of its session. -/
def envelopeText (tsMs : ℕ) (stamp : TraceStamp) (sessionId : Option String) : ℕ :=
  Json.fieldsSize (envelopeFields tsMs stamp "" (sessionId.map (fun _ => "")))

omit [FloatText] in
theorem map_fst_envelopeFields (tsMs : ℕ) (stamp : TraceStamp) (event : String)
    (sessionId : Option String) :
    (envelopeFields tsMs stamp event sessionId).map Prod.fst = envelopeKeys sessionId := by
  cases sessionId <;> rfl

omit [FloatText] in
theorem envelopeKeys_nodup (sessionId : Option String) : (envelopeKeys sessionId).Nodup := by
  cases sessionId with
  | none => decide
  | some sid =>
    show ["event", "ts_ms", "seq", "writer_pid", "writer_proc_start_ms", "session_id"].Nodup
    decide

omit [FloatText] in
theorem sanitizeFields_eq_map (fields : List (String × Json)) :
    sanitizeFields fields = fields.map (fun field => (field.1,
      if isSensitiveTraceKey field.1 then redactedValue field.2
      else sanitizeTraceValue field.2)) := by
  induction fields with
  | nil => rw [sanitizeFields, List.map_nil]
  | cons field rest ih =>
    obtain ⟨key, value⟩ := field
    rw [sanitizeFields, List.map_cons, ih]

omit [FloatText] in
/-- **A field that is inserted** takes the place of the one with its key, or is added. -/
theorem insert_perm (fields : List (String × Json)) (key : String) (item : Json)
    (hnodup : (fields.map Prod.fst).Nodup) :
    ∃ fields', (Json.obj fields).insert key item = .obj fields'
      ∧ fields'.Perm (fields.filter (fun field => field.1 ≠ key) ++ [(key, item)]) := by
  unfold Json.insert
  by_cases hany : fields.any (fun field => field.1 == key) = true
  · refine ⟨_, if_pos hany, ?_⟩
    induction fields with
    | nil => cases hany
    | cons field rest ih =>
      rw [List.map_cons, List.nodup_cons] at hnodup
      by_cases hkey : field.1 = key
      · -- the key is that of the first field, so of no other
        have hfree : ∀ other ∈ rest, other.1 ≠ key := by
          intro other hother heq
          exact hnodup.1 (List.mem_map.mpr ⟨other, hother, heq.trans hkey.symm⟩)
        have hmap : rest.map (fun field => if field.1 == key then (key, item) else field) = rest := by
          conv_rhs => rw [← List.map_id rest]
          refine List.map_congr_left (fun other hother => ?_)
          rw [if_neg (by simpa using hfree other hother)]
          rfl
        rw [List.map_cons, if_pos (by simpa using hkey), hmap,
          List.filter_cons_of_neg (by simpa using hkey), List.filter_eq_self.mpr
            (fun other hother => by simpa using hfree other hother)]
        exact (List.perm_append_singleton _ _).symm
      · have hrest : rest.any (fun field => field.1 == key) = true := by
          rw [List.any_cons, Bool.or_eq_true] at hany
          exact hany.resolve_left (by simpa using hkey)
        rw [List.map_cons, if_neg (by simpa using hkey),
          List.filter_cons_of_pos (by simpa using hkey), List.cons_append]
        exact (ih hnodup.2 hrest).cons field
  · refine ⟨_, if_neg hany, ?_⟩
    rw [List.filter_eq_self.mpr]
    intro field hfield
    refine decide_eq_true (fun heq => hany ?_)
    exact List.any_eq_true.mpr ⟨field, hfield, by simpa using heq⟩

omit [FloatText] in
/-- **Fields that are inserted one after the other** stand beside those that have none of their
keys. -/
theorem foldl_insert_perm (items fields : List (String × Json))
    (hfields : (fields.map Prod.fst).Nodup) (hitems : (items.map Prod.fst).Nodup) :
    ∃ fields', items.foldl (fun body item => body.insert item.1 item.2) (Json.obj fields)
        = .obj fields'
      ∧ fields'.Perm (fields.filter (fun field => field.1 ∉ items.map Prod.fst) ++ items) := by
  induction items generalizing fields with
  | nil =>
    refine ⟨fields, rfl, ?_⟩
    rw [List.filter_eq_self.mpr (fun _ _ => by simp), List.append_nil]
  | cons item rest ih =>
    obtain ⟨key, value⟩ := item
    rw [List.map_cons, List.nodup_cons] at hitems
    obtain ⟨inserted, hinsert, hperm⟩ := insert_perm fields key value hfields
    have hnodup : (inserted.map Prod.fst).Nodup := by
      rw [(hperm.map Prod.fst).nodup_iff, List.map_append, List.nodup_append]
      refine ⟨hfields.sublist (List.filter_sublist.map Prod.fst), List.nodup_singleton _, ?_⟩
      rintro other hother same hsame rfl
      obtain ⟨field, hfield, rfl⟩ := List.mem_map.mp hother
      rw [List.map_singleton, List.mem_singleton] at hsame
      exact of_decide_eq_true (List.mem_filter.mp hfield).2 hsame
    obtain ⟨final, hfinal, hperm'⟩ := ih inserted hnodup hitems.2
    refine ⟨final, by rw [List.foldl_cons, hinsert, hfinal], ?_⟩
    refine hperm'.trans (((hperm.filter _).append_right rest).trans (List.Perm.of_eq ?_))
    rw [List.filter_append, List.filter_filter, List.filter_cons_of_pos (by simpa using hitems.1),
      List.filter_nil, List.append_assoc]
    congr 1
    refine List.filter_congr (fun field _ => ?_)
    rw [List.map_cons, Bool.eq_iff_iff]
    simp [and_comm, not_or]

theorem fieldsSize_perm {fields fields' : List (String × Json)} (hperm : fields.Perm fields') :
    Json.fieldsSize fields = Json.fieldsSize fields' := by
  induction hperm with
  | nil => rfl
  | cons field _ ih => rw [Json.fieldsSize_cons, Json.fieldsSize_cons, ih]
  | swap field field' rest =>
    rw [Json.fieldsSize_cons, Json.fieldsSize_cons, Json.fieldsSize_cons, Json.fieldsSize_cons]
    omega
  | trans _ _ ih ih' => exact ih.trans ih'

theorem fieldsSize_append (fields fields' : List (String × Json)) :
    Json.fieldsSize (fields ++ fields') = Json.fieldsSize fields + Json.fieldsSize fields' := by
  induction fields with
  | nil => rw [List.nil_append, Json.fieldsSize_nil, Nat.zero_add]
  | cons field rest ih =>
    rw [List.cons_append, Json.fieldsSize_cons, Json.fieldsSize_cons, ih]
    omega

/-- The value that is written as a line. -/
def bodyOf (tsMs : ℕ) (stamp : TraceStamp) (event : String) (sessionId : Option String)
    (fields : Json) : Json :=
  (envelopeFields tsMs stamp event sessionId).foldl (fun body item => body.insert item.1 item.2)
    (.obj (sanitizeFields (fieldsOf fields)))

omit [FloatText] in
/-- **The fields of a line** are what is kept of the fields of the event, sanitized, and what it is
written with. -/
theorem exists_fields_bodyOf (tsMs : ℕ) (stamp : TraceStamp) (event : String)
    (sessionId : Option String) {fields : Json} (hkeys : ((fieldsOf fields).map Prod.fst).Nodup) :
    ∃ written, bodyOf tsMs stamp event sessionId fields = .obj written
      ∧ written.Perm (sanitizeFields (keptFields sessionId fields)
        ++ envelopeFields tsMs stamp event sessionId) := by
  have hfields : ((sanitizeFields (fieldsOf fields)).map Prod.fst).Nodup := by
    rw [sanitizeFields_eq_map, List.map_map]
    exact hkeys
  have hitems : ((envelopeFields tsMs stamp event sessionId).map Prod.fst).Nodup := by
    rw [map_fst_envelopeFields]
    exact envelopeKeys_nodup sessionId
  obtain ⟨written, hwritten, hperm⟩ := foldl_insert_perm _ _ hfields hitems
  have hkept : (sanitizeFields (fieldsOf fields)).filter
        (fun field => field.1 ∉ (envelopeFields tsMs stamp event sessionId).map Prod.fst)
      = sanitizeFields (keptFields sessionId fields) := by
    rw [sanitizeFields_eq_map, sanitizeFields_eq_map, List.filter_map, map_fst_envelopeFields]
    rfl
  rw [hkept] at hperm
  exact ⟨written, hwritten, hperm⟩

/-- **The size of the line of an event**: what it is written with, what is kept of its fields, the
braces and the line feed. -/
theorem lineSize_bodyOf (tsMs : ℕ) (stamp : TraceStamp) (event : String) (sessionId : Option String)
    {fields : Json} (hkeys : ((fieldsOf fields).map Prod.fst).Nodup) :
    lineSize (bodyOf tsMs stamp event sessionId fields)
      = Json.fieldsSize (sanitizeFields (keptFields sessionId fields))
        + Json.fieldsSize (envelopeFields tsMs stamp event sessionId) + 2 := by
  obtain ⟨written, hwritten, hperm⟩ := exists_fields_bodyOf tsMs stamp event sessionId hkeys
  have hsize : Json.fieldsSize written
      = Json.fieldsSize (sanitizeFields (keptFields sessionId fields))
        + Json.fieldsSize (envelopeFields tsMs stamp event sessionId) := by
    rw [fieldsSize_perm hperm, fieldsSize_append]
  unfold lineSize
  rw [hwritten]
  cases written with
  | nil =>
    -- what the event is written with is not nothing
    have hlength := hperm.length_eq
    rw [List.length_append] at hlength
    exact absurd hlength (by unfold envelopeFields; simp)
  | cons field rest =>
    rw [Json.size_obj_cons]
    rw [Json.fieldsSize_cons] at hsize
    omega

omit [FloatText] in
theorem sanitized_eq_obj (fields : Json) :
    (match sanitizeTraceValue fields with
      | .obj fields => Json.obj fields
      | _ => .obj []) = .obj (sanitizeFields (fieldsOf fields)) := by
  cases fields with
  | obj fields =>
    rw [sanitizeTraceValue]
    rfl
  | _ =>
    rw [sanitizeTraceValue]
    show Json.obj [] = .obj (sanitizeFields [])
    rw [sanitizeFields]

theorem rejectOversizedTrace_bind_eq_ok {length : ℕ} {line body : Json} :
    (rejectOversizedTrace length (lineSize line) >>= fun _ => pure line) = .ok body
      ↔ body = line ∧ length + lineSize body ≤ maxTraceFileBytes := by
  unfold rejectOversizedTrace
  by_cases hroom : length + lineSize line ≤ maxTraceFileBytes
  · rw [if_pos hroom]
    constructor
    · intro h
      obtain rfl := Except.ok.inj h
      exact ⟨rfl, hroom⟩
    · rintro ⟨rfl, -⟩
      rfl
  · rw [if_neg hroom]
    constructor
    · rintro ⟨⟩
    · rintro ⟨rfl, hfits⟩
      exact absurd hfits hroom

/-- **What is written of an event**: it is refused where its charge does not fit in what the
envelope leaves of the limit, and else its line is written, if the time is known and the file has
room for it. -/
theorem writeEventLocked_eq (length : ℕ) (now : Except String ℕ) (stamp : TraceStamp)
    (event : String) (sessionId : Option String) (fields : Json) {body : Json} :
    writeEventLocked length now stamp event sessionId fields = .ok body
      ↔ envelopeBytes event sessionId < maxTraceEventBytes
        ∧ ValueFits.charge fields ≤ maxTraceEventBytes - envelopeBytes event sessionId
        ∧ ∃ tsMs, now = .ok tsMs ∧ body = bodyOf tsMs stamp event sessionId fields
          ∧ length + lineSize body ≤ maxTraceFileBytes := by
  unfold writeEventLocked
  simp only [sanitized_eq_obj]
  by_cases hrefused : (decide (maxTraceEventBytes ≤ envelopeBytes event sessionId)
      || !valueFits fields (maxTraceEventBytes - envelopeBytes event sessionId)) = true
  · rw [if_pos hrefused]
    constructor
    · rintro ⟨⟩
    · rintro ⟨hroom, hfits, -⟩
      rw [(valueFits_iff _ _).mpr hfits, decide_eq_false (Nat.not_le.mpr hroom)] at hrefused
      cases hrefused
  · rw [if_neg hrefused]
    rw [Bool.or_eq_true, not_or, decide_eq_true_eq, Nat.not_le, Bool.not_eq_true, Bool.not_eq_false',
      valueFits_iff] at hrefused
    cases now with
    | error reason =>
      constructor
      · rintro ⟨⟩
      · rintro ⟨-, -, tsMs, ⟨⟩, -⟩
    | ok tsMs =>
      have hline : ∀ line, line = bodyOf tsMs stamp event sessionId fields →
          ((rejectOversizedTrace length (lineSize line) >>= fun _ => pure line) = .ok body
            ↔ body = bodyOf tsMs stamp event sessionId fields
              ∧ length + lineSize body ≤ maxTraceFileBytes) := by
        rintro line rfl
        exact rejectOversizedTrace_bind_eq_ok
      -- the envelope is inserted one field after another
      refine (hline _ (by cases sessionId <;> rfl)).trans ?_
      constructor
      · rintro ⟨hline, hroom⟩
        exact ⟨hrefused.1, hrefused.2, tsMs, rfl, hline, hroom⟩
      · rintro ⟨-, -, tsMs', hsame, hline, hroom⟩
        rw [← Except.ok.inj hsame] at hline
        exact ⟨hline, hroom⟩

theorem fieldsSize_envelopeFields_le (tsMs : ℕ) (stamp : TraceStamp) (event : String)
    (sessionId : Option String) :
    Json.fieldsSize (envelopeFields tsMs stamp event sessionId) + 512
      ≤ envelopeBytes event sessionId + envelopeText tsMs stamp sessionId := by
  have hevent := ValueFits.textSize_le event
  have hempty : Json.textSize "" = 2 := by decide
  unfold envelopeText envelopeFields envelopeBytes
  rw [fieldsSize_append, fieldsSize_append]
  cases sessionId with
  | none =>
    simp only [Option.map_none, Option.toList_none, Option.getD_none, Json.fieldsSize_cons,
      Json.fieldsSize_nil, Json.size_str]
    omega
  | some session =>
    have hsession := ValueFits.textSize_le session
    simp only [Option.map_some, Option.toList_some, Option.getD_some, Json.fieldsSize_cons,
      Json.fieldsSize_nil, Json.size_str]
    omega

omit [FloatText] in
theorem chargeFields_sublist_le {kept fields : List (String × Json)} (h : kept.Sublist fields) :
    ValueFits.chargeFields kept ≤ ValueFits.chargeFields fields := by
  induction h with
  | slnil => exact Nat.le_refl _
  | cons field _ ih =>
    rw [ValueFits.chargeFields]
    omega
  | cons_cons field _ ih =>
    rw [ValueFits.chargeFields, ValueFits.chargeFields]
    omega

omit [FloatText] in
theorem chargeFields_keptFields_le (sessionId : Option String) (fields : Json) :
    ValueFits.chargeFields (keptFields sessionId fields) ≤ ValueFits.charge fields := by
  refine (chargeFields_sublist_le List.filter_sublist).trans ?_
  cases fields with
  | obj fields => exact Nat.le_of_eq (by rw [ValueFits.charge]; rfl)
  | _ => exact Nat.zero_le _

/-- **A line keeps to the limit where the allowance covers what is uncharged.** The 512 bytes that are
set apart for what an event is written with stand in for its keys and numbers, and for the quotes,
brackets and placeholders of its fields that are charged with nothing: where these are no more than the
512 bytes together, the line of an accepted event is not longer than the limit. -/
theorem line_fits_of_uncharged (length : ℕ) (now : Except String ℕ) (stamp : TraceStamp)
    (event : String) (sessionId : Option String) (fields body : Json)
    (hkeys : ((fieldsOf fields).map Prod.fst).Nodup)
    (hwritten : writeEventLocked length now stamp event sessionId fields = .ok body)
    (huncharged : ∀ tsMs, now = .ok tsMs →
      ValueFits.unchargedFields (keptFields sessionId fields) + envelopeText tsMs stamp sessionId
        + 2 ≤ 512) :
    lineSize body ≤ maxTraceEventBytes := by
  obtain ⟨hroom, hcharge, tsMs, hnow, rfl, -⟩ :=
    (writeEventLocked_eq length now stamp event sessionId fields).mp hwritten
  have hsize := lineSize_bodyOf tsMs stamp event sessionId hkeys
  have hkept := ValueFits.fieldsSize_sanitize_le (keptFields sessionId fields)
  have hcharged := chargeFields_keptFields_le sessionId fields
  have henvelope := fieldsSize_envelopeFields_le tsMs stamp event sessionId
  have hallowance := huncharged tsMs hnow
  omega

/-! ### No line is longer than three times the limit -/

theorem envelopeText_le {tsMs : ℕ} {stamp : TraceStamp} {event : String} {sessionId : Option String}
    (hfit : ValueFits.numbersFitFields (envelopeFields tsMs stamp event sessionId) = true) :
    envelopeText tsMs stamp sessionId ≤ 300 := by
  have hnumber : ∀ key n, (key, Json.num n) ∈ envelopeFields tsMs stamp event sessionId →
      (Json.num n).size ≤ 32 := by
    intro key n hmem
    rw [ValueFits.numbersFitFields_eq_all, List.all_eq_true] at hfit
    have hnumber := hfit _ hmem
    rw [ValueFits.numbersFit, decide_eq_true_eq] at hnumber
    rw [Json.size]
    exact hnumber
  have htsMs := hnumber "ts_ms" tsMs (by simp [envelopeFields])
  have hseq := hnumber "seq" stamp.seq (by simp [envelopeFields])
  have hpid := hnumber "writer_pid" stamp.writerPid (by simp [envelopeFields])
  have hstart := hnumber "writer_proc_start_ms" stamp.writerProcStartMs (by simp [envelopeFields])
  have htexts : Json.textSize "event" + Json.textSize "ts_ms" + Json.textSize "seq"
      + Json.textSize "writer_pid" + Json.textSize "writer_proc_start_ms" + Json.textSize ""
      = 55 := by decide
  have hsession : Json.textSize "session_id" + Json.textSize "" = 14 := by decide
  unfold envelopeText envelopeFields
  rw [fieldsSize_append]
  cases sessionId with
  | none =>
    simp only [Option.map_none, Option.toList_none, Json.fieldsSize_cons, Json.fieldsSize_nil,
      Json.size_str]
    omega
  | some session =>
    simp only [Option.map_some, Option.toList_some, Json.fieldsSize_cons, Json.fieldsSize_nil,
      Json.size_str]
    omega

omit [FloatText] in
theorem keys_foldl_insert (items fields : List (String × Json)) :
    ∃ fields', items.foldl (fun body item => body.insert item.1 item.2) (Json.obj fields)
        = .obj fields' ∧ fields.map Prod.fst <+: fields'.map Prod.fst := by
  induction items generalizing fields with
  | nil => exact ⟨fields, rfl, List.prefix_rfl⟩
  | cons item rest ih =>
    rw [List.foldl_cons, Json.insert]
    split_ifs
    · obtain ⟨fields', hfields', hprefix⟩ :=
        ih (fields.map (fun field => if field.1 == item.1 then (item.1, item.2) else field))
      refine ⟨fields', hfields', ?_⟩
      rwa [List.map_map, List.map_congr_left (g := Prod.fst)] at hprefix
      intro field _
      show Prod.fst (if field.1 == item.1 then (item.1, item.2) else field) = field.1
      split_ifs with hkey
      · exact (beq_iff_eq.mp hkey).symm
      · rfl
    · obtain ⟨fields', hfields', hprefix⟩ := ih (fields ++ [(item.1, item.2)])
      rw [List.map_append] at hprefix
      exact ⟨fields', hfields', (List.prefix_append _ _).trans hprefix⟩

/-- **A line is not longer than three times the limit**, whatever is uncharged in the event: a value
is charged with something for each key and each item, and what is uncharged is bounded by that. The line
has the fields of a map, whose keys differ, and numbers as the JSON library writes them. -/
theorem lineSize_le (tsMs : ℕ) (stamp : TraceStamp) (event : String) (sessionId : Option String)
    (fields : Json) (hroom : envelopeBytes event sessionId < maxTraceEventBytes)
    (hcharge : ValueFits.charge fields ≤ maxTraceEventBytes - envelopeBytes event sessionId)
    (hkeys : ((fieldsOf (bodyOf tsMs stamp event sessionId fields)).map Prod.fst).Nodup)
    (hfit : ValueFits.numbersFit (bodyOf tsMs stamp event sessionId fields) = true) :
    lineSize (bodyOf tsMs stamp event sessionId fields) ≤ 3 * maxTraceEventBytes := by
  have hown : ((fieldsOf fields).map Prod.fst).Nodup := by
    obtain ⟨fields', hbody, hprefix⟩ := keys_foldl_insert
      (envelopeFields tsMs stamp event sessionId) (sanitizeFields (fieldsOf fields))
    rw [bodyOf, hbody] at hkeys
    have hsanitized := hkeys.sublist hprefix.sublist
    rwa [sanitizeFields_eq_map, List.map_map] at hsanitized
  obtain ⟨written, hwritten, hperm⟩ := exists_fields_bodyOf tsMs stamp event sessionId hown
  rw [hwritten, ValueFits.numbersFit, ValueFits.numbersFitFields_eq_all, hperm.all_eq,
    List.all_append, Bool.and_eq_true, ← ValueFits.numbersFitFields_eq_all,
    ← ValueFits.numbersFitFields_eq_all] at hfit
  have hsize := lineSize_bodyOf tsMs stamp event sessionId hown
  have hkept := ValueFits.fieldsSize_sanitize_le (keptFields sessionId fields)
  have huncharged := ValueFits.unchargedFields_le _ hfit.1
  have hcharged := chargeFields_keptFields_le sessionId fields
  have henvelope := fieldsSize_envelopeFields_le tsMs stamp event sessionId
  have htext := envelopeText_le hfit.2
  omega

/-! ### An event that is accepted and passes the limit -/

theorem itemsSize_sanitize_replicate (count : ℕ) (text : String) :
    Json.itemsSize (sanitizeItems (List.replicate count (.str text)))
      = count * (Json.textSize text + 1) := by
  induction count with
  | zero => rw [List.replicate_zero, sanitizeItems, Json.itemsSize, Nat.zero_mul]
  | succ count ih =>
    rw [List.replicate_succ, sanitizeItems, sanitizeTraceValue, Json.itemsSize, Json.size_str, ih]
    ring

omit [FloatText] in
theorem chargeItems_replicate (count : ℕ) (value : Json) :
    ValueFits.chargeItems (List.replicate count value) = count * ValueFits.charge value := by
  induction count with
  | zero => rw [List.replicate_zero, ValueFits.chargeItems, Nat.zero_mul]
  | succ count ih =>
    rw [List.replicate_succ, ValueFits.chargeItems, ih, Nat.succ_mul, Nat.add_comm]

/-- Fields with a list of a million empty texts. -/
def sampleEmptyRows : Json := .obj [("rows", .arr (List.replicate 1000000 (.str "")))]

/-- What the process knows when it writes its first event. -/
def sampleStamp : TraceStamp := ⟨0, 0, 0⟩

theorem sampleEmptyRows_size :
    ValueFits.charge sampleEmptyRows = 1000028
      ∧ Json.fieldsSize (sanitizeFields (keptFields none sampleEmptyRows)) = 3000009 := by
  have hkept : keptFields none sampleEmptyRows
      = [("rows", .arr (List.replicate 1000000 (.str "")))] := rfl
  have hkey : isSensitiveTraceKey "rows" = false := by decide +kernel
  have hempty : Json.textSize "" = 2 := by decide
  have hrows : Json.textSize "rows" = 6 := by decide
  constructor
  · unfold sampleEmptyRows
    rw [ValueFits.charge, ValueFits.chargeFields, ValueFits.charge, ValueFits.chargeFields,
      chargeItems_replicate, ValueFits.charge, List.length_replicate]
    rfl
  · rw [hkept, sanitizeFields, sanitizeFields, hkey, if_neg Bool.false_ne_true, sanitizeTraceValue,
      Json.fieldsSize_cons, Json.fieldsSize_nil, Json.size, itemsSize_sanitize_replicate, hempty,
      hrows]
    rfl

theorem sampleEnvelope_size :
    Json.fieldsSize (envelopeFields 0 sampleStamp "event" none) ≤ 200 := by
  have hzero : (Json.num (0 : ℕ)).size ≤ 1 := Json.size_natCast_le Nat.one_pos (by decide)
  show Json.fieldsSize [("event", .str "event"), ("ts_ms", .num (0 : ℕ)), ("seq", .num (0 : ℕ)),
    ("writer_pid", .num (0 : ℕ)), ("writer_proc_start_ms", .num (0 : ℕ))] ≤ 200
  simp only [Json.fieldsSize_cons, Json.fieldsSize_nil, Json.size_str]
  have htexts : Json.textSize "event" + Json.textSize "ts_ms" + Json.textSize "seq"
      + Json.textSize "writer_pid" + Json.textSize "writer_proc_start_ms" = 53 := by
    decide
  omega

/-- **An event of a million empty texts** is accepted and written. -/
theorem sampleEmptyRows_written :
    writeEventLocked 0 (.ok 0) sampleStamp "event" none sampleEmptyRows
      = .ok (bodyOf 0 sampleStamp "event" none sampleEmptyRows) := by
  have hkeys : ((fieldsOf sampleEmptyRows).map Prod.fst).Nodup := List.nodup_singleton "rows"
  have hsize := lineSize_bodyOf 0 sampleStamp "event" none hkeys
  rw [sampleEmptyRows_size.2] at hsize
  have henvelope := sampleEnvelope_size
  have hbytes : envelopeBytes "event" none = 542 := by decide
  refine (writeEventLocked_eq _ _ _ _ _ _).mpr ⟨?_, ?_, 0, rfl, rfl, ?_⟩
  · rw [hbytes]
    decide
  · rw [hbytes, sampleEmptyRows_size.1]
    decide
  · rw [hsize]
    unfold maxTraceFileBytes
    omega

/-- Fields with a text that is hidden, an empty one, and values within values. -/
def sampleRows : Json :=
  .obj [("rows", .arr [.arr [], .obj [("text", .str "Save")], .str "", .num 7]), ("ok", .bool true)]

omit [FloatText] in
/-- Six bytes of the fields are uncharged, and the keys and the numbers take another 111. -/
theorem line_fits_of_uncharged_rows :
    @lineSize ⟨fun _ => 0⟩ (@bodyOf 1700000000000 ⟨3, 501, 1699999999000⟩ "dispatch.start"
      (some "run-1") sampleRows) ≤ maxTraceEventBytes := by
  let _ : FloatText := ⟨fun _ => 0⟩
  have hkeys : ((fieldsOf sampleRows).map Prod.fst).Nodup := by decide
  refine line_fits_of_uncharged 0 (.ok 1700000000000) ⟨3, 501, 1699999999000⟩ "dispatch.start"
    (some "run-1") sampleRows _ hkeys ?_ ?_
  · refine (writeEventLocked_eq _ _ _ _ _ _).mpr ⟨?_, ?_, _, rfl, rfl, ?_⟩
    · decide
    · decide +kernel
    · decide +kernel
  · intro tsMs hnow
    obtain rfl := Except.ok.inj hnow
    decide +kernel

omit [FloatText] in
/-- **The line of a million empty texts** is three times as long as the limit allows. -/
theorem writeEventLocked_exceeds_limit :
    ¬ ∀ [FloatText] (length : ℕ) (now : Except String ℕ) (stamp : TraceStamp) (event : String)
      (sessionId : Option String) (fields body : Json), ((fieldsOf fields).map Prod.fst).Nodup →
      writeEventLocked length now stamp event sessionId fields = .ok body →
      lineSize body ≤ maxTraceEventBytes := by
  intro hclaim
  let _ : FloatText := ⟨fun _ => 0⟩
  have hkeys : ((fieldsOf sampleEmptyRows).map Prod.fst).Nodup := List.nodup_singleton "rows"
  have hlimit := hclaim 0 (.ok 0) sampleStamp "event" none sampleEmptyRows _ hkeys
    sampleEmptyRows_written
  have hsize := lineSize_bodyOf 0 sampleStamp "event" none hkeys
  rw [sampleEmptyRows_size.2] at hsize
  rw [hsize] at hlimit
  unfold maxTraceEventBytes at hlimit
  omega

end AgentDesktop
