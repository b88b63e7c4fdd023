import AgentDesktop.SegmentGrammar
import AgentDesktop.TraceEmission
import AgentDesktop.Util.JsonScan

/-!
# Reading back what was written

A trace file has a line for each event that was written whole, except where a write had stopped
before: the next line is appended to what that one left behind. The reader cannot take such a
line for an event: no JSON text begins an object, breaks off and goes on with a whole one, wherever
it broke off (see `AgentDesktop.Util.JsonScan`). So reading a file gives the events as they were
written, in their order, and each write that stops costs one event at most.

The reader does not know what was written; it only has the bytes. What is assumed of the JSON
library is that it accepts only JSON texts, that it writes no line feed in a fraction, and that what it
has written is a value of its own (`ReadsAsWritten`): it reads the value back, the keys of its maps
differ, and its numbers take 32 bytes at most. Nothing is assumed of how long a line is. The writer only
estimates what a line will take, and may be wrong by a factor of three, but the reader has room for that
(`TraceRecord.Sound.lineSize_le`).
-/

namespace AgentDesktop

namespace TraceWriter

/-! ## A line has one line feed -/

theorem lineFeed_notMem_utf8EncodeChar {ch : Char} (h : ch ≠ '\n') :
    (10 : UInt8) ∉ String.utf8EncodeChar ch := by
  intro hmem
  rcases Nat.lt_or_ge ch.toNat 0x80 with hascii | hhigh
  · rw [JsonText.Scan.utf8EncodeChar_of_ascii hascii, List.mem_singleton] at hmem
    have hcode := congrArg UInt8.toNat hmem
    rw [UInt8.toNat_ofNat', Nat.mod_eq_of_lt (Nat.lt_trans hascii (by decide))] at hcode
    exact h (Char.toNat_inj.mp hcode.symm)
  · exact absurd (JsonText.Scan.high_of_mem_utf8EncodeChar hhigh hmem) (by decide)

theorem lineFeed_notMem_writeChar (ch : Char) : '\n' ∉ JsonText.writeChar ch := by
  unfold JsonText.writeChar
  cases hlookup : JsonText.shortWrites.lookup ch with
  | some letter =>
    obtain ⟨before, after, hsplit, -⟩ := List.lookup_eq_some_iff.mp hlookup
    have hshort : ∀ entry ∈ JsonText.shortWrites, '\n' ∉ ['\\', entry.2] := by decide
    exact hshort (ch, letter) (by rw [hsplit]; exact List.mem_append_right _ List.mem_cons_self)
  | none =>
    dsimp only
    split_ifs with hcontrol
    · have hdigit : ∀ digit < 16, Nat.digitChar digit ≠ '\n' := by decide
      unfold JsonText.unitText
      simp only [List.mem_cons, List.not_mem_nil, or_false, not_or]
      exact ⟨by decide, by decide, (hdigit _ (Nat.mod_lt _ (by decide))).symm,
        (hdigit _ (Nat.mod_lt _ (by decide))).symm, (hdigit _ (Nat.mod_lt _ (by decide))).symm,
        (hdigit _ (Nat.mod_lt _ (by decide))).symm⟩
    · rw [List.mem_singleton]
      rintro rfl
      exact hcontrol (by decide)

theorem lineFeed_notMem_writeString (characters : List Char) :
    '\n' ∉ JsonText.writeString characters := by
  unfold JsonText.writeString
  simp only [List.cons_append, List.mem_cons, List.mem_append, List.mem_flatMap, List.not_mem_nil,
    or_false, not_or, not_exists, not_and]
  exact ⟨by decide, fun ch _ => lineFeed_notMem_writeChar ch, by decide⟩

section Text

variable [FloatFormat]

/-- **The text of a fraction** has no line feed. -/
def FloatsOnLine : Prop := ∀ q, '\n' ∉ FloatFormat.write q

mutual

/-- **A value is written without a line feed.** -/
theorem lineFeed_notMem_text (hfloat : FloatsOnLine) : ∀ value : Json, '\n' ∉ value.text
  | .null => by
    rw [Json.text]
    decide
  | .bool true => by
    rw [Json.text]
    decide
  | .bool false => by
    rw [Json.text]
    decide
  | .num value => by
    rw [Json.text]
    exact fun hmem => absurd (isTokenChar_toString value _ hmem) (by decide)
  | .real value => by
    rw [Json.text]
    exact hfloat value
  | .str characters => by
    rw [Json.text]
    exact lineFeed_notMem_writeString characters.toList
  | .arr items => by
    rw [Json.text, List.mem_cons, not_or]
    exact ⟨by decide, lineFeed_notMem_itemsText hfloat true items⟩
  | .obj fields => by
    rw [Json.text, List.mem_cons, not_or]
    exact ⟨by decide, lineFeed_notMem_fieldsText hfloat true fields⟩

theorem lineFeed_notMem_itemsText (hfloat : FloatsOnLine) (first : Bool) : ∀ items : List Json,
    '\n' ∉ Json.itemsText first items
  | [] => by
    rw [Json.itemsText]
    decide
  | item :: rest => by
    rw [Json.itemsText, List.mem_append, List.mem_append, not_or, not_or]
    refine ⟨?_, lineFeed_notMem_text hfloat item, lineFeed_notMem_itemsText hfloat false rest⟩
    cases first <;> decide

theorem lineFeed_notMem_fieldsText (hfloat : FloatsOnLine) (first : Bool) :
    ∀ fields : List (String × Json),
    '\n' ∉ Json.fieldsText first fields
  | [] => by
    rw [Json.fieldsText]
    decide
  | (key, item) :: rest => by
    rw [Json.fieldsText, List.mem_append, List.mem_append, List.mem_cons, List.mem_append, not_or,
      not_or, not_or, not_or]
    refine ⟨?_, lineFeed_notMem_writeString key.toList, by decide,
      lineFeed_notMem_text hfloat item, lineFeed_notMem_fieldsText hfloat false rest⟩
    cases first <;> decide

end

theorem lineFeed_notMem_utf8 (hfloat : FloatsOnLine) (value : Json) :
    (10 : UInt8) ∉ value.text.flatMap String.utf8EncodeChar := by
  rw [List.mem_flatMap]
  rintro ⟨ch, hch, hfeed⟩
  refine lineFeed_notMem_utf8EncodeChar ?_ hfeed
  rintro rfl
  exact lineFeed_notMem_text hfloat value hch

end Text

/-! ## The lines of a file -/

section Lines

variable {ι π : Type} [FloatFormat]

/-- **The lines that records make**, after what an unfinished one has left behind. -/
def linesOf (pending : List UInt8) : List (TraceRecord ι) → List (List UInt8)
  | [] => []
  | record :: rest =>
    if record.whole then
      (pending ++ record.body.text.flatMap String.utf8EncodeChar) :: linesOf [] rest
    else linesOf (pending ++ record.bytes) rest

/-- What follows the last of them. -/
def tailOf (pending : List UInt8) : List (TraceRecord ι) → List UInt8
  | [] => pending
  | record :: rest => if record.whole then tailOf [] rest else tailOf (pending ++ record.bytes) rest

/-- **The events that can be read**: those that do not follow an unfinished one. -/
def intact (torn : Bool) : List (TraceRecord ι) → List Json
  | [] => []
  | record :: rest =>
    if record.whole then
      if torn then intact false rest else record.body :: intact false rest
    else intact true rest

/-- How many events follow an unfinished one. -/
def spoiled (torn : Bool) : List (TraceRecord ι) → ℕ
  | [] => 0
  | record :: rest =>
    if record.whole then (if torn then 1 else 0) + spoiled false rest else spoiled true rest

theorem lineFeed_notMem_of_append (hfloat : FloatsOnLine) {bytes rest : List UInt8} {body : Json}
    (hrest : rest ≠ []) (h : bytes ++ rest = lineBytes body) : 10 ∉ bytes := by
  unfold lineBytes at h
  have htail : bytes = (bytes ++ rest).take bytes.length := by rw [List.take_left]
  have hlength := congrArg List.length h
  rw [List.length_append, List.length_append] at hlength
  have hpositive := List.length_pos_iff.mpr hrest
  have hone : ([10] : List UInt8).length = 1 := rfl
  rw [htail, h, List.take_append_of_le_length (by omega)]
  exact fun hmem => lineFeed_notMem_utf8 hfloat body (List.mem_of_mem_take hmem)

theorem TraceRecord.Sound.lineFeed_notMem {world : TraceWorld ι π} {record : TraceRecord ι}
    (h : record.Sound world) (hfloat : FloatsOnLine) (hpart : record.whole = false) :
    10 ∉ record.bytes := by
  obtain ⟨rest, hrest⟩ := h.begins
  refine lineFeed_notMem_of_append hfloat ?_ hrest
  rintro rfl
  rw [List.append_nil] at hrest
  unfold TraceRecord.whole at hpart
  rw [hrest, beq_self_eq_true] at hpart
  cases hpart

/-- **The lines of the file** are those that its records make. -/
theorem splitOn_contentOf {world : TraceWorld ι π} (hfloat : FloatsOnLine)
    {records : List (TraceRecord ι)} (hsound : ∀ record ∈ records, record.Sound world)
    {pending part : List UInt8} (hpending : 10 ∉ pending) (hpart : 10 ∉ part) :
    (pending ++ (contentOf records ++ part)).splitOn 10
      = linesOf pending records ++ [tailOf pending records ++ part] := by
  induction records generalizing pending with
  | nil =>
    show (pending ++ part).splitOn 10 = [pending ++ part]
    exact List.splitOn_eq_singleton (by simpa using ⟨hpending, hpart⟩)
  | cons record rest ih =>
    have hrest := fun other hother => hsound other (List.mem_cons_of_mem record hother)
    have hrecord := hsound record List.mem_cons_self
    have hcontent : contentOf (record :: rest) = record.bytes ++ contentOf rest := List.flatMap_cons
    rw [hcontent, linesOf, tailOf]
    cases hwhole : record.whole with
    | true =>
      have hbytes : record.bytes = lineBytes record.body := by
        unfold TraceRecord.whole at hwhole
        exact beq_iff_eq.mp hwhole
      have hline : pending ++ ((record.bytes ++ contentOf rest) ++ part)
          = (pending ++ record.body.text.flatMap String.utf8EncodeChar)
            ++ 10 :: (contentOf rest ++ part) := by
        rw [hbytes]
        unfold lineBytes
        simp only [List.append_assoc, List.cons_append, List.nil_append]
      have hfeed := lineFeed_notMem_utf8 hfloat record.body
      have hbefore : 10 ∉ pending ++ record.body.text.flatMap String.utf8EncodeChar := by
        rw [List.mem_append, not_or]
        exact ⟨hpending, hfeed⟩
      rw [hline, List.splitOn_append_cons_self_of_not_mem hbefore, if_pos rfl, if_pos rfl,
        List.cons_append]
      congr 1
      exact ih hrest List.not_mem_nil
    | false =>
      have hbytes := hrecord.lineFeed_notMem hfloat hwhole
      rw [if_neg (by decide), if_neg (by decide), List.append_assoc, ← List.append_assoc pending]
      exact ih hrest (by simpa using ⟨hpending, hbytes⟩)

end Lines

/-! ## What is on a line -/

section Objects

variable [FloatFormat] [JsonText]

/-- **The library accepts only JSON texts.** -/
def AcceptsJson : Prop :=
  ∀ text value, JsonText.fromStr text = some value →
    ∃ other, JsonText.Denotes jsonBuilder text.toList other

/-- **A value of the library**, which reads it as it has written it: the keys of a map differ, and no
number takes more than 32 bytes. That its line is not too long for the reader is not assumed; it follows
from the estimate that the writer has made (`lineSize_le`). -/
structure ReadsAsWritten (body : Json) : Prop where
  /-- The library reads what it wrote. -/
  fromStr : JsonText.fromStr (String.ofList body.text) = some body
  keys : ((fieldsOf body).map Prod.fst).Nodup
  /-- The numbers are short. -/
  numbers : ValueFits.numbersFit body = true

omit [FloatFormat] [JsonText] in
theorem bytesOf_eq (text : String) :
    bytesOf text = text.toList.flatMap String.utf8EncodeChar := by
  show text.toByteArray.data.toList = _
  rw [← String.utf8Encode_toList]
  exact List.toList_data_toByteArray

omit [JsonText] in
theorem exists_text_of_isObject {body : Json} (h : body.isObject = true) :
    ∃ rest, body.text = '\x7b' :: rest := by
  cases body with
  | obj fields => exact ⟨Json.fieldsText true fields, by rw [Json.text]⟩
  | _ => cases h

/-- **An event that was written whole** is on its line. -/
theorem objectOnLine_text {body : Json} (hobject : body.isObject = true)
    (hreads : ReadsAsWritten body) (hfits : lineSize body ≤ maxLineBytes) :
    objectOnLine (body.text.flatMap String.utf8EncodeChar) = some body := by
  have hbytes : bytesOf (String.ofList body.text) = body.text.flatMap String.utf8EncodeChar := by
    rw [bytesOf_eq, String.toList_ofList]
  have hlength := length_lineBytes body
  unfold lineBytes at hlength
  rw [List.length_append] at hlength
  have hone : ([10] : List UInt8).length = 1 := rfl
  obtain ⟨rest, htext⟩ := exists_text_of_isObject hobject
  have hne : body.text.flatMap String.utf8EncodeChar ≠ [] := by
    rw [htext, List.flatMap_cons]
    exact List.append_ne_nil_of_left_ne_nil String.utf8EncodeChar_ne_nil _
  rw [← hbytes] at hne hlength ⊢
  rw [objectOnLine_bytesOf hne (by omega), hreads.fromStr]
  exact Option.filter_some_pos hobject

/-- **An event that follows an unfinished one** is on no line. -/
theorem objectOnLine_torn {body : Json} (haccepts : AcceptsJson)
    (hobject : body.isObject = true) (hreads : ReadsAsWritten body) (begun : List UInt8) :
    objectOnLine (0x7b :: begun ++ body.text.flatMap String.utf8EncodeChar) = none := by
  obtain ⟨rest, htext⟩ := exists_text_of_isObject hobject
  obtain ⟨value, hdenotes⟩ := haccepts _ _ hreads.fromStr
  rw [String.toList_ofList, htext] at hdenotes
  unfold objectOnLine
  split_ifs with hlong
  · rfl
  · cases htext' : String.fromUTF8? ⟨(0x7b :: begun
        ++ body.text.flatMap String.utf8EncodeChar).toArray⟩ with
    | none => rfl
    | some text =>
      have hbytes : text.toList.flatMap String.utf8EncodeChar
          = 0x7b :: begun ++ ('\x7b' :: rest).flatMap String.utf8EncodeChar := by
        rw [← htext, ← bytesOf_eq]
        unfold String.fromUTF8? at htext'
        split_ifs at htext' with hvalid
        rw [← Option.some.inj htext']
        rfl
      have hnone : JsonText.fromStr text = none := by
        refine Option.eq_none_iff_forall_ne_some.mpr (fun parsed hparsed => ?_)
        obtain ⟨other, hother⟩ := haccepts _ _ hparsed
        exact JsonText.not_denotes_of_utf8_eq hdenotes hbytes hother
      rw [Option.bind_some, hnone]
      rfl

omit [FloatFormat] [JsonText] in
theorem isObject_bodyOf (tsMs : ℕ) (stamp : TraceStamp) (event : String) (sessionId : Option String)
    (fields : Json) : (bodyOf tsMs stamp event sessionId fields).isObject = true := by
  have hinsert : ∀ items : List (String × Json), ∀ body : Json, body.isObject = true →
      (items.foldl (fun body item => body.insert item.1 item.2) body).isObject = true := by
    intro items
    induction items with
    | nil => exact fun _ h => h
    | cons item items ih =>
      intro body hbody
      refine ih _ ?_
      cases body with
      | obj fields =>
        unfold Json.insert
        dsimp only
        split_ifs
        · rfl
        · rfl
      | _ => cases hbody
  exact hinsert _ _ rfl

variable {ι π : Type} {world : TraceWorld ι π} {record : TraceRecord ι}

omit [JsonText] in
theorem TraceRecord.Sound.isObject (h : record.Sound world) : record.body.isObject = true := by
  obtain ⟨request, tsMs, hbody⟩ := h.source
  rw [← (eventBody_eq_ok_iff.mp hbody).2.2]
  exact isObject_bodyOf _ _ _ _ _

/-- **The reader takes a line that the writer has accepted.** -/
theorem TraceRecord.Sound.lineSize_le (h : record.Sound world)
    (hreads : ReadsAsWritten record.body) : lineSize record.body ≤ maxLineBytes := by
  obtain ⟨request, tsMs, hbody⟩ := h.source
  obtain ⟨hroom, hcharge, heq⟩ := eventBody_eq_ok_iff.mp hbody
  have hkeys := hreads.keys
  have hnumbers := hreads.numbers
  rw [← heq] at hkeys hnumbers ⊢
  exact (AgentDesktop.lineSize_le _ _ _ _ _ hroom hcharge hkeys hnumbers).trans (by decide)

omit [JsonText] in
theorem TraceRecord.Sound.begins_brace (h : record.Sound world) :
    ∃ begun, record.bytes = 0x7b :: begun := by
  obtain ⟨rest, hrest⟩ := h.begins
  obtain ⟨first, begun, hbytes⟩ := List.exists_cons_of_ne_nil h.nonempty
  obtain ⟨text, htext⟩ := exists_text_of_isObject h.isObject
  have hline : lineBytes record.body
      = 0x7b :: (text.flatMap String.utf8EncodeChar ++ [10]) := by
    unfold lineBytes
    rw [htext]
    rfl
  rw [hbytes, hline] at hrest
  obtain ⟨rfl, -⟩ := List.cons_eq_cons.mp hrest
  exact ⟨begun, hbytes⟩

omit [FloatFormat] in
theorem eventsFrom_cons (position : ℕ) (line : List UInt8) (lines : List (List UInt8)) :
    (eventsFrom position (line :: lines)).map ParsedEvent.value
      = (objectOnLine line).toList ++ (eventsFrom (position + 1) lines).map ParsedEvent.value := by
  unfold eventsFrom
  rw [List.zipIdx_cons, List.filterMap_cons]
  dsimp only
  cases objectOnLine line with
  | none => rfl
  | some value => rfl

/-- **The events on the lines** of a file are those that can be read, and the other lines are
left out. The induction is on the records, from what an unfinished one has left behind. -/
theorem eventsFrom_linesOf (haccepts : AcceptsJson) {records : List (TraceRecord ι)}
    (hsound : ∀ record ∈ records, record.Sound world)
    (hreads : ∀ record ∈ records, record.whole = true → ReadsAsWritten record.body)
    {pending : List UInt8} (hpending : pending = [] ∨ ∃ begun, pending = 0x7b :: begun)
    (position : ℕ) :
    (eventsFrom position (linesOf pending records)).map ParsedEvent.value
        = intact (!pending.isEmpty) records
      ∧ (linesOf pending records).countP isSkipped = spoiled (!pending.isEmpty) records := by
  induction records generalizing pending position with
  | nil => exact ⟨rfl, rfl⟩
  | cons record rest ih =>
    have hsound' := fun other hother => hsound other (List.mem_cons_of_mem record hother)
    have hreads' := fun other hother => hreads other (List.mem_cons_of_mem record hother)
    have hrecord := hsound record List.mem_cons_self
    rw [linesOf, intact, spoiled]
    cases hwhole : record.whole with
    | true =>
      have hread := hreads record List.mem_cons_self hwhole
      obtain ⟨hevents, hskips⟩ := ih hsound' hreads' (Or.inl rfl) (position + 1)
      rw [if_pos rfl, if_pos rfl, if_pos rfl, eventsFrom_cons, List.countP_cons, hevents, hskips]
      rcases hpending with rfl | ⟨begun, rfl⟩
      · have hobject := objectOnLine_text hrecord.isObject hread
          (hrecord.lineSize_le hread)
        have hskipped : isSkipped (record.body.text.flatMap String.utf8EncodeChar) = false := by
          unfold isSkipped
          rw [hobject]
          exact Bool.and_false _
        rw [List.nil_append, hobject, hskipped]
        exact ⟨rfl, Nat.add_comm _ _⟩
      · have hobject := objectOnLine_torn haccepts hrecord.isObject hread begun
        have hskipped : isSkipped (0x7b :: begun
            ++ record.body.text.flatMap String.utf8EncodeChar) = true := by
          unfold isSkipped
          rw [hobject]
          rfl
        rw [hobject, hskipped]
        exact ⟨rfl, Nat.add_comm _ _⟩
    | false =>
      rw [if_neg (by decide), if_neg (by decide), if_neg (by decide)]
      obtain ⟨begun, hbytes⟩ := hrecord.begins_brace
      have hmore : ∃ more, pending ++ record.bytes = 0x7b :: more := by
        rcases hpending with rfl | ⟨before, rfl⟩
        · exact ⟨begun, hbytes⟩
        · exact ⟨before ++ record.bytes, rfl⟩
      have hnext := ih hsound' hreads' (Or.inr hmore) position
      obtain ⟨more, hmore⟩ := hmore
      rw [hmore] at hnext ⊢
      exact hnext

end Objects

/-! ## Runs -/

/-- **A trace reads back as it was written.** Whoever writes to a file that was empty at first,
whatever fails and whoever is killed, and be it in the middle of a write: reading the file gives
the events that were written whole and do not follow an unfinished one, in the order of their
lines. Each event that does follow one is left out and counted, and so is what is unfinished at
the end. -/
theorem trace_reads_back {ι π : Type} [DecidableEq ι] [DecidableEq π] [FloatFormat] [JsonText]
    {world : TraceWorld ι π} {writer : ι → TraceWriterState} {seq : π → ℕ}
    {events : List (TraceLog ι)} {s : TraceFile ι π}
    (h : Runs (TraceStep world) (.initial [] writer seq) events s) (hfloat : FloatsOnLine)
    (haccepts : AcceptsJson)
    (hreads : ∀ record ∈ recordsOf events, record.whole = true → ReadsAsWritten record.body) :
    ∃ parsed stats, readSegmentEvents (.ok s.content) = .ok (parsed, stats)
      ∧ parsed.map ParsedEvent.value = intact false (recordsOf events)
      ∧ stats.skippedLines = spoiled false (recordsOf events)
        + if (tailOf [] (recordsOf events) ++ s.unfinished).isEmpty then 0 else 1 := by
  have hinvariant := TraceInvariant.of_runs h
  have haccount := hinvariant.account
  have hpart : 10 ∉ s.unfinished := by
    rcases hinvariant.unfinished_begins with hnone | ⟨body, rest, hrest, hline⟩
    · rw [hnone]
      exact List.not_mem_nil
    · exact lineFeed_notMem_of_append hfloat hrest hline
  have hsplit : s.content.splitOn 10 = linesOf [] (recordsOf events)
      ++ [tailOf [] (recordsOf events) ++ s.unfinished] := by
    rw [haccount.parts, List.nil_append]
    exact splitOn_contentOf hfloat haccount.sound List.not_mem_nil hpart
  have hlines : terminatedLines s.content = linesOf [] (recordsOf events) := by
    unfold terminatedLines
    rw [hsplit, List.dropLast_concat]
  have htail : tornTail s.content = tailOf [] (recordsOf events) ++ s.unfinished := by
    unfold tornTail
    rw [hsplit, List.getLastD_concat]
  obtain ⟨hevents, hskips⟩ :=
    eventsFrom_linesOf haccepts haccount.sound hreads (Or.inl rfl) 1
  obtain ⟨stats, hread, -, hskipped, -⟩ := readSegmentEvents_spec s.content
  refine ⟨_, stats, hread, ?_, ?_⟩
  · unfold grammarEvents
    rw [hlines]
    exact hevents
  · rw [hskipped]
    unfold grammarSkipped
    rw [hlines, htail, hskips]
    rfl

namespace Sample

/-- A library that knows two texts. -/
@[reducible] def twoTexts : JsonText where
  fromStr := fun text =>
    [startedBody 1, startedBody 2].find? (fun body =>
      String.ofList (@Json.text AgentDesktop.Sample.halfFormat body) == text)

attribute [local instance] AgentDesktop.Sample.halfFormat twoTexts

theorem fromStr_started :
    JsonText.fromStr (String.ofList (startedBody 1).text) = some (startedBody 1)
      ∧ JsonText.fromStr (String.ofList (startedBody 2).text) = some (startedBody 2) := by
  have hother : (String.ofList (startedBody 1).text == String.ofList (startedBody 2).text)
      = false := by decide
  constructor
  · exact List.find?_cons_of_pos (beq_self_eq_true _)
  · refine (List.find?_cons_of_neg (by rw [hother]; decide)).trans ?_
    exact List.find?_cons_of_pos (beq_self_eq_true _)

theorem acceptsJson_twoTexts : AcceptsJson := by
  intro text value hvalue
  have hmem := List.mem_of_find?_eq_some hvalue
  have htext : String.ofList value.text = text := by simpa using List.find?_some hvalue
  have hfractions : value.fractions = [] := by
    have hall : ∀ body ∈ [startedBody 1, startedBody 2], body.fractions = [] := by
      decide
    exact hall value hmem
  obtain ⟨fuel, hread⟩ := value.readValue_text (fun q hq => by rw [hfractions] at hq; cases hq)
  have hwhole := hread [] nofun
  rw [List.append_nil] at hwhole
  refine ⟨value, fuel, [], ?_, rfl⟩
  rw [← htext, String.toList_ofList]
  exact hwhole

theorem recordsOf_tornEvents : recordsOf tornEvents
    = [⟨0, true, 0, headerBody, (lineBytes headerBody).take 1⟩,
      ⟨1, false, 0, startedBody 1, lineBytes (startedBody 1)⟩,
      ⟨2, false, 0, startedBody 2, lineBytes (startedBody 2)⟩] := rfl

theorem reads_tornEvents :
    ∀ record ∈ recordsOf tornEvents, record.whole = true → ReadsAsWritten record.body := by
  obtain ⟨-, hlong, -⟩ := lineSize_samples
  intro record hrecord hwhole
  rw [recordsOf_tornEvents, List.mem_cons, List.mem_cons, List.mem_singleton] at hrecord
  rcases hrecord with rfl | rfl | rfl
  · -- the header is not whole
    have hlength := congrArg List.length (beq_iff_eq.mp hwhole)
    rw [List.length_take, length_lineBytes] at hlength
    omega
  · exact ⟨fromStr_started.1, by decide, by decide +kernel⟩
  · exact ⟨fromStr_started.2, by decide, by decide +kernel⟩

end Sample

/-- The first event cannot be read, as it follows the header that broke off; the second can. -/
theorem trace_reads_back_torn : ∃ s : TraceFile ℕ ℕ, ∃ parsed stats,
    @readSegmentEvents Sample.twoTexts (.ok s.content) = .ok (parsed, stats)
      ∧ parsed.map ParsedEvent.value
        = @intact _ AgentDesktop.Sample.halfFormat false (recordsOf Sample.tornEvents)
      ∧ stats.skippedLines
        = @spoiled _ AgentDesktop.Sample.halfFormat false (recordsOf Sample.tornEvents)
          + if (@tailOf _ AgentDesktop.Sample.halfFormat [] (recordsOf Sample.tornEvents)
            ++ s.unfinished).isEmpty then 0 else 1 := by
  obtain ⟨s, hrun⟩ := Sample.exists_tornEvents
  have hfloat : @FloatsOnLine AgentDesktop.Sample.halfFormat := by
    intro q
    show '\n' ∉ ['0', '.', '5']
    decide
  exact ⟨s, @trace_reads_back _ _ _ _ AgentDesktop.Sample.halfFormat Sample.twoTexts _ _ _ _ _ hrun
    hfloat Sample.acceptsJson_twoTexts Sample.reads_tornEvents⟩

end TraceWriter

end AgentDesktop
