import AgentDesktop.CdpEndpoint
import AgentDesktop.DataIsland

/-!
# A response is read whole, however it comes

A response comes in pieces, and the cuts between them may lie anywhere: in the empty line after
the header lines, in a header line, in a character. As long as the empty line has not come as a
whole, no length is known and the reading goes on. Once it has come, the header lines are there
as well, all of them, so the length that is read is that of the response; and the empty line that
is found is the first one, wherever others are in the body.

A header line is looked at without regard to what came before it. A line that continues the
value of another header counts as a line of its own, so what it says is taken for a header.
-/

namespace AgentDesktop

namespace CdpEndpoint

open Utf8

/-! ## Header lines -/

/-- A line without what ends it: it is not empty, and neither a carriage return nor a line feed is
in it. -/
def IsPlain (line : Bytes) : Prop := line ≠ [] ∧ 13 ∉ line ∧ 10 ∉ line

theorem notMem_decode_return {line : Bytes} (h : 13 ∉ line) : '\r' ∉ decode line :=
  notMem_decode 13 (by decide) h

theorem notMem_decode_feed {line : Bytes} (h : 10 ∉ line) : '\n' ∉ decode line :=
  notMem_decode 10 (by decide) h

/-- **Lines may be read one by one.** -/
theorem decode_joinLines (lines : List Bytes) :
    decode (List.joinLines 13 10 lines) = List.joinLines '\r' '\n' (lines.map decode) := by
  induction lines with
  | nil => rfl
  | cons line rest ih =>
    cases rest with
    | nil => rfl
    | cons next rest =>
      rw [List.joinLines, decode_append_ascii line (by decide), decode_cons_ascii (by decide), ih]
      rfl

theorem stripSuffix_append (l suffix : List Char) : stripSuffix suffix (l ++ suffix) = some l := by
  unfold stripSuffix
  rw [if_pos (List.isSuffixOf_iff_suffix.mpr (List.suffix_append l suffix)), List.length_append,
    Nat.add_sub_cancel, List.take_left]

theorem stripSuffix_of_notMem {l : List Char} {character : Char} (h : character ∉ l) :
    stripSuffix [character] l = none := by
  unfold stripSuffix
  refine if_neg (fun hsuffix => h ?_)
  exact (List.isSuffixOf_iff_suffix.mp hsuffix).subset List.mem_cons_self

theorem splitInclusive_append {line : List Char} (h : '\n' ∉ line) (rest : List Char) :
    splitInclusive (line ++ '\n' :: rest) = (line ++ ['\n']) :: splitInclusive rest := by
  induction line with
  | nil =>
    show splitInclusive ('\n' :: rest) = _
    rw [splitInclusive, if_pos rfl]
    rfl
  | cons character line ih =>
    rw [List.mem_cons, not_or] at h
    rw [List.cons_append, splitInclusive, if_neg (Ne.symm h.1), ih h.2]
    rfl

theorem splitInclusive_of_notMem {line : List Char} (h : '\n' ∉ line) (hne : line ≠ []) :
    splitInclusive line = [line] := by
  induction line with
  | nil => exact absurd rfl hne
  | cons character line ih =>
    rw [List.mem_cons, not_or] at h
    rw [splitInclusive, if_neg (Ne.symm h.1)]
    cases line with
    | nil => rfl
    | cons next line =>
      rw [ih h.2 (List.cons_ne_nil _ _)]

/-- **The lines of a text** are those it was put together from. -/
theorem lines_joinLines {texts : List (List Char)}
    (h : ∀ text ∈ texts, text ≠ [] ∧ '\n' ∉ text) :
    lines (List.joinLines '\r' '\n' texts) = texts := by
  unfold lines
  induction texts with
  | nil => rfl
  | cons text rest ih =>
    have htext := h text List.mem_cons_self
    cases rest with
    | nil =>
      show (splitInclusive text).map stripLineEnd = [text]
      rw [splitInclusive_of_notMem htext.2 htext.1]
      show [stripLineEnd text] = [text]
      unfold stripLineEnd
      rw [stripSuffix_of_notMem htext.2]
    | cons next rest =>
      have hreturn : '\n' ∉ text ++ ['\r'] := by
        rw [List.mem_append, List.mem_singleton]
        exact fun hmem => hmem.elim htext.2 (by decide)
      have hsplit : List.joinLines '\r' '\n' (text :: next :: rest)
          = (text ++ ['\r']) ++ '\n' :: List.joinLines '\r' '\n' (next :: rest) := by
        rw [List.append_assoc]
        rfl
      rw [hsplit, splitInclusive_append hreturn, List.map_cons,
        ih (fun text hmem => h text (List.mem_cons_of_mem _ hmem))]
      refine congrArg (fun line => line :: next :: rest) ?_
      unfold stripLineEnd
      rw [stripSuffix_append]
      show (stripSuffix ['\r'] (text ++ ['\r'])).getD _ = text
      rw [stripSuffix_append]
      rfl

/-- **The length that is found** is that of the first line that announces one. -/
theorem contentLength_joinLines {lines : List Bytes} (h : ∀ line ∈ lines, IsPlain line) :
    contentLength (List.joinLines 13 10 lines)
      = (lines.map decode).findSome? lengthOfLine := by
  unfold contentLength
  rw [decode_joinLines, lines_joinLines]
  intro text htext
  obtain ⟨line, hline, rfl⟩ := List.mem_map.mp htext
  exact ⟨decode_ne_nil (h line hline).1, notMem_decode_feed (h line hline).2.2⟩

/-! ## Complete responses -/

section Complete

variable {lines : List Bytes} {body : Bytes}

theorem position_blankLine (h : ∀ line ∈ lines, IsPlain line) (hsome : lines ≠ []) :
    List.position blankLine (List.joinLines 13 10 lines ++ (blankLine ++ body))
      = some (List.joinLines 13 10 lines).length :=
  List.position_joinLines (by decide) (fun line hline => ⟨(h line hline).1, (h line hline).2.1⟩)
    hsome body

theorem responseComplete_whole (h : ∀ line ∈ lines, IsPlain line) (hsome : lines ≠ [])
    (hlength : contentLength (List.joinLines 13 10 lines) = some body.length) :
    responseComplete (List.joinLines 13 10 lines ++ (blankLine ++ body)) = true := by
  unfold responseComplete
  rw [position_blankLine h hsome]
  dsimp only
  rw [List.take_left, hlength]
  show decide _ = true
  rw [decide_eq_true_iff, List.length_append, List.length_append]
  show body.length ≤ _ + (4 + body.length) - _
  omega

theorem responseComplete_front (h : ∀ line ∈ lines, IsPlain line) (hsome : lines ≠ [])
    (hlength : contentLength (List.joinLines 13 10 lines) = some body.length) {front : Bytes}
    (hfront : front <+: List.joinLines 13 10 lines ++ (blankLine ++ body))
    (hne : front ≠ List.joinLines 13 10 lines ++ (blankLine ++ body)) :
    responseComplete front = false := by
  obtain ⟨rest, hwhole⟩ := hfront
  cases hplace : List.position blankLine front with
  | none =>
    unfold responseComplete
    rw [hplace]
  | some place =>
    -- the empty line was found where it is found in the whole
    have hsame := List.position_append hplace rest
    rw [hwhole, position_blankLine h hsome] at hsame
    obtain rfl := Option.some.inj hsame
    have hend := List.le_length_of_position hplace
    have htake : front.take (List.joinLines 13 10 lines).length = List.joinLines 13 10 lines := by
      have htook := congrArg (List.take (List.joinLines 13 10 lines).length) hwhole
      rwa [List.take_left, List.take_append_of_le_length (by omega)] at htook
    have hshort : 0 < rest.length := by
      refine List.length_pos_iff.mpr (fun hnil => hne ?_)
      rw [← hwhole, hnil, List.append_nil]
    have htotal := congrArg List.length hwhole
    rw [List.length_append, List.length_append, List.length_append] at htotal
    have htotal : front.length + rest.length = _ + (4 + body.length) := htotal
    unfold responseComplete
    rw [hplace]
    dsimp only
    rw [htake, hlength]
    show decide _ = false
    rw [decide_eq_false_iff_not]
    omega

end Complete

/-! ## What a header line announces -/

theorem splitOnce_append {separator : Char} {name : List Char} (h : separator ∉ name)
    (value : List Char) :
    splitOnce [separator] (name ++ separator :: value) = some (name, value) := by
  have hplace : List.position [separator] (name ++ [separator] ++ value) = some name.length := by
    rw [List.append_assoc, List.position_append_of_notMem h, List.position_self]
    rfl
  unfold splitOnce
  rw [← List.append_cons] at hplace
  rw [hplace]
  show some (_, _) = _
  rw [List.take_left, ← List.drop_drop, List.drop_left]
  rfl

/-- Text with no white space in it is what is left of it when white space is put around it. -/
theorem trim_between {before inner after : List Char} (hbefore : before.all isWhitespace = true)
    (hafter : after.all isWhitespace = true) (hinner : ∀ ch ∈ inner, isWhitespace ch = false)
    (hsome : inner ≠ []) :
    trim (String.ofList (before ++ (inner ++ after))) = String.ofList inner := by
  have hfront : ∀ l : List Char, (inner ++ l).dropWhile isWhitespace = inner ++ l := by
    intro l
    cases inner with
    | nil => exact absurd rfl hsome
    | cons ch rest =>
      exact List.dropWhile_cons_of_neg (Bool.eq_false_iff.mp (hinner ch List.mem_cons_self))
  have hback : (inner ++ after).rdropWhile isWhitespace = inner := by
    unfold List.rdropWhile
    rw [List.reverse_append, List.dropWhile_append_of_pos (fun ch hch =>
      List.all_eq_true.mp hafter ch (List.mem_reverse.mp hch))]
    cases hreverse : inner.reverse with
    | nil => exact absurd (List.reverse_eq_nil_iff.mp hreverse) hsome
    | cons ch rest =>
      have hch : ch ∈ inner := List.mem_reverse.mp (hreverse ▸ List.mem_cons_self)
      rw [List.dropWhile_cons_of_neg (Bool.eq_false_iff.mp (hinner ch hch)), ← hreverse,
        List.reverse_reverse]
  unfold trim
  rw [String.toList_ofList, List.dropWhile_append_of_pos (List.all_eq_true.mp hbefore), hfront,
    hback]

/-- A byte of the name of a header field. -/
def isNameByte (byte : UInt8) : Bool := decide (33 ≤ byte ∧ byte ≤ 126 ∧ byte ≠ 58)

/-- The value of some digits. -/
def decimal (digits : Bytes) : ℕ :=
  digits.foldl (fun number digit => number * 10 + (digit.toNat - 48)) 0

/-- **A value that is a length**: digits, and blanks around them. -/
def IsLength (value : Bytes) (length : ℕ) : Prop :=
  ∃ before digits after, value = before ++ digits ++ after
    ∧ (∀ byte ∈ before ++ after, byte = 32 ∨ byte = 9) ∧ digits ≠ []
    ∧ (∀ digit ∈ digits, 48 ≤ digit ∧ digit ≤ 57) ∧ decimal digits = length

/-- **A header field**: its name, its value, and the lines that continue the value. -/
structure HeaderField where
  name : Bytes
  /-- The value, with the blanks around it. -/
  value : Bytes
  /-- The lines that continue it. -/
  folded : List Bytes
  /-- The name is not empty, and has neither white space nor a colon. -/
  name_eq : name ≠ [] ∧ ∀ byte ∈ name, isNameByte byte = true
  /-- The value is on one line. -/
  value_plain : 13 ∉ value ∧ 10 ∉ value
  /-- Each line that continues it begins with a blank. -/
  folded_plain : ∀ line ∈ folded, IsPlain line ∧ (line.head? = some 32 ∨ line.head? = some 9)

namespace HeaderField

/-- The lines of a field. -/
def lines (field : HeaderField) : List Bytes := (field.name ++ 58 :: field.value) :: field.folded

/-- Whether a field is `Content-Length`, in whatever case. -/
def IsContentLength (field : HeaderField) : Prop :=
  asciiLowercase (String.ofList (field.name.map ofByte)) = "content-length"

end HeaderField

/-- **A response**: its status line, its header fields, and a body of the length they announce. -/
structure HttpResponse where
  /-- What follows `HTTP/` in the status line. -/
  status : Bytes
  fields : List HeaderField
  body : Bytes
  /-- The status line is one line. -/
  status_plain : 13 ∉ status ∧ 10 ∉ status
  /-- The length is announced. -/
  announced : ∃ field ∈ fields, field.IsContentLength
  /-- It is that of the body. -/
  length_eq : ∀ field ∈ fields, field.IsContentLength →
    IsLength field.value body.length ∧ field.folded = []

namespace HttpResponse

/-- The status line. -/
def statusLine (response : HttpResponse) : Bytes := [72, 84, 84, 80, 47] ++ response.status

/-- The lines before the empty one. -/
def head (response : HttpResponse) : List Bytes :=
  response.statusLine :: response.fields.flatMap HeaderField.lines

/-- **What is sent.** -/
def bytes (response : HttpResponse) : Bytes :=
  response.head.flatMap (fun line => line ++ [13, 10]) ++ ([13, 10] ++ response.body)

/-- **No line that continues a value looks like `Content-Length`.** -/
def Unmistakable (response : HttpResponse) : Prop :=
  ∀ field ∈ response.fields, ∀ line ∈ field.folded, lengthOfLine (decode line) = none

/-- The body as a text: what is no character is replaced, and white space around it dropped. -/
def text (response : HttpResponse) : String := trim (String.ofList (decode response.body))

end HttpResponse

/-! ## What the lines of a response announce

The length is taken from the first line that looks like a `Content-Length`, and a line that
continues a value is a line like the others. Where none of those looks so, the field of the response
is the one that is found. -/

theorem isWhitespace_ofByte {byte : UInt8} (hascii : byte.toNat < 0x80) :
    isWhitespace (ofByte byte) = true ↔ (9 ≤ byte.toNat ∧ byte.toNat ≤ 13) ∨ byte.toNat = 32 := by
  unfold isWhitespace
  rw [toNat_ofByte]
  simp only [Bool.or_eq_true, Bool.and_eq_true, decide_eq_true_eq, beq_iff_eq]
  omega

theorem isNameByte_iff {byte : UInt8} :
    isNameByte byte = true ↔ 33 ≤ byte.toNat ∧ byte.toNat ≤ 126 ∧ byte ≠ 58 := by
  unfold isNameByte
  rw [decide_eq_true_iff, UInt8.le_iff_toNat_le, UInt8.le_iff_toNat_le]
  rfl

theorem lengthOfLine_append {name : List Char} (h : ':' ∉ name) (value : List Char) :
    lengthOfLine (name ++ ':' :: value)
      = if asciiLowercase (trim (String.ofList name)) = "content-length" then
          parseUsize (trim (String.ofList value)).toList
        else none := by
  unfold lengthOfLine
  rw [splitOnce_append h]

theorem lengthOfLine_cons {first : Char} (hcolon : first ≠ ':')
    (hspace : isWhitespace first = false) (hletter : toAsciiLowercase first ≠ 'c')
    (rest : List Char) : lengthOfLine (first :: rest) = none := by
  have hsplit : splitOnce [':'] (first :: rest) = (splitOnce [':'] rest).map
      (fun parts => (first :: parts.1, parts.2)) := by
    have hnot : ¬[':'] <+: first :: rest :=
      fun hpre => hcolon (List.cons_prefix_cons.mp hpre).1.symm
    unfold splitOnce
    rw [List.position_cons_of_not_starts hnot, Option.map_map, Option.map_map]
    rfl
  unfold lengthOfLine
  rw [hsplit]
  cases hrest : splitOnce [':'] rest with
  | none => rfl
  | some parts =>
    refine if_neg (fun hname => hletter ?_)
    have hchars := congrArg String.toList hname
    unfold asciiLowercase trim at hchars
    rw [String.toList_ofList, String.toList_ofList, String.toList_ofList,
      List.dropWhile_cons_of_neg (Bool.eq_false_iff.mp hspace)] at hchars
    obtain ⟨dropped, hback⟩ : (first :: parts.1).rdropWhile isWhitespace <+: first :: parts.1 :=
        List.rdropWhile_prefix _ _
    cases hkept : (first :: parts.1).rdropWhile isWhitespace with
    | nil =>
      rw [hkept] at hchars
      exact absurd hchars (by decide)
    | cons kept others =>
      rw [hkept] at hchars hback
      rw [(List.cons.inj hback).1.symm]
      exact (List.cons.inj hchars).1

namespace HeaderField

variable (field : HeaderField)

theorem ascii_of_mem_name {byte : UInt8} (h : byte ∈ field.name) : byte.toNat < 0x80 := by
  have hname := isNameByte_iff.mp (field.name_eq.2 byte h)
  omega

/-- **What the first line of a field announces.** -/
theorem lengthOfLine_decode :
    lengthOfLine (decode (field.name ++ 58 :: field.value))
      = if asciiLowercase (String.ofList (field.name.map ofByte)) = "content-length" then
          parseUsize (trim (String.ofList (decode field.value))).toList
        else none := by
  have hcolon : ':' ∉ field.name.map ofByte := by
    intro hmem
    obtain ⟨byte, hbyte, heq⟩ := List.mem_map.mp hmem
    have heq : ofByte byte = ofByte 58 := heq
    exact (isNameByte_iff.mp (field.name_eq.2 byte hbyte)).2.2 (ofByte_inj heq)
  have htrim : trim (String.ofList (field.name.map ofByte))
      = String.ofList (field.name.map ofByte) := by
    have hinner : ∀ ch ∈ field.name.map ofByte, isWhitespace ch = false := by
      intro ch hch
      obtain ⟨byte, hbyte, rfl⟩ := List.mem_map.mp hch
      have hname := isNameByte_iff.mp (field.name_eq.2 byte hbyte)
      rw [Bool.eq_false_iff, Ne, isWhitespace_ofByte (field.ascii_of_mem_name hbyte)]
      omega
    have hkept : trim (String.ofList ([] ++ (field.name.map ofByte ++ [])))
        = String.ofList (field.name.map ofByte) :=
      trim_between rfl rfl hinner (fun hnil => field.name_eq.1 (List.map_eq_nil_iff.mp hnil))
    rwa [List.append_nil] at hkept
  rw [decode_of_ascii (fun byte hbyte => field.ascii_of_mem_name hbyte),
    decode_cons_ascii (by decide)]
  show lengthOfLine (field.name.map ofByte ++ ':' :: decode field.value) = _
  rw [lengthOfLine_append hcolon, htrim]

end HeaderField

theorem parseUsize_digits {digits : Bytes} (hsome : digits ≠ [])
    (hdigits : ∀ digit ∈ digits, 48 ≤ digit.toNat ∧ digit.toNat ≤ 57)
    (hfits : decimal digits ≤ usizeMax) :
    parseUsize (digits.map ofByte) = some (decimal digits) := by
  have hall : ∀ ch ∈ digits.map ofByte, isAsciiDigit ch = true := by
    intro ch hch
    obtain ⟨digit, hdigit, rfl⟩ := List.mem_map.mp hch
    have hrange := hdigits digit hdigit
    unfold isAsciiDigit
    rw [toNat_ofByte, Bool.and_eq_true, decide_eq_true_iff, decide_eq_true_iff]
    exact hrange
  have hvalue : (digits.map ofByte).foldl (fun number digit => number * 10 + (digit.toNat - 48)) 0
      = decimal digits := by
    rw [List.foldl_map]
    refine congrArg (fun f => List.foldl f 0 digits) ?_
    funext number digit
    rw [toNat_ofByte]
  have hsign : ∀ rest, digits.map ofByte ≠ '+' :: rest := by
    intro rest heq
    have hplus := hall '+' (heq ▸ List.mem_cons_self)
    exact absurd hplus (by decide)
  have hdecimal :
      ((digits.map ofByte).isEmpty || !(digits.map ofByte).all isAsciiDigit) = false := by
    rw [List.all_eq_true.mpr hall, Bool.not_true, Bool.or_false, List.isEmpty_eq_false_iff]
    exact fun hnil => hsome (List.map_eq_nil_iff.mp hnil)
  unfold parseUsize
  rw [withoutPlus.eq_2 _ hsign]
  dsimp only
  rw [hdecimal, hvalue]
  exact if_pos hfits

/-- **A length is read as it is announced.** -/
theorem parseUsize_of_isLength {value : Bytes} {length : ℕ} (h : IsLength value length)
    (hfits : length ≤ usizeMax) :
    parseUsize (trim (String.ofList (decode value))).toList = some length := by
  obtain ⟨before, digits, after, rfl, hblank, hsome, hdigits, rfl⟩ := h
  have hrange : ∀ digit ∈ digits, 48 ≤ digit.toNat ∧ digit.toNat ≤ 57 :=
    fun digit hdigit => ⟨UInt8.le_iff_toNat_le.mp (hdigits digit hdigit).1,
      UInt8.le_iff_toNat_le.mp (hdigits digit hdigit).2⟩
  have hspace : ∀ byte ∈ before ++ after, isWhitespace (ofByte byte) = true := by
    intro byte hbyte
    rcases hblank byte hbyte with rfl | rfl <;> decide
  have hascii : ∀ byte ∈ before ++ digits ++ after, byte.toNat < 0x80 := by
    intro byte hbyte
    rcases List.mem_append.mp hbyte with hbyte | hafter
    · rcases List.mem_append.mp hbyte with hbefore | hdigit
      · rcases hblank byte (List.mem_append_left _ hbefore) with rfl | rfl <;> decide
      · exact (hrange byte hdigit).2.trans_lt (by decide)
    · rcases hblank byte (List.mem_append_right _ hafter) with rfl | rfl <;> decide
  have hread : decode (before ++ digits ++ after)
      = before.map ofByte ++ (digits.map ofByte ++ after.map ofByte) := by
    have hdecode := decode_of_ascii hascii []
    have hnil : decode [] = [] := rfl
    rw [List.append_nil, hnil, List.append_nil] at hdecode
    rw [hdecode, List.map_append, List.map_append, List.append_assoc]
  have hinner : ∀ ch ∈ digits.map ofByte, isWhitespace ch = false := by
    intro ch hch
    obtain ⟨digit, hdigit, rfl⟩ := List.mem_map.mp hch
    have hdigit := hrange digit hdigit
    rw [Bool.eq_false_iff, Ne, isWhitespace_ofByte (by omega)]
    omega
  rw [hread, trim_between ?_ ?_ hinner (fun hnil => hsome (List.map_eq_nil_iff.mp hnil)),
    String.toList_ofList]
  · exact parseUsize_digits hsome hrange hfits
  · rw [List.all_map]
    exact List.all_eq_true.mpr (fun byte hbyte => hspace byte (List.mem_append_left _ hbyte))
  · rw [List.all_map]
    exact List.all_eq_true.mpr (fun byte hbyte => hspace byte (List.mem_append_right _ hbyte))

/-! ## A response -/

theorem findSome?_eq_some {α β : Type} {f : α → Option β} {l : List α} {value : β}
    (hall : ∀ item ∈ l, f item = none ∨ f item = some value)
    (hsome : ∃ item ∈ l, f item = some value) : l.findSome? f = some value := by
  cases hfound : l.findSome? f with
  | none =>
    obtain ⟨item, hitem, hvalue⟩ := hsome
    rw [List.findSome?_eq_none_iff.mp hfound item hitem] at hvalue
    cases hvalue
  | some found =>
    obtain ⟨item, hitem, hvalue⟩ := List.exists_of_findSome?_eq_some hfound
    rcases hall item hitem with hnone | hsame
    · rw [hnone] at hvalue
      cases hvalue
    · rw [← hvalue, hsame]

namespace HttpResponse

variable {response : HttpResponse}

theorem plain_of_mem_head {line : Bytes} (h : line ∈ response.head) : IsPlain line := by
  rcases List.mem_cons.mp h with rfl | h
  · refine ⟨List.cons_ne_nil _ _, ?_, ?_⟩
    · exact fun hmem => (List.mem_append.mp hmem).elim (by decide) response.status_plain.1
    · exact fun hmem => (List.mem_append.mp hmem).elim (by decide) response.status_plain.2
  · obtain ⟨field, -, hline⟩ := List.mem_flatMap.mp h
    rcases List.mem_cons.mp hline with rfl | hfolded
    · have hname : ∀ byte ∈ field.name, byte ≠ 13 ∧ byte ≠ 10 := by
        intro byte hbyte
        have hrange := isNameByte_iff.mp (field.name_eq.2 byte hbyte)
        refine ⟨fun heq => ?_, fun heq => ?_⟩
        · rw [heq] at hrange
          exact absurd hrange.1 (by decide)
        · rw [heq] at hrange
          exact absurd hrange.1 (by decide)
      refine ⟨List.append_ne_nil_of_left_ne_nil field.name_eq.1 _, ?_, ?_⟩
      · intro hmem
        rcases List.mem_append.mp hmem with hmem | hmem
        · exact (hname 13 hmem).1 rfl
        · exact (List.mem_cons.mp hmem).elim (by decide) field.value_plain.1
      · intro hmem
        rcases List.mem_append.mp hmem with hmem | hmem
        · exact (hname 10 hmem).2 rfl
        · exact (List.mem_cons.mp hmem).elim (by decide) field.value_plain.2
    · exact (field.folded_plain line hfolded).1

theorem bytes_eq (response : HttpResponse) :
    response.bytes = List.joinLines 13 10 response.head ++ (blankLine ++ response.body) := by
  unfold bytes head
  rw [List.flatMap_end, List.append_assoc]
  rfl

/-- **The length that is read is that of the body.** -/
theorem contentLength_head (hplain : response.Unmistakable)
    (hfits : response.body.length ≤ usizeMax) :
    contentLength (List.joinLines 13 10 response.head) = some response.body.length := by
  have hfield : ∀ field ∈ response.fields, ∀ line ∈ field.lines,
      lengthOfLine (decode line) = none
        ∨ lengthOfLine (decode line) = some response.body.length := by
    intro field hfield line hline
    rcases List.mem_cons.mp hline with rfl | hfolded
    · rw [field.lengthOfLine_decode]
      split_ifs with hname
      · exact Or.inr (parseUsize_of_isLength (response.length_eq field hfield hname).1 hfits)
      · exact Or.inl rfl
    · exact Or.inl (hplain field hfield line hfolded)
  rw [contentLength_joinLines (fun line hline => plain_of_mem_head hline)]
  refine findSome?_eq_some ?_ ?_
  · intro text htext
    obtain ⟨line, hline, rfl⟩ := List.mem_map.mp htext
    rcases List.mem_cons.mp hline with rfl | hline
    · refine Or.inl ?_
      have hascii : ∀ byte ∈ ([72, 84, 84, 80, 47] : Bytes), byte.toNat < 0x80 :=
        List.all_iff_forall_prop.mp (by decide)
      unfold statusLine
      rw [decode_of_ascii hascii]
      exact lengthOfLine_cons (by decide) (by decide) (by decide) _
    · obtain ⟨field, hmem, hline⟩ := List.mem_flatMap.mp hline
      exact hfield field hmem line hline
  · obtain ⟨field, hmem, hname⟩ := response.announced
    have hlower : asciiLowercase (String.ofList (field.name.map ofByte)) = "content-length" := hname
    refine ⟨_, List.mem_map_of_mem (List.mem_cons_of_mem _
      (List.mem_flatMap.mpr ⟨field, hmem, List.mem_cons_self⟩)), ?_⟩
    rw [field.lengthOfLine_decode, if_pos hlower]
    exact parseUsize_of_isLength (response.length_eq field hmem hname).1 hfits

/-- **The body that is read** is that of the response. -/
theorem bodyText_bytes (response : HttpResponse) : bodyText response.bytes = response.text := by
  have hread : decode response.bytes
      = List.joinLines '\r' '\n' (response.head.map decode)
        ++ (['\r', '\n', '\r', '\n'] ++ decode response.body) := by
    rw [response.bytes_eq, ← decode_joinLines]
    show decode (_ ++ 13 :: 10 :: 13 :: 10 :: response.body) = _
    rw [decode_append_ascii _ (by decide), decode_cons_ascii (by decide),
      decode_cons_ascii (by decide), decode_cons_ascii (by decide)]
    rfl
  have hlines : ∀ text ∈ response.head.map decode, text ≠ [] ∧ '\r' ∉ text := by
    intro text htext
    obtain ⟨line, hline, rfl⟩ := List.mem_map.mp htext
    have hplain := plain_of_mem_head hline
    exact ⟨decode_ne_nil hplain.1, notMem_decode_return hplain.2.1⟩
  have hplace := List.position_joinLines (show '\n' ≠ '\r' by decide) hlines
    (List.cons_ne_nil _ _) (decode response.body)
  unfold bodyText text splitOnce
  rw [hread, hplace]
  show trim (String.ofList (List.drop _ _)) = _
  rw [← List.drop_drop, List.drop_left]
  rfl

end HttpResponse

/-! ## Reading in pieces

The bytes that have arrived are tested after each piece. A response that is not complete is a proper
beginning of the whole one, and none of these passes the test; so the reads go on until the response
is there. -/

/-- **A piece that arrives in time.** -/
structure Arrives (timeout : ℕ) (turn : ReadTurn) (chunk : Bytes) : Prop where
  /-- The time is not over. -/
  elapsed : turn.elapsed < timeout
  /-- The time limit of the read is set. -/
  limitSet : turn.limitSet = true
  /-- The read gives the piece. -/
  result : turn.result = .received chunk
  some_bytes : chunk ≠ []

theorem readFrom_cons {timeout : ℕ} {turn : ReadTurn} {chunk : Bytes}
    (h : Arrives timeout turn chunk) (raw : Bytes) (turns : List ReadTurn) :
    readFrom timeout raw (turn :: turns)
      = if responseComplete (raw ++ chunk) || maxResponseBytes < (raw ++ chunk).length then
          finish (raw ++ chunk)
        else readFrom timeout (raw ++ chunk) turns := by
  have hgoes : ¬(timeout ≤ turn.elapsed ∨ turn.limitSet = false) := by
    rw [h.limitSet, not_or, Nat.not_le]
    exact ⟨h.elapsed, Bool.noConfusion⟩
  rw [readFrom, if_neg hgoes, h.result]
  cases chunk with
  | nil => exact absurd rfl h.some_bytes
  | cons byte chunk => rfl

/-- **The pieces are read until the response is there**, and no longer. -/
theorem readFrom_whole {timeout : ℕ} {turns : List ReadTurn} {chunks : List Bytes}
    (harrive : List.Forall₂ (Arrives timeout) turns chunks) {raw whole : Bytes}
    (hwhole : raw ++ chunks.flatten = whole) (hmore : chunks ≠ [])
    (hcomplete : responseComplete whole = true)
    (hfront : ∀ front, front <+: whole → front ≠ whole → responseComplete front = false)
    (hlimit : whole.length ≤ maxResponseBytes) (rest : List ReadTurn) :
    readFrom timeout raw (turns ++ rest) = finish whole := by
  induction harrive generalizing raw with
  | nil => exact absurd rfl hmore
  | @cons turn chunk turns chunks hturn hturns ih =>
    rw [List.flatten_cons, ← List.append_assoc] at hwhole
    rw [List.cons_append, readFrom_cons hturn]
    cases hturns with
    | nil =>
      rw [List.flatten_nil, List.append_nil] at hwhole
      rw [hwhole, hcomplete, Bool.true_or, if_pos rfl]
    | @cons next chunk' turns chunks hnext hturns =>
      have hne : raw ++ chunk ≠ whole := by
        intro heq
        rw [heq, List.append_right_eq_self, List.flatten_cons, List.append_eq_nil_iff] at hwhole
        exact hnext.some_bytes hwhole.1
      have hpre : raw ++ chunk <+: whole := ⟨_, hwhole⟩
      have hshort : ¬maxResponseBytes < (raw ++ chunk).length :=
        Nat.not_lt.mpr (hpre.length_le.trans hlimit)
      rw [hfront _ hpre hne, Bool.false_or, decide_eq_false hshort, if_neg Bool.false_ne_true]
      exact ih hwhole (List.cons_ne_nil _ _)

/-- **What is verified**: a value that names the address. -/
theorem judge_verified_iff [JsonText] (port : ℕ) (raw : Bytes) :
    (∃ endpoint, judge port (some raw) = .verified endpoint)
      ↔ ∃ parsed url, JsonText.fromStr (bodyText raw) = some parsed
        ∧ (parsed.get "webSocketDebuggerUrl").bind Json.asStr = some url := by
  unfold judge
  dsimp only
  unfold parseResponse
  cases JsonText.fromStr (bodyText raw) with
  | none =>
    refine ⟨?_, ?_⟩
    · rintro ⟨endpoint, h⟩
      cases h
    · rintro ⟨parsed, url, h, -⟩
      cases h
  | some parsed =>
    dsimp only
    cases hurl : (parsed.get "webSocketDebuggerUrl").bind Json.asStr with
    | none =>
      refine ⟨?_, ?_⟩
      · rintro ⟨endpoint, h⟩
        cases h
      · rintro ⟨parsed', url, h, hsome⟩
        rw [← Option.some.inj h, hurl] at hsome
        cases hsome
    | some url => exact ⟨fun _ => ⟨parsed, url, rfl, hurl⟩, fun _ => ⟨_, rfl⟩⟩

/-- **A response is read whole**, however it is cut and whatever comes after it: the attempt ends
with it, and with nothing less, and makes of it what it would make of the whole.

It is verified if its body, read as text and without the white space around it, is a JSON value
that names the address. No line may continue the value of a header and look like
`Content-Length`. -/
theorem attempt_whole [JsonText] {response : HttpResponse} (hplain : response.Unmistakable)
    (hlimit : response.bytes.length ≤ maxResponseBytes) {timeout : ℕ} {turns : List ReadTurn}
    {chunks : List Bytes} (harrive : List.Forall₂ (Arrives timeout) turns chunks)
    (hwhole : chunks.flatten = response.bytes) (rest : List ReadTurn) (port : ℕ) :
    readHttpResponse timeout (turns ++ rest) = .finished (some response.bytes)
      ∧ attempt port timeout ⟨true, true, true, turns ++ rest⟩
        = some (judge port (some response.bytes))
      ∧ ((∃ endpoint, attempt port timeout ⟨true, true, true, turns ++ rest⟩
          = some (.verified endpoint))
        ↔ ∃ parsed url, JsonText.fromStr response.text = some parsed
          ∧ (parsed.get "webSocketDebuggerUrl").bind Json.asStr = some url)
      ∧ ∀ front, front <+: response.bytes → front ≠ response.bytes →
        responseComplete front = false := by
  have hsome : response.bytes ≠ [] := by
    rw [response.bytes_eq]
    exact List.append_ne_nil_of_right_ne_nil _ (List.cons_ne_nil _ _)
  have hfits : response.body.length ≤ usizeMax := by
    have hbody : response.body.length ≤ response.bytes.length := by
      rw [response.bytes_eq, List.length_append, List.length_append]
      omega
    exact (hbody.trans hlimit).trans (by decide)
  have hlines : ∀ line ∈ response.head, IsPlain line := fun line => HttpResponse.plain_of_mem_head
  have hhead : response.head ≠ [] := List.cons_ne_nil _ _
  have hlength := HttpResponse.contentLength_head hplain hfits
  have hcomplete : responseComplete response.bytes = true := by
    rw [response.bytes_eq]
    exact responseComplete_whole hlines hhead hlength
  have hfront : ∀ front, front <+: response.bytes → front ≠ response.bytes →
      responseComplete front = false := by
    rw [response.bytes_eq]
    exact fun front => responseComplete_front hlines hhead hlength
  have hread : readHttpResponse timeout (turns ++ rest) = .finished (some response.bytes) := by
    have hchunks : chunks ≠ [] := by
      rintro rfl
      exact hsome hwhole.symm
    unfold readHttpResponse
    rw [readFrom_whole harrive hwhole hchunks hcomplete hfront hlimit rest]
    unfold finish
    rw [List.isEmpty_eq_false_iff.mpr hsome, if_neg Bool.false_ne_true]
  have hattempt : attempt port timeout ⟨true, true, true, turns ++ rest⟩
      = some (judge port (some response.bytes)) := by
    unfold attempt
    rw [hread]
    rfl
  refine ⟨hread, hattempt, ?_, hfront⟩
  rw [hattempt, ← response.bodyText_bytes, ← judge_verified_iff port]
  exact exists_congr (fun endpoint => Option.some_inj)

/-! ## Samples -/

section Samples

/-- A reader of JSON texts. -/
@[reducible] def sampleJsonText : JsonText where
  fromStr text :=
    match JsonText.readValue jsonBuilder (text.toList.length + 1) text.toList with
    | some (value, rest) => if rest.all JsonText.isSpace then some value else none
    | none => none

attribute [local instance] sampleJsonText

/-- The bytes of a text of the ASCII range. -/
def ascii (text : String) : Bytes := text.toList.map (fun ch => UInt8.ofNat ch.toNat)

/-- A `Content-Length` field of a body of 34 bytes. -/
def lengthField : HeaderField where
  name := ascii "Content-Length"
  value := ascii " 34"
  folded := []
  name_eq := by decide +kernel
  value_plain := by decide
  folded_plain := fun _ hline => absurd hline List.not_mem_nil

/-- A field with a line that continues its value and looks like another field. -/
def foldedField : HeaderField where
  name := ascii "X-Note"
  value := ascii " a"
  folded := [ascii " Content-Length: 1"]
  name_eq := by decide +kernel
  value_plain := by decide
  folded_plain := by
    intro line hline
    rw [List.mem_singleton.mp hline]
    exact ⟨⟨by decide, by decide⟩, Or.inl (by decide)⟩

/-- A body with a form feed before the value. -/
def sampleBody : Bytes := 12 :: ascii "\x7b\"webSocketDebuggerUrl\":\"ws://a\"\x7d"

/-- A response with some fields before the length. -/
def sampleResponse (fields : List HeaderField)
    (hother : ∀ field ∈ fields, ¬field.IsContentLength) : HttpResponse where
  status := ascii "1.1 200 OK"
  fields := fields ++ [lengthField]
  body := sampleBody
  status_plain := by decide +kernel
  announced := ⟨lengthField, List.mem_append_right _ List.mem_cons_self, by
    unfold HeaderField.IsContentLength
    decide +kernel⟩
  length_eq := by
    intro field hfield hname
    rcases List.mem_append.mp hfield with hfield | hfield
    · exact absurd hname (hother field hfield)
    · rw [List.mem_singleton.mp hfield]
      refine ⟨⟨[32], ascii "34", [], by decide +kernel, ?_, by decide +kernel, by decide +kernel,
        by decide +kernel⟩, rfl⟩
      intro byte hbyte
      exact Or.inl (List.mem_singleton.mp hbyte)

/-- A response of one field. -/
def plainResponse : HttpResponse :=
  sampleResponse [] (fun _ hfield => absurd hfield List.not_mem_nil)

/-- A response with a line that is mistaken for a field. -/
def foldedResponse : HttpResponse := sampleResponse [foldedField] (by
  intro field hfield
  rw [List.mem_singleton.mp hfield]
  unfold HeaderField.IsContentLength
  decide)

theorem attempt_whole_sample :
    readHttpResponse 500 [⟨3, true, .received (plainResponse.bytes.take 37)⟩,
        ⟨5, true, .received (plainResponse.bytes.drop 37)⟩]
      = .finished (some plainResponse.bytes) :=
  (attempt_whole (fun field hfield line hline => by
      obtain rfl := List.mem_singleton.mp hfield
      exact absurd hline List.not_mem_nil) (by decide +kernel)
    (.cons ⟨by decide, rfl, rfl, by decide⟩
      (.cons ⟨by decide, rfl, rfl, by decide +kernel⟩ .nil))
    (by decide +kernel) [] 9222).1

/-- **What is verified need not be JSON**, as the white space of other alphabets is dropped; **and a
beginning may be taken for the whole**, if a line that continues a value looks like a field. -/
theorem attempt_misreads :
    (∃ response : HttpResponse,
      JsonText.fromStr (String.ofList (decode response.body)) = none
        ∧ ∃ endpoint, attempt 9222 500 ⟨true, true, true, [⟨0, true, .received response.bytes⟩]⟩
          = some (.verified endpoint))
      ∧ ∃ (response : HttpResponse) (front : Bytes), front <+: response.bytes
        ∧ front ≠ response.bytes ∧ responseComplete front = true :=
  ⟨⟨plainResponse, by decide +kernel,
      ⟨9222, "http://127.0.0.1:9222", "ws://a", none⟩, by decide +kernel⟩,
    foldedResponse, foldedResponse.bytes.take 80, List.take_prefix _ _, by decide,
    by decide⟩

end Samples

end CdpEndpoint

end AgentDesktop
