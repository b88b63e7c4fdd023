import AgentDesktop.JsonSize
import AgentDesktop.Number
import AgentDesktop.RefToken
import AgentDesktop.Util.JsonText

/-!
# The data island of an exported trace

The exported page holds the trace as a JSON text in a script element. The text is not
trusted: what it says comes from the applications. So the characters that mean something to
HTML or end a line of a script are written by their codes.

The escaping does not look at the text; it replaces the five characters wherever they stand.
That is right since in a JSON text they can only stand for themselves in a string.
-/

namespace AgentDesktop

open JsonText

/-! ## The text of a value -/

/-- **The text of a fraction**, as the JSON library writes it. -/
class FloatFormat extends FloatText where
  /-- The text. -/
  write : ℚ → List Char
  /-- It is as long as is said. -/
  size_write : ∀ q, ((write q).map Char.utf8Size).sum = FloatText.size q

namespace Json

variable [FloatFormat]

mutual

/-- **`to_string`**: a value without white space. -/
def text : Json → List Char
  | null => ['n', 'u', 'l', 'l']
  | bool value => if value then ['t', 'r', 'u', 'e'] else ['f', 'a', 'l', 's', 'e']
  | num value => (toString value).toList
  | real value => FloatFormat.write value
  | str characters => writeString characters.toList
  | arr items => '[' :: itemsText true items
  | obj fields => '\x7b' :: fieldsText true fields

/-- The items of an array, each but the first with a comma before it, and the bracket. -/
def itemsText (first : Bool) : List Json → List Char
  | [] => [']']
  | item :: rest => (if first then [] else [',']) ++ (item.text ++ itemsText false rest)

/-- The fields of an object, each but the first with a comma before it, and the brace. -/
def fieldsText (first : Bool) : List (String × Json) → List Char
  | [] => ['\x7d']
  | (key, item) :: rest =>
    (if first then [] else [',']) ++ (writeString key.toList ++ ':' :: (item.text
      ++ fieldsText false rest))

end

mutual

/-- The fractions in a value. -/
def fractions : Json → List ℚ
  | real value => [value]
  | arr items => itemsFractions items
  | obj fields => fieldsFractions fields
  | _ => []

/-- The fractions in the items of an array. -/
def itemsFractions : List Json → List ℚ
  | [] => []
  | item :: rest => item.fractions ++ itemsFractions rest

/-- The fractions in the fields of an object. -/
def fieldsFractions : List (String × Json) → List ℚ
  | [] => []
  | (_, item) :: rest => item.fractions ++ fieldsFractions rest

end

end Json

/-! ## The value of a text -/

/-- A fraction that is finite. -/
def realNumber : F64 → Option Json
  | .finite value => some (.real value)
  | .notFinite => none

/-- A number: an integer, or with a fraction or an exponent the nearest fraction of 64 bits. -/
def readNumber (token : List Char) : Option Json :=
  let negative := token.head? = some '-'
  let unsigned := if negative then token.tail else token
  let whole := unsigned.takeWhile Char.isDigit
  let rest := unsigned.dropWhile Char.isDigit
  if whole = [] ∨ (whole.head? = some '0' ∧ whole ≠ ['0']) then none
  else if rest = [] then
    let value : ℤ := Nat.ofDigitChars 10 whole 0
    some (.num (if negative then -value else value))
  else if rest.head? = some '.' ∧ rest.tail.takeWhile Char.isDigit = [] then none
  else
    ((readDecimal unsigned).map (fun value =>
      roundToF64 (if negative then -value else value))).bind realNumber

/-- A literal or a number. -/
def jsonToken (token : List Char) : Option Json :=
  if token = ['n', 'u', 'l', 'l'] then some .null
  else if token = ['t', 'r', 'u', 'e'] then some (.bool true)
  else if token = ['f', 'a', 'l', 's', 'e'] then some (.bool false)
  else readNumber token

/-- **The values of JSON texts.** -/
def jsonBuilder : Builder Json where
  token := jsonToken
  str := fun characters => .str (String.ofList characters)
  arr := .arr
  obj := fun fields => .obj (fields.map (fun field => (String.ofList field.1, field.2)))

/-! ## The escaping

The characters that mean something to HTML occur in a JSON text only inside of its strings, and
there a character may be replaced by its code. So the text may be escaped character by character,
without reading it. -/

/-- A character of the island. -/
def escapeIslandChar (ch : Char) : List Char :=
  if ch = '<' then "\\u003c".toList
  else if ch = '>' then "\\u003e".toList
  else if ch = '&' then "\\u0026".toList
  else if ch = '\u2028' then "\\u2028".toList
  else if ch = '\u2029' then "\\u2029".toList
  else [ch]

/-- **`escape_for_json_island`.** -/
def escapeForJsonIsland (json : List Char) : List Char := json.flatMap escapeIslandChar

/-- The characters that are written by their codes. -/
def isEscapedInIsland (ch : Char) : Bool := ['<', '>', '&', '\u2028', '\u2029'].contains ch

theorem escapeForJsonIsland_eq (json : List Char) :
    escapeForJsonIsland json = replace isEscapedInIsland json := by
  unfold escapeForJsonIsland replace
  congr 1
  funext ch
  unfold escapeIslandChar
  split_ifs with h₁ h₂ h₃ h₄ h₅
  · rw [h₁]
    decide
  · rw [h₂]
    decide
  · rw [h₃]
    decide
  · rw [h₄]
    decide
  · rw [h₅]
    decide
  · unfold replaceChar isEscapedInIsland
    rw [if_neg]
    simp [h₁, h₂, h₃, h₄, h₅]

theorem replaceable_isEscapedInIsland : Replaceable isEscapedInIsland where
  plain := by
    intro ch h
    have hall : ∀ ch ∈ ['<', '>', '&', '\u2028', '\u2029'], isSyntax ch = false :=
      List.all_iff_forall_prop.mp (by decide)
    exact hall ch (List.contains_iff_mem.mp h)
  short := by
    intro ch h
    have hall : ∀ ch ∈ ['<', '>', '&', '\u2028', '\u2029'], ch.toNat < 0x10000 :=
      List.all_iff_forall_prop.mp (by decide)
    exact hall ch (List.contains_iff_mem.mp h)

/-- **The island is inert**: none of these characters is in it. -/
theorem isEscapedInIsland_of_mem {json : List Char} {ch : Char}
    (h : ch ∈ escapeForJsonIsland json) : isEscapedInIsland ch = false := by
  obtain ⟨original, -, h⟩ := List.mem_flatMap.mp h
  unfold escapeIslandChar at h
  have hall : ∀ code ∈ ["\\u003c", "\\u003e", "\\u0026", "\\u2028", "\\u2029"],
      code.toList.all (fun ch => isEscapedInIsland ch = false) = true := by decide
  have hcodes := fun code hcode => List.all_iff_forall_prop.mp (hall code hcode)
  split_ifs at h with h₁ h₂ h₃ h₄ h₅
  · exact hcodes _ (by decide) ch h
  · exact hcodes _ (by decide) ch h
  · exact hcodes _ (by decide) ch h
  · exact hcodes _ (by decide) ch h
  · exact hcodes _ (by decide) ch h
  · obtain rfl := List.mem_singleton.mp h
    unfold isEscapedInIsland
    simp [h₁, h₂, h₃, h₄, h₅]

/-- **The island is faithful**: every text stands for the same value when it is escaped. -/
theorem denotes_escapeForJsonIsland {json : List Char} {value : Json}
    (h : Denotes jsonBuilder json value) :
    Denotes jsonBuilder (escapeForJsonIsland json) value := by
  rw [escapeForJsonIsland_eq]
  exact replaceable_isEscapedInIsland.denotes_replace h

/-! ## Reading the text of a value -/

/-- A text after which a token ends. -/
def EndsToken (rest : List Char) : Prop := ∀ ch ∈ rest.head?, isTokenChar ch = false

theorem readToken_append {token rest : List Char} {value : Json}
    (htoken : ∀ ch ∈ token, isTokenChar ch = true) (hvalue : jsonToken token = some value)
    (hends : EndsToken rest) : readToken jsonBuilder (token ++ rest) = some (value, rest) := by
  have htake : rest.takeWhile isTokenChar = [] ∧ rest.dropWhile isTokenChar = rest := by
    cases rest with
    | nil => exact ⟨rfl, rfl⟩
    | cons ch rest =>
      have hend := Bool.eq_false_iff.mp (hends ch rfl)
      exact ⟨List.takeWhile_cons_of_neg hend, List.dropWhile_cons_of_neg hend⟩
  unfold readToken
  rw [List.takeWhile_append_of_pos htoken, List.dropWhile_append_of_pos htoken, htake.1, htake.2,
    List.append_nil]
  show (jsonToken token).map (fun value => (value, rest)) = _
  rw [hvalue]
  rfl

/-- **A token is a value.** -/
theorem readValue_append {token rest : List Char} {value : Json}
    (htoken : ∀ ch ∈ token, isTokenChar ch = true) (hne : token ≠ [])
    (hvalue : jsonToken token = some value) (hends : EndsToken rest) (fuel : ℕ) :
    readValue jsonBuilder (fuel + 1) (token ++ rest) = some (value, rest) := by
  obtain ⟨first, others, rfl⟩ := List.exists_cons_of_ne_nil hne
  have hfirst := htoken first List.mem_cons_self
  have hspace : isSpace first = false := by
    refine Bool.eq_false_iff.mpr (fun hspace => ?_)
    have hall : ∀ ch ∈ [' ', '\t', '\n', '\r'], isTokenChar ch = false :=
      List.all_iff_forall_prop.mp (by decide)
    exact absurd hfirst (Bool.eq_false_iff.mp (hall first (List.contains_iff_mem.mp hspace)))
  have hmark : ∀ mark, isTokenChar mark = false →
      expect mark (first :: (others ++ rest)) = none := by
    intro mark hmark
    refine expect_cons_of_ne hspace ?_ _
    rintro rfl
    exact absurd hfirst (Bool.eq_false_iff.mp hmark)
  rw [List.cons_append, readValue, hmark _ (by decide), hmark _ (by decide), hmark _ (by decide)]
  dsimp only
  rw [List.dropWhile_cons_of_neg (Bool.eq_false_iff.mp hspace)]
  exact readToken_append htoken hvalue hends

theorem readNumber_toDigits (number : ℕ) (negative : Bool) :
    readNumber ((if negative then ['-'] else []) ++ Nat.toDigits 10 number)
      = some (.num (if negative then -number else number)) := by
  have hdigits : ∀ digit ∈ Nat.toDigits 10 number, digit.isDigit = true :=
    fun digit hdigit => Nat.isDigit_of_mem_toDigits (by decide) (by decide) hdigit
  have hsigned : (((if negative then ['-'] else []) ++ Nat.toDigits 10 number).head? = some '-')
      ↔ negative = true := by
    cases negative with
    | true => exact ⟨fun _ => rfl, fun _ => rfl⟩
    | false =>
      refine ⟨fun h => ?_, nofun⟩
      exact absurd (hdigits '-' (List.mem_of_mem_head? h)) (by decide)
  have hunsigned : (if negative = true
      then ((if negative then ['-'] else []) ++ Nat.toDigits 10 number).tail
      else (if negative then ['-'] else []) ++ Nat.toDigits 10 number) = Nat.toDigits 10 number := by
    cases negative with
    | true => rfl
    | false => rfl
  have hwhole : (Nat.toDigits 10 number).takeWhile Char.isDigit = Nat.toDigits 10 number :=
    List.takeWhile_eq_self_iff.mpr hdigits
  have hrest : (Nat.toDigits 10 number).dropWhile Char.isDigit = [] :=
    List.dropWhile_eq_nil_iff.mpr hdigits
  have hplain : ¬ (Nat.toDigits 10 number = [] ∨ ((Nat.toDigits 10 number).head? = some '0'
      ∧ Nat.toDigits 10 number ≠ ['0'])) := by
    rintro (hempty | ⟨hzero, hlong⟩)
    · exact Nat.toDigits_ne_nil hempty
    · rcases Nat.eq_zero_or_pos number with rfl | hpos
      · exact hlong rfl
      · obtain ⟨rest, hrest⟩ := List.head?_eq_some_iff.mp hzero
        exact toDigits_head_ne_zero hpos rest hrest
  unfold readNumber
  simp only [hsigned, hunsigned, hwhole, hrest, if_neg hplain, if_true,
    Nat.ofDigitChars_ten_toDigits]

/-- **An integer is read as it is written.** -/
theorem readNumber_toString (value : ℤ) :
    readNumber (toString value).toList = some (.num value) := by
  cases value with
  | ofNat number =>
    have hread := readNumber_toDigits number false
    show readNumber (Nat.repr number).toList = _
    rw [Nat.toList_repr]
    exact hread
  | negSucc number =>
    have hread := readNumber_toDigits (number + 1) true
    show readNumber ("-" ++ Nat.repr (number + 1)).toList = _
    rw [String.toList_append, Nat.toList_repr]
    exact hread

theorem jsonToken_of_readNumber {token : List Char} {value : Json}
    (h : readNumber token = some value) : jsonToken token = some value := by
  have hliteral : ∀ literal ∈
      [['n', 'u', 'l', 'l'], ['t', 'r', 'u', 'e'], ['f', 'a', 'l', 's', 'e']],
      token ≠ literal := by
    rintro literal hmem rfl
    have hall : ∀ literal ∈ [['n', 'u', 'l', 'l'], ['t', 'r', 'u', 'e'], ['f', 'a', 'l', 's', 'e']],
        (readNumber literal).isSome = false := by decide
    have hnone := hall token hmem
    rw [h] at hnone
    exact nomatch hnone
  unfold jsonToken
  rw [if_neg (hliteral _ (by decide)), if_neg (hliteral _ (by decide)),
    if_neg (hliteral _ (by decide))]
  exact h

theorem isTokenChar_toString (value : ℤ) :
    ∀ ch ∈ (toString value).toList, isTokenChar ch = true := by
  have hdigits : ∀ number : ℕ, ∀ ch ∈ (Nat.repr number).toList, isTokenChar ch = true := by
    intro number ch hch
    rw [Nat.toList_repr] at hch
    have hdigit := Nat.isDigit_of_mem_toDigits (by decide) (by decide) hch
    unfold isTokenChar Char.isAlphanum
    rw [hdigit, Bool.or_true, Bool.true_or]
  cases value with
  | ofNat number => exact hdigits number
  | negSucc number =>
    show ∀ ch ∈ ("-" ++ Nat.repr (number + 1)).toList, isTokenChar ch = true
    rw [String.toList_append]
    intro ch hch
    rcases List.mem_append.mp hch with hminus | hdigit
    · obtain rfl := List.mem_singleton.mp hminus
      decide
    · exact hdigits _ ch hdigit

theorem expect_eq_none_of_readValue {mark : Char} (hmark : mark ∈ [']', '\x7d']) {fuel : ℕ}
    {text : List Char} {result : Json × List Char}
    (h : readValue jsonBuilder fuel text = some result) : expect mark text = none := by
  refine Option.eq_none_iff_forall_ne_some.mpr (fun rest hexpect => ?_)
  have htext : text.dropWhile isSpace = mark :: rest := dropWhile_of_expect hexpect
  have hother : ∀ other ∈ ['"', '[', '\x7b'], expect other text = none := by
    intro other hmem
    unfold expect
    rw [htext]
    refine if_neg (fun heq => ?_)
    have hall : ∀ mark ∈ [']', '\x7d'], mark ∉ ['"', '[', '\x7b'] :=
      List.all_iff_forall_prop.mp (by decide)
    exact hall mark hmark (heq ▸ hmem)
  have htoken : isTokenChar mark = false := by
    have hall : ∀ mark ∈ [']', '\x7d'], isTokenChar mark = false :=
      List.all_iff_forall_prop.mp (by decide)
    exact hall mark hmark
  cases fuel with
  | zero => cases h
  | succ fuel =>
    rw [readValue, hother _ (by decide), hother _ (by decide), hother _ (by decide), htext] at h
    dsimp only at h
    unfold readToken at h
    rw [List.takeWhile_cons_of_neg (Bool.eq_false_iff.mp htoken)] at h
    have hnone : jsonBuilder.token [] = none := by decide
    rw [hnone] at h
    cases h

section Written

variable [FloatFormat]

/-- **A fraction is read as it is written.** -/
def ReadsBack (value : ℚ) : Prop :=
  (∀ ch ∈ FloatFormat.write value, isTokenChar ch = true)
    ∧ readNumber (FloatFormat.write value) = some (.real value)

namespace Json

theorem ends_itemsText (items : List Json) (rest : List Char) :
    EndsToken (itemsText false items ++ rest) := by
  intro ch hch
  cases items with
  | nil =>
    rw [itemsText] at hch
    obtain rfl := Option.some.inj hch
    decide
  | cons item items =>
    rw [itemsText] at hch
    obtain rfl := Option.some.inj hch
    decide

theorem ends_fieldsText (fields : List (String × Json)) (rest : List Char) :
    EndsToken (fieldsText false fields ++ rest) := by
  intro ch hch
  cases fields with
  | nil =>
    rw [fieldsText] at hch
    obtain rfl := Option.some.inj hch
    decide
  | cons field fields =>
    rw [fieldsText] at hch
    obtain rfl := Option.some.inj hch
    decide

theorem readValue_str (characters : String) (rest : List Char) :
    readValue jsonBuilder (characters.toList.length + 2) ((str characters).text ++ rest)
      = some (str characters, rest) := by
  rw [text, writeString_append, readValue, expect_cons (by decide)]
  dsimp only
  rw [readChars_writeString (Nat.lt_succ_self _)]
  show some (str (String.ofList characters.toList), rest) = _
  rw [String.ofList_toList]

theorem itemsText_false_cons (item : Json) (items : List Json) :
    itemsText false (item :: items) = ',' :: itemsText true (item :: items) := by
  rw [itemsText, itemsText]
  rfl

theorem fieldsText_false_cons (field : String × Json) (fields : List (String × Json)) :
    fieldsText false (field :: fields) = ',' :: fieldsText true (field :: fields) := by
  obtain ⟨key, item⟩ := field
  rw [fieldsText, fieldsText]
  rfl

omit [FloatFormat] in
theorem readValue_literal (literal : List Char) {rest : List Char} {value : Json}
    (hmem : literal ∈ [['n', 'u', 'l', 'l'], ['t', 'r', 'u', 'e'], ['f', 'a', 'l', 's', 'e']])
    (hvalue : jsonToken literal = some value) (hends : EndsToken rest) :
    readValue jsonBuilder 1 (literal ++ rest) = some (value, rest) := by
  have hall : ∀ literal ∈ [['n', 'u', 'l', 'l'], ['t', 'r', 'u', 'e'], ['f', 'a', 'l', 's', 'e']],
      literal.all isTokenChar = true ∧ literal ≠ [] := by decide
  obtain ⟨htoken, hne⟩ := hall literal hmem
  exact readValue_append (List.all_eq_true.mp htoken) hne hvalue hends 0

omit [FloatFormat] in
theorem readValue_number {number rest : List Char} {value : Json}
    (htoken : ∀ ch ∈ number, isTokenChar ch = true) (hvalue : readNumber number = some value)
    (hends : EndsToken rest) : readValue jsonBuilder 1 (number ++ rest) = some (value, rest) := by
  refine readValue_append htoken ?_ (jsonToken_of_readNumber hvalue) hends 0
  rintro rfl
  cases hvalue

omit [FloatFormat] in
theorem fieldOfText (field : String × Json) :
    ((fun field : List Char × Json => (String.ofList field.1, field.2))
      ∘ fun field : String × Json => (field.1.toList, field.2)) field = id field := by
  show (String.ofList field.1.toList, field.2) = field
  rw [String.ofList_toList]

mutual

/-- **A value is read as it is written**, if its fractions are. -/
theorem readValue_text : ∀ value : Json, (∀ q ∈ value.fractions, ReadsBack q) →
    ∃ fuel, ∀ rest, EndsToken rest →
      readValue jsonBuilder fuel (value.text ++ rest) = some (value, rest)
  | null, _ => ⟨1, fun _ hends => readValue_literal ['n', 'u', 'l', 'l'] (by decide) rfl hends⟩
  | bool true, _ =>
    ⟨1, fun _ hends => readValue_literal ['t', 'r', 'u', 'e'] (by decide) rfl hends⟩
  | bool false, _ =>
    ⟨1, fun _ hends => readValue_literal ['f', 'a', 'l', 's', 'e'] (by decide) rfl hends⟩
  | num value, _ => ⟨1, fun _ hends =>
      readValue_number (isTokenChar_toString value) (readNumber_toString value) hends⟩
  | real value, hfloats => by
    rw [fractions] at hfloats
    obtain ⟨htoken, hread⟩ := hfloats value (List.mem_singleton_self value)
    exact ⟨1, fun _ hends => readValue_number htoken hread hends⟩
  | str characters, _ => ⟨_, fun rest _ => readValue_str characters rest⟩
  | arr [], _ => ⟨1, fun _ _ => rfl⟩
  | arr (item :: items), hfloats => by
    rw [fractions] at hfloats
    obtain ⟨fuel, hitems⟩ := readItems_text (item :: items) (List.cons_ne_nil _ _) hfloats
    refine ⟨fuel + 1, fun rest _ => ?_⟩
    have hread := hitems rest
    rw [text, List.cons_append]
    refine readValue_arr ?_ hread
    cases fuel with
    | zero => cases hread
    | succ fuel =>
      rw [readItems] at hread
      obtain ⟨value, hvalue, -⟩ := Option.bind_eq_some_iff.mp hread
      exact expect_eq_none_of_readValue (by decide) hvalue
  | obj [], _ => ⟨1, fun _ _ => rfl⟩
  | obj (field :: fields), hfloats => by
    rw [fractions] at hfloats
    obtain ⟨fuel, hfields⟩ := readFields_text (field :: fields) (List.cons_ne_nil _ _) hfloats
    refine ⟨fuel + 1, fun rest _ => ?_⟩
    have hread := hfields rest
    rw [text, List.cons_append]
    have hopen : expect '\x7d' (fieldsText true (field :: fields) ++ rest) = none :=
      expect_cons_of_ne (by decide) (by decide) _
    rw [readValue_obj hopen hread]
    show some (obj (((field :: fields).map (fun field => (field.1.toList, field.2))).map
      (fun field => (String.ofList field.1, field.2))), rest) = _
    rw [List.map_map, List.map_congr_left (fun field _ => fieldOfText field), List.map_id]

theorem readItems_text : ∀ items : List Json, items ≠ [] →
    (∀ q ∈ itemsFractions items, ReadsBack q) → ∃ fuel, ∀ rest,
      readItems jsonBuilder fuel (itemsText true items ++ rest) = some (items, rest)
  | [], hne, _ => absurd rfl hne
  | [item], _, hfloats => by
    rw [itemsFractions] at hfloats
    obtain ⟨fuel, hitem⟩ := readValue_text item (fun q hq => hfloats q (List.mem_append_left _ hq))
    refine ⟨fuel + 1, fun rest => readItems_last ?_⟩
    rw [itemsText, itemsText]
    show readValue jsonBuilder fuel ((item.text ++ [']']) ++ rest) = _
    rw [List.append_assoc]
    exact hitem _ (ends_itemsText [] rest)
  | item :: next :: items, _, hfloats => by
    rw [itemsFractions] at hfloats
    obtain ⟨fuel, hitem⟩ := readValue_text item (fun q hq => hfloats q (List.mem_append_left _ hq))
    obtain ⟨fuel', hitems⟩ := readItems_text (next :: items) (List.cons_ne_nil _ _)
      (fun q hq => hfloats q (List.mem_append_right _ hq))
    refine ⟨max fuel fuel' + 1, fun rest => readItems_cons ?_ (hitems rest)⟩
    rw [itemsText, itemsText_false_cons]
    show readValue jsonBuilder fuel
      ((item.text ++ ',' :: itemsText true (next :: items)) ++ rest) = _
    rw [List.append_assoc]
    refine hitem _ ?_
    rw [← itemsText_false_cons]
    exact ends_itemsText (next :: items) rest

theorem readFields_text : ∀ fields : List (String × Json), fields ≠ [] →
    (∀ q ∈ fieldsFractions fields, ReadsBack q) → ∃ fuel, ∀ rest,
      readFields jsonBuilder fuel (fieldsText true fields ++ rest)
        = some (fields.map (fun field => (field.1.toList, field.2)), rest)
  | [], hne, _ => absurd rfl hne
  | [(key, item)], _, hfloats => by
    rw [fieldsFractions] at hfloats
    obtain ⟨fuel, hitem⟩ := readValue_text item (fun q hq => hfloats q (List.mem_append_left _ hq))
    refine ⟨max fuel (key.toList.length + 1) + 1, fun rest => ?_⟩
    have hmore := readValue_more (le_max_left fuel (key.toList.length + 1))
      (hitem _ (ends_fieldsText [] rest))
    rw [fieldsText, fieldsText]
    show readFields jsonBuilder _
      ((writeString key.toList ++ ':' :: (item.text ++ ['\x7d'])) ++ rest)
      = _
    rw [List.append_assoc, List.cons_append, List.append_assoc]
    exact readFields_last (Nat.lt_of_lt_of_le (Nat.lt_succ_self _) (le_max_right _ _)) hmore
  | (key, item) :: next :: fields, _, hfloats => by
    rw [fieldsFractions] at hfloats
    obtain ⟨fuel, hitem⟩ := readValue_text item (fun q hq => hfloats q (List.mem_append_left _ hq))
    obtain ⟨fuel', hfields⟩ := readFields_text (next :: fields) (List.cons_ne_nil _ _)
      (fun q hq => hfloats q (List.mem_append_right _ hq))
    refine ⟨max (max fuel (key.toList.length + 1)) fuel' + 1, fun rest => ?_⟩
    have hends := ends_fieldsText (next :: fields) rest
    rw [fieldsText_false_cons] at hends
    have hmore := readValue_more (le_max_left fuel (key.toList.length + 1)) (hitem _ hends)
    rw [fieldsText, fieldsText_false_cons]
    show readFields jsonBuilder _ ((writeString key.toList ++ ':' :: (item.text
      ++ ',' :: fieldsText true (next :: fields))) ++ rest) = _
    rw [List.append_assoc, List.cons_append, List.append_assoc]
    exact readFields_cons (Nat.lt_of_lt_of_le (Nat.lt_succ_self _) (le_max_right _ _)) hmore
      (hfields rest)

end

/-! ## The size of the text -/

omit [FloatFormat] in
theorem toNat_lt_of_isTokenChar {ch : Char} (h : isTokenChar ch = true) : ch.toNat < 0x80 := by
  unfold isTokenChar at h
  rcases Bool.or_eq_true_iff.mp h with halphanum | hother
  · unfold Char.isAlphanum Char.isAlpha Char.isUpper Char.isLower Char.isDigit at halphanum
    simp only [Bool.or_eq_true, Bool.and_eq_true, decide_eq_true_eq, ge_iff_le,
      UInt32.le_iff_toNat_le] at halphanum
    show ch.val.toNat < 0x80
    rcases halphanum with (hupper | hlower) | hdigit
    · exact Nat.lt_of_le_of_lt hupper.2 (by decide)
    · exact Nat.lt_of_le_of_lt hlower.2 (by decide)
    · exact Nat.lt_of_le_of_lt hdigit.2 (by decide)
  · have hall : ∀ ch ∈ ['+', '-', '.'], ch.toNat < 0x80 :=
      List.all_iff_forall_prop.mp (by decide)
    exact hall ch (List.contains_iff_mem.mp hother)

omit [FloatFormat] in
theorem sum_utf8Size_of_ascii {characters : List Char}
    (h : ∀ ch ∈ characters, ch.toNat < 0x80) :
    (characters.map Char.utf8Size).sum = characters.length := by
  induction characters with
  | nil => rfl
  | cons ch characters ih =>
    have hone : ch.utf8Size = 1 := by
      unfold Char.utf8Size
      exact if_pos (Nat.le_of_lt_succ (h ch List.mem_cons_self))
    rw [List.map_cons, List.sum_cons, hone,
      ih (fun other hother => h other (List.mem_cons_of_mem _ hother)), List.length_cons,
      Nat.add_comm]

omit [FloatFormat] in
theorem sum_utf8Size_writeChar (ch : Char) :
    ((writeChar ch).map Char.utf8Size).sum = charSize ch := by
  have hshort : ∀ entry ∈ shortWrites, entry.2.utf8Size = 1 ∧ charSize entry.1 = 2 := by decide
  unfold writeChar
  cases hlookup : shortWrites.lookup ch with
  | some letter =>
    obtain ⟨before, after, hsplit, -⟩ := List.lookup_eq_some_iff.mp hlookup
    obtain ⟨hone, htwo⟩ := hshort (ch, letter)
      (by rw [hsplit]; exact List.mem_append_right _ List.mem_cons_self)
    rw [htwo]
    show ('\\' : Char).utf8Size + (letter.utf8Size + 0) = 2
    rw [hone]
    rfl
  | none =>
    have hother : ch.toNat ∉ [0x22, 0x5c, 0x08, 0x09, 0x0a, 0x0c, 0x0d] := by
      intro hmem
      have hall : ∀ code ∈ [0x22, 0x5c, 0x08, 0x09, 0x0a, 0x0c, 0x0d],
          (shortWrites.lookup (Char.ofNat code)).isSome = true := by decide
      have hsome := hall _ hmem
      rw [Char.ofNat_toNat, hlookup] at hsome
      exact nomatch hsome
    unfold charSize
    rw [if_neg hother]
    dsimp only
    split_ifs with hcontrol
    · have hdigit : ∀ digit < 16, (Nat.digitChar digit).utf8Size = 1 := by decide
      show ('\\' : Char).utf8Size + (('u' : Char).utf8Size
        + ((Nat.digitChar (ch.toNat / 4096 % 16)).utf8Size
          + ((Nat.digitChar (ch.toNat / 256 % 16)).utf8Size
            + ((Nat.digitChar (ch.toNat / 16 % 16)).utf8Size
              + ((Nat.digitChar (ch.toNat % 16)).utf8Size + 0))))) = 6
      rw [hdigit _ (Nat.mod_lt _ (by decide)), hdigit _ (Nat.mod_lt _ (by decide)),
        hdigit _ (Nat.mod_lt _ (by decide)), hdigit _ (Nat.mod_lt _ (by decide))]
      rfl
    · rfl

omit [FloatFormat] in
theorem sum_utf8Size_writeString (characters : String) :
    ((writeString characters.toList).map Char.utf8Size).sum = textSize characters := by
  have hchars : ∀ characters : List Char,
      ((characters.flatMap writeChar).map Char.utf8Size).sum = (characters.map charSize).sum := by
    intro characters
    induction characters with
    | nil => rfl
    | cons ch characters ih =>
      rw [List.flatMap_cons, List.map_append, List.sum_append, sum_utf8Size_writeChar, ih]
      rfl
  unfold writeString textSize
  rw [List.map_append, List.map_cons, List.sum_append, List.sum_cons, hchars]
  show 1 + (characters.toList.map charSize).sum + 1 = _
  omega

mutual

/-- **The size of a value is that of its text**, in bytes. -/
theorem sum_utf8Size_text : ∀ value : Json, (value.text.map Char.utf8Size).sum = value.size
  | null => rfl
  | bool true => rfl
  | bool false => rfl
  | num value => by
    rw [text, size, sum_utf8Size_of_ascii
      (fun ch hch => toNat_lt_of_isTokenChar (isTokenChar_toString value ch hch))]
    rfl
  | real value => by
    rw [text, size]
    exact FloatFormat.size_write value
  | str characters => by
    rw [text, size]
    exact sum_utf8Size_writeString characters
  | arr [] => rfl
  | arr (item :: items) => by
    have hitem := sum_utf8Size_text item
    have hitems := sum_utf8Size_itemsText items
    rw [text, size, itemsText, if_pos rfl, List.nil_append, itemsSize, bracketed,
      if_neg (by omega)]
    show 1 + ((item.text ++ itemsText false items).map Char.utf8Size).sum = _
    rw [List.map_append, List.sum_append, hitem, hitems]
    omega
  | obj [] => rfl
  | obj ((key, item) :: fields) => by
    have hitem := sum_utf8Size_text item
    have hfields := sum_utf8Size_fieldsText fields
    rw [text, size, fieldsText, if_pos rfl, List.nil_append, fieldsSize, bracketed,
      if_neg (by omega)]
    show 1 + ((writeString key.toList ++ ':' :: (item.text ++ fieldsText false fields)).map
      Char.utf8Size).sum = _
    rw [List.map_append, List.sum_append, List.map_cons, List.sum_cons, List.map_append,
      List.sum_append, sum_utf8Size_writeString, hitem, hfields]
    show 1 + (textSize key + (1 + (item.size + (fieldsSize fields + 1)))) = _
    omega

theorem sum_utf8Size_itemsText : ∀ items : List Json,
    ((itemsText false items).map Char.utf8Size).sum = itemsSize items + 1
  | [] => rfl
  | item :: items => by
    have hitem := sum_utf8Size_text item
    have hitems := sum_utf8Size_itemsText items
    rw [itemsText, itemsSize]
    show 1 + ((item.text ++ itemsText false items).map Char.utf8Size).sum = _
    rw [List.map_append, List.sum_append, hitem, hitems]
    omega

theorem sum_utf8Size_fieldsText : ∀ fields : List (String × Json),
    ((fieldsText false fields).map Char.utf8Size).sum = fieldsSize fields + 1
  | [] => rfl
  | (key, item) :: fields => by
    have hitem := sum_utf8Size_text item
    have hfields := sum_utf8Size_fieldsText fields
    rw [fieldsText, fieldsSize]
    show 1 + ((writeString key.toList ++ ':' :: (item.text ++ fieldsText false fields)).map
      Char.utf8Size).sum = _
    rw [List.map_append, List.sum_append, List.map_cons, List.sum_cons, List.map_append,
      List.sum_append, sum_utf8Size_writeString, hitem, hfields]
    show 1 + (textSize key + (1 + (item.size + (fieldsSize fields + 1)))) = _
    omega

end

end Json

/-- **The data island is inert and faithful.** The escaped text of a value has none of the
characters that mean something to HTML or end a line of a script, and it stands for the value,
and for no other; and so does every other text of the value when it is escaped. -/
theorem dataIsland_inert_faithful (value : Json) (hfloats : ∀ q ∈ value.fractions, ReadsBack q) :
    (∀ ch ∈ escapeForJsonIsland value.text,
        ch ≠ '<' ∧ ch ≠ '>' ∧ ch ≠ '&' ∧ ch ≠ '\u2028' ∧ ch ≠ '\u2029')
      ∧ (∀ other, Denotes jsonBuilder (escapeForJsonIsland value.text) other ↔ other = value)
      ∧ ∀ json, Denotes jsonBuilder json value →
        Denotes jsonBuilder (escapeForJsonIsland json) value := by
  have hdenotes : Denotes jsonBuilder value.text value := by
    obtain ⟨fuel, hread⟩ := value.readValue_text hfloats
    have hwhole := hread [] nofun
    rw [List.append_nil] at hwhole
    exact ⟨fuel, [], hwhole, rfl⟩
  have hescaped := denotes_escapeForJsonIsland hdenotes
  refine ⟨fun ch hch => ?_, fun other => ⟨fun hother => hother.unique hescaped, ?_⟩,
    fun json => denotes_escapeForJsonIsland⟩
  · have hnot := isEscapedInIsland_of_mem hch
    have hmeant : ∀ {meant}, isEscapedInIsland meant = true → ch ≠ meant := by
      rintro meant hmeant rfl
      rw [hnot] at hmeant
      cases hmeant
    exact ⟨hmeant (by decide), hmeant (by decide), hmeant (by decide), hmeant (by decide),
      hmeant (by decide)⟩
  · rintro rfl
    exact hescaped

end Written

namespace Sample

/-- A library that writes one half. -/
@[reducible] def halfFormat : FloatFormat where
  size := fun _ => 3
  write := fun _ => ['0', '.', '5']
  size_write := fun _ => rfl

theorem readNumber_half : readNumber ['0', '.', '5'] = some (.real (1 / 2)) := by
  have hhalf : (readDecimal ['0', '.', '5']).map roundToF64 = some (.finite (1 / 2)) := by
    decide +kernel
  show ((readDecimal ['0', '.', '5']).map roundToF64).bind realNumber = _
  rw [hhalf]
  rfl

/-- A trace event that closes the script, and has a name that ends in a backslash. -/
def hostileEvent : Json :=
  .obj [("title\\", .str "</script>\\<&"), ("ratio", .arr [.real (1 / 2), .num (-7), .null])]

end Sample

theorem dataIsland_inert_faithful_sample :
    (∀ ch ∈ escapeForJsonIsland (@Json.text Sample.halfFormat Sample.hostileEvent),
        ch ≠ '<' ∧ ch ≠ '>' ∧ ch ≠ '&' ∧ ch ≠ '\u2028' ∧ ch ≠ '\u2029')
      ∧ (∀ other, Denotes jsonBuilder
          (escapeForJsonIsland (@Json.text Sample.halfFormat Sample.hostileEvent)) other
            ↔ other = Sample.hostileEvent)
      ∧ ∀ json, Denotes jsonBuilder json Sample.hostileEvent →
        Denotes jsonBuilder (escapeForJsonIsland json) Sample.hostileEvent :=
  @dataIsland_inert_faithful Sample.halfFormat Sample.hostileEvent
    (by
      intro q hq
      obtain rfl := List.mem_singleton.mp hq
      exact ⟨List.all_iff_forall_prop.mp (by decide), Sample.readNumber_half⟩)

end AgentDesktop
