import Mathlib.Algebra.Ring.Nat
import Mathlib.Data.Bool.AllAny
import Mathlib.Data.Option.Basic

/-!
# JSON texts

A JSON text is read from the left: white space is skipped, the next character tells what
comes, and what was read is handed over with the rest of the text. What the values are made
of is a parameter, and so is what a literal or a number stands for.

A character of a string can be written as itself or by its code. So a character that has no
meaning outside of strings and in an escape can be replaced everywhere in a text by its code:
wherever it stands, it stands for itself in a string, and the text reads the same
(`readValue_replace`).
-/

namespace AgentDesktop

namespace JsonText

/-! ## Characters -/

/-- White space. -/
def isSpace (character : Char) : Bool := [' ', '\t', '\n', '\r'].contains character

/-- The characters of literals and numbers. -/
def isTokenChar (character : Char) : Bool :=
  character.isAlphanum || ['+', '-', '.'].contains character

/-- **The characters that have a meaning**, in or outside of strings. -/
def isSyntax (character : Char) : Bool :=
  isSpace character || isTokenChar character
    || ['"', '\\', '/', '[', ']', '\x7b', '\x7d', ',', ':'].contains character

/-- The value of a hexadecimal digit. -/
def hexValue (character : Char) : Option ℕ :=
  if '0' ≤ character ∧ character ≤ '9' then some (character.toNat - 48)
  else if 'a' ≤ character ∧ character ≤ 'f' then some (character.toNat - 87)
  else if 'A' ≤ character ∧ character ≤ 'F' then some (character.toNat - 55)
  else none

/-- A code unit as four hexadecimal digits. -/
def unitText (unit : ℕ) : List Char :=
  [Nat.digitChar (unit / 4096 % 16), Nat.digitChar (unit / 256 % 16),
    Nat.digitChar (unit / 16 % 16), Nat.digitChar (unit % 16)]

/-- Four hexadecimal digits, as a code unit. -/
def readUnit : List Char → Option (ℕ × List Char)
  | first :: second :: third :: fourth :: rest => do
    let first ← hexValue first
    let second ← hexValue second
    let third ← hexValue third
    let fourth ← hexValue fourth
    return (4096 * first + 256 * second + 16 * third + fourth, rest)
  | _ => none

/-- A code unit that is escaped. -/
def readEscapedUnit (text : List Char) : Option (ℕ × List Char) :=
  if text.take 2 = ['\\', 'u'] then readUnit (text.drop 2) else none

/-- The character after a backslash and a `u`: a code unit, or two that are a surrogate pair. -/
def readUnicode (text : List Char) : Option (Char × List Char) := do
  let (unit, rest) ← readUnit text
  if 0xD800 ≤ unit ∧ unit < 0xDC00 then
    let (low, rest) ← readEscapedUnit rest
    if 0xDC00 ≤ low ∧ low < 0xE000 then
      return (Char.ofNat (0x10000 + 0x400 * (unit - 0xD800) + (low - 0xDC00)), rest)
    else none
  else if 0xDC00 ≤ unit ∧ unit < 0xE000 then none
  else return (Char.ofNat unit, rest)

/-- What is escaped by one character. -/
def shortEscapes : List (Char × Char) :=
  [('"', '"'), ('\\', '\\'), ('/', '/'), ('b', Char.ofNat 0x08), ('f', Char.ofNat 0x0c),
    ('n', '\n'), ('r', '\r'), ('t', '\t')]

/-- The character after a backslash. -/
def readEscape : List Char → Option (Char × List Char)
  | [] => none
  | character :: rest =>
    if character = 'u' then readUnicode rest
    else (shortEscapes.lookup character).map (fun escaped => (escaped, rest))

/-- The characters of a string, after its first quote. -/
def readChars : ℕ → List Char → Option (List Char × List Char)
  | 0, _ => none
  | _ + 1, [] => none
  | fuel + 1, character :: rest =>
    if character = '"' then some ([], rest)
    else if character = '\\' then do
      let (escaped, rest) ← readEscape rest
      let (characters, rest) ← readChars fuel rest
      return (escaped :: characters, rest)
    else if character.toNat < 0x20 then none
    else do
      let (characters, rest) ← readChars fuel rest
      return (character :: characters, rest)

/-- What is written with one letter after a backslash. -/
def shortWrites : List (Char × Char) :=
  [('"', '"'), ('\\', '\\'), (Char.ofNat 0x08, 'b'), ('\t', 't'), ('\n', 'n'),
    (Char.ofNat 0x0c, 'f'), ('\r', 'r')]

/-- A character of a string, as it is written. -/
def writeChar (character : Char) : List Char :=
  match shortWrites.lookup character with
  | some letter => ['\\', letter]
  | none =>
    if character.toNat < 0x20 then '\\' :: 'u' :: unitText character.toNat else [character]

/-- **A string, as it is written.** -/
def writeString (characters : List Char) : List Char :=
  '"' :: characters.flatMap writeChar ++ ['"']

/-! ## Values -/

/-- **What the values are made of.** -/
structure Builder (β : Type) where
  /-- A literal or a number, if it is one. -/
  token : List Char → Option β
  str : List Char → β
  /-- An array. -/
  arr : List β → β
  /-- An object. -/
  obj : List (List Char × β) → β

variable {β : Type} (build : Builder β)

/-- What follows a mark, if it comes next. -/
def expect (mark : Char) (text : List Char) : Option (List Char) :=
  match text.dropWhile isSpace with
  | [] => none
  | character :: rest => if character = mark then some rest else none

/-- A literal or a number. -/
def readToken (text : List Char) : Option (β × List Char) :=
  (build.token (text.takeWhile isTokenChar)).map (fun value => (value, text.dropWhile isTokenChar))

mutual

/-- **A value**, and the rest of the text. -/
def readValue : ℕ → List Char → Option (β × List Char)
  | 0, _ => none
  | fuel + 1, text =>
    match expect '"' text, expect '[' text, expect '\x7b' text with
    | some rest, _, _ => (readChars fuel rest).map (Prod.map build.str id)
    | none, some rest, _ =>
      match expect ']' rest with
      | some rest => some (build.arr [], rest)
      | none => (readItems fuel rest).map (Prod.map build.arr id)
    | none, none, some rest =>
      match expect '\x7d' rest with
      | some rest => some (build.obj [], rest)
      | none => (readFields fuel rest).map (Prod.map build.obj id)
    | none, none, none => readToken build (text.dropWhile isSpace)

/-- The items of an array that has some, and the bracket after them. -/
def readItems : ℕ → List Char → Option (List β × List Char)
  | 0, _ => none
  | fuel + 1, text => do
    let (item, rest) ← readValue fuel text
    match expect ']' rest with
    | some rest => return ([item], rest)
    | none =>
      let rest ← expect ',' rest
      let (items, rest) ← readItems fuel rest
      return (item :: items, rest)

/-- The fields of an object that has some, and the brace after them. -/
def readFields : ℕ → List Char → Option (List (List Char × β) × List Char)
  | 0, _ => none
  | fuel + 1, text => do
    let rest ← expect '"' text
    let (key, rest) ← readChars fuel rest
    let rest ← expect ':' rest
    let (value, rest) ← readValue fuel rest
    match expect '\x7d' rest with
    | some rest => return ([(key, value)], rest)
    | none =>
      let rest ← expect ',' rest
      let (fields, rest) ← readFields fuel rest
      return ((key, value) :: fields, rest)

end

/-- **A text stands for a value**: reading it gives the value, and nothing is left. -/
def Denotes (text : List Char) (value : β) : Prop :=
  ∃ fuel rest, readValue build fuel text = some (value, rest) ∧ rest.dropWhile isSpace = []

/-! ## Reading another text -/

/-- **What is read from a text is read from another**, and the rests correspond. -/
def Carries {α : Type} (f : List Char → List Char)
    (read read' : List Char → Option (α × List Char)) :
    Prop :=
  ∀ ⦃text value rest⦄, read text = some (value, rest) → read' (f text) = some (value, f rest)

/-- The marks between values. -/
def marks : List Char := ['"', '[', ']', '\x7b', '\x7d', ',', ':']

section Carries

variable {f : List Char → List Char} {build : Builder β}

theorem Carries.map {α γ : Type} {read read' : List Char → Option (α × List Char)}
    (hread : Carries f read read') (g : α → γ) {text rest : List Char} {value : γ}
    (h : (read text).map (Prod.map g id) = some (value, rest)) :
    (read' (f text)).map (Prod.map g id) = some (value, f rest) := by
  obtain ⟨⟨value', rest'⟩, hvalue, h⟩ := Option.map_eq_some_iff.mp h
  obtain ⟨rfl, rfl⟩ := Prod.mk.inj h
  rw [hread hvalue]
  rfl

variable (hexpect : ∀ mark ∈ marks, ∀ text, expect mark (f text) = (expect mark text).map f)

include hexpect

theorem readItems_carries {fuel fuel' : ℕ}
    (hvalue : Carries f (readValue build fuel) (readValue build fuel'))
    (hitems : Carries f (readItems build fuel) (readItems build fuel')) :
    Carries f (readItems build (fuel + 1)) (readItems build (fuel' + 1)) := by
  intro text items rest h
  rw [readItems] at h ⊢
  obtain ⟨⟨item, afterItem⟩, hitem, h⟩ := Option.bind_eq_some_iff.mp h
  refine Option.bind_eq_some_iff.mpr ⟨_, hvalue hitem, ?_⟩
  dsimp only at h ⊢
  rw [hexpect ']' (by decide)]
  cases hclosed : expect ']' afterItem with
  | some closed =>
    rw [hclosed] at h
    obtain ⟨rfl, rfl⟩ := Prod.mk.inj (Option.some.inj h)
    rfl
  | none =>
    rw [hclosed] at h
    obtain ⟨afterComma, hcomma, h⟩ := Option.bind_eq_some_iff.mp h
    obtain ⟨⟨others, afterOthers⟩, hothers, h⟩ := Option.bind_eq_some_iff.mp h
    obtain ⟨rfl, rfl⟩ := Prod.mk.inj (Option.some.inj h)
    dsimp only [Option.map, bind, Option.bind]
    rw [hexpect ',' (by decide), hcomma]
    dsimp only [Option.map]
    rw [hitems hothers]
    rfl

theorem readFields_carries {fuel fuel' : ℕ}
    (hchars : Carries f (readChars fuel) (readChars fuel'))
    (hvalue : Carries f (readValue build fuel) (readValue build fuel'))
    (hfields : Carries f (readFields build fuel) (readFields build fuel')) :
    Carries f (readFields build (fuel + 1)) (readFields build (fuel' + 1)) := by
  intro text fields rest h
  rw [readFields] at h ⊢
  obtain ⟨afterQuote, hquote, h⟩ := Option.bind_eq_some_iff.mp h
  obtain ⟨⟨key, afterKey⟩, hkey, h⟩ := Option.bind_eq_some_iff.mp h
  obtain ⟨afterColon, hcolon, h⟩ := Option.bind_eq_some_iff.mp h
  obtain ⟨⟨item, afterItem⟩, hitem, h⟩ := Option.bind_eq_some_iff.mp h
  rw [hexpect '"' (by decide), hquote]
  dsimp only [Option.map, bind, Option.bind]
  rw [hchars hkey]
  dsimp only
  rw [hexpect ':' (by decide), hcolon]
  dsimp only [Option.map]
  rw [hvalue hitem]
  dsimp only at h ⊢
  rw [hexpect '\x7d' (by decide)]
  cases hclosed : expect '\x7d' afterItem with
  | some closed =>
    rw [hclosed] at h
    obtain ⟨rfl, rfl⟩ := Prod.mk.inj (Option.some.inj h)
    rfl
  | none =>
    rw [hclosed] at h
    obtain ⟨afterComma, hcomma, h⟩ := Option.bind_eq_some_iff.mp h
    obtain ⟨⟨others, afterOthers⟩, hothers, h⟩ := Option.bind_eq_some_iff.mp h
    obtain ⟨rfl, rfl⟩ := Prod.mk.inj (Option.some.inj h)
    dsimp only [Option.map]
    rw [hexpect ',' (by decide), hcomma]
    dsimp only [Option.map]
    rw [hfields hothers]
    rfl

/-- **Values are carried**, if marks, strings and tokens are; and so are items and fields. -/
theorem readValue_carries (more : ℕ)
    (hchars : ∀ fuel, Carries f (readChars fuel) (readChars (fuel + more)))
    (htoken : Carries f (fun text => readToken build (text.dropWhile isSpace))
      (fun text => readToken build (text.dropWhile isSpace))) (fuel : ℕ) :
    Carries f (readValue build fuel) (readValue build (fuel + more))
      ∧ Carries f (readItems build fuel) (readItems build (fuel + more))
      ∧ Carries f (readFields build fuel) (readFields build (fuel + more)) := by
  induction fuel with
  | zero =>
    refine ⟨?_, ?_, ?_⟩
    · rintro text value rest ⟨⟩
    · rintro text value rest ⟨⟩
    · rintro text value rest ⟨⟩
  | succ fuel ih =>
    obtain ⟨hvalue, hitems, hfields⟩ := ih
    rw [Nat.succ_add]
    refine ⟨?_, readItems_carries hexpect hvalue hitems,
      readFields_carries hexpect (hchars fuel) hvalue hfields⟩
    intro text value rest h
    rw [readValue] at h ⊢
    rw [hexpect '"' (by decide), hexpect '[' (by decide), hexpect '\x7b' (by decide)]
    cases hquote : expect '"' text with
    | some after =>
      rw [hquote] at h
      exact (hchars fuel).map build.str h
    | none =>
      cases hbracket : expect '[' text with
      | some after =>
        rw [hquote, hbracket] at h
        dsimp only [Option.map] at h ⊢
        rw [hexpect ']' (by decide)]
        cases hclosed : expect ']' after with
        | some closed =>
          rw [hclosed] at h
          obtain ⟨rfl, rfl⟩ := Prod.mk.inj (Option.some.inj h)
          rfl
        | none =>
          rw [hclosed] at h
          exact hitems.map build.arr h
      | none =>
        cases hbrace : expect '\x7b' text with
        | some after =>
          rw [hquote, hbracket, hbrace] at h
          dsimp only [Option.map] at h ⊢
          rw [hexpect '\x7d' (by decide)]
          cases hclosed : expect '\x7d' after with
          | some closed =>
            rw [hclosed] at h
            obtain ⟨rfl, rfl⟩ := Prod.mk.inj (Option.some.inj h)
            rfl
          | none =>
            rw [hclosed] at h
            exact hfields.map build.obj h
        | none =>
          rw [hquote, hbracket, hbrace] at h
          exact htoken h

end Carries

/-! ## Characters and their codes -/

theorem isSyntax_of_isSpace (character : Char) (h : isSpace character = true) :
    isSyntax character = true := by
  unfold isSyntax
  rw [h, Bool.true_or, Bool.true_or]

theorem isSyntax_of_isTokenChar (character : Char) (h : isTokenChar character = true) :
    isSyntax character = true := by
  unfold isSyntax
  rw [h, Bool.or_true, Bool.true_or]

theorem isSyntax_of_hexValue {character : Char} {value : ℕ} (h : hexValue character = some value) :
    isSyntax character = true := by
  have halphanum : character.isAlphanum = true := by
    unfold hexValue at h
    unfold Char.isAlphanum Char.isAlpha Char.isUpper Char.isLower Char.isDigit
    simp only [Char.le_def, UInt32.le_iff_toNat_le] at h
    simp only [Bool.or_eq_true, Bool.and_eq_true, decide_eq_true_eq, ge_iff_le,
      UInt32.le_iff_toNat_le]
    split_ifs at h with hdigit hlower hupper
    · exact Or.inr ⟨hdigit.1, hdigit.2⟩
    · exact Or.inl (Or.inr ⟨hlower.1, Nat.le_trans hlower.2 (by decide)⟩)
    · exact Or.inl (Or.inl ⟨hupper.1, Nat.le_trans hupper.2 (by decide)⟩)
  refine isSyntax_of_isTokenChar character ?_
  unfold isTokenChar
  rw [halphanum, Bool.true_or]

theorem hexValue_digitChar : ∀ digit < 16, hexValue (Nat.digitChar digit) = some digit := by
  decide

theorem readUnit_eq_some {text rest : List Char} {unit : ℕ}
    (h : readUnit text = some (unit, rest)) :
    ∃ digits, text = digits ++ rest ∧ (∀ digit ∈ digits, isSyntax digit = true)
      ∧ ∀ rest', readUnit (digits ++ rest') = some (unit, rest') := by
  unfold readUnit at h
  split at h
  · rename_i first second third fourth rest'
    obtain ⟨value₁, h₁, h⟩ := Option.bind_eq_some_iff.mp h
    obtain ⟨value₂, h₂, h⟩ := Option.bind_eq_some_iff.mp h
    obtain ⟨value₃, h₃, h⟩ := Option.bind_eq_some_iff.mp h
    obtain ⟨value₄, h₄, h⟩ := Option.bind_eq_some_iff.mp h
    obtain ⟨rfl, rfl⟩ := Prod.mk.inj (Option.some.inj h)
    refine ⟨[first, second, third, fourth], rfl, ?_, fun rest' => ?_⟩
    · simp only [List.forall_mem_cons]
      exact ⟨isSyntax_of_hexValue h₁, isSyntax_of_hexValue h₂, isSyntax_of_hexValue h₃,
        isSyntax_of_hexValue h₄, nofun⟩
    · show (do
        let first ← hexValue first
        let second ← hexValue second
        let third ← hexValue third
        let fourth ← hexValue fourth
        return (4096 * first + 256 * second + 16 * third + fourth, rest')) = _
      rw [h₁, h₂, h₃, h₄]
      rfl
  · cases h

theorem readUnit_unitText {unit : ℕ} (hunit : unit < 0x10000) (rest : List Char) :
    readUnit (unitText unit ++ rest) = some (unit, rest) := by
  have hdigit : ∀ digit, hexValue (Nat.digitChar (digit % 16)) = some (digit % 16) :=
    fun digit => hexValue_digitChar _ (Nat.mod_lt _ (by decide))
  show (do
    let first ← hexValue (Nat.digitChar (unit / 4096 % 16))
    let second ← hexValue (Nat.digitChar (unit / 256 % 16))
    let third ← hexValue (Nat.digitChar (unit / 16 % 16))
    let fourth ← hexValue (Nat.digitChar (unit % 16))
    return (4096 * first + 256 * second + 16 * third + fourth, rest)) = some (unit, rest)
  rw [hdigit, hdigit, hdigit, hdigit]
  show some (4096 * (unit / 4096 % 16) + 256 * (unit / 256 % 16) + 16 * (unit / 16 % 16)
    + unit % 16, rest) = some (unit, rest)
  congr 2
  omega

theorem readUnicode_unitText {character : Char} (hshort : character.toNat < 0x10000)
    (rest : List Char) :
    readUnicode (unitText character.toNat ++ rest) = some (character, rest) := by
  have hscalar : ¬ (0xD800 ≤ character.toNat ∧ character.toNat < 0xE000) := by
    have hvalid := character.valid
    unfold UInt32.isValidChar Nat.isValidChar at hvalid
    change character.toNat < 0xD800 ∨ 0xDFFF < character.toNat ∧ character.toNat < 0x110000
      at hvalid
    omega
  unfold readUnicode
  rw [readUnit_unitText hshort]
  show (if 0xD800 ≤ character.toNat ∧ character.toNat < 0xDC00 then _
    else if 0xDC00 ≤ character.toNat ∧ character.toNat < 0xE000 then none
    else some (Char.ofNat character.toNat, rest)) = some (character, rest)
  rw [if_neg (fun h => hscalar ⟨h.1, by omega⟩), if_neg (fun h => hscalar ⟨by omega, h.2⟩),
    Char.ofNat_toNat]

/-! ## Replacing characters by their codes -/

/-- **Characters that can be replaced**: they have no meaning, and one code unit. -/
structure Replaceable (marked : Char → Bool) : Prop where
  /-- They have no meaning. -/
  plain : ∀ character, marked character = true → isSyntax character = false
  /-- They have one code unit. -/
  short : ∀ character, marked character = true → character.toNat < 0x10000

/-- What stands for a character: itself, or its code. -/
def replaceChar (marked : Char → Bool) (character : Char) : List Char :=
  if marked character then '\\' :: 'u' :: unitText character.toNat else [character]

/-- **A text in which some characters are replaced by their codes.** -/
def replace (marked : Char → Bool) (text : List Char) : List Char :=
  text.flatMap (replaceChar marked)

section Replace

variable {marked : Char → Bool}

theorem replace_cons_of_marked {character : Char} (h : marked character = true)
    (text : List Char) : replace marked (character :: text)
      = '\\' :: 'u' :: (unitText character.toNat ++ replace marked text) := by
  show replaceChar marked character ++ replace marked text = _
  unfold replaceChar
  rw [if_pos h]
  rfl

theorem replace_cons_of_unmarked {character : Char} (h : marked character = false)
    (text : List Char) :
    replace marked (character :: text) = character :: replace marked text := by
  show replaceChar marked character ++ replace marked text = _
  unfold replaceChar
  rw [if_neg (Bool.eq_false_iff.mp h)]
  rfl

variable (hmarked : Replaceable marked)

include hmarked

theorem Replaceable.unmarked {character : Char} (h : isSyntax character = true) :
    marked character = false := by
  refine Bool.eq_false_iff.mpr (fun hreplaced => ?_)
  rw [hmarked.plain character hreplaced] at h
  exact nomatch h

theorem Replaceable.replace_cons {character : Char} (h : isSyntax character = true)
    (text : List Char) :
    replace marked (character :: text) = character :: replace marked text :=
  replace_cons_of_unmarked (hmarked.unmarked h) text

theorem Replaceable.dropWhile_replace {p : Char → Bool}
    (hp : ∀ character, p character = true → isSyntax character = true) (hslash : p '\\' = false)
    (text : List Char) :
    (replace marked text).dropWhile p = replace marked (text.dropWhile p) := by
  induction text with
  | nil => rfl
  | cons character text ih =>
    cases hdrop : p character with
    | true =>
      rw [hmarked.replace_cons (hp character hdrop), List.dropWhile_cons_of_pos hdrop,
        List.dropWhile_cons_of_pos hdrop, ih]
    | false =>
      rw [List.dropWhile_cons_of_neg (Bool.eq_false_iff.mp hdrop)]
      cases hreplaced : marked character with
      | true =>
        rw [replace_cons_of_marked hreplaced,
          List.dropWhile_cons_of_neg (Bool.eq_false_iff.mp hslash)]
      | false =>
        rw [replace_cons_of_unmarked hreplaced,
          List.dropWhile_cons_of_neg (Bool.eq_false_iff.mp hdrop)]

theorem Replaceable.takeWhile_replace {p : Char → Bool}
    (hp : ∀ character, p character = true → isSyntax character = true) (hslash : p '\\' = false)
    (text : List Char) : (replace marked text).takeWhile p = text.takeWhile p := by
  induction text with
  | nil => rfl
  | cons character text ih =>
    cases hdrop : p character with
    | true =>
      rw [hmarked.replace_cons (hp character hdrop), List.takeWhile_cons_of_pos hdrop,
        List.takeWhile_cons_of_pos hdrop, ih]
    | false =>
      rw [List.takeWhile_cons_of_neg (Bool.eq_false_iff.mp hdrop)]
      cases hreplaced : marked character with
      | true =>
        rw [replace_cons_of_marked hreplaced,
          List.takeWhile_cons_of_neg (Bool.eq_false_iff.mp hslash)]
      | false =>
        rw [replace_cons_of_unmarked hreplaced,
          List.takeWhile_cons_of_neg (Bool.eq_false_iff.mp hdrop)]

theorem Replaceable.replace_append {front : List Char}
    (h : ∀ character ∈ front, isSyntax character = true) (text : List Char) :
    replace marked (front ++ text) = front ++ replace marked text := by
  induction front with
  | nil => rfl
  | cons character front ih =>
    rw [List.cons_append, hmarked.replace_cons (h character List.mem_cons_self),
      ih (fun other hother => h other (List.mem_cons_of_mem _ hother)), List.cons_append]

/-! ## Reading what was replaced -/

omit hmarked in
variable (marked) in
/-- **What is read stays the same.** -/
def Keeps {α : Type} (read : List Char → Option (α × List Char)) : Prop :=
  Carries (replace marked) read read

theorem Replaceable.readUnit_keeps : Keeps marked readUnit := by
  intro text unit rest h
  obtain ⟨digits, rfl, hdigits, hread⟩ := readUnit_eq_some h
  rw [hmarked.replace_append hdigits]
  exact hread _

theorem Replaceable.readEscapedUnit_keeps : Keeps marked readEscapedUnit := by
  intro text unit rest h
  unfold readEscapedUnit at h ⊢
  split_ifs at h with hescaped
  rw [← List.take_append_drop 2 text, hescaped,
    hmarked.replace_append (List.all_iff_forall_prop.mp (by decide))]
  exact (if_pos rfl).trans (hmarked.readUnit_keeps h)

theorem Replaceable.readUnicode_keeps : Keeps marked readUnicode := by
  intro text character rest h
  unfold readUnicode at h ⊢
  obtain ⟨⟨unit, afterUnit⟩, hunit, h⟩ := Option.bind_eq_some_iff.mp h
  refine Option.bind_eq_some_iff.mpr ⟨_, hmarked.readUnit_keeps hunit, ?_⟩
  dsimp only at h ⊢
  split_ifs at h ⊢ with hhigh hlow
  · -- a surrogate pair
    obtain ⟨⟨low, afterLow⟩, hsecond, h⟩ := Option.bind_eq_some_iff.mp h
    refine Option.bind_eq_some_iff.mpr ⟨_, hmarked.readEscapedUnit_keeps hsecond, ?_⟩
    dsimp only at h ⊢
    split_ifs at h ⊢
    obtain ⟨rfl, rfl⟩ := Prod.mk.inj (Option.some.inj h)
    rfl
  · obtain ⟨rfl, rfl⟩ := Prod.mk.inj (Option.some.inj h)
    rfl

theorem Replaceable.readEscape_keeps : Keeps marked readEscape := by
  intro text character rest h
  cases text with
  | nil => cases h
  | cons first text =>
    rw [readEscape] at h
    split_ifs at h with hunicode
    · rw [hunicode, hmarked.replace_cons (by decide), readEscape, if_pos rfl]
      exact hmarked.readUnicode_keeps h
    · obtain ⟨escaped, hlookup, h⟩ := Option.map_eq_some_iff.mp h
      obtain ⟨rfl, rfl⟩ := Prod.mk.inj h
      have hsyntax : isSyntax first = true := by
        have hall : ∀ entry ∈ shortEscapes, isSyntax entry.1 = true := by decide
        obtain ⟨before, after, hsplit, -⟩ := List.lookup_eq_some_iff.mp hlookup
        refine hall (first, escaped) ?_
        rw [hsplit]
        exact List.mem_append_right _ List.mem_cons_self
      rw [hmarked.replace_cons hsyntax, readEscape, if_neg hunicode, hlookup]
      rfl

/-- **A string reads the same.** -/
theorem Replaceable.readChars_keeps (fuel : ℕ) : Keeps marked (readChars fuel) := by
  intro text characters rest h
  induction fuel generalizing text characters with
  | zero => cases h
  | succ fuel ih =>
    cases text with
    | nil => cases h
    | cons first text =>
      unfold readChars at h
      split_ifs at h with hquote hslash hcontrol
      · obtain ⟨rfl, rfl⟩ := Prod.mk.inj (Option.some.inj h)
        rw [hmarked.replace_cons (by rw [hquote]; decide)]
        unfold readChars
        rw [if_pos hquote]
      · obtain ⟨⟨escaped, afterEscape⟩, hescape, h⟩ := Option.bind_eq_some_iff.mp h
        obtain ⟨⟨others, afterOthers⟩, hothers, h⟩ := Option.bind_eq_some_iff.mp h
        obtain ⟨rfl, rfl⟩ := Prod.mk.inj (Option.some.inj h)
        rw [hmarked.replace_cons (by rw [hslash]; decide)]
        unfold readChars
        rw [if_neg hquote, if_pos hslash, hmarked.readEscape_keeps hescape]
        dsimp only [bind, Option.bind]
        rw [ih hothers]
        rfl
      · obtain ⟨⟨others, afterOthers⟩, hothers, h⟩ := Option.bind_eq_some_iff.mp h
        obtain ⟨rfl, rfl⟩ := Prod.mk.inj (Option.some.inj h)
        cases hreplaced : marked first with
        | true =>
          -- the character was written as itself, and is written by its code
          rw [replace_cons_of_marked hreplaced]
          unfold readChars
          rw [if_neg (by decide), if_pos rfl, readEscape, if_pos rfl,
            readUnicode_unitText (hmarked.short first hreplaced)]
          dsimp only [bind, Option.bind]
          rw [ih hothers]
          rfl
        | false =>
          rw [replace_cons_of_unmarked hreplaced]
          unfold readChars
          rw [if_neg hquote, if_neg hslash, if_neg hcontrol, ih hothers]
          rfl

omit hmarked in
theorem isSyntax_of_mem_marks {mark : Char} (h : mark ∈ marks) :
    isSyntax mark = true ∧ mark ≠ '\\' := by
  have hall : ∀ mark ∈ marks, isSyntax mark = true ∧ mark ≠ '\\' :=
    List.all_iff_forall_prop.mp (by decide)
  exact hall mark h

theorem Replaceable.expect_replace {mark : Char} (hmark : isSyntax mark = true)
    (hslash : mark ≠ '\\') (text : List Char) :
    expect mark (replace marked text) = (expect mark text).map (replace marked) := by
  unfold expect
  rw [hmarked.dropWhile_replace isSyntax_of_isSpace (by decide)]
  cases text.dropWhile isSpace with
  | nil => rfl
  | cons character rest =>
    cases hreplaced : marked character with
    | true =>
      have hother : character ≠ mark := by
        rintro rfl
        rw [hmarked.unmarked hmark] at hreplaced
        exact nomatch hreplaced
      rw [replace_cons_of_marked hreplaced]
      dsimp only
      rw [if_neg hslash.symm, if_neg hother]
      rfl
    | false =>
      rw [replace_cons_of_unmarked hreplaced]
      dsimp only
      split_ifs with hnext
      · rfl
      · rfl

variable (build : Builder β)

theorem Replaceable.readToken_keeps : Keeps marked (readToken build) := by
  intro text value rest h
  unfold readToken at h ⊢
  obtain ⟨value', hvalue, h⟩ := Option.map_eq_some_iff.mp h
  obtain ⟨rfl, rfl⟩ := Prod.mk.inj h
  rw [hmarked.takeWhile_replace isSyntax_of_isTokenChar (by decide),
    hmarked.dropWhile_replace isSyntax_of_isTokenChar (by decide),
    hvalue]
  rfl

theorem Replaceable.readToken_space_keeps :
    Keeps marked (fun text => readToken build (text.dropWhile isSpace)) := by
  intro text value rest h
  dsimp only
  rw [hmarked.dropWhile_replace isSyntax_of_isSpace (by decide)]
  exact hmarked.readToken_keeps build h

variable {build}

/-- **A text stands for the same value** when characters are replaced by their codes. -/
theorem Replaceable.denotes_replace {text : List Char} {value : β} (h : Denotes build text value) :
    Denotes build (replace marked text) value := by
  obtain ⟨fuel, rest, hread, hrest⟩ := h
  have hvalue := readValue_carries
    (fun mark hmark => hmarked.expect_replace (isSyntax_of_mem_marks hmark).1
      (isSyntax_of_mem_marks hmark).2) 0 hmarked.readChars_keeps
    (hmarked.readToken_space_keeps build) fuel
  refine ⟨fuel, _, hvalue.1 hread, ?_⟩
  rw [hmarked.dropWhile_replace isSyntax_of_isSpace (by decide), hrest]
  rfl

end Replace

/-! ## What a text stands for -/

theorem readChars_carries (fuel : ℕ) : Carries id (readChars fuel) (readChars (fuel + 1)) := by
  induction fuel with
  | zero => exact nofun
  | succ fuel ih =>
    intro text value rest h
    cases text with
    | nil => cases h
    | cons first text =>
      dsimp only [id]
      rw [readChars] at h ⊢
      split_ifs at h ⊢ with hquote hslash hcontrol
      · exact h
      · obtain ⟨escaped, hescaped, h⟩ := Option.bind_eq_some_iff.mp h
        obtain ⟨others, hothers, h⟩ := Option.bind_eq_some_iff.mp h
        exact Option.bind_eq_some_iff.mpr ⟨escaped, hescaped,
          Option.bind_eq_some_iff.mpr ⟨others, ih hothers, h⟩⟩
      · obtain ⟨others, hothers, h⟩ := Option.bind_eq_some_iff.mp h
        exact Option.bind_eq_some_iff.mpr ⟨others, ih hothers, h⟩

variable {build : Builder β}

/-- **What was read is read with more fuel.** -/
theorem Carries.more {α : Type} {read : ℕ → List Char → Option (α × List Char)}
    (hstep : ∀ fuel, Carries id (read fuel) (read (fuel + 1))) {fuel more : ℕ}
    (hle : fuel ≤ more) : Carries id (read fuel) (read more) := by
  induction hle with
  | refl => exact fun _ _ _ h => h
  | step _ ih => exact fun _ _ _ h => hstep _ (ih h)

theorem readValue_carries_one (fuel : ℕ) :
    Carries id (readValue build fuel) (readValue build (fuel + 1))
      ∧ Carries id (readItems build fuel) (readItems build (fuel + 1))
      ∧ Carries id (readFields build fuel) (readFields build (fuel + 1)) :=
  readValue_carries (fun _ _ _ => Option.map_id_apply.symm) 1 readChars_carries
    (fun _ _ _ h => h) fuel

theorem readValue_more {fuel more : ℕ} (hle : fuel ≤ more) :
    Carries id (readValue build fuel) (readValue build more) :=
  Carries.more (fun fuel => (readValue_carries_one fuel).1) hle

theorem readItems_more {fuel more : ℕ} (hle : fuel ≤ more) :
    Carries id (readItems build fuel) (readItems build more) :=
  Carries.more (fun fuel => (readValue_carries_one fuel).2.1) hle

theorem readFields_more {fuel more : ℕ} (hle : fuel ≤ more) :
    Carries id (readFields build fuel) (readFields build more) :=
  Carries.more (fun fuel => (readValue_carries_one fuel).2.2) hle

/-- **A text stands for at most one value.** -/
theorem Denotes.unique {text : List Char} {value value' : β} (h : Denotes build text value)
    (h' : Denotes build text value') : value = value' := by
  obtain ⟨fuel, rest, hread, -⟩ := h
  obtain ⟨fuel', rest', hread', -⟩ := h'
  have hsame := (readValue_more (le_max_left fuel fuel') hread).symm.trans
    (readValue_more (le_max_right fuel fuel') hread')
  exact congrArg Prod.fst (Option.some.inj hsame)

/-! ## Reading what was written -/

theorem expect_cons {mark : Char} (hspace : isSpace mark = false) (rest : List Char) :
    expect mark (mark :: rest) = some rest := by
  unfold expect
  rw [List.dropWhile_cons_of_neg (Bool.eq_false_iff.mp hspace)]
  exact if_pos rfl

theorem expect_cons_of_ne {mark character : Char} (hspace : isSpace character = false)
    (hne : character ≠ mark) (rest : List Char) : expect mark (character :: rest) = none := by
  unfold expect
  rw [List.dropWhile_cons_of_neg (Bool.eq_false_iff.mp hspace)]
  exact if_neg hne

theorem dropWhile_of_expect {mark : Char} {text rest : List Char}
    (h : expect mark text = some rest) : text.dropWhile isSpace = mark :: rest := by
  unfold expect at h
  cases hdrop : text.dropWhile isSpace with
  | nil =>
    rw [hdrop] at h
    cases h
  | cons character rest' =>
    rw [hdrop] at h
    have h : (if character = mark then some rest' else none) = some rest := h
    split_ifs at h with hmark
    rw [hmark, Option.some.inj h]

theorem writeString_append (characters rest : List Char) :
    writeString characters ++ rest = '"' :: (characters.flatMap writeChar ++ '"' :: rest) := by
  unfold writeString
  rw [List.append_assoc, List.cons_append, List.singleton_append]

theorem readChars_writeChar (fuel : ℕ) (character : Char) (rest : List Char) :
    readChars (fuel + 1) (writeChar character ++ rest)
      = (readChars fuel rest).map (Prod.map (character :: ·) id) := by
  have hshort : ∀ entry ∈ shortWrites, entry.2 ≠ 'u'
      ∧ shortEscapes.lookup entry.2 = some entry.1 := by decide
  unfold writeChar
  cases hlookup : shortWrites.lookup character with
  | some letter =>
    have hmem : (character, letter) ∈ shortWrites := by
      obtain ⟨before, after, hsplit, -⟩ := List.lookup_eq_some_iff.mp hlookup
      rw [hsplit]
      exact List.mem_append_right _ List.mem_cons_self
    obtain ⟨hletter, hescape⟩ := hshort _ hmem
    dsimp only [List.cons_append, List.nil_append]
    rw [readChars, if_neg (by decide), if_pos rfl, readEscape, if_neg hletter, hescape]
    dsimp only [Option.map, bind, Option.bind]
    cases readChars fuel rest with
    | none => rfl
    | some others => rfl
  | none =>
    dsimp only
    split_ifs with hcontrol
    · rw [List.cons_append, List.cons_append, readChars, if_neg (by decide), if_pos rfl, readEscape,
        if_pos rfl, readUnicode_unitText (Nat.lt_trans hcontrol (by decide))]
      dsimp only [Option.map, bind, Option.bind]
      cases readChars fuel rest with
      | none => rfl
      | some others => rfl
    · have hother : character ≠ '"' ∧ character ≠ '\\' := by
        constructor
        · rintro rfl
          exact absurd hlookup (by decide)
        · rintro rfl
          exact absurd hlookup (by decide)
      rw [List.singleton_append, readChars, if_neg hother.1, if_neg hother.2, if_neg hcontrol]
      cases readChars fuel rest with
      | none => rfl
      | some others => rfl

theorem readChars_writeString {fuel : ℕ} {characters : List Char}
    (hfuel : characters.length < fuel) (rest : List Char) :
    readChars fuel (characters.flatMap writeChar ++ '"' :: rest) = some (characters, rest) := by
  induction characters generalizing fuel with
  | nil =>
    obtain ⟨fuel, rfl⟩ := Nat.exists_eq_add_of_lt hfuel
    rw [List.flatMap_nil, List.nil_append, readChars, if_pos rfl]
  | cons character characters ih =>
    obtain ⟨fuel, rfl⟩ := Nat.exists_eq_succ_of_ne_zero (Nat.ne_zero_of_lt hfuel)
    rw [List.flatMap_cons, List.append_assoc, readChars_writeChar,
      ih (Nat.succ_lt_succ_iff.mp hfuel)]
    rfl

section Read

variable {build : Builder β} {fuel fuel' : ℕ} {text rest rest' : List Char} {item : β}

theorem readValue_arr {items : List β} (hopen : expect ']' text = none)
    (hitems : readItems build fuel text = some (items, rest)) :
    readValue build (fuel + 1) ('[' :: text) = some (build.arr items, rest) := by
  rw [readValue, expect_cons_of_ne (by decide) (by decide), expect_cons (by decide)]
  dsimp only
  rw [hopen, hitems]
  rfl

theorem readValue_obj {fields : List (List Char × β)} (hopen : expect '\x7d' text = none)
    (hfields : readFields build fuel text = some (fields, rest)) :
    readValue build (fuel + 1) ('\x7b' :: text) = some (build.obj fields, rest) := by
  rw [readValue, expect_cons_of_ne (by decide) (by decide), expect_cons_of_ne (by decide)
    (by decide), expect_cons (by decide)]
  dsimp only
  rw [hopen, hfields]
  rfl

theorem readItems_last (hitem : readValue build fuel text = some (item, ']' :: rest)) :
    readItems build (fuel + 1) text = some ([item], rest) := by
  rw [readItems, hitem]
  dsimp only [bind, Option.bind]
  rw [expect_cons (by decide)]
  rfl

theorem readItems_cons {items : List β}
    (hitem : readValue build fuel text = some (item, ',' :: rest))
    (hitems : readItems build fuel' rest = some (items, rest')) :
    readItems build (max fuel fuel' + 1) text = some (item :: items, rest') := by
  have hitem' := readValue_more (le_max_left fuel fuel') hitem
  have hitems' := readItems_more (le_max_right fuel fuel') hitems
  dsimp only [id] at hitem' hitems'
  rw [readItems, hitem']
  dsimp only [bind, Option.bind]
  rw [expect_cons_of_ne (by decide) (by decide)]
  dsimp only
  rw [expect_cons (by decide)]
  dsimp only
  rw [hitems']
  rfl

theorem readFields_last {key : List Char} (hkey : key.length < fuel)
    (hitem : readValue build fuel text = some (item, '\x7d' :: rest)) :
    readFields build (fuel + 1) (writeString key ++ ':' :: text) = some ([(key, item)], rest) := by
  rw [writeString_append, readFields, expect_cons (by decide)]
  dsimp only [bind, Option.bind]
  rw [readChars_writeString hkey]
  dsimp only
  rw [expect_cons (by decide)]
  dsimp only
  rw [hitem]
  dsimp only
  rw [expect_cons (by decide)]
  rfl

theorem readFields_cons {key : List Char} {fields : List (List Char × β)}
    (hkey : key.length < fuel) (hitem : readValue build fuel text = some (item, ',' :: rest))
    (hfields : readFields build fuel' rest = some (fields, rest')) :
    readFields build (max fuel fuel' + 1) (writeString key ++ ':' :: text)
      = some ((key, item) :: fields, rest') := by
  have hitem' := readValue_more (le_max_left fuel fuel') hitem
  have hfields' := readFields_more (le_max_right fuel fuel') hfields
  dsimp only [id] at hitem' hfields'
  rw [writeString_append, readFields, expect_cons (by decide)]
  dsimp only [bind, Option.bind]
  rw [readChars_writeString (Nat.lt_of_lt_of_le hkey (le_max_left fuel fuel'))]
  dsimp only
  rw [expect_cons (by decide)]
  dsimp only
  rw [hitem']
  dsimp only
  rw [expect_cons_of_ne (by decide) (by decide)]
  dsimp only
  rw [expect_cons (by decide)]
  dsimp only
  rw [hfields']
  rfl

end Read

end JsonText

end AgentDesktop
