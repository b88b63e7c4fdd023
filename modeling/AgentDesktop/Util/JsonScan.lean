import AgentDesktop.Util.JsonText

/-!
# Scanning a JSON text

One look at each character tells whether a place in a JSON text is in a string, and how many
brackets are open there. A reader asks for much more; but in what it accepts every string
ends and every bracket is closed, and nothing follows the last one (`scan_of_denotes`).

So a text can be told to be no JSON text by its scan alone. That is the case where one text
breaks off, be it in a character, and a whole object follows it (`not_denotes_of_utf8_eq`): if
the first breaks off outside of its strings, its brackets stay open. If it breaks off in a
string, then the quotes of the object are taken the other way round to its end, and a string
stays open.
-/

namespace AgentDesktop

namespace JsonText

/-- **How far a scan is.** -/
inductive Scan
  /-- Outside of strings, with so many brackets open besides the first. -/
  | outside (depth : ℕ)
  /-- In a string. -/
  | quoted (depth : ℕ)
  /-- In a string, after a backslash. -/
  | escaped (depth : ℕ)
  /-- The first bracket is closed. -/
  | closed
  /-- What was seen is no part of a JSON text. -/
  | failed

namespace Scan

/-- A bracket is closed. -/
def leave : ℕ → Scan
  | 0 => closed
  | depth + 1 => outside depth

/-- **One character.** -/
def next : Scan → Char → Scan
  | outside depth, character =>
    if character = '"' then quoted depth
    else if character = '\\' then failed
    else if character = '[' ∨ character = '\x7b' then outside (depth + 1)
    else if character = ']' ∨ character = '\x7d' then leave depth
    else outside depth
  | quoted depth, character =>
    if character = '"' then outside depth
    else if character = '\\' then escaped depth
    else quoted depth
  | escaped depth, _ => quoted depth
  | closed, character => if isSpace character then closed else failed
  | failed, _ => failed

/-- **A whole text.** -/
def scan (state : Scan) (text : List Char) : Scan := text.foldl next state

@[simp] theorem scan_nil (state : Scan) : scan state [] = state := rfl

@[simp] theorem scan_cons (state : Scan) (character : Char) (text : List Char) :
    scan state (character :: text) = scan (state.next character) text := rfl

/-! ## Characters that change nothing -/

/-- A character that is neither a quote nor a bracket nor a backslash. -/
def isPlain (character : Char) : Bool :=
  !(['"', '\\', '[', ']', '\x7b', '\x7d'].contains character)

theorem of_contains {characters : List Char} {p : Char → Bool} (hall : characters.all p = true)
    {character : Char} (h : characters.contains character = true) : p character = true :=
  List.all_eq_true.mp hall character (List.contains_iff_mem.mp h)

theorem isPlain_of_isSpace {character : Char} (h : isSpace character = true) :
    isPlain character = true := of_contains (by decide) h

theorem isPlain_of_marks {p : Char → Bool}
    (hmarks : ['"', '\\', '[', ']', '\x7b', '\x7d'].all (fun mark => !p mark) = true)
    {character : Char} (h : p character = true) : isPlain character = true := by
  unfold isPlain
  rw [Bool.not_eq_true']
  refine Bool.eq_false_iff.mpr (fun hmark => ?_)
  have hnot := of_contains hmarks hmark
  rw [h] at hnot
  cases hnot

/-- **A mark is not a character of a literal or a number.** -/
theorem isPlain_of_isTokenChar {character : Char} (h : isTokenChar character = true) :
    isPlain character = true := isPlain_of_marks (by decide) h

theorem isPlain_of_hexValue {character : Char} {value : ℕ}
    (h : hexValue character = some value) : isPlain character = true :=
  isPlain_of_marks (p := fun mark => (hexValue mark).isSome) (by decide) (by rw [h]; rfl)

theorem ne_of_isPlain {character mark : Char} (h : isPlain character = true)
    (hmark : isPlain mark = false) : character ≠ mark := by
  rintro rfl
  rw [hmark] at h
  cases h

@[simp] theorem next_outside_of_isPlain {character : Char} (h : isPlain character = true)
    (depth : ℕ) : (outside depth).next character = outside depth := by
  unfold next
  dsimp only
  rw [if_neg (ne_of_isPlain h (by decide)), if_neg (ne_of_isPlain h (by decide)),
    if_neg (by rintro (heq | heq) <;> exact ne_of_isPlain h (by decide) heq),
    if_neg (by rintro (heq | heq) <;> exact ne_of_isPlain h (by decide) heq)]

@[simp] theorem next_quoted_of_isPlain {character : Char} (h : isPlain character = true)
    (depth : ℕ) : (quoted depth).next character = quoted depth := by
  unfold next
  dsimp only
  rw [if_neg (ne_of_isPlain h (by decide)), if_neg (ne_of_isPlain h (by decide))]

theorem scan_dropWhile {p : Char → Bool} (hp : ∀ character, p character = true → isPlain character)
    (depth : ℕ) (text : List Char) :
    scan (outside depth) (text.dropWhile p) = scan (outside depth) text := by
  induction text with
  | nil => rfl
  | cons character text ih =>
    rw [List.dropWhile_cons]
    split_ifs with h
    · rw [ih, scan_cons, next_outside_of_isPlain (hp _ h)]
    · rfl

theorem scan_closed {text : List Char} (h : text.dropWhile isSpace = []) :
    scan closed text = closed := by
  induction text with
  | nil => rfl
  | cons character text ih =>
    rw [List.dropWhile_cons] at h
    split_ifs at h with hspace
    have hnext : closed.next character = closed := if_pos hspace
    rw [scan_cons, hnext]
    exact ih h

theorem scan_failed (text : List Char) : scan failed text = failed := by
  induction text with
  | nil => rfl
  | cons character text ih => exact ih

/-! ## What a reader passes -/

variable {β : Type} {build : Builder β} {text rest : List Char}

theorem scan_expect {mark : Char} (h : expect mark text = some rest) (depth : ℕ) :
    scan (outside depth) text = scan ((outside depth).next mark) rest := by
  rw [← scan_dropWhile (fun _ => isPlain_of_isSpace), dropWhile_of_expect h, scan_cons]

theorem scan_readUnit {unit : ℕ} (h : readUnit text = some (unit, rest)) (depth : ℕ) :
    scan (quoted depth) text = scan (quoted depth) rest := by
  unfold readUnit at h
  split at h
  · obtain ⟨_, h₁, h⟩ := Option.bind_eq_some_iff.mp h
    obtain ⟨_, h₂, h⟩ := Option.bind_eq_some_iff.mp h
    obtain ⟨_, h₃, h⟩ := Option.bind_eq_some_iff.mp h
    obtain ⟨_, h₄, h⟩ := Option.bind_eq_some_iff.mp h
    obtain ⟨-, rfl⟩ := Prod.mk.inj (Option.some.inj h)
    rw [scan_cons, next_quoted_of_isPlain (isPlain_of_hexValue h₁), scan_cons,
      next_quoted_of_isPlain (isPlain_of_hexValue h₂), scan_cons,
      next_quoted_of_isPlain (isPlain_of_hexValue h₃), scan_cons,
      next_quoted_of_isPlain (isPlain_of_hexValue h₄)]
  · cases h

theorem scan_readEscapedUnit {unit : ℕ} (h : readEscapedUnit text = some (unit, rest))
    (depth : ℕ) : scan (quoted depth) text = scan (quoted depth) rest := by
  unfold readEscapedUnit at h
  split_ifs at h with htake
  calc scan (quoted depth) text
      = scan (quoted depth) (['\\', 'u'] ++ text.drop 2) := by
        rw [← htake, List.take_append_drop]
    _ = scan (quoted depth) (text.drop 2) := rfl
    _ = scan (quoted depth) rest := scan_readUnit h depth

theorem scan_readUnicode {character : Char} (h : readUnicode text = some (character, rest))
    (depth : ℕ) : scan (quoted depth) text = scan (quoted depth) rest := by
  unfold readUnicode at h
  obtain ⟨⟨unit, afterUnit⟩, hunit, h⟩ := Option.bind_eq_some_iff.mp h
  rw [scan_readUnit hunit]
  dsimp only at h
  split_ifs at h with hhigh hlow
  · obtain ⟨⟨low, afterLow⟩, hlow, h⟩ := Option.bind_eq_some_iff.mp h
    rw [scan_readEscapedUnit hlow]
    dsimp only at h
    split_ifs at h
    obtain ⟨-, rfl⟩ := Prod.mk.inj (Option.some.inj h)
    rfl
  · obtain ⟨-, rfl⟩ := Prod.mk.inj (Option.some.inj h)
    rfl

theorem scan_readEscape {character : Char} (h : readEscape text = some (character, rest))
    (depth : ℕ) : scan (escaped depth) text = scan (quoted depth) rest := by
  cases text with
  | nil => cases h
  | cons first text =>
    rw [readEscape] at h
    show scan (quoted depth) text = _
    split_ifs at h with hunicode
    · exact scan_readUnicode h depth
    · obtain ⟨_, -, h⟩ := Option.map_eq_some_iff.mp h
      obtain ⟨-, rfl⟩ := Prod.mk.inj h
      rfl

theorem scan_readChars {fuel : ℕ} {characters : List Char}
    (h : readChars fuel text = some (characters, rest)) (depth : ℕ) :
    scan (quoted depth) text = scan (outside depth) rest := by
  induction fuel generalizing text characters with
  | zero => cases h
  | succ fuel ih =>
    cases text with
    | nil => cases h
    | cons first text =>
      rw [readChars] at h
      split_ifs at h with hquote hslash hcontrol
      · obtain ⟨-, rfl⟩ := Prod.mk.inj (Option.some.inj h)
        rw [hquote]
        rfl
      · obtain ⟨⟨escaped, afterEscape⟩, hescape, h⟩ := Option.bind_eq_some_iff.mp h
        obtain ⟨⟨others, afterOthers⟩, hothers, h⟩ := Option.bind_eq_some_iff.mp h
        obtain ⟨-, rfl⟩ := Prod.mk.inj (Option.some.inj h)
        rw [hslash]
        exact (scan_readEscape hescape depth).trans (ih hothers)
      · obtain ⟨⟨others, afterOthers⟩, hothers, h⟩ := Option.bind_eq_some_iff.mp h
        obtain ⟨-, rfl⟩ := Prod.mk.inj (Option.some.inj h)
        have hnext : (quoted depth).next first = quoted depth := by
          unfold next
          dsimp only
          rw [if_neg hquote, if_neg hslash]
        rw [scan_cons, hnext]
        exact ih hothers

theorem scan_readToken {value : β} (h : readToken build text = some (value, rest)) (depth : ℕ) :
    scan (outside depth) text = scan (outside depth) rest := by
  unfold readToken at h
  obtain ⟨_, -, h⟩ := Option.map_eq_some_iff.mp h
  obtain ⟨-, rfl⟩ := Prod.mk.inj h
  exact (scan_dropWhile (fun _ => isPlain_of_isTokenChar) depth text).symm

theorem scan_expect_plain {mark : Char} (h : expect mark text = some rest)
    (hplain : isPlain mark = true) (depth : ℕ) :
    scan (outside depth) text = scan (outside depth) rest := by
  rw [scan_expect h, next_outside_of_isPlain hplain]

/-- **Items close their bracket**, if each value leads back to where it began. -/
theorem scan_readItems {fuel : ℕ} {items : List β}
    (hvalue : ∀ {text rest : List Char} {value : β},
      readValue build fuel text = some (value, rest) → ∀ depth,
        scan (outside depth) text = scan (outside depth) rest)
    (hitems : ∀ {text rest : List Char} {items : List β},
      readItems build fuel text = some (items, rest) → ∀ depth,
        scan (outside depth) text = scan (leave depth) rest)
    (h : readItems build (fuel + 1) text = some (items, rest)) (depth : ℕ) :
    scan (outside depth) text = scan (leave depth) rest := by
  rw [readItems] at h
  obtain ⟨⟨item, afterItem⟩, hitem, h⟩ := Option.bind_eq_some_iff.mp h
  rw [hvalue hitem]
  dsimp only at h
  cases hclosed : expect ']' afterItem with
  | some closed =>
    rw [hclosed] at h
    obtain ⟨-, rfl⟩ := Prod.mk.inj (Option.some.inj h)
    exact scan_expect hclosed depth
  | none =>
    rw [hclosed] at h
    obtain ⟨afterComma, hcomma, h⟩ := Option.bind_eq_some_iff.mp h
    obtain ⟨⟨others, afterOthers⟩, hothers, h⟩ := Option.bind_eq_some_iff.mp h
    obtain ⟨-, rfl⟩ := Prod.mk.inj (Option.some.inj h)
    rw [scan_expect_plain hcomma (by decide)]
    exact hitems hothers depth

/-- **Fields close their brace** in the same way. -/
theorem scan_readFields {fuel : ℕ} {fields : List (List Char × β)}
    (hvalue : ∀ {text rest : List Char} {value : β},
      readValue build fuel text = some (value, rest) → ∀ depth,
        scan (outside depth) text = scan (outside depth) rest)
    (hfields : ∀ {text rest : List Char} {fields : List (List Char × β)},
      readFields build fuel text = some (fields, rest) → ∀ depth,
        scan (outside depth) text = scan (leave depth) rest)
    (h : readFields build (fuel + 1) text = some (fields, rest)) (depth : ℕ) :
    scan (outside depth) text = scan (leave depth) rest := by
  rw [readFields] at h
  obtain ⟨afterQuote, hquote, h⟩ := Option.bind_eq_some_iff.mp h
  obtain ⟨⟨key, afterKey⟩, hkey, h⟩ := Option.bind_eq_some_iff.mp h
  obtain ⟨afterColon, hcolon, h⟩ := Option.bind_eq_some_iff.mp h
  obtain ⟨⟨item, afterItem⟩, hitem, h⟩ := Option.bind_eq_some_iff.mp h
  have hbefore : scan (outside depth) text = scan (outside depth) afterItem := calc
    scan (outside depth) text = scan (quoted depth) afterQuote := scan_expect hquote depth
    _ = scan (outside depth) afterKey := scan_readChars hkey depth
    _ = scan (outside depth) afterColon := scan_expect_plain hcolon (by decide) depth
    _ = scan (outside depth) afterItem := hvalue hitem depth
  rw [hbefore]
  dsimp only at h
  cases hclosed : expect '\x7d' afterItem with
  | some closed =>
    rw [hclosed] at h
    obtain ⟨-, rfl⟩ := Prod.mk.inj (Option.some.inj h)
    exact scan_expect hclosed depth
  | none =>
    rw [hclosed] at h
    obtain ⟨afterComma, hcomma, h⟩ := Option.bind_eq_some_iff.mp h
    obtain ⟨⟨others, afterOthers⟩, hothers, h⟩ := Option.bind_eq_some_iff.mp h
    obtain ⟨-, rfl⟩ := Prod.mk.inj (Option.some.inj h)
    rw [scan_expect_plain hcomma (by decide)]
    exact hfields hothers depth

/-- **A value leads back to where it began**, and items and fields close their bracket. The
induction is on the fuel. -/
theorem scan_read (build : Builder β) (fuel : ℕ) :
    (∀ {text rest : List Char} {value : β}, readValue build fuel text = some (value, rest) →
        ∀ depth, scan (outside depth) text = scan (outside depth) rest)
      ∧ (∀ {text rest : List Char} {items : List β},
        readItems build fuel text = some (items, rest) →
        ∀ depth, scan (outside depth) text = scan (leave depth) rest)
      ∧ ∀ {text rest : List Char} {fields : List (List Char × β)},
        readFields build fuel text = some (fields, rest) →
        ∀ depth, scan (outside depth) text = scan (leave depth) rest := by
  induction fuel with
  | zero => exact ⟨fun h => (by cases h), fun h => (by cases h), fun h => (by cases h)⟩
  | succ fuel ih =>
    obtain ⟨hvalue, hitems, hfields⟩ := ih
    refine ⟨fun {text rest value} h depth => ?_, scan_readItems hvalue hitems,
      scan_readFields hvalue hfields⟩
    rw [readValue] at h
    cases hquote : expect '"' text with
    | some afterQuote =>
      rw [hquote] at h
      obtain ⟨⟨characters, afterChars⟩, hchars, h⟩ := Option.map_eq_some_iff.mp h
      obtain ⟨-, rfl⟩ := Prod.mk.inj h
      exact (scan_expect hquote depth).trans (scan_readChars hchars depth)
    | none =>
      cases hbracket : expect '[' text with
      | some afterBracket =>
        rw [hquote, hbracket] at h
        rw [scan_expect hbracket]
        show scan (outside (depth + 1)) afterBracket = _
        dsimp only at h
        cases hclosed : expect ']' afterBracket with
        | some afterClosed =>
          rw [hclosed] at h
          obtain ⟨-, rfl⟩ := Prod.mk.inj (Option.some.inj h)
          exact scan_expect hclosed (depth + 1)
        | none =>
          rw [hclosed] at h
          obtain ⟨⟨items, afterItems⟩, hread, h⟩ := Option.map_eq_some_iff.mp h
          obtain ⟨-, rfl⟩ := Prod.mk.inj h
          exact hitems hread (depth + 1)
      | none =>
        cases hbrace : expect '\x7b' text with
        | some afterBrace =>
          rw [hquote, hbracket, hbrace] at h
          rw [scan_expect hbrace]
          show scan (outside (depth + 1)) afterBrace = _
          dsimp only at h
          cases hclosed : expect '\x7d' afterBrace with
          | some afterClosed =>
            rw [hclosed] at h
            obtain ⟨-, rfl⟩ := Prod.mk.inj (Option.some.inj h)
            exact scan_expect hclosed (depth + 1)
          | none =>
            rw [hclosed] at h
            obtain ⟨⟨fields, afterFields⟩, hread, h⟩ := Option.map_eq_some_iff.mp h
            obtain ⟨-, rfl⟩ := Prod.mk.inj h
            exact hfields hread (depth + 1)
        | none =>
          rw [hquote, hbracket, hbrace] at h
          rw [← scan_dropWhile (fun _ => isPlain_of_isSpace) depth text]
          exact scan_readToken h depth

theorem scan_denotes {value : β} (h : Denotes build text value) (depth : ℕ) :
    scan (outside depth) text = outside depth := by
  obtain ⟨fuel, rest, hread, hrest⟩ := h
  rw [(scan_read build fuel).1 hread, ← scan_dropWhile (fun _ => isPlain_of_isSpace), hrest,
    scan_nil]

/-- **The text of an object closes its brace**, and nothing follows. -/
theorem scan_of_denotes {value : β} (h : Denotes build ('\x7b' :: text) value) :
    scan (outside 0) text = closed := by
  obtain ⟨fuel, rest, hread, hrest⟩ := h
  have hother : ∀ mark, '\x7b' ≠ mark → expect mark ('\x7b' :: text) = none :=
    fun mark hne => expect_cons_of_ne (by decide) hne text
  have hbrace : expect '\x7b' ('\x7b' :: text) = some text := expect_cons (by decide) text
  cases fuel with
  | zero => cases hread
  | succ fuel =>
    rw [readValue, hother '"' (by decide), hother '[' (by decide), hbrace] at hread
    dsimp only at hread
    cases hclosed : expect '\x7d' text with
    | some afterClosed =>
      rw [hclosed] at hread
      obtain ⟨-, rfl⟩ := Prod.mk.inj (Option.some.inj hread)
      exact (scan_expect hclosed 0).trans (scan_closed hrest)
    | none =>
      rw [hclosed] at hread
      obtain ⟨⟨fields, afterFields⟩, hfields, h⟩ := Option.map_eq_some_iff.mp hread
      obtain ⟨-, rfl⟩ := Prod.mk.inj h
      exact ((scan_read build fuel).2.2 hfields 0).trans (scan_closed hrest)

/-! ## Quotes the other way round -/

/-- **Two scans are opposed**: one is in a string just when the other is not, or one has failed. -/
def Opposed : Scan → Scan → Prop
  | failed, _ => True
  | _, failed => True
  | outside _, quoted _ => True
  | closed, quoted _ => True
  | quoted _, outside _ => True
  | quoted _, closed => True
  | _, _ => False

theorem opposed_failed (state : Scan) : Opposed state failed := by
  cases state with
  | outside | quoted | escaped | closed | failed => trivial

theorem Opposed.symm {state state' : Scan} (h : Opposed state state') : Opposed state' state := by
  cases state <;> cases state' <;> exact h

theorem opposed_next_outside (depth depth' : ℕ) (character : Char) :
    Opposed ((outside depth).next character) ((quoted depth').next character) := by
  unfold next
  dsimp only
  by_cases hquote : character = '"'
  · rw [if_pos hquote, if_pos hquote]
    trivial
  · rw [if_neg hquote, if_neg hquote]
    by_cases hslash : character = '\\'
    · rw [if_pos hslash]
      trivial
    · rw [if_neg hslash, if_neg hslash]
      split_ifs
      · trivial
      · cases depth <;> trivial
      · trivial

theorem opposed_next_closed (depth : ℕ) (character : Char) :
    Opposed (closed.next character) ((quoted depth).next character) := by
  by_cases hspace : isSpace character = true
  · rw [next_quoted_of_isPlain (isPlain_of_isSpace hspace)]
    show Opposed (if isSpace character then closed else failed) _
    rw [if_pos hspace]
    trivial
  · show Opposed (if isSpace character then closed else failed) _
    rw [if_neg hspace]
    trivial

/-- **Each character keeps two scans opposed**: a quote turns both, and a backslash fails the one
that is in no string. -/
theorem Opposed.next {state state' : Scan} (h : Opposed state state') (character : Char) :
    Opposed (state.next character) (state'.next character) := by
  cases state with
  | failed => trivial
  | outside depth =>
    cases state' with
    | failed => exact opposed_failed _
    | quoted depth' => exact opposed_next_outside depth depth' character
    | outside | escaped | closed => exact h.elim
  | closed =>
    cases state' with
    | failed => exact opposed_failed _
    | quoted depth => exact opposed_next_closed depth character
    | outside | escaped | closed => exact h.elim
  | quoted depth =>
    cases state' with
    | failed => exact opposed_failed _
    | outside depth' => exact (opposed_next_outside depth' depth character).symm
    | closed => exact (opposed_next_closed depth character).symm
    | quoted | escaped => exact h.elim
  | escaped depth =>
    cases state' with
    | failed => exact opposed_failed _
    | outside | quoted | escaped | closed => exact h.elim

theorem Opposed.scan {state state' : Scan} (h : Opposed state state') (text : List Char) :
    Opposed (state.scan text) (state'.scan text) := by
  induction text generalizing state state' with
  | nil => exact h
  | cons character text ih => exact ih (h.next character)

/-- **A whole object closes nothing that was open before**, wherever it follows. -/
theorem scan_object_ne_closed {value : β} (h : Denotes build ('\x7b' :: text) value)
    (state : Scan) :
    scan state ('\x7b' :: text) ≠ closed := by
  have hback := scan_denotes h
  -- taken the other way round, the object leaves its string open
  have hturned : ∀ depth, scan (quoted depth) ('\x7b' :: text) ≠ closed := by
    intro depth hclosed
    have hopposed : Opposed (outside 0) (quoted depth) := trivial
    have hend := hopposed.scan ('\x7b' :: text)
    rw [hback, hclosed] at hend
    exact hend
  cases state with
  | outside depth =>
    rw [hback]
    rintro ⟨⟩
  | quoted depth => exact hturned depth
  | escaped depth => exact hturned depth
  | closed =>
    show scan failed text ≠ closed
    rw [scan_failed]
    rintro ⟨⟩
  | failed =>
    rw [scan_failed]
    rintro ⟨⟩

/-! ## Bytes

A scan of the bytes of a text is a scan of its characters: every character that is not ASCII is
written with bytes that are not, and neither the character nor these bytes mean anything. -/

/-- A character that means nothing. -/
def pass : Scan → Scan
  | outside depth => outside depth
  | quoted depth => quoted depth
  | escaped depth => quoted depth
  | closed => failed
  | failed => failed

theorem pass_pass (state : Scan) : state.pass.pass = state.pass := by
  cases state with
  | outside | quoted | escaped | closed | failed => rfl

/-- **A character that is not ASCII** means nothing. -/
theorem next_of_not_ascii {character : Char} (h : 0x80 ≤ character.toNat) (state : Scan) :
    state.next character = state.pass := by
  have hnot : ∀ characters : List Char, characters.all (fun ch => ch.toNat < 0x80) = true →
      characters.contains character = false := by
    intro characters hall
    refine Bool.eq_false_iff.mpr (fun hcontains => ?_)
    have hlow := of_contains hall hcontains
    exact absurd h (Nat.not_le.mpr (of_decide_eq_true hlow))
  have hplain : isPlain character = true := by
    unfold isPlain
    rw [hnot _ (by decide)]
    rfl
  have hspace : isSpace character = false := hnot _ (by decide)
  cases state with
  | outside depth => exact next_outside_of_isPlain hplain depth
  | quoted depth => exact next_quoted_of_isPlain hplain depth
  | escaped depth => rfl
  | closed =>
    show (if isSpace character then closed else failed) = failed
    rw [hspace]
    rfl
  | failed => rfl

/-- **One byte.** -/
def nextByte (state : Scan) (byte : UInt8) : Scan := state.next (Char.ofNat byte.toNat)

/-- **Many bytes.** -/
def scanBytes (state : Scan) (bytes : List UInt8) : Scan := bytes.foldl nextByte state

theorem scanBytes_append (state : Scan) (bytes rest : List UInt8) :
    scanBytes state (bytes ++ rest) = scanBytes (scanBytes state bytes) rest := List.foldl_append

theorem nextByte_of_high {byte : UInt8} (h : 0x80 ≤ byte.toNat) (state : Scan) :
    state.nextByte byte = state.pass := by
  have hvalid : byte.toNat.isValidChar := Or.inl (Nat.lt_trans byte.toNat_lt (by decide))
  refine next_of_not_ascii ?_ state
  unfold Char.ofNat
  rw [dif_pos hvalid]
  exact h

theorem scanBytes_of_high {bytes : List UInt8} (h : ∀ byte ∈ bytes, 0x80 ≤ byte.toNat)
    (hne : bytes ≠ []) (state : Scan) : scanBytes state bytes = state.pass := by
  induction bytes generalizing state with
  | nil => exact absurd rfl hne
  | cons byte bytes ih =>
    have hfirst : state.nextByte byte = state.pass :=
      nextByte_of_high (h byte List.mem_cons_self) state
    show scanBytes (state.nextByte byte) bytes = _
    rw [hfirst]
    rcases eq_or_ne bytes [] with rfl | hrest
    · rfl
    · rw [ih (fun other hother => h other (List.mem_cons_of_mem _ hother)) hrest, pass_pass]

theorem utf8EncodeChar_of_ascii {character : Char} (h : character.toNat < 0x80) :
    String.utf8EncodeChar character = [UInt8.ofNat character.toNat] := by
  unfold String.utf8EncodeChar
  exact if_pos (Nat.le_of_lt_succ h)

/-- **The bytes of a character that is not ASCII** are not either. -/
theorem high_of_mem_utf8EncodeChar {character : Char} (h : 0x80 ≤ character.toNat) {byte : UInt8}
    (hbyte : byte ∈ String.utf8EncodeChar character) : 0x80 ≤ byte.toNat := by
  unfold String.utf8EncodeChar at hbyte
  dsimp only at hbyte
  have hnot : ¬ character.val.toNat ≤ 0x7f := Nat.not_le.mpr h
  rw [if_neg hnot] at hbyte
  have hhigh : ∀ value width base, width ≤ 0x40 → 0 < width → 0x80 ≤ base → base + width ≤ 0x100 →
      0x80 ≤ (UInt8.ofNat (value % width + base)).toNat := by
    intro value width base _ hpos hbase hfits
    have hmod := Nat.mod_lt value hpos
    rw [UInt8.toNat_ofNat']
    omega
  split_ifs at hbyte <;> simp only [List.mem_cons, List.not_mem_nil, or_false] at hbyte
  · rcases hbyte with rfl | rfl <;> exact hhigh _ _ _ (by decide) (by decide) (by decide) (by decide)
  · rcases hbyte with rfl | rfl | rfl <;>
      exact hhigh _ _ _ (by decide) (by decide) (by decide) (by decide)
  · rcases hbyte with rfl | rfl | rfl | rfl <;>
      exact hhigh _ _ _ (by decide) (by decide) (by decide) (by decide)

/-- **The bytes of a text are scanned as its characters.** -/
theorem scanBytes_utf8 (state : Scan) (text : List Char) :
    scanBytes state (text.flatMap String.utf8EncodeChar) = scan state text := by
  induction text generalizing state with
  | nil => rfl
  | cons character text ih =>
    have hfirst : scanBytes state (String.utf8EncodeChar character) = state.next character := by
      rcases Nat.lt_or_ge character.toNat 0x80 with hascii | hhigh
      · have hbyte : (UInt8.ofNat character.toNat).toNat = character.toNat := by
          rw [UInt8.toNat_ofNat']
          exact Nat.mod_eq_of_lt (Nat.lt_trans hascii (by decide))
        rw [utf8EncodeChar_of_ascii hascii]
        show state.next (Char.ofNat (UInt8.ofNat character.toNat).toNat) = _
        rw [hbyte, Char.ofNat_toNat]
      · rw [scanBytes_of_high (fun _ => high_of_mem_utf8EncodeChar hhigh)
          String.utf8EncodeChar_ne_nil, next_of_not_ascii hhigh]
    rw [List.flatMap_cons, scanBytes_append, hfirst, ih, scan_cons]

end Scan

/-- **No JSON text begins an object, breaks off anywhere and goes on with a whole one to its end**,
whatever its bytes stand for. -/
theorem not_denotes_of_utf8_eq {β : Type} {build : Builder β} {begun : List UInt8}
    {text whole : List Char} {value other : β} (h : Denotes build ('\x7b' :: text) value)
    (hbytes : whole.flatMap String.utf8EncodeChar
      = 0x7b :: begun ++ ('\x7b' :: text).flatMap String.utf8EncodeChar) :
    ¬ Denotes build whole other := by
  intro hdenotes
  cases whole with
  | nil => cases hbytes
  | cons first rest =>
    rw [List.flatMap_cons] at hbytes
    rcases Nat.lt_or_ge first.toNat 0x80 with hascii | hhigh
    · rw [Scan.utf8EncodeChar_of_ascii hascii] at hbytes
      obtain ⟨hfirst, hrest⟩ := List.cons_eq_cons.mp hbytes
      have hcode : first.toNat = 0x7b := by
        have hmod := congrArg UInt8.toNat hfirst
        rw [UInt8.toNat_ofNat'] at hmod
        exact (Nat.mod_eq_of_lt (Nat.lt_trans hascii (by decide))).symm.trans hmod
      obtain rfl : first = '\x7b' := Char.toNat_inj.mp hcode
      have hrest : rest.flatMap String.utf8EncodeChar
          = begun ++ ('\x7b' :: text).flatMap String.utf8EncodeChar := hrest
      have hclosed := Scan.scan_of_denotes hdenotes
      rw [← Scan.scanBytes_utf8, hrest, Scan.scanBytes_append, Scan.scanBytes_utf8] at hclosed
      exact Scan.scan_object_ne_closed h _ hclosed
    · obtain ⟨byte, bytes, hcode⟩ := List.exists_cons_of_ne_nil
        (String.utf8EncodeChar_ne_nil (c := first))
      have hhead := Scan.high_of_mem_utf8EncodeChar hhigh
        (hcode ▸ List.mem_cons_self : byte ∈ String.utf8EncodeChar first)
      rw [hcode] at hbytes
      obtain rfl := (List.cons_eq_cons.mp hbytes).1
      exact absurd hhead (by decide)

end JsonText

end AgentDesktop
