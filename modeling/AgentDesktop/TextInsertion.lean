import AgentDesktop.PostAction

/-!
# The text an insertion leaves

Selections count UTF-16 code units. A character is one unit, or a pair of a high
and a low surrogate, so a position between units may cut a character in two. The
encoding is read back unit by unit, and a text split between characters is split
into two encodings; hence the insertion is exact wherever both ends of the
selection stand between characters, and is refused everywhere else.
-/

namespace AgentDesktop

/-! ## Characters as code units -/

theorem toNat_char_range (c : Char) :
    c.toNat < 0xd800 ∨ (0xdfff < c.toNat ∧ c.toNat < 0x110000) := c.valid

/-- **A character is one unit or a pair.** -/
theorem utf16Units_cases (c : Char) :
    (utf16Units c = [c.toNat] ∧ isHighSurrogate c.toNat = false ∧ isLowSurrogate c.toNat = false)
      ∨ ∃ high low, utf16Units c = [high, low] ∧ isHighSurrogate high ∧ isLowSurrogate low
        ∧ 0x10000 + (high - 0xd800) * 0x400 + (low - 0xdc00) = c.toNat := by
  have hrange := toNat_char_range c
  unfold utf16Units
  by_cases h : c.toNat < 0x10000
  · rw [if_pos h]
    refine .inl ⟨rfl, ?_, ?_⟩
    · simp only [isHighSurrogate, Bool.and_eq_false_iff, decide_eq_false_iff_not]
      omega
    · simp only [isLowSurrogate, Bool.and_eq_false_iff, decide_eq_false_iff_not]
      omega
  · rw [if_neg h]
    refine .inr ⟨_, _, rfl, ?_, ?_, ?_⟩
    · simp only [isHighSurrogate, Bool.and_eq_true, decide_eq_true_eq]
      omega
    · simp only [isLowSurrogate, Bool.and_eq_true, decide_eq_true_eq]
      omega
    · omega

theorem isHighSurrogate_of_isLowSurrogate {unit : ℕ} (h : isLowSurrogate unit) :
    isHighSurrogate unit = false := by
  simp only [isLowSurrogate, Bool.and_eq_true, decide_eq_true_eq] at h
  simp only [isHighSurrogate, Bool.and_eq_false_iff, decide_eq_false_iff_not]
  omega

/-! ## Reading the units back -/

theorem decodeUtf16Units_utf16Units_append (c : Char) (units : List ℕ) :
    decodeUtf16Units (utf16Units c ++ units) = (decodeUtf16Units units).map (c :: ·) := by
  obtain ⟨hunits, hhigh, hlow⟩ | ⟨high, low, hunits, hhigh, hlow, hcode⟩ := utf16Units_cases c
  · rw [hunits]
    cases units with
    | nil => simp [decodeUtf16Units, hhigh, hlow]
    | cons next rest => simp [decodeUtf16Units, hhigh, hlow]
  · rw [hunits]
    show decodeUtf16Units (high :: low :: units) = _
    rw [decodeUtf16Units, if_pos hhigh, if_pos hlow, hcode, Char.ofNat_toNat]

theorem decodeUtf16Units_flatMap_append (chars : List Char) (units : List ℕ) :
    decodeUtf16Units (chars.flatMap utf16Units ++ units)
      = (decodeUtf16Units units).map (chars ++ ·) := by
  induction chars with
  | nil => simp
  | cons c chars ih =>
    rw [List.flatMap_cons, List.append_assoc, decodeUtf16Units_utf16Units_append, ih,
      Option.map_map]
    rfl

theorem decodeUtf16Units_flatMap (chars : List Char) :
    decodeUtf16Units (chars.flatMap utf16Units) = some chars := by
  have h := decodeUtf16Units_flatMap_append chars []
  simpa [decodeUtf16Units] using h

/-- `String::from_utf16` after `str::encode_utf16`. -/
theorem decodeUtf16_encodeUtf16 (text : String) : decodeUtf16 (encodeUtf16 text) = some text := by
  unfold decodeUtf16 encodeUtf16
  rw [decodeUtf16Units_flatMap]
  exact congrArg some (String.ofList_toList)

theorem encodeUtf16_injective {text text' : String} (h : encodeUtf16 text = encodeUtf16 text') :
    text = text' := by
  have hdecode := decodeUtf16_encodeUtf16 text
  rw [h, decodeUtf16_encodeUtf16] at hdecode
  exact (Option.some.inj hdecode).symm

theorem decodeUtf16Units_flatMap_high (chars : List Char) {high : ℕ} (h : isHighSurrogate high) :
    decodeUtf16Units (chars.flatMap utf16Units ++ [high]) = none := by
  rw [decodeUtf16Units_flatMap_append]
  simp [decodeUtf16Units, h]

theorem decodeUtf16Units_low_cons (units : List ℕ) {low : ℕ} (h : isLowSurrogate low) :
    decodeUtf16Units (low :: units) = none := by
  cases units with
  | nil => simp [decodeUtf16Units, h]
  | cons next rest => simp [decodeUtf16Units, h, isHighSurrogate_of_isLowSurrogate h]

/-! ## Splitting an encoding -/

/-- **A position that cuts a pair**: a high surrogate is before it and a low one after it. -/
def CutsPair (units : List ℕ) (position : ℕ) : Prop :=
  ∃ front high low back, units = front ++ high :: low :: back ∧ position = front.length + 1
    ∧ isHighSurrogate high ∧ isLowSurrogate low

/-- **An encoding is split between characters, or within one.** -/
theorem flatMap_split (chars : List Char) (position : ℕ)
    (h : position ≤ (chars.flatMap utf16Units).length) :
    (∃ front back : List Char, (chars.flatMap utf16Units).take position = front.flatMap utf16Units
        ∧ (chars.flatMap utf16Units).drop position = back.flatMap utf16Units)
      ∨ ∃ (front : List Char) (high low : ℕ) (back : List ℕ),
        (chars.flatMap utf16Units).take position = front.flatMap utf16Units ++ [high]
        ∧ (chars.flatMap utf16Units).drop position = low :: back
        ∧ isHighSurrogate high ∧ isLowSurrogate low := by
  induction chars generalizing position with
  | nil => exact .inl ⟨[], [], by simp, by simp⟩
  | cons c chars ih =>
    rw [List.flatMap_cons] at h ⊢
    by_cases hpast : (utf16Units c).length ≤ position
    · -- the position is past the character, and splits what follows
      obtain ⟨rest, rfl⟩ := Nat.exists_eq_add_of_le hpast
      rw [List.length_append] at h
      rw [List.take_length_add_append, List.drop_length_add_append]
      obtain ⟨front, back, htake, hdrop⟩ | ⟨front, high, low, back, htake, hdrop, hpair⟩ :=
        ih rest (by omega)
      · exact .inl ⟨c :: front, back, by rw [htake, List.flatMap_cons], hdrop⟩
      · exact .inr ⟨c :: front, high, low, back,
          by rw [htake, List.flatMap_cons, List.append_assoc], hdrop, hpair⟩
    · obtain ⟨hunits, -, -⟩ | ⟨high, low, hunits, hhigh, hlow, -⟩ := utf16Units_cases c
      · rw [hunits, List.length_singleton] at hpast
        obtain rfl : position = 0 := by omega
        exact .inl ⟨[], c :: chars, by simp, by simp⟩
      · rw [hunits] at hpast ⊢
        match position, hpast with
        | 0, _ => exact .inl ⟨[], c :: chars, by simp, by simp [hunits]⟩
        | 1, _ => exact .inr ⟨[], high, low, chars.flatMap utf16Units, rfl, rfl, hhigh, hlow⟩
        | _ + 2, hpast => exact absurd (by simp) hpast

theorem encodeUtf16_append (text text' : String) :
    encodeUtf16 (text ++ text') = encodeUtf16 text ++ encodeUtf16 text' := by
  unfold encodeUtf16
  rw [String.toList_append, List.flatMap_append]

theorem CutsPair.decode_drop {units : List ℕ} {position : ℕ} (h : CutsPair units position) :
    decodeUtf16 (units.drop position) = none := by
  obtain ⟨front, high, low, back, rfl, rfl, -, hlow⟩ := h
  rw [List.append_cons, List.drop_left' (by simp)]
  unfold decodeUtf16
  rw [decodeUtf16Units_low_cons back hlow]
  rfl

/-- **A position in a text** stands between characters, and both sides are encodings of texts,
or cuts a pair, and neither side is read. -/
theorem encodeUtf16_split (text : String) (position : ℕ)
    (h : position ≤ (encodeUtf16 text).length) :
    (¬CutsPair (encodeUtf16 text) position ∧ ∃ front back : String,
        (encodeUtf16 text).take position = encodeUtf16 front
          ∧ (encodeUtf16 text).drop position = encodeUtf16 back)
      ∨ (CutsPair (encodeUtf16 text) position
        ∧ decodeUtf16 ((encodeUtf16 text).take position) = none
        ∧ decodeUtf16 ((encodeUtf16 text).drop position) = none) := by
  obtain ⟨front, back, htake, hdrop⟩ | ⟨front, high, low, back, htake, hdrop, hhigh, hlow⟩ :=
    flatMap_split text.toList position h
  · -- the position is between two characters
    have hback : (encodeUtf16 text).drop position = encodeUtf16 (String.ofList back) := by
      unfold encodeUtf16
      rw [hdrop, String.toList_ofList]
    have hfront : (encodeUtf16 text).take position = encodeUtf16 (String.ofList front) := by
      unfold encodeUtf16
      rw [htake, String.toList_ofList]
    refine .inl ⟨fun hcut => ?_, _, _, hfront, hback⟩
    have hnone := hcut.decode_drop
    rw [hback, decodeUtf16_encodeUtf16] at hnone
    nomatch hnone
  · -- the position is inside of a pair
    have hcut : CutsPair (encodeUtf16 text) position := by
      refine ⟨front.flatMap utf16Units, high, low, back, ?_, ?_, hhigh, hlow⟩
      · rw [List.append_cons, ← htake, ← hdrop]
        exact (List.take_append_drop position _).symm
      · have hlength : ((encodeUtf16 text).take position).length = _ := congrArg List.length htake
        rw [List.length_take_of_le h, List.length_append, List.length_singleton] at hlength
        exact hlength
    refine .inr ⟨hcut, ?_, hcut.decode_drop⟩
    unfold encodeUtf16 decodeUtf16
    rw [htake, decodeUtf16Units_flatMap_high front hhigh]
    rfl

/-! ## The insertion -/

/-- **A selection fits a text**: it runs forwards, ends inside, and cuts no pair. -/
def SelectionFits (units : List ℕ) (first last : ℕ) : Prop :=
  first ≤ last ∧ last ≤ units.length ∧ ¬CutsPair units first ∧ ¬CutsPair units last

/-- The units with a range replaced. -/
def replaceRange (units : List ℕ) (first last : ℕ) (inserted : List ℕ) : List ℕ :=
  units.take first ++ inserted ++ units.drop last

theorem expectedInsertion_some (before text : String) (first last : ℕ) :
    expectedInsertion before text (some (first, last))
      = if last < first ∨ (encodeUtf16 before).length < last then none
        else (decodeUtf16 ((encodeUtf16 before).take first)).bind (fun _ =>
          (decodeUtf16 ((encodeUtf16 before).drop last)).bind (fun _ =>
            decodeUtf16 (replaceRange (encodeUtf16 before) first last (encodeUtf16 text)))) := rfl

theorem expectedInsertion_of_fits {before : String} (text : String) {first last : ℕ}
    (h : SelectionFits (encodeUtf16 before) first last) :
    ∃ result, expectedInsertion before text (some (first, last)) = some result
      ∧ encodeUtf16 result
        = replaceRange (encodeUtf16 before) first last (encodeUtf16 text) := by
  obtain ⟨hforward, hinside, hfirst, hlast⟩ := h
  obtain ⟨-, front, _, htake, -⟩ | ⟨hcut, -⟩ :=
    encodeUtf16_split before first (hforward.trans hinside)
  · obtain ⟨-, _, back, -, hdrop⟩ | ⟨hcut, -⟩ := encodeUtf16_split before last hinside
    · have hresult : replaceRange (encodeUtf16 before) first last (encodeUtf16 text)
          = encodeUtf16 (front ++ text ++ back) := by
        unfold replaceRange
        rw [htake, hdrop, encodeUtf16_append, encodeUtf16_append]
      refine ⟨front ++ text ++ back, ?_, hresult.symm⟩
      rw [expectedInsertion_some, if_neg (by omega), hresult, htake, hdrop,
        decodeUtf16_encodeUtf16, decodeUtf16_encodeUtf16, decodeUtf16_encodeUtf16]
      rfl
    · exact absurd hcut hlast
  · exact absurd hcut hfirst

theorem expectedInsertion_of_not_fits {before text : String} {first last : ℕ}
    (h : ¬SelectionFits (encodeUtf16 before) first last) :
    expectedInsertion before text (some (first, last)) = none := by
  rw [expectedInsertion_some]
  by_cases hrange : last < first ∨ (encodeUtf16 before).length < last
  · rw [if_pos hrange]
  · rw [if_neg hrange]
    rw [not_or, Nat.not_lt, Nat.not_lt] at hrange
    obtain ⟨hfirst, -⟩ | ⟨-, htake, -⟩ :=
      encodeUtf16_split before first (hrange.1.trans hrange.2)
    · obtain ⟨hlast, -⟩ | ⟨-, -, hdrop⟩ := encodeUtf16_split before last hrange.2
      · exact absurd ⟨hrange.1, hrange.2, hfirst, hlast⟩ h
      · rw [hdrop]
        exact Option.bind_fun_none _
    · rw [htake]
      rfl

/-! ## Panics -/

/-- A slice whose bounds are not those of the vector: the program stops. -/
inductive SlicePanic
  | outOfRange
  deriving DecidableEq

/-- `vector.get(first..last)`. -/
def getRange (units : List ℕ) (first last : ℕ) : Option (List ℕ) :=
  if first ≤ last ∧ last ≤ units.length then some ((units.take last).drop first) else none

/-- `&vector[..last]`. -/
def sliceTo (units : List ℕ) (last : ℕ) : Except SlicePanic (List ℕ) :=
  if last ≤ units.length then .ok (units.take last) else .error .outOfRange

/-- `&vector[first..]`. -/
def sliceFrom (units : List ℕ) (first : ℕ) : Except SlicePanic (List ℕ) :=
  if first ≤ units.length then .ok (units.drop first) else .error .outOfRange

/-- `vector.splice(first..last, inserted)`. -/
def splice (units : List ℕ) (first last : ℕ) (inserted : List ℕ) : Except SlicePanic (List ℕ) :=
  if first ≤ last ∧ last ≤ units.length then .ok (replaceRange units first last inserted)
  else .error .outOfRange

/-- The slices of `expected_insertion`, at the range it settles on. -/
def insertOrPanic (value inserted : List ℕ) (first last : ℕ) :
    Except SlicePanic (Option String) :=
  match getRange value first last with
  | none => .ok none
  | some _ => do
    match decodeUtf16 (← sliceTo value first) with
    | none => .ok none
    | some _ =>
      match decodeUtf16 (← sliceFrom value last) with
      | none => .ok none
      | some _ => return decodeUtf16 (← splice value first last inserted)

/-- `expected_insertion`, with the panics of its slices. -/
def expectedInsertionOrPanic (before text : String) (selection : Option (ℕ × ℕ)) :
    Except SlicePanic (Option String) :=
  match selection.or (if before.isEmpty then some (0, 0) else none) with
  | none => .ok none
  | some (first, last) => insertOrPanic (encodeUtf16 before) (encodeUtf16 text) first last

/-- **No slice of the insertion is out of range.** -/
theorem expectedInsertionOrPanic_eq (before text : String) (selection : Option (ℕ × ℕ)) :
    expectedInsertionOrPanic before text selection
      = .ok (expectedInsertion before text selection) := by
  unfold expectedInsertionOrPanic expectedInsertion
  cases selection.or (if before.isEmpty then some (0, 0) else none) with
  | none => rfl
  | some range =>
    obtain ⟨first, last⟩ := range
    show insertOrPanic (encodeUtf16 before) (encodeUtf16 text) first last
      = .ok (expectedInsertion before text (some (first, last)))
    rw [expectedInsertion_some]
    unfold insertOrPanic
    by_cases hrange : last < first ∨ (encodeUtf16 before).length < last
    · have hget : getRange (encodeUtf16 before) first last = none := if_neg (by omega)
      rw [if_pos hrange, hget]
    · -- the range is checked before it is sliced
      rw [not_or, Nat.not_lt, Nat.not_lt] at hrange
      have hget : getRange (encodeUtf16 before) first last = some _ := if_pos hrange
      have hto : sliceTo (encodeUtf16 before) first = .ok _ := if_pos (hrange.1.trans hrange.2)
      have hfrom : sliceFrom (encodeUtf16 before) last = .ok _ := if_pos hrange.2
      have hsplice : splice (encodeUtf16 before) first last (encodeUtf16 text) = .ok _ :=
        if_pos hrange
      rw [if_neg (by omega), hget, hto, hfrom, hsplice]
      show (match decodeUtf16 ((encodeUtf16 before).take first) with
        | none => _
        | some _ => _) = _
      cases decodeUtf16 ((encodeUtf16 before).take first) with
      | none => rfl
      | some front =>
        show (match decodeUtf16 ((encodeUtf16 before).drop last) with
          | none => _
          | some _ => _) = _
        cases decodeUtf16 ((encodeUtf16 before).drop last) <;> rfl

/-! ## Exactness -/

/-- **The insertion is exact in UTF-16**: it is the text whose encoding is the encoding of the
text before with the selection replaced by the inserted encoding. There is none exactly when
the selection runs backwards, ends outside or cuts a pair, and no slice is out of range. -/
theorem expectedInsertion_exact (before text : String) :
    (∀ selection, expectedInsertionOrPanic before text selection
        = .ok (expectedInsertion before text selection))
      ∧ ∀ first last,
        (∀ result, expectedInsertion before text (some (first, last)) = some result
          ↔ SelectionFits (encodeUtf16 before) first last
            ∧ encodeUtf16 result
              = replaceRange (encodeUtf16 before) first last (encodeUtf16 text))
        ∧ (expectedInsertion before text (some (first, last)) = none
          ↔ last < first ∨ (encodeUtf16 before).length < last
            ∨ CutsPair (encodeUtf16 before) first ∨ CutsPair (encodeUtf16 before) last) := by
  refine ⟨expectedInsertionOrPanic_eq before text, fun first last => ?_⟩
  by_cases hfits : SelectionFits (encodeUtf16 before) first last
  · obtain ⟨inserted, hinserted, hencoding⟩ := expectedInsertion_of_fits text hfits
    rw [hinserted]
    refine ⟨fun result => ⟨fun h => ?_, fun h => ?_⟩, ⟨nofun, fun h => ?_⟩⟩
    · obtain rfl := Option.some.inj h
      exact ⟨hfits, hencoding⟩
    · rw [encodeUtf16_injective (hencoding.trans h.2.symm)]
    · obtain ⟨hforward, hinside, hfirst, hlast⟩ := hfits
      obtain h | h | h | h := h
      · exact absurd hforward (Nat.not_le.mpr h)
      · exact absurd hinside (Nat.not_le.mpr h)
      · exact absurd h hfirst
      · exact absurd h hlast
  · rw [expectedInsertion_of_not_fits hfits]
    refine ⟨fun result => ⟨nofun, fun h => absurd h.1 hfits⟩, fun _ => ?_, fun _ => rfl⟩
    unfold SelectionFits at hfits
    by_contra hcon
    simp only [not_or, Nat.not_lt] at hcon
    exact hfits hcon

/-- A face is a pair: it is replaced as a whole, and nothing is inserted within it. -/
example : expectedInsertion "a😀b" "X" (some (1, 3)) = some "aXb"
    ∧ expectedInsertion "😀" "X" (some (1, 1)) = none := by
  decide

end AgentDesktop
