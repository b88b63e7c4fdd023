import Mathlib.Data.List.DropRight
import Mathlib.Data.List.Infix

/-!
# Searchable text

Names, values and descriptions are compared after a normalization that drops
bidirectional controls, folds runs of white space and lowers the case. The
characters of the ASCII range are lowered here; the table for the others is
the Unicode one and enters as the class `UnicodeLowercase`, so that every
result holds whatever that table says.
-/

namespace AgentDesktop

/-- The lower-case form of the characters beyond the ASCII range. -/
class UnicodeLowercase where
  /-- The characters a character lowers to. -/
  toLowercase : Char → List Char

/-- The characters with the Unicode property `White_Space`. -/
def isWhitespace (character : Char) : Bool :=
  let code := character.toNat
  (0x09 ≤ code && code ≤ 0x0d) || code == 0x20 || code == 0x85 || code == 0xa0
    || code == 0x1680 || (0x2000 ≤ code && code ≤ 0x200a) || code == 0x2028
    || code == 0x2029 || code == 0x202f || code == 0x205f || code == 0x3000

/-- The characters that only steer the direction of the text. -/
def isBidirectionalControl (character : Char) : Bool :=
  let code := character.toNat
  code == 0x061c || code == 0x200e || code == 0x200f
    || (0x202a ≤ code && code ≤ 0x202e) || (0x2066 ≤ code && code ≤ 0x2069)

/-- Whether a character lies in the ASCII range. -/
def isAscii (character : Char) : Bool := character.toNat < 0x80

/-- `char::is_ascii_digit`. -/
def isAsciiDigit (character : Char) : Bool :=
  48 ≤ character.toNat && character.toNat ≤ 57

/-- `char::to_ascii_lowercase`: the letters `A` to `Z` are lowered, every other
character is kept. -/
def toAsciiLowercase (character : Char) : Char :=
  if 65 ≤ character.toNat ∧ character.toNat ≤ 90 then Char.ofNat (character.toNat + 32)
  else character

/-- `str::to_ascii_lowercase`. -/
def asciiLowercase (value : String) : String :=
  String.ofList (value.toList.map toAsciiLowercase)

/-- `str::trim`: the white space at both ends goes. -/
def trim (value : String) : String :=
  String.ofList ((value.toList.dropWhile isWhitespace).rdropWhile isWhitespace)

/-- Whether nothing but white space is in the text. -/
def isBlank (value : String) : Bool := value.toList.all isWhitespace

/-- `rsplit_once`: before and after the last time the separator occurs. -/
def rsplitOnce (separator : List Char) : List Char → Option (List Char × List Char)
  | [] => none
  | character :: rest =>
    match rsplitOnce separator rest with
    | some (before, after) => some (character :: before, after)
    | none =>
      if separator.isPrefixOf (character :: rest) then
        some ([], (character :: rest).drop separator.length)
      else none

/-! ## Splitting at a separator -/

theorem eq_append_of_rsplitOnce {separator l before after : List Char}
    (hsplit : rsplitOnce separator l = some (before, after)) :
    l = before ++ separator ++ after := by
  induction l generalizing before with
  | nil => nomatch hsplit
  | cons character rest ih =>
    unfold rsplitOnce at hsplit
    cases hrest : rsplitOnce separator rest with
    | some parts =>
      simp only [hrest, Option.some.injEq, Prod.mk.injEq] at hsplit
      obtain ⟨rfl, rfl⟩ := hsplit
      rw [ih hrest, List.cons_append, List.cons_append]
    | none =>
      simp only [hrest] at hsplit
      split at hsplit
      · next hhere =>
        obtain ⟨back, hback⟩ := List.isPrefixOf_iff_prefix.mp hhere
        simp only [Option.some.injEq, Prod.mk.injEq] at hsplit
        obtain ⟨rfl, rfl⟩ := hsplit
        rw [← hback, List.drop_left, List.nil_append]
      · nomatch hsplit

theorem rsplitOnce_eq_none {first : Char} {others l : List Char} (hl : first ∉ l) :
    rsplitOnce (first :: others) l = none := by
  induction l with
  | nil => rfl
  | cons character rest ih =>
    rw [List.mem_cons, not_or] at hl
    unfold rsplitOnce
    rw [ih hl.2]
    have hfront : (first :: others).isPrefixOf (character :: rest) = false := by
      rw [List.isPrefixOf_cons_cons, beq_eq_false_iff_ne.mpr hl.1, Bool.false_and]
    simp only [hfront, Bool.false_eq_true, if_false]

theorem rsplitOnce_append (before : List Char) {first : Char} {others after : List Char}
    (hafter : first ∉ others ++ after) :
    rsplitOnce (first :: others) (before ++ first :: (others ++ after)) = some (before, after) := by
  induction before with
  | nil =>
    rw [List.nil_append]
    unfold rsplitOnce
    rw [rsplitOnce_eq_none hafter]
    have hfront : (first :: others).isPrefixOf (first :: (others ++ after)) = true :=
      List.isPrefixOf_iff_prefix.mpr ⟨after, rfl⟩
    simp only [hfront, if_true, List.length_cons, List.drop_succ_cons, List.drop_left]
  | cons character rest ih =>
    rw [List.cons_append]
    unfold rsplitOnce
    rw [ih]

/-! ## Trimming and lowering settle in one pass -/

theorem toNat_toAsciiLowercase (character : Char) :
    (toAsciiLowercase character).toNat
      = if 65 ≤ character.toNat ∧ character.toNat ≤ 90 then character.toNat + 32
        else character.toNat := by
  unfold toAsciiLowercase
  split_ifs with h
  · have hvalid : (character.toNat + 32).isValidChar := Or.inl (by omega)
    rw [Char.ofNat, dif_pos hvalid]
    rfl
  · rfl

@[simp] theorem toAsciiLowercase_idem (character : Char) :
    toAsciiLowercase (toAsciiLowercase character) = toAsciiLowercase character := by
  have h := toNat_toAsciiLowercase character
  rw [toAsciiLowercase, if_neg]
  rintro ⟨hlow, hhigh⟩
  split_ifs at h <;> omega

theorem isWhitespace_toAsciiLowercase (character : Char) :
    isWhitespace (toAsciiLowercase character) = isWhitespace character := by
  have h := toNat_toAsciiLowercase character
  unfold isWhitespace
  rw [h, Bool.eq_iff_iff]
  simp only [Bool.or_eq_true, Bool.and_eq_true, decide_eq_true_eq, beq_iff_eq]
  split_ifs <;> omega

theorem trim_idem_list (l : List Char) :
    (((l.dropWhile isWhitespace).rdropWhile isWhitespace).dropWhile isWhitespace).rdropWhile
        isWhitespace
      = (l.dropWhile isWhitespace).rdropWhile isWhitespace := by
  have hfront : ((l.dropWhile isWhitespace).rdropWhile isWhitespace).dropWhile isWhitespace
      = (l.dropWhile isWhitespace).rdropWhile isWhitespace := by
    rw [List.dropWhile_eq_self_iff]
    intro hl
    -- the first character left is the first one left by the trim of the front
    have hpre := List.rdropWhile_prefix (p := isWhitespace) (l := l.dropWhile isWhitespace)
    have hlen := hpre.length_le
    have hself := List.dropWhile_eq_self_iff.mp
      (List.dropWhile_idempotent isWhitespace (l := l)) (by omega)
    rwa [← hpre.getElem hl] at hself
  rw [hfront, List.rdropWhile_idempotent]

/-- **A trimmed and lowered text is its own trimmed and lowered form.** -/
theorem asciiLowercase_trim_idem (value : String) :
    asciiLowercase (trim (asciiLowercase (trim value))) = asciiLowercase (trim value) := by
  have hws : isWhitespace ∘ toAsciiLowercase = isWhitespace :=
    funext isWhitespace_toAsciiLowercase
  have hidem : toAsciiLowercase ∘ toAsciiLowercase = toAsciiLowercase :=
    funext toAsciiLowercase_idem
  unfold asciiLowercase trim
  simp only [String.toList_ofList, List.rdropWhile, List.dropWhile_map, ← List.map_reverse,
    hws, List.map_map, hidem]
  have h := trim_idem_list value.toList
  simp only [List.rdropWhile] at h
  rw [h]

theorem isEmpty_trim (value : String) : (trim value).isEmpty = isBlank value := by
  rw [Bool.eq_iff_iff, String.isEmpty_iff, trim, isBlank, String.ofList_eq_empty_iff,
    List.rdropWhile_eq_nil_iff, List.all_eq_true]
  constructor
  · intro h
    have hfront : value.toList.dropWhile isWhitespace = [] := by
      by_contra hne
      have hhead := List.head_dropWhile_not isWhitespace hne
      rw [h _ (List.head_mem hne)] at hhead
      cases hhead
    exact List.dropWhile_eq_nil_iff.mp hfront
  · intro h
    rw [List.dropWhile_eq_nil_iff.mpr h]
    simp

namespace SearchText

/-- What the normalization has gathered so far. -/
structure Gathered where
  /-- The normalized text up to here. -/
  normalized : List Char
  /-- Whether a run of white space waits to become one space. -/
  pendingSpace : Bool

variable [UnicodeLowercase]

/-- One character of the normalization. -/
def gather (state : Gathered) (character : Char) : Gathered :=
  if isBidirectionalControl character then state
  else if isWhitespace character then
    { state with pendingSpace := !state.normalized.isEmpty }
  else
    let spaced := if state.pendingSpace then state.normalized ++ [' '] else state.normalized
    { normalized :=
        spaced ++ (if isAscii character then [toAsciiLowercase character]
          else UnicodeLowercase.toLowercase character)
      pendingSpace := false }

/-- `search_text::normalize`. -/
def normalize (value : String) : String :=
  String.ofList (value.toList.foldl gather ⟨[], false⟩).normalized

/-- `search_text::contains`: the needle is already normalized. -/
def contains (haystack normalizedNeedle : String) : Bool :=
  if normalizedNeedle.isEmpty then true
  else decide (normalizedNeedle.toList <:+: (normalize haystack).toList)

end SearchText

/-! ## Numbers in names -/

theorem append_toString_injective (start : String) :
    Function.Injective (fun number : ℕ => start ++ toString number) := by
  intro m n h
  have hlist : (toString m).toList = (toString n).toList := by
    have happend := congrArg String.toList h
    simpa only [String.toList_append, List.append_cancel_left_eq] using happend
  rw [show (toString m).toList = Nat.toDigits 10 m from Nat.toList_repr,
    show (toString n).toList = Nat.toDigits 10 n from Nat.toList_repr] at hlist
  calc m = Nat.ofDigitChars 10 (Nat.toDigits 10 m) 0 := Nat.ofDigitChars_ten_toDigits.symm
    _ = Nat.ofDigitChars 10 (Nat.toDigits 10 n) 0 := by rw [hlist]
    _ = n := Nat.ofDigitChars_ten_toDigits

end AgentDesktop
