import Mathlib.Data.List.Induction
import AgentDesktop.RefIds

/-!
# Ref tokens

A ref is told to the caller together with its snapshot, as `@<snapshot>:e<N>`, and
read back from such a token; the short form `@e<N>` needs the snapshot from
elsewhere. Three grammars meet in a token: that of the snapshot id, that of the local
ref, and that of the keys of a ref map, which are the refs the map has handed out.

Writing and reading are inverse to one another (`resolveRefTarget_qualify`,
`qualify_resolveRefTarget`). The local ref is read more widely than the map writes it:
digits may begin with a zero, and such a ref is no key of any map
(`refToken_codec`).
-/

namespace AgentDesktop

/-- `qualify_ref_id`. -/
def qualifyRefId (snapshotId localRef : String) : String :=
  let bare :=
    match localRef.toList with
    | '@' :: rest => String.ofList rest
    | _ => localRef
  "@" ++ snapshotId ++ ":" ++ bare

/-- `is_local_ref`. -/
def isLocalRef (refId : String) : Bool :=
  match refId.toList with
  | '@' :: 'e' :: digits =>
    !digits.isEmpty && decide (digits.length ≤ 10) && digits.all isAsciiDigit
      && (parseU32 digits).any (fun number => 0 < number)
  | _ => false

/-- `invalid_ref`. -/
def invalidRef (refId : String) : AppError :=
  .invalidInput ("Invalid ref_id '" ++ refId
    ++ "': expected @<snapshot_id>:e<N> or legacy @e<N> with an explicit snapshot")

/-- `resolve_ref_target`: the snapshot and the ref in it. -/
def resolveRefTarget (refId : String) (explicitSnapshotId : Option String) :
    Except AppError (String × String) :=
  if isLocalRef refId then
    match explicitSnapshotId with
    | none => .error (.invalidInputWithSuggestion "Bare refs require an explicit snapshot_id"
        "Use the snapshot-qualified ref returned by snapshot, or pass --snapshot with a legacy @eN ref.")
    | some snapshotId => do
      validateSnapshotId snapshotId
      return (snapshotId, refId)
  else
    match refId.toList with
    | '@' :: withoutAt =>
      match rsplitOnce [':', 'e'] withoutAt with
      | none => .error (invalidRef refId)
      | some (snapshotId, elementNumber) => do
        let snapshotId := String.ofList snapshotId
        validateSnapshotId snapshotId
        let localRef := "@e" ++ String.ofList elementNumber
        if !isLocalRef localRef then throw (invalidRef refId)
        if explicitSnapshotId.any (· != snapshotId) then
          throw (.invalidInputWithSuggestion
            "Ref snapshot does not match the explicit snapshot_id"
            "Use the snapshot_id embedded in the ref, or pass a ref from the requested snapshot.")
        return (snapshotId, localRef)
    | _ => .error (invalidRef refId)

/-- Whether a ref is written as the key of a ref map is, so that the check of a map lets it pass. -/
def isCanonicalKey (refId : String) : Bool :=
  (refKeyNumber refId).any (fun number => refIdOf number == refId)

/-! ## Digits -/

/-- The number that digits stand for. -/
def charsValue (digits : List Char) : ℕ :=
  digits.foldl (fun number digit => number * 10 + (digit.toNat - 48)) 0

theorem charsValue_concat (digits : List Char) (digit : Char) :
    charsValue (digits ++ [digit]) = charsValue digits * 10 + (digit.toNat - 48) := by
  unfold charsValue
  rw [List.foldl_concat]

theorem digitChar_of_isAsciiDigit {digit : Char} (hdigit : isAsciiDigit digit = true) :
    digit.toNat - 48 < 10 ∧ Nat.digitChar (digit.toNat - 48) = digit := by
  unfold isAsciiDigit at hdigit
  simp only [Bool.and_eq_true, decide_eq_true_eq] at hdigit
  have hlt : digit.toNat - 48 < 10 := by omega
  refine ⟨hlt, Char.toNat_inj.mp ?_⟩
  rw [Nat.toNat_digitChar_of_lt_ten hlt]
  omega

/-- **Digits that do not begin with a zero** are those of the number they stand for, and it is
positive. -/
theorem toDigits_charsValue {first : Char} {digits : List Char}
    (hdigits : (first :: digits).all isAsciiDigit = true) (hfirst : first ≠ '0') :
    0 < charsValue (first :: digits)
      ∧ Nat.toDigits 10 (charsValue (first :: digits)) = first :: digits := by
  induction digits using List.reverseRecOn with
  | nil =>
    rw [List.all_cons, List.all_nil, Bool.and_true] at hdigits
    obtain ⟨hlt, hchar⟩ := digitChar_of_isAsciiDigit hdigits
    have hvalue : charsValue [first] = first.toNat - 48 := Nat.zero_add _
    rw [hvalue, Nat.toDigits_of_lt_base hlt, hchar]
    refine ⟨Nat.pos_of_ne_zero (fun hzero => hfirst ?_), rfl⟩
    rw [hzero] at hchar
    exact hchar.symm
  | append_singleton digits digit ih =>
    rw [← List.cons_append, List.all_append, Bool.and_eq_true] at hdigits
    obtain ⟨hpos, hchars⟩ := ih hdigits.1
    have hlast := hdigits.2
    rw [List.all_cons, List.all_nil, Bool.and_true] at hlast
    obtain ⟨hlt, hchar⟩ := digitChar_of_isAsciiDigit hlast
    rw [← List.cons_append, charsValue_concat, Nat.mul_comm]
    refine ⟨by omega, ?_⟩
    rw [← Nat.toDigits_append_toDigits (by decide) hpos hlt, hchars, Nat.toDigits_of_lt_base hlt,
      hchar]

theorem toDigits_head_ne_zero {number : ℕ} (hpos : 0 < number) (rest : List Char) :
    Nat.toDigits 10 number ≠ '0' :: rest := by
  induction number using Nat.strongRecOn generalizing rest with
  | _ number ih =>
    intro hzero
    by_cases hlt : number < 10
    · rw [Nat.toDigits_of_lt_base hlt] at hzero
      have hchar := (List.cons.inj hzero).1
      have hnat := congrArg Char.toNat hchar
      rw [Nat.toNat_digitChar_of_lt_ten hlt] at hnat
      have : ('0' : Char).toNat = 48 := rfl
      omega
    · -- the last digit is cut off
      rw [Nat.toDigits_of_base_le (by decide) (Nat.not_lt.mp hlt)] at hzero
      obtain ⟨first, others, hfront⟩ :=
        List.exists_cons_of_ne_nil (Nat.toDigits_ne_nil (n := number / 10) (b := 10))
      rw [hfront, List.cons_append] at hzero
      obtain ⟨rfl, -⟩ := List.cons.inj hzero
      exact ih (number / 10) (by omega) (by omega) others hfront

theorem charsValue_toDigits (number : ℕ) : charsValue (Nat.toDigits 10 number) = number := by
  have hvalue : ∀ digits, charsValue digits = Nat.ofDigitChars 10 digits 0 := by
    intro digits
    unfold charsValue
    rw [Nat.ofDigitChars_eq_foldl]
    congr 1
    funext sofar digit
    rw [Nat.mul_comm]
    rfl
  rw [hvalue, Nat.ofDigitChars_ten_toDigits]

theorem all_isAsciiDigit_toDigits (number : ℕ) :
    (Nat.toDigits 10 number).all isAsciiDigit = true := by
  refine List.all_eq_true.mpr (fun digit hdigit => ?_)
  have hisDigit := Nat.isDigit_of_mem_toDigits (by decide) (by decide) hdigit
  unfold Char.isDigit at hisDigit
  unfold isAsciiDigit
  exact hisDigit

/-! ## Local refs -/

theorem toList_refIdOf (number : ℕ) :
    (refIdOf number).toList = '@' :: 'e' :: Nat.toDigits 10 number := by
  unfold refIdOf
  rw [String.toList_append]
  show '@' :: 'e' :: (Nat.repr number).toList = _
  rw [Nat.toList_repr]

theorem parseU32_digits {digits : List Char} (hne : digits ≠ [])
    (hdigits : digits.all isAsciiDigit = true) :
    parseU32 digits = if charsValue digits ≤ u32Max then some (charsValue digits) else none := by
  have hsign : ∀ rest, digits ≠ '+' :: rest := by
    rintro rest rfl
    rw [List.all_cons, Bool.and_eq_true] at hdigits
    exact absurd hdigits.1 (by decide)
  have hempty : digits.isEmpty = false := List.isEmpty_eq_false_iff.mpr hne
  unfold parseU32
  split
  next rest => exact absurd rfl (hsign rest)
  next =>
    show (if (digits.isEmpty || !digits.all isAsciiDigit) = true then none
      else if charsValue digits ≤ u32Max then some (charsValue digits) else none) = _
    rw [hempty, hdigits]
    rfl

/-- **What the parser takes as a local ref**: up to ten digits of a positive number that a `u32`
holds. -/
theorem isLocalRef_iff {refId : String} :
    isLocalRef refId = true ↔ ∃ digits, refId.toList = '@' :: 'e' :: digits ∧ digits ≠ []
      ∧ digits.length ≤ 10 ∧ digits.all isAsciiDigit = true ∧ 0 < charsValue digits
      ∧ charsValue digits ≤ u32Max := by
  have hparsed : ∀ digits : List Char,
      (!digits.isEmpty && decide (digits.length ≤ 10) && digits.all isAsciiDigit
        && (parseU32 digits).any (fun number => decide (0 < number))) = true
      ↔ digits ≠ [] ∧ digits.length ≤ 10 ∧ digits.all isAsciiDigit = true
        ∧ 0 < charsValue digits ∧ charsValue digits ≤ u32Max := by
    intro digits
    simp only [Bool.and_eq_true, Bool.not_eq_true', List.isEmpty_eq_false_iff, decide_eq_true_eq,
      and_assoc]
    refine and_congr_right (fun hne => and_congr_right (fun _ => and_congr_right (fun hall => ?_)))
    rw [parseU32_digits hne hall]
    split_ifs with hle
    · simp [hle]
    · simp [hle]
  unfold isLocalRef
  split
  next digits hlist =>
    rw [hparsed, hlist]
    constructor
    · exact fun h => ⟨digits, rfl, h⟩
    · rintro ⟨digits', heq, h⟩
      obtain rfl := (List.cons.inj (List.cons.inj heq).2).2
      exact h
  next hother =>
    refine ⟨fun h => absurd h Bool.false_ne_true, ?_⟩
    rintro ⟨digits, hlist, -⟩
    exact absurd hlist (hother digits)

theorem isCanonicalKey_iff {refId : String} :
    isCanonicalKey refId = true ↔ ∃ number, refKeyNumber refId = some number
      ∧ refIdOf number = refId := by
  unfold isCanonicalKey
  rw [Option.any_eq_true]
  simp only [beq_iff_eq]

theorem length_toDigits_le {number : ℕ} (hle : number ≤ u32Max) :
    (Nat.toDigits 10 number).length ≤ 10 := by
  refine (Nat.length_toDigits_le_iff (by decide) (by decide)).mpr ?_
  unfold u32Max at hle
  omega

theorem refKeyNumber_range {refId : String} {number : ℕ}
    (hkey : refKeyNumber refId = some number) : 0 < number ∧ number ≤ u32Max := by
  unfold refKeyNumber at hkey
  split at hkey
  next value _ =>
    obtain ⟨hparse, hpos⟩ := Option.filter_eq_some_iff.mp hkey
    refine ⟨of_decide_eq_true hpos, ?_⟩
    unfold parseU32 at hparse
    simp only at hparse
    split_ifs at hparse with hbad hle
    obtain rfl := Option.some.inj hparse
    exact hle
  next => cases hkey

theorem isLocalRef_refIdOf {number : ℕ} (hpos : 0 < number) (hle : number ≤ u32Max) :
    isLocalRef (refIdOf number) = true := by
  refine isLocalRef_iff.mpr ⟨_, toList_refIdOf number, Nat.toDigits_ne_nil,
    length_toDigits_le hle, all_isAsciiDigit_toDigits number, ?_⟩
  rw [charsValue_toDigits]
  exact ⟨hpos, hle⟩

theorem isLocalRef_of_isCanonicalKey {refId : String} (hkey : isCanonicalKey refId = true) :
    isLocalRef refId = true := by
  obtain ⟨number, hnumber, rfl⟩ := isCanonicalKey_iff.mp hkey
  obtain ⟨hpos, hle⟩ := refKeyNumber_range hnumber
  exact isLocalRef_refIdOf hpos hle

/-- **A local ref is canonical** when its digits do not begin with a zero. -/
theorem isCanonicalKey_iff_head {refId : String} {digits : List Char}
    (hlist : refId.toList = '@' :: 'e' :: digits) (hlocal : isLocalRef refId = true) :
    isCanonicalKey refId = true ↔ digits.head? ≠ some '0' := by
  obtain ⟨digits', hlist', hne, -, hdigits, hpos, hle⟩ := isLocalRef_iff.mp hlocal
  obtain rfl : digits' = digits :=
    (List.cons.inj (List.cons.inj (hlist'.symm.trans hlist)).2).2
  have hnumber : refKeyNumber refId = some (charsValue digits') := by
    unfold refKeyNumber
    rw [hlist]
    show (parseU32 digits').filter _ = _
    rw [parseU32_digits hne hdigits, if_pos hle, Option.filter_some, if_pos (by simpa using hpos)]
  have hsame : isCanonicalKey refId = true
      ↔ Nat.toDigits 10 (charsValue digits') = digits' := by
    rw [isCanonicalKey_iff]
    simp only [hnumber, Option.some.injEq, exists_eq_left', ← String.toList_inj, toList_refIdOf,
      hlist, List.cons.injEq, true_and]
  rw [hsame]
  cases digits' with
  | nil => exact absurd rfl hne
  | cons first rest =>
    rw [List.head?_cons, Ne, Option.some.injEq]
    refine ⟨?_, fun hfirst => (toDigits_charsValue hdigits hfirst).2⟩
    rintro heq rfl
    exact toDigits_head_ne_zero hpos rest heq

/-! ## Tokens -/

theorem toList_localRef (digits : List Char) :
    ("@e" ++ String.ofList digits).toList = '@' :: 'e' :: digits := by
  have hdigits : (String.ofList digits).toList = digits := String.toList_ofList
  rw [String.toList_append, hdigits]
  rfl

theorem not_mem_of_all_isAsciiDigit {digits : List Char} {character : Char}
    (hdigits : digits.all isAsciiDigit = true) (hcharacter : isAsciiDigit character = false) :
    character ∉ digits := by
  intro hmem
  rw [List.all_eq_true.mp hdigits character hmem] at hcharacter
  cases hcharacter

theorem toList_qualifyRefId (snapshotId : String) {localRef : String} {bare : List Char}
    (hlist : localRef.toList = '@' :: bare) :
    (qualifyRefId snapshotId localRef).toList = '@' :: (snapshotId.toList ++ ':' :: bare) := by
  unfold qualifyRefId
  rw [hlist]
  show ("@" ++ snapshotId ++ ":" ++ String.ofList bare).toList = _
  have hbare : (String.ofList bare).toList = bare := String.toList_ofList
  rw [String.toList_append, String.toList_append, String.toList_append, hbare, List.append_assoc,
    List.append_assoc]
  rfl

theorem isLocalRef_of_colon {refId : String} (hcolon : ':' ∈ refId.toList) :
    isLocalRef refId = false := by
  rw [Bool.eq_false_iff]
  intro hlocal
  obtain ⟨digits, hlist, -, -, hdigits, -⟩ := isLocalRef_iff.mp hlocal
  rw [hlist, List.mem_cons, List.mem_cons] at hcolon
  rcases hcolon with heq | heq | hmem
  · exact absurd heq (by decide)
  · exact absurd heq (by decide)
  · exact not_mem_of_all_isAsciiDigit hdigits (by decide) hmem

/-- **Reading undoes writing**: the token of a local ref gives back the snapshot and the ref. -/
theorem resolveRefTarget_qualify {snapshotId localRef : String} {explicitSnapshotId : Option String}
    (hvalid : validateSnapshotId snapshotId = .ok ()) (hlocal : isLocalRef localRef = true)
    (hexplicit : ∀ explicit ∈ explicitSnapshotId, explicit = snapshotId) :
    resolveRefTarget (qualifyRefId snapshotId localRef) explicitSnapshotId
      = .ok (snapshotId, localRef) := by
  obtain ⟨digits, hlist, -, -, hdigits, -⟩ := isLocalRef_iff.mp hlocal
  have htoken := toList_qualifyRefId snapshotId hlist
  have hcolon : ':' ∈ (qualifyRefId snapshotId localRef).toList := by
    rw [htoken]
    exact List.mem_cons_of_mem _ (List.mem_append_right _ List.mem_cons_self)
  have hsplit : rsplitOnce [':', 'e'] (snapshotId.toList ++ ':' :: 'e' :: digits)
      = some (snapshotId.toList, digits) := by
    have hafter : ':' ∉ ['e'] ++ digits := by
      rw [List.singleton_append, List.mem_cons, not_or]
      exact ⟨by decide, not_mem_of_all_isAsciiDigit hdigits (by decide)⟩
    exact rsplitOnce_append snapshotId.toList hafter
  have hback : "@e" ++ String.ofList digits = localRef := by
    rw [← String.toList_inj, toList_localRef, hlist]
  have hmatch : explicitSnapshotId.any (· != snapshotId) = false := by
    cases explicitSnapshotId with
    | none => rfl
    | some explicit =>
      rw [hexplicit explicit rfl, Option.any_some, bne_self_eq_false]
  unfold resolveRefTarget
  rw [isLocalRef_of_colon hcolon, if_neg Bool.false_ne_true, htoken]
  simp only [hsplit, String.ofList_toList, hvalid, hback, hlocal, hmatch]
  rfl

theorem resolveRefTarget_eq_ok {refId snapshotId localRef : String}
    {explicitSnapshotId : Option String} (hqualified : isLocalRef refId = false)
    (hresolve : resolveRefTarget refId explicitSnapshotId = .ok (snapshotId, localRef)) :
    isLocalRef localRef = true ∧ ∃ elementNumber,
      localRef.toList = '@' :: 'e' :: elementNumber
        ∧ refId.toList = '@' :: (snapshotId.toList ++ ':' :: 'e' :: elementNumber) := by
  unfold resolveRefTarget at hresolve
  rw [hqualified, if_neg Bool.false_ne_true] at hresolve
  split at hresolve
  next withoutAt hlist =>
    split at hresolve
    next => cases hresolve
    next before elementNumber hsplit =>
      obtain ⟨_, -, hrest⟩ := Except.bind_eq_ok_iff.mp hresolve
      simp only at hrest
      by_cases hlocal : isLocalRef ("@e" ++ String.ofList elementNumber) = true
      · rw [hlocal, Bool.not_true, if_neg Bool.false_ne_true] at hrest
        split_ifs at hrest
        · cases hrest
        · obtain ⟨rfl, rfl⟩ := Prod.mk.inj (Except.pure_eq_ok_iff.mp hrest)
          refine ⟨hlocal, elementNumber, ?_, ?_⟩
          · exact toList_localRef elementNumber
          · rw [hlist, eq_append_of_rsplitOnce hsplit, String.toList_ofList, List.append_assoc]
            rfl
      · rw [Bool.not_eq_true] at hlocal
        rw [hlocal, Bool.not_false, if_pos rfl] at hrest
        cases hrest
  next => cases hresolve

/-- **Writing undoes reading**: what a token was read as is written as that token. -/
theorem qualify_resolveRefTarget {refId snapshotId localRef : String}
    {explicitSnapshotId : Option String} (hqualified : isLocalRef refId = false)
    (hresolve : resolveRefTarget refId explicitSnapshotId = .ok (snapshotId, localRef)) :
    qualifyRefId snapshotId localRef = refId := by
  obtain ⟨-, elementNumber, hlocal, hlist⟩ := resolveRefTarget_eq_ok hqualified hresolve
  rw [← String.toList_inj, toList_qualifyRefId snapshotId hlocal, hlist]

/-! ## The digits of a token -/

/-- The digits a token ends with. -/
def elementDigits (refId : String) : List Char := refId.toList.rtakeWhile isAsciiDigit

theorem elementDigits_eq {refId : String} {front digits : List Char}
    (hlist : refId.toList = front ++ 'e' :: digits) (hdigits : digits.all isAsciiDigit = true) :
    elementDigits refId = digits := by
  have hreverse : ∀ digit ∈ digits.reverse, isAsciiDigit digit = true :=
    fun digit hdigit => List.all_eq_true.mp hdigits digit (List.mem_reverse.mp hdigit)
  have hletter : ¬ isAsciiDigit 'e' = true := by decide
  unfold elementDigits List.rtakeWhile
  rw [hlist, List.reverse_append, List.reverse_cons, List.append_assoc, List.singleton_append,
    List.takeWhile_append_of_pos hreverse, List.takeWhile_cons_of_neg hletter, List.append_nil,
    List.reverse_reverse]

theorem toList_of_resolveRefTarget {refId snapshotId localRef : String}
    {explicitSnapshotId : Option String}
    (hresolve : resolveRefTarget refId explicitSnapshotId = .ok (snapshotId, localRef)) :
    isLocalRef localRef = true ∧ localRef.toList = '@' :: 'e' :: elementDigits refId := by
  by_cases hqualified : isLocalRef refId = true
  · -- a bare ref is its own local ref
    have hsame : localRef = refId := by
      unfold resolveRefTarget at hresolve
      rw [if_pos hqualified] at hresolve
      cases explicitSnapshotId with
      | none => cases hresolve
      | some explicit =>
        obtain ⟨_, -, hrest⟩ := Except.bind_eq_ok_iff.mp hresolve
        exact (Prod.mk.inj (Except.pure_eq_ok_iff.mp hrest)).2.symm
    obtain ⟨digits, hlist, -, -, hdigits, -⟩ := isLocalRef_iff.mp hqualified
    have hlist' : refId.toList = ['@'] ++ 'e' :: digits := hlist
    rw [hsame, elementDigits_eq hlist' hdigits]
    exact ⟨hqualified, hlist⟩
  · rw [Bool.not_eq_true] at hqualified
    obtain ⟨hlocal, elementNumber, hlist, htoken⟩ := resolveRefTarget_eq_ok hqualified hresolve
    obtain ⟨digits, hlist', -, -, hdigits, -⟩ := isLocalRef_iff.mp hlocal
    obtain rfl : digits = elementNumber :=
      (List.cons.inj (List.cons.inj (hlist'.symm.trans hlist)).2).2
    have hfront : refId.toList = ('@' :: (snapshotId.toList ++ [':'])) ++ 'e' :: digits := by
      rw [htoken, List.cons_append, List.append_assoc, List.singleton_append]
    rw [elementDigits_eq hfront hdigits]
    exact ⟨hlocal, hlist⟩

/-! ## Keys of maps -/

section Keys

variable [BoundsHasher]

/-- **A ref that some map binds**: a map that passes its check, with a counter that is a `u32`. -/
def IsMapKey (refId : String) : Prop :=
  ∃ (map : RefMap) (entry : RefEntry), map.counter ≤ u32Max ∧ map.validate = .ok ()
    ∧ map.get refId = some entry

/-- The entry of a button without anything else. -/
def bareButton : RefEntry where
  process := ⟨1, some "1"⟩
  identity := ⟨none, "button", none, none, none, none⟩
  geometry := ⟨none, none⟩
  capabilities := ⟨[], []⟩
  source := ⟨none, none, none, none, .window⟩
  scope := ⟨none, false, []⟩

theorem validate_bareButton : bareButton.validate = .ok () := by
  have hrole : bareButton.hasValidRole = true := by decide
  have hprocess : (bareButton.process.pid == 0
      || bareButton.process.processInstance.all String.isEmpty) = false := by decide
  have hfields : bareButton.limitedFields.any
      (fun field => RefEntry.maxFieldBytes < field.utf8ByteSize) = false := by decide
  unfold RefEntry.validate
  rw [hprocess, hrole, hfields]
  rfl

/-- A map with one binding passes its check if the key is canonical and the counter is not used
up. -/
theorem validate_single {number : ℕ} (hpos : 0 < number) (hlt : number < u32Max) :
    RefMap.validate ⟨AssocMap.empty.insert (refIdOf number) bareButton, number⟩ = .ok () := by
  have hcanonical : isCanonicalKey (refIdOf number) = true := by
    refine (isCanonicalKey_iff_head (toList_refIdOf number)
      (isLocalRef_refIdOf hpos hlt.le)).mpr (fun hhead => ?_)
    obtain ⟨rest, hrest⟩ := List.head?_eq_some_iff.mp hhead
    exact toDigits_head_ne_zero hpos rest hrest
  obtain ⟨number', hnumber, heq⟩ := isCanonicalKey_iff.mp hcanonical
  obtain rfl := refIdOf_injective heq
  have hbinding : RefMap.validateBinding 0 (refIdOf number', bareButton) = .ok number' := by
    unfold RefMap.validateBinding
    simp only [hnumber, bne_self_eq_false, Bool.false_eq_true, if_false, validate_bareButton,
      Nat.zero_max]
    rfl
  have hcounter : ¬ (decide (number' < number') || number' == u32Max) = true := by
    simp only [lt_irrefl, decide_false, Bool.false_or, beq_iff_eq]
    exact hlt.ne
  unfold RefMap.validate
  show ([(refIdOf number', bareButton)].foldlM RefMap.validateBinding 0 >>= _) = _
  rw [List.foldlM_cons, hbinding]
  exact if_neg hcounter

/-- **The refs of maps** are those of the numbers below the last. -/
theorem isMapKey_iff {refId : String} :
    IsMapKey refId ↔ ∃ number, refId = refIdOf number ∧ 0 < number ∧ number < u32Max := by
  constructor
  · rintro ⟨map, entry, hcounter, hvalidate, hget⟩
    obtain ⟨hnumbered, hne⟩ := RefMap.numbered_of_validate hvalidate
    obtain ⟨number, hkey, hpos, hle⟩ := hnumbered refId entry hget
    exact ⟨number, hkey, hpos, hle.trans_lt (lt_of_le_of_ne hcounter hne)⟩
  · rintro ⟨number, rfl, hpos, hlt⟩
    refine ⟨_, bareButton, hlt.le, validate_single hpos hlt, ?_⟩
    exact AssocMap.get_eq_some_iff.mpr (List.mem_singleton_self _)

/-- **The codec of ref tokens.** A token of a canonical ref is read as what it was written from,
an accepted token is written again as itself, and so no two of them are read alike. The local ref
of an accepted token is a canonical key exactly if its digits do not begin with a zero, and a map
binds it exactly if, besides, they are not the digits of the last number. -/
theorem refToken_codec :
    (∀ snapshotId localRef explicitSnapshotId, validateSnapshotId snapshotId = .ok () →
      isCanonicalKey localRef = true →
      (∀ explicit ∈ explicitSnapshotId, explicit = snapshotId) →
      resolveRefTarget (qualifyRefId snapshotId localRef) explicitSnapshotId
        = .ok (snapshotId, localRef))
    ∧ (∀ refId explicitSnapshotId snapshotId localRef, isLocalRef refId = false →
      resolveRefTarget refId explicitSnapshotId = .ok (snapshotId, localRef) →
      qualifyRefId snapshotId localRef = refId)
    ∧ (∀ refId refId' explicitSnapshotId explicitSnapshotId' target, isLocalRef refId = false →
      isLocalRef refId' = false → resolveRefTarget refId explicitSnapshotId = .ok target →
      resolveRefTarget refId' explicitSnapshotId' = .ok target → refId = refId')
    ∧ ∀ refId explicitSnapshotId snapshotId localRef,
      resolveRefTarget refId explicitSnapshotId = .ok (snapshotId, localRef) →
      (isCanonicalKey localRef = true ↔ (elementDigits refId).head? ≠ some '0')
      ∧ (IsMapKey localRef ↔ (elementDigits refId).head? ≠ some '0'
        ∧ elementDigits refId ≠ Nat.toDigits 10 u32Max) := by
  refine ⟨?_, ?_, ?_, ?_⟩
  · intro snapshotId localRef explicitSnapshotId hvalid hkey hexplicit
    exact resolveRefTarget_qualify hvalid (isLocalRef_of_isCanonicalKey hkey) hexplicit
  · intro refId explicitSnapshotId snapshotId localRef hqualified hresolve
    exact qualify_resolveRefTarget hqualified hresolve
  · intro refId refId' explicitSnapshotId explicitSnapshotId' target hqualified hqualified' hresolve
      hresolve'
    rw [← qualify_resolveRefTarget hqualified hresolve,
      ← qualify_resolveRefTarget hqualified' hresolve']
  · intro refId explicitSnapshotId snapshotId localRef hresolve
    obtain ⟨hlocal, hlist⟩ := toList_of_resolveRefTarget hresolve
    have hhead := isCanonicalKey_iff_head hlist hlocal
    refine ⟨hhead, ?_⟩
    rw [← hhead, isMapKey_iff]
    constructor
    · rintro ⟨number, rfl, hpos, hlt⟩
      have hdigits : Nat.toDigits 10 number = elementDigits refId :=
        (List.cons.inj (List.cons.inj ((toList_refIdOf number).symm.trans hlist)).2).2
      refine ⟨hhead.mpr (fun hzero => ?_), fun hlast => ?_⟩
      · obtain ⟨rest, hrest⟩ := List.head?_eq_some_iff.mp hzero
        exact toDigits_head_ne_zero hpos rest (hdigits.trans hrest)
      · rw [← hdigits] at hlast
        have hvalues := congrArg charsValue hlast
        rw [charsValue_toDigits, charsValue_toDigits] at hvalues
        exact hlt.ne hvalues
    · rintro ⟨hkey, hlast⟩
      obtain ⟨number, hnumber, rfl⟩ := isCanonicalKey_iff.mp hkey
      obtain ⟨hpos, hle⟩ := refKeyNumber_range hnumber
      refine ⟨number, rfl, hpos, lt_of_le_of_ne hle ?_⟩
      rintro rfl
      exact hlast (List.cons.inj (List.cons.inj
        ((toList_refIdOf u32Max).symm.trans hlist)).2).2.symm

end Keys

theorem validateSnapshotId_sabc : validateSnapshotId "sabc" = .ok () :=
  if_pos (by decide)

theorem resolveRefTarget_leadingZero :
    resolveRefTarget "@sabc:e07" none = .ok ("sabc", "@e07") := by
  have htoken : qualifyRefId "sabc" "@e07" = "@sabc:e07" := by decide
  rw [← htoken]
  exact resolveRefTarget_qualify validateSnapshotId_sabc (by decide) nofun

/-- The token of a ref a map has handed out, there and back; and one with a zero too many, which
no map binds. -/
theorem refToken_codec_sample :
    letI := Sample.noBoundsHash
    (resolveRefTarget (qualifyRefId "sabc" "@e7") none = .ok ("sabc", "@e7")
      ∧ qualifyRefId "sabc" "@e07" = "@sabc:e07")
    ∧ isCanonicalKey "@e07" = false ∧ ¬ IsMapKey "@e07" := by
  have hcodec := @refToken_codec Sample.noBoundsHash
  have hzero : ¬ (elementDigits "@sabc:e07").head? ≠ some '0' := fun h => h (by decide)
  have hkeys := hcodec.2.2.2 _ _ _ _ resolveRefTarget_leadingZero
  refine ⟨⟨?_, ?_⟩, ?_, ?_⟩
  · exact hcodec.1 _ _ _ validateSnapshotId_sabc (by decide) nofun
  · exact hcodec.2.1 _ _ _ _ (by decide) resolveRefTarget_leadingZero
  · exact Bool.eq_false_iff.mpr (fun hkey => hzero (hkeys.1.mp hkey))
  · exact fun hkey => hzero (hkeys.2.mp hkey).1

/-- **Not every ref the parser accepts is a key**: `@e07` is accepted, but the check of a map
refuses it. -/
theorem resolveRefTarget_accepts_noncanonical :
    ¬ ∀ refId explicitSnapshotId snapshotId localRef,
      resolveRefTarget refId explicitSnapshotId = .ok (snapshotId, localRef) →
      isCanonicalKey localRef = true := by
  intro hall
  have hkey := hall _ _ _ _ resolveRefTarget_leadingZero
  exact absurd hkey (by decide)

end AgentDesktop
