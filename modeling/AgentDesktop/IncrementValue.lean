import Mathlib.Tactic.Linarith
import AgentDesktop.Increment

/-!
# Comparing the texts of a control

An integer below `2 ^ 53` is rounded to itself, and one beyond is rounded to a number beyond.
Since floating-point numbers are compared below only, what is compared is exact: the value of a
text is the integer it is, or the number it is rounded to, and the direction from one text to
another is that from one value to the other.
-/

namespace AgentDesktop

/-! ## Rounding integers -/

theorem floor_le_roundHalfEven (q : ℚ) : ⌊q⌋ ≤ roundHalfEven q ∧ roundHalfEven q ≤ ⌊q⌋ + 1 := by
  unfold roundHalfEven
  dsimp only
  split_ifs <;> omega

theorem roundHalfEven_intCast (n : ℤ) : roundHalfEven n = n := by
  unfold roundHalfEven
  simp only [Int.floor_intCast, sub_self]
  exact if_pos (by norm_num)

theorem le_roundHalfEven {m : ℤ} {q : ℚ} (h : (m : ℚ) ≤ q) : m ≤ roundHalfEven q :=
  (Int.le_floor.mpr h).trans (floor_le_roundHalfEven q).1

theorem roundHalfEven_le {m : ℤ} {q : ℚ} (h : q ≤ m) : roundHalfEven q ≤ m := by
  rcases h.eq_or_lt with rfl | hlt
  · rw [roundHalfEven_intCast]
  · have hfloor : ⌊q⌋ < m := Int.floor_lt.mpr hlt
    have hround := (floor_le_roundHalfEven q).2
    omega

theorem le_abs_roundHalfEven {m : ℤ} {q : ℚ} (h : (m : ℚ) ≤ |q|) : m ≤ |roundHalfEven q| := by
  rcases le_abs.mp h with hpos | hneg
  · exact (le_roundHalfEven hpos).trans (le_abs_self _)
  · have hround : roundHalfEven q ≤ -m := roundHalfEven_le (by push_cast; linarith)
    exact (by omega : m ≤ -roundHalfEven q).trans (neg_le_abs _)

/-- **An integer is rounded to itself**, or to a number beyond `2 ^ 53`. -/
theorem roundToF64_intCast {n : ℤ} {q : ℚ} (h : roundToF64 n = .finite q) (hq : |q| < 2 ^ 53) :
    q = n := by
  by_cases hn : n = 0
  · subst hn
    have hzero : roundToF64 ((0 : ℤ) : ℚ) = .finite 0 := if_pos Int.cast_zero
    rw [Int.cast_zero]
    exact (F64.finite.inj (h.symm.trans hzero))
  have hone : (1 : ℚ) ≤ |(n : ℚ)| := by
    rw [← Int.cast_abs]
    exact_mod_cast Int.one_le_abs hn
  have hlog : 0 ≤ Int.log 2 |(n : ℚ)| :=
    (Int.zpow_le_iff_le_log Nat.one_lt_two (one_pos.trans_le hone)).mp (by simpa using hone)
  have hmax : max (Int.log 2 |(n : ℚ)|) (-1022) = Int.log 2 |(n : ℚ)| := max_eq_left (by omega)
  have hround : q = roundHalfEven (n / 2 ^ (Int.log 2 |(n : ℚ)| - 52))
      * 2 ^ (Int.log 2 |(n : ℚ)| - 52) := by
    unfold roundToF64 at h
    rw [if_neg (by exact_mod_cast hn), hmax] at h
    dsimp only at h
    split_ifs at h
    exact (F64.finite.inj h).symm
  have hbelow : (2 : ℚ) ^ Int.log 2 |(n : ℚ)| ≤ |(n : ℚ)| :=
    Int.zpow_log_le_self Nat.one_lt_two (one_pos.trans_le hone)
  generalize Int.log 2 |(n : ℚ)| = exponent at hlog hround hbelow
  have hunit : (0 : ℚ) < 2 ^ (exponent - 52) := zpow_pos two_pos _
  rcases le_or_gt exponent 52 with hsmall | hlarge
  · -- the unit is a fraction of one
    have hscaled : (n : ℚ) / 2 ^ (exponent - 52) = ((n * 2 ^ (52 - exponent).toNat : ℤ) : ℚ) := by
      rw [div_eq_mul_inv, ← zpow_neg, neg_sub, Int.cast_mul, Int.cast_pow, Int.cast_ofNat,
        ← zpow_natCast, Int.toNat_of_nonneg (by omega)]
    rw [hround, hscaled, roundHalfEven_intCast, ← hscaled, div_mul_cancel₀ _ hunit.ne']
  · -- the number is beyond the bound, and so is what it is rounded to
    have hquotient : ((2 ^ 52 : ℤ) : ℚ) ≤ |(n : ℚ) / 2 ^ (exponent - 52)| := by
      rw [abs_div, abs_of_pos hunit, le_div_iff₀ hunit]
      refine le_trans (le_of_eq ?_) hbelow
      rw [Int.cast_pow, Int.cast_ofNat, ← zpow_natCast, ← zpow_add₀ two_ne_zero]
      congr 1
      omega
    have hrounded : ((2 ^ 52 : ℤ) : ℚ) ≤ |(roundHalfEven (n / 2 ^ (exponent - 52)) : ℚ)| := by
      rw [← Int.cast_abs]
      exact_mod_cast le_abs_roundHalfEven hquotient
    have hbeyond : (2 : ℚ) ^ 53 ≤ |q| := by
      rw [hround, abs_mul, abs_of_pos hunit]
      calc (2 : ℚ) ^ 53 = ((2 ^ 52 : ℤ) : ℚ) * 2 ^ (1 : ℤ) := by norm_num
        _ ≤ |(roundHalfEven (n / 2 ^ (exponent - 52)) : ℚ)| * 2 ^ (exponent - 52) :=
          mul_le_mul hrounded (zpow_le_zpow_right₀ one_le_two (by omega)) (by positivity)
            (abs_nonneg _)
    exact absurd hq (not_lt.mpr hbeyond)

/-! ## Reading integers -/

theorem digitValue_isSome_of_lowercase {ch : Char}
    (h : (digitValue (toAsciiLowercase ch)).isSome = false) : (digitValue ch).isSome = false := by
  unfold digitValue at h ⊢
  unfold toAsciiLowercase at h
  split_ifs at h ⊢ with hupper hdigit hdigit <;> first | rfl | omega

theorem isSome_digitValue_of_takeDigits {text : List Char} {digits : List ℕ}
    (h : takeDigits text = (digits, [])) : ∀ ch ∈ text, (digitValue ch).isSome = true := by
  induction text generalizing digits with
  | nil => exact fun _ hmem => absurd hmem List.not_mem_nil
  | cons ch text ih =>
    unfold takeDigits at h
    cases hdigit : digitValue ch with
    | none =>
      rw [hdigit] at h
      cases h
    | some digit =>
      rw [hdigit] at h
      have hrest : (takeDigits text).2 = [] := congrArg Prod.snd h
      have hrest : takeDigits text = ((takeDigits text).1, []) := Prod.ext rfl hrest
      exact List.forall_mem_cons.mpr ⟨by rw [hdigit]; rfl, ih hrest⟩

theorem map_toAsciiLowercase_ne {text : List Char}
    (htext : ∀ ch ∈ text, (digitValue ch).isSome = true) (word : String) {first : Char}
    {rest : List Char} (hword : word.toList = first :: rest)
    (hfirst : (digitValue first).isSome = false) :
    String.ofList (text.map toAsciiLowercase) ≠ word := by
  intro h
  have hlist : text.map toAsciiLowercase = first :: rest := by
    rw [← hword, ← h, String.toList_ofList]
  cases text with
  | nil => cases hlist
  | cons ch text =>
    rw [List.map_cons] at hlist
    injection hlist with hch
    rw [← hch] at hfirst
    have hno := digitValue_isSome_of_lowercase hfirst
    rw [htext ch List.mem_cons_self] at hno
    cases hno

/-- **The text of an integer is the number it is rounded to.** -/
theorem parseF64_of_parseI128 {text : String} {n : ℤ} (h : parseI128 text = some n) :
    parseF64 text = some (roundToF64 n) := by
  unfold parseI128 at h
  rcases hsigned : takeSign text.toList with ⟨negative, unsigned⟩
  rcases hdigits : takeDigits unsigned with ⟨digits, rest⟩
  simp only [hsigned, hdigits] at h
  by_cases hbad : (digits.isEmpty || !rest.isEmpty) = true
  · rw [if_pos hbad] at h
    cases h
  rw [if_neg hbad] at h
  have hn : (if negative then -(digitsValue digits : ℤ) else digitsValue digits) = n := by
    by_cases hrange :
      -2 ^ 127 ≤ (if negative then -(digitsValue digits : ℤ) else digitsValue digits)
        ∧ (if negative then -(digitsValue digits : ℤ) else digitsValue digits) < 2 ^ 127
    · rw [if_pos hrange] at h
      exact Option.some.inj h
    · rw [if_neg hrange] at h
      cases h
  rw [Bool.or_eq_true, not_or, Bool.not_eq_true, Bool.not_eq_true, Bool.not_eq_false',
    List.isEmpty_iff] at hbad
  obtain ⟨hempty, rfl⟩ := hbad
  have hall := isSome_digitValue_of_takeDigits hdigits
  have hread : readDecimal unsigned = some (digitsValue digits : ℚ) := by
    unfold readDecimal
    simp only [hdigits, hempty, readExponent, Option.map_some, List.append_nil, List.length_nil,
      Nat.cast_zero, sub_zero, zpow_zero, mul_one, Bool.false_and, Bool.false_eq_true, if_false]
  unfold parseF64
  simp only [hsigned, hread, beq_iff_eq, Bool.or_eq_true, Option.map_some]
  rw [if_neg]
  · rw [← hn]
    cases negative <;> simp
  · rintro ((h | h) | h)
    · exact map_toAsciiLowercase_ne hall "inf" rfl (by decide) h
    · exact map_toAsciiLowercase_ne hall "infinity" rfl (by decide) h
    · exact map_toAsciiLowercase_ne hall "nan" rfl (by decide) h

namespace Increment

/-! ## Exact values -/

/-- **The value of a text**: the integer it is, or the number it is rounded to. -/
def textValue (text : String) : Option ℚ :=
  match parseI128 text with
  | some value => some value
  | none => numericText text

/-- **A text is nearer** in the direction of an action: its value is above that of another, and
below for a decrement. -/
def Nearer (action before after : String) : Prop :=
  ∃ x y, textValue before = some x ∧ textValue after = some y
    ∧ (action = "AXIncrement" ∧ x < y ∨ action = "AXDecrement" ∧ y < x)

theorem Nearer.trans {action first second third : String} (h : Nearer action first second)
    (h' : Nearer action second third) : Nearer action first third := by
  obtain ⟨x, y, hx, hy, hxy⟩ := h
  obtain ⟨y', z, hy', hz, hyz⟩ := h'
  obtain rfl := Option.some.inj (hy.symm.trans hy')
  refine ⟨x, z, hx, hz, ?_⟩
  rcases hxy with ⟨rfl, hxy⟩ | ⟨rfl, hxy⟩
  · rcases hyz with ⟨-, hyz⟩ | ⟨h, -⟩
    · exact Or.inl ⟨rfl, hxy.trans hyz⟩
    · exact absurd h (by decide)
  · rcases hyz with ⟨h, -⟩ | ⟨-, hyz⟩
    · exact absurd h (by decide)
    · exact Or.inr ⟨rfl, hyz.trans hxy⟩

theorem actionToward_eq_some {α : Type} [LT α] [DecidableLT α] {current target : α}
    {action : String} (h : actionToward current target = some action) :
    action = "AXIncrement" ∧ current < target ∨ action = "AXDecrement" ∧ target < current := by
  unfold actionToward at h
  split_ifs at h with hless hgreater
  · exact Or.inl ⟨(Option.some.inj h).symm, hless⟩
  · exact Or.inr ⟨(Option.some.inj h).symm, hgreater⟩

theorem textValue_of_numericText {text : String} {number : ℚ} (h : numericText text = some number)
    (hnumber : |number| < 2 ^ 53) : textValue text = some number := by
  unfold textValue
  cases hparse : parseI128 text with
  | none => exact h
  | some value =>
    unfold numericText at h
    rw [parseF64_of_parseI128 hparse] at h
    cases hround : roundToF64 (value : ℚ) with
    | notFinite =>
      rw [hround] at h
      cases h
    | finite rounded =>
      rw [hround] at h
      obtain rfl := Option.some.inj h
      rw [roundToF64_intCast hround hnumber]

theorem floatAction_nearer {current target action : String}
    (h : floatAction current target = some action) : Nearer action current target := by
  unfold floatAction at h
  obtain ⟨x, hx, h⟩ := Option.bind_eq_some_iff.mp h
  obtain ⟨y, hy, h⟩ := Option.bind_eq_some_iff.mp h
  split_ifs at h with hlarge
  rw [not_le, max_lt_iff] at hlarge
  exact ⟨x, y, textValue_of_numericText hx (hlarge.1.trans_eq (by norm_num)),
    textValue_of_numericText hy (hlarge.2.trans_eq (by norm_num)), actionToward_eq_some h⟩

/-- **The direction from one text to another is that of their values.** -/
theorem incrementAction_nearer {current target action : String}
    (h : incrementAction current target = some action) : Nearer action current target := by
  unfold incrementAction at h
  cases hx : parseI128 current with
  | none =>
    rw [hx] at h
    exact floatAction_nearer h
  | some x =>
    cases hy : parseI128 target with
    | none =>
      rw [hx, hy] at h
      exact floatAction_nearer h
    | some y =>
      rw [hx, hy] at h
      refine ⟨x, y, by rw [textValue, hx], by rw [textValue, hy], ?_⟩
      exact_mod_cast actionToward_eq_some h

/-- Values of several kinds are compared exactly, or not at all. -/
example : [("5", "5.5"), ("1e3", "999"), ("9007199254740993", "9007199254740994"),
    ("9007199254740993", "9007199254740994.0")].map
      (fun sample => incrementAction sample.1 sample.2)
    = [some "AXIncrement", some "AXDecrement", some "AXIncrement", none] := by
  decide +kernel

end Increment

end AgentDesktop
