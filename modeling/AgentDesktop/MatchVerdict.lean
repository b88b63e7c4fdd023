import Mathlib.Data.List.Basic
import AgentDesktop.Util.Information

/-!
# Match verdicts

Whether an element matches is answered in three values, `unknown` standing for
missing evidence. The connectives are the strong Kleene ones: they are steady
in the flat information order, and a disjunction over a list says match when
one disjunct does, no match when all do.
-/

namespace AgentDesktop

/-- `MatchVerdict`. -/
inductive MatchVerdict
  /-- The element matches. -/
  | matched
  /-- The element does not match. -/
  | noMatch
  /-- The evidence does not say. -/
  | unknown
  deriving DecidableEq, Repr

namespace MatchVerdict

instance : HasUnknown MatchVerdict := ⟨unknown⟩

@[simp] theorem hasUnknown_unknown : (HasUnknown.unknown : MatchVerdict) = unknown := rfl

/-- `MatchVerdict::and`. -/
def and : MatchVerdict → MatchVerdict → MatchVerdict
  | noMatch, _ => noMatch
  | _, noMatch => noMatch
  | matched, matched => matched
  | _, _ => unknown

/-- `MatchVerdict::or`. -/
def or : MatchVerdict → MatchVerdict → MatchVerdict
  | matched, _ => matched
  | _, matched => matched
  | noMatch, noMatch => noMatch
  | _, _ => unknown

/-- `MatchVerdict::negate`. -/
def negate : MatchVerdict → MatchVerdict
  | matched => noMatch
  | noMatch => matched
  | unknown => unknown

/-- `bool_verdict`. -/
def ofBool (matched : Bool) : MatchVerdict :=
  if matched then .matched else .noMatch

variable {v w : MatchVerdict}

/-! ### When a connective says match, and when no match -/

@[simp] theorem and_eq_matched_iff : v.and w = matched ↔ v = matched ∧ w = matched := by
  cases v <;> cases w <;> simp [and]

@[simp] theorem and_eq_noMatch_iff : v.and w = noMatch ↔ v = noMatch ∨ w = noMatch := by
  cases v <;> cases w <;> simp [and]

@[simp] theorem or_eq_matched_iff : v.or w = matched ↔ v = matched ∨ w = matched := by
  cases v <;> cases w <;> simp [or]

@[simp] theorem or_eq_noMatch_iff : v.or w = noMatch ↔ v = noMatch ∧ w = noMatch := by
  cases v <;> cases w <;> simp [or]

@[simp] theorem negate_eq_matched_iff : v.negate = matched ↔ v = noMatch := by
  cases v <;> simp [negate]

@[simp] theorem negate_eq_noMatch_iff : v.negate = noMatch ↔ v = matched := by
  cases v <;> simp [negate]

@[simp] theorem ofBool_eq_matched_iff {b : Bool} : ofBool b = matched ↔ b = true := by
  cases b <;> simp [ofBool]

@[simp] theorem ofBool_eq_noMatch_iff {b : Bool} : ofBool b = noMatch ↔ b = false := by
  cases b <;> simp [ofBool]

theorem ofBool_ne_unknown (b : Bool) : ofBool b ≠ unknown := by
  cases b <;> simp [ofBool]

theorem foldl_or_eq_matched_iff {vs : List MatchVerdict} :
    vs.foldl or v = matched ↔ v = matched ∨ matched ∈ vs := by
  induction vs generalizing v with
  | nil => simp
  | cons w vs ih => rw [List.foldl_cons, ih, or_eq_matched_iff, List.mem_cons, or_assoc,
      eq_comm (a := w)]

theorem foldl_or_eq_noMatch_iff {vs : List MatchVerdict} :
    vs.foldl or v = noMatch ↔ v = noMatch ∧ ∀ w ∈ vs, w = noMatch := by
  induction vs generalizing v with
  | nil => simp
  | cons w vs ih => rw [List.foldl_cons, ih, or_eq_noMatch_iff, List.forall_mem_cons, and_assoc]

/-! ### Steadiness -/

theorem informs_iff :
    Informs v w ↔ (v = matched → w = matched) ∧ (v = noMatch → w = noMatch) := by
  unfold Informs
  cases v <;> cases w <;> simp

theorem and_steady : Steady₂ and := by
  intro v v' w w' hv hw
  rw [informs_iff] at *
  simp only [and_eq_matched_iff, and_eq_noMatch_iff]
  exact ⟨fun h => ⟨hv.1 h.1, hw.1 h.2⟩, fun h => h.imp hv.2 hw.2⟩

theorem or_steady : Steady₂ or := by
  intro v v' w w' hv hw
  rw [informs_iff] at *
  simp only [or_eq_matched_iff, or_eq_noMatch_iff]
  exact ⟨fun h => h.imp hv.1 hw.1, fun h => ⟨hv.2 h.1, hw.2 h.2⟩⟩

theorem negate_steady : Steady negate := Steady.of_strict rfl

end MatchVerdict

end AgentDesktop
