import Mathlib.Data.List.Basic

/-!
# Flat information orders

A type with one value that stands for *not known yet* carries a flat order:
that value lies below everything, and every other value lies only below
itself. `Informs a b` reads "`b` is what `a` may turn out to be once the
missing evidence is in".

An operation is *steady* when it respects the order in each argument: no
answer it gives from partial inputs is taken back by fuller ones. Steadiness
composes, which is what lets a soundness argument about a whole evaluation be
made one connective at a time.
-/

/-- A type with a value that stands for missing evidence. -/
class HasUnknown (α : Type*) where
  /-- The value that says nothing. -/
  unknown : α

section

variable {α β γ : Type*} [HasUnknown α] [HasUnknown β] [HasUnknown γ]

/-- **The flat information order**: `b` is a possible completion of `a`. -/
def Informs (a b : α) : Prop := a = HasUnknown.unknown ∨ a = b

@[simp] theorem Informs.refl (a : α) : Informs a a := Or.inr rfl

@[simp] theorem Informs.unknown (b : α) : Informs HasUnknown.unknown b := Or.inl rfl

theorem Informs.settled {a b : α} (h : Informs a b) (ha : a ≠ HasUnknown.unknown) :
    b = a := by
  rcases h with h | h
  · exact absurd h ha
  · exact h.symm

theorem Informs.trans {a b c : α} (hab : Informs a b) (hbc : Informs b c) :
    Informs a c := by
  rcases hab with h | rfl
  · exact Or.inl h
  · exact hbc

/-- A one-place operation that respects the information order. -/
def Steady (f : α → β) : Prop := ∀ a a', Informs a a' → Informs (f a) (f a')

/-- A two-place operation that respects the information order in both places. -/
def Steady₂ (f : α → β → γ) : Prop :=
  ∀ a a' b b', Informs a a' → Informs b b' → Informs (f a b) (f a' b')

theorem Steady.of_strict {f : α → β}
    (hf : f HasUnknown.unknown = HasUnknown.unknown) : Steady f := by
  rintro a a' (rfl | rfl)
  · rw [hf]
    exact Informs.unknown _
  · exact Informs.refl _

end
