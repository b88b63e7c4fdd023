import Mathlib.Data.List.Forall2

/-!
# Lists related entry by entry

What holds of the pairs of two lists that are related entry by entry, seen from
the one list or from the other.
-/

namespace List

variable {α β : Type*} {R S : α → β → Prop} {as : List α} {bs : List β}

theorem Forall₂.exists_right (h : Forall₂ R as bs) {a : α} (ha : a ∈ as) :
    ∃ b ∈ bs, R a b := by
  induction h with
  | nil => exact absurd ha not_mem_nil
  | @cons first other _ _ hfirst _ ih =>
    rcases mem_cons.mp ha with rfl | ha
    · exact ⟨other, mem_cons_self, hfirst⟩
    · obtain ⟨b, hb, hR⟩ := ih ha
      exact ⟨b, mem_cons_of_mem _ hb, hR⟩

theorem Forall₂.exists_left (h : Forall₂ R as bs) {b : β} (hb : b ∈ bs) :
    ∃ a ∈ as, R a b :=
  h.flip.exists_right hb

theorem Forall₂.getElem?_left (h : Forall₂ R as bs) {k : ℕ} {b : β} (hb : bs[k]? = some b) :
    ∃ a, as[k]? = some a ∧ R a b := by
  induction h generalizing k with
  | nil => cases hb
  | @cons first other _ _ hfirst _ ih =>
    cases k with
    | zero =>
      obtain rfl := Option.some.inj hb
      exact ⟨first, rfl, hfirst⟩
    | succ k => exact ih hb

theorem Forall₂.through {γ : Type*} {bs' : List γ} {T : β → γ → Prop} {U : α → γ → Prop}
    (h : Forall₂ R as bs) (h' : Forall₂ T bs bs')
    (himp : ∀ a b c, R a b → T b c → U a c) : Forall₂ U as bs' := by
  induction h generalizing bs' with
  | nil =>
    cases h'
    exact Forall₂.nil
  | cons hfirst _ ih =>
    cases h' with
    | cons hfirst' hrest => exact Forall₂.cons (himp _ _ _ hfirst hfirst') (ih hrest)

theorem Forall₂.imp_of_mem_right (himp : ∀ a, ∀ b ∈ bs, R a b → S a b)
    (h : Forall₂ R as bs) : Forall₂ S as bs := by
  induction h with
  | nil => exact Forall₂.nil
  | cons hfirst _ ih =>
    refine Forall₂.cons (himp _ _ mem_cons_self hfirst) (ih ?_)
    exact fun a b hb => himp a b (mem_cons_of_mem _ hb)

end List
