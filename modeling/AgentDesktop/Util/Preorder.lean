import Mathlib.Data.List.Nodup
import Mathlib.Logic.Relation
import Mathlib.Order.Basic
import Mathlib.Order.Nat

/-!
# Forests laid out in preorder

A forest stored in an array keeps, at every index, the list of the indices of
the children. When the array was filled by a depth-first walk, the trees of a
list of roots occupy consecutive blocks: a root stands at the start of its
block, its children's blocks follow, and the next root comes after them.
`Laid children i rs k` says exactly that of the roots `rs` and the block
`[i, k)`.

Everything a walk over such an array needs follows by induction on the
layout: a child stands after its parent, every index is reached once, and the
document order of the forest is the order of the indices.
-/

variable {children children' : ℕ → List ℕ} {i j k n m c : ℕ} {rs ss : List ℕ}

/-- **The layout of a forest in preorder**: the trees rooted at the listed
indices occupy the block that starts at the first bound and ends before the
second. -/
inductive Laid (children : ℕ → List ℕ) : ℕ → List ℕ → ℕ → Prop
  /-- No tree occupies an empty block. -/
  | nil (i : ℕ) : Laid children i [] i
  /-- A root stands first, its children's trees follow, then the other trees. -/
  | cons {i j k : ℕ} {rs : List ℕ} (below : Laid children (i + 1) (children i) j)
      (rest : Laid children j rs k) : Laid children i (i :: rs) k

namespace Laid

theorem le (h : Laid children i rs k) : i ≤ k := by
  induction h with
  | nil i => exact le_rfl
  | cons _ _ ih₁ ih₂ => omega

theorem congr (h : Laid children i rs k)
    (hc : ∀ n, i ≤ n → n < k → children n = children' n) : Laid children' i rs k := by
  induction h with
  | nil i => exact .nil i
  | @cons i j k rs below rest ih₁ ih₂ =>
    have h₁ := below.le
    have h₂ := rest.le
    refine .cons (j := j) ?_ (ih₂ (fun n hn hk => hc n (by omega) hk))
    rw [← hc i le_rfl (by omega)]
    exact ih₁ (fun n hn hj => hc n (by omega) (by omega))

theorem append (h₁ : Laid children i rs j) (h₂ : Laid children j ss k) :
    Laid children i (rs ++ ss) k := by
  induction h₁ with
  | nil i => exact h₂
  | cons below _ _ ih => exact .cons below (ih h₂)

theorem split (h : Laid children i (rs ++ ss) k) :
    ∃ j, Laid children i rs j ∧ Laid children j ss k := by
  induction rs generalizing i with
  | nil => exact ⟨i, .nil i, h⟩
  | cons r rs ih =>
    cases h with
    | cons below rest =>
      obtain ⟨j', h₁, h₂⟩ := ih rest
      exact ⟨j', .cons below h₁, h₂⟩

theorem mem_range (h : Laid children i rs k) (hr : n ∈ rs) : i ≤ n ∧ n < k := by
  induction h with
  | nil i => exact absurd hr List.not_mem_nil
  | cons below rest _ ih =>
    have h₁ := below.le
    have h₂ := rest.le
    rcases List.mem_cons.mp hr with rfl | hr
    · omega
    · have := ih hr
      omega

/-- **Every index of the block is the root of a laid-out tree** that lies in
the block. -/
theorem below_of_mem (h : Laid children i rs k) (hi : i ≤ n) (hk : n < k) :
    ∃ j, Laid children (n + 1) (children n) j ∧ j ≤ k := by
  induction h with
  | nil i => omega
  | @cons i j k rs below rest ih₁ ih₂ =>
    have hrest := rest.le
    rcases Nat.lt_or_ge n j with hj | hj
    · rcases Nat.eq_or_lt_of_le hi with rfl | hlt
      · exact ⟨j, below, hrest⟩
      · obtain ⟨j', hj', hle⟩ := ih₁ hlt hj
        exact ⟨j', hj', by omega⟩
    · exact ih₂ hj hk

/-- **A child stands after its parent**, inside the block. -/
theorem child_range (h : Laid children i rs k) (hi : i ≤ n) (hk : n < k)
    (hc : c ∈ children n) : n < c ∧ c < k := by
  obtain ⟨j, hj, hle⟩ := h.below_of_mem hi hk
  have := hj.mem_range hc
  omega

/-- **Bottom-up induction**: what holds of a node as soon as it holds of its
children holds throughout the block. -/
theorem bottomUp (h : Laid children i rs k) {P : ℕ → Prop}
    (step : ∀ n, i ≤ n → n < k → (∀ c ∈ children n, P c) → P n) :
    ∀ n, i ≤ n → n < k → P n := by
  intro n hi hk
  -- the distance to the end of the block shrinks from a node to its children
  induction hd : k - n using Nat.strongRecOn generalizing n with
  | _ d ih =>
    refine step n hi hk (fun c hc => ?_)
    have hrange := h.child_range hi hk hc
    exact ih (k - c) (by omega) c (by omega) hrange.2 rfl

/-- **A copied forest is copied place by place**: when the trees of a list of roots
are copied with all their children, they occupy a block of the same length, and
every node stands in the copy where it stands in the original. -/
theorem copied {image : ℕ → ℕ} {i' k' : ℕ} (h : Laid children i rs k)
    (h' : Laid children' i' (rs.map image) k')
    (hc : ∀ n, i ≤ n → n < k → children' (image n) = (children n).map image) :
    k' + i = k + i' ∧ ∀ n, i ≤ n → n < k → image n + i = n + i' := by
  induction h generalizing i' k' with
  | nil i =>
    cases h'
    exact ⟨Nat.add_comm _ _, fun n hi hk => absurd hi (by omega)⟩
  | @cons i j k rs below rest ihBelow ihRest =>
    have hbelow := below.le
    have hrest := rest.le
    generalize himage : image i = r at h'
    rw [List.map_cons, himage] at h'
    cases h' with
    | @cons _ j' _ _ below' rest' =>
      rw [← himage, hc i le_rfl (by omega), himage] at below'
      obtain ⟨hj, hfirst⟩ := ihBelow below' (fun n hn hlt => hc n (by omega) (by omega))
      obtain ⟨hk, hothers⟩ := ihRest rest' (fun n hn hlt => hc n (by omega) hlt)
      refine ⟨by omega, fun n hi hlt => ?_⟩
      rcases Nat.eq_or_lt_of_le hi with rfl | hgt
      · omega
      · rcases Nat.lt_or_ge n j with hnj | hnj
        · have := hfirst n hgt hnj
          omega
        · have := hothers n hnj hlt
          omega

theorem nodup (h : Laid children i rs k) : rs.Nodup := by
  induction h with
  | nil i => exact List.nodup_nil
  | cons below rest _ ih =>
    refine List.nodup_cons.mpr ⟨fun hmem => ?_, ih⟩
    have h₁ := below.le
    have h₂ := rest.mem_range hmem
    omega

/-- **Every index of the block is a root or a child** of a node of the
block. -/
theorem root_or_child (h : Laid children i rs k) (hi : i ≤ c) (hk : c < k) :
    c ∈ rs ∨ ∃ p, i ≤ p ∧ p < c ∧ c ∈ children p := by
  induction h with
  | nil i => omega
  | @cons i j k rs below rest ih₁ ih₂ =>
    rcases Nat.eq_or_lt_of_le hi with rfl | hlt
    · exact Or.inl List.mem_cons_self
    rcases Nat.lt_or_ge c j with hj | hj
    · rcases ih₁ hlt hj with hroot | ⟨p, hp, hpc, hc⟩
      · exact Or.inr ⟨i, le_rfl, hlt, hroot⟩
      · exact Or.inr ⟨p, by omega, hpc, hc⟩
    · rcases ih₂ hj hk with hroot | ⟨p, hp, hpc, hc⟩
      · exact Or.inl (List.mem_cons_of_mem _ hroot)
      · have hb := below.le
        exact Or.inr ⟨p, by omega, hpc, hc⟩

/-- **The tree of a node is a range of indices**: what is reached from the node along the
children is the node and the block of its children's trees. -/
theorem reaches_iff (h : Laid children (n + 1) (children n) j) :
    Relation.ReflTransGen (fun p c => c ∈ children p) n m ↔ n ≤ m ∧ m < j := by
  have hle := h.le
  have hchild : ∀ p c, n ≤ p → p < j → c ∈ children p → p < c ∧ c < j := by
    intro p c hp hpj hc
    rcases Nat.eq_or_lt_of_le hp with rfl | hlt
    · have hrange := h.mem_range hc
      exact ⟨hrange.1, hrange.2⟩
    · exact h.child_range hlt hpj hc
  constructor
  · intro hreach
    induction hreach with
    | refl => omega
    | tail _ hc ih =>
      have hrange := hchild _ _ ih.1 ih.2 hc
      omega
  · rintro ⟨hnm, hmj⟩
    induction m using Nat.strong_induction_on with
    | _ m ih =>
      rcases Nat.eq_or_lt_of_le hnm with rfl | hlt
      · exact .refl
      · rcases h.root_or_child hlt hmj with hroot | ⟨p, hp, hpm, hc⟩
        · exact .single hroot
        · exact (ih p hpm (by omega) (by omega)).tail hc

end Laid
