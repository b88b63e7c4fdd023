import Mathlib.Data.List.Flatten
import Mathlib.Data.List.Nodup
import Mathlib.Order.Nat

/-!
# Trees laid out in level order

A tree can be stored in an array with the children of every item side by side: the
items wait in a queue, the first of the queue is written next, and its children get the
first indices that nobody has been promised. `Queued k pending slots` says exactly that
of the items that wait when the index `k` is next.

What a reader of the array needs follows by induction on the layout: the children of an
item stand where its range says, the ranges lie one behind the other without a gap, the
parent of an item is the one whose range it is in, and the order of the array is level by
level.
-/

variable {α : Type*}

/-! ## Levels -/

/-- The items a number of levels below some others. -/
def nodesAt (kids : α → List α) : ℕ → List α → List α
  | 0, forest => forest
  | depth + 1, forest => nodesAt kids depth (forest.flatMap kids)

/-- **The first levels of a forest**, one after the other. -/
def levels (kids : α → List α) : ℕ → List α → List α
  | 0, _ => []
  | depth + 1, forest => forest ++ levels kids depth (forest.flatMap kids)

theorem le_length_levels {kids : α → List α} {depth : ℕ} {forest : List α}
    (hbelow : nodesAt kids depth forest ≠ []) : depth ≤ (levels kids depth forest).length := by
  induction depth generalizing forest with
  | zero => exact Nat.zero_le _
  | succ depth ih =>
    show depth + 1 ≤ (forest ++ levels kids depth (forest.flatMap kids)).length
    have hrest := ih hbelow
    have hforest : 0 < forest.length := by
      refine List.length_pos_iff.mpr ?_
      rintro rfl
      -- nothing is below nothing
      have hnone : ∀ depth, nodesAt kids depth [] = [] := by
        intro depth
        induction depth with
        | zero => rfl
        | succ depth ih => exact ih
      exact hbelow (hnone depth)
    rw [List.length_append]
    omega

/-! ## The layout -/

/-- **What is written of an item**: its parent's index, and the range of its children. -/
structure Slot (α : Type*) where
  item : α
  /-- The index of its parent, if it has one. -/
  parent : Option ℕ
  /-- The index of its first child. -/
  start : ℕ
  /-- The number of its children. -/
  count : ℕ

/-- The indices of the children. -/
def Slot.range (slot : Slot α) : List ℕ := List.range' slot.start slot.count

/-- **The layout of a queue**: the first item is written at the next index, and its children join
the queue, with the first indices behind it. -/
inductive Queued (kids : α → List α) : ℕ → List (α × Option ℕ) → List (Slot α) → Prop
  /-- Nothing waits. -/
  | nil (index : ℕ) : Queued kids index [] []
  /-- The first item is written. -/
  | cons {index : ℕ} {item : α} {parent : Option ℕ} {pending : List (α × Option ℕ)}
      {slots : List (Slot α)}
      (rest : Queued kids (index + 1)
        (pending ++ (kids item).map (fun child => (child, some index))) slots) :
      Queued kids index ((item, parent) :: pending)
        (⟨item, parent, index + 1 + pending.length, (kids item).length⟩ :: slots)

namespace Queued

variable {kids : α → List α} {index : ℕ} {pending : List (α × Option ℕ)} {slots : List (Slot α)}

theorem getElem?_pending (h : Queued kids index pending slots) :
    ∀ (position : ℕ) (waiting : α × Option ℕ), pending[position]? = some waiting →
      ∃ slot, slots[position]? = some slot ∧ slot.item = waiting.1 ∧ slot.parent = waiting.2 := by
  induction h with
  | nil index => exact fun _ _ hwaiting => nomatch hwaiting
  | cons rest ih =>
    intro position waiting hwaiting
    cases position with
    | zero =>
      obtain rfl := Option.some.inj hwaiting
      exact ⟨_, rfl, rfl, rfl⟩
    | succ position =>
      rw [List.getElem?_cons_succ] at hwaiting ⊢
      refine ih position waiting ?_
      rw [List.getElem?_append_left (List.getElem?_eq_some_iff.mp hwaiting).1]
      exact hwaiting

/-- **The ranges tile**: one behind the other they are all indices that follow those of the
queue. -/
theorem flatMap_range (h : Queued kids index pending slots) :
    ∃ below, slots.length = pending.length + below
      ∧ slots.flatMap Slot.range = List.range' (index + pending.length) below := by
  induction h with
  | nil index => exact ⟨0, rfl, rfl⟩
  | @cons index item parent pending slots rest ih =>
    obtain ⟨below, hlength, hranges⟩ := ih
    rw [List.length_append, List.length_map] at hlength hranges
    refine ⟨(kids item).length + below, ?_, ?_⟩
    · rw [List.length_cons, List.length_cons, hlength]
      omega
    · rw [List.flatMap_cons, hranges, List.length_cons]
      show List.range' (index + 1 + pending.length) (kids item).length ++ _ = _
      have hstart : index + (pending.length + 1) = index + 1 + pending.length := by omega
      rw [hstart, ← Nat.add_assoc (index + 1) pending.length, List.range'_append_1]

theorem count_eq (h : Queued kids index pending slots) :
    ∀ slot ∈ slots, slot.count = (kids slot.item).length := by
  induction h with
  | nil index => exact fun _ hslot => nomatch hslot
  | cons rest ih =>
    intro slot hslot
    rcases List.mem_cons.mp hslot with rfl | hrest
    · rfl
    · exact ih slot hrest

/-- **The children stand where the range says**, further on in the array. -/
theorem getElem?_children (h : Queued kids index pending slots) :
    ∀ (position : ℕ) (slot : Slot α), slots[position]? = some slot →
      ∃ first, slot.start = index + first ∧ position < first
        ∧ ∀ number child, (kids slot.item)[number]? = some child →
          ∃ below, slots[first + number]? = some below ∧ below.item = child := by
  induction h with
  | nil index => exact fun _ _ hslot => nomatch hslot
  | @cons index item parent pending slots rest ih =>
    intro position slot hslot
    cases position with
    | zero =>
      obtain rfl := Option.some.inj hslot
      refine ⟨1 + pending.length, Nat.add_assoc _ _ _, by omega, fun number child hchild => ?_⟩
      -- the child joined the queue behind those that waited
      have hwaiting : (pending ++ (kids item).map (fun child => (child, some index)))[
          pending.length + number]? = some (child, some index) := by
        rw [List.getElem?_append_right (Nat.le_add_right _ _), Nat.add_sub_cancel_left,
          List.getElem?_map, hchild, Option.map_some]
      obtain ⟨below, hbelow, hitem, -⟩ := rest.getElem?_pending _ _ hwaiting
      refine ⟨below, ?_, hitem⟩
      have hnext : 1 + pending.length + number = pending.length + number + 1 := by omega
      rw [hnext, List.getElem?_cons_succ]
      exact hbelow
    | succ position =>
      rw [List.getElem?_cons_succ] at hslot
      obtain ⟨first, hstart, hlt, hchildren⟩ := ih position slot hslot
      refine ⟨first + 1, by omega, by omega, fun number child hchild => ?_⟩
      obtain ⟨below, hbelow, hitem⟩ := hchildren number child hchild
      refine ⟨below, ?_, hitem⟩
      have hnext : first + 1 + number = first + number + 1 := Nat.add_right_comm _ _ _
      rw [hnext, List.getElem?_cons_succ]
      exact hbelow

/-- **The parent of an item** is the one it waited for, or the one whose range it is in. -/
theorem getElem?_parent (h : Queued kids index pending slots) :
    ∀ (position : ℕ) (slot : Slot α), slots[position]? = some slot →
      (∃ waiting, pending[position]? = some waiting ∧ slot.parent = waiting.2)
      ∨ (pending.length ≤ position ∧ ∃ above parent, slots[above]? = some parent
        ∧ slot.parent = some (index + above) ∧ index + position ∈ parent.range) := by
  induction h with
  | nil index => exact fun _ _ hslot => nomatch hslot
  | @cons index item parent pending slots rest ih =>
    intro position slot hslot
    cases position with
    | zero =>
      obtain rfl := Option.some.inj hslot
      exact Or.inl ⟨_, rfl, rfl⟩
    | succ position =>
      rw [List.getElem?_cons_succ] at hslot
      rcases ih position slot hslot with ⟨waiting, hwaiting, hparent⟩ | ⟨hle, above, parent', habove,
        hparent, hmem⟩
      · by_cases hlt : position < pending.length
        · rw [List.getElem?_append_left hlt] at hwaiting
          exact Or.inl ⟨waiting, by rw [List.getElem?_cons_succ]; exact hwaiting, hparent⟩
        · -- one of the children of the item just written
          rw [List.getElem?_append_right (Nat.not_lt.mp hlt), List.getElem?_map] at hwaiting
          obtain ⟨child, hchild, rfl⟩ := Option.map_eq_some_iff.mp hwaiting
          have hnumber := (List.getElem?_eq_some_iff.mp hchild).1
          refine Or.inr ⟨by rw [List.length_cons]; omega, 0, _, rfl, hparent, ?_⟩
          refine List.mem_range'_1.mpr ⟨?_, ?_⟩
          · show index + 1 + pending.length ≤ index + (position + 1)
            omega
          · show index + (position + 1) < index + 1 + pending.length + (kids item).length
            omega
      · refine Or.inr ⟨?_, above + 1, parent', by rw [List.getElem?_cons_succ]; exact habove, ?_, ?_⟩
        · rw [List.length_append] at hle
          rw [List.length_cons]
          omega
        · rw [hparent, Nat.add_right_comm, Nat.add_assoc]
        · rw [Nat.add_right_comm, Nat.add_assoc] at hmem
          exact hmem

/-! ## Level by level -/

theorem level (first : List (α × Option ℕ)) (h : Queued kids index (first ++ pending) slots) :
    ∃ index' below slots', Queued kids index' (pending ++ below) slots'
      ∧ below.map Prod.fst = (first.map Prod.fst).flatMap kids
      ∧ slots.map Slot.item = first.map Prod.fst ++ slots'.map Slot.item := by
  induction first generalizing index pending slots with
  | nil =>
    refine ⟨index, [], slots, ?_, rfl, rfl⟩
    rw [List.append_nil]
    exact h
  | cons waiting first ih =>
    rw [List.cons_append] at h
    obtain _ | ⟨rest⟩ := h
    next item parent slots =>
    rw [List.append_assoc] at rest
    obtain ⟨index', below, slots', hqueued, hbelow, hitems⟩ := ih rest
    rw [List.append_assoc] at hqueued
    refine ⟨index', _, slots', hqueued, ?_, ?_⟩
    · rw [List.map_append, hbelow, List.map_map, List.map_cons, List.flatMap_cons]
      show (kids item).map id ++ _ = _
      rw [List.map_id]
    · rw [List.map_cons, hitems]
      rfl

/-- **The order of the array is level by level.** -/
theorem map_item_eq_levels (depth : ℕ) (h : Queued kids index pending slots)
    (hbelow : nodesAt kids depth (pending.map Prod.fst) = []) :
    slots.map Slot.item = levels kids depth (pending.map Prod.fst) := by
  induction depth generalizing index pending slots with
  | zero =>
    obtain rfl := List.map_eq_nil_iff.mp hbelow
    cases h
    rfl
  | succ depth ih =>
    rw [← List.append_nil pending] at h
    obtain ⟨index', below, slots', hqueued, hkids, hitems⟩ := h.level pending
    rw [List.nil_append] at hqueued
    rw [hitems, ih hqueued (by rw [hkids]; exact hbelow), hkids]
    rfl

end Queued
