import Mathlib.Algebra.Order.Group.Nat
import Mathlib.Data.List.Basic

/-!
# Frames of a stream

A stream is cut into frames at a delimiter that ends each of them, and a frame has at most so many
items: one that would be longer is cut there, and lacks its delimiter. Whoever reads a frame gets
the stream in pieces and must stop at the same place, however it is cut.

So a frame is defined on the whole stream, and three rules say how it is found piece by piece: a
piece in which the frame ends settles it; a piece in which it does not end is a part of it; and
what a frame takes and what it leaves are the stream.
-/

namespace List

variable {α : Type*} [DecidableEq α]

/-- **The first frame of a stream**: what comes up to the delimiter, with it, and at most so many
items. -/
def frame (delimiter : α) : ℕ → List α → List α
  | 0, _ => []
  | _ + 1, [] => []
  | room + 1, item :: rest =>
    if item = delimiter then [item] else item :: frame delimiter room rest

/-- Whether the first frame of a stream ends in what is there of it. -/
def FrameEnds (delimiter : α) (room : ℕ) (items : List α) : Prop :=
  delimiter ∈ items.take room ∨ room ≤ items.length

variable {delimiter : α}

theorem frame_cons (room : ℕ) (item : α) (rest : List α) :
    frame delimiter (room + 1) (item :: rest)
      = if item = delimiter then [item] else item :: frame delimiter room rest := rfl

@[simp] theorem frame_nil (room : ℕ) : frame delimiter room [] = [] := by cases room <;> rfl

theorem frame_ne_nil {room : ℕ} (hroom : room ≠ 0) {items : List α} (hitems : items ≠ []) :
    frame delimiter room items ≠ [] := by
  obtain ⟨room, rfl⟩ := Nat.exists_eq_succ_of_ne_zero hroom
  obtain ⟨item, rest, rfl⟩ := List.exists_cons_of_ne_nil hitems
  unfold frame
  split_ifs <;> exact List.cons_ne_nil _ _

/-- **A piece without the delimiter is a part of the frame**, and leaves less room. -/
theorem frame_append_of_notMem {items : List α} (hitems : delimiter ∉ items) {room : ℕ}
    (hroom : items.length ≤ room) (more : List α) :
    frame delimiter room (items ++ more)
      = items ++ frame delimiter (room - items.length) more := by
  induction items generalizing room with
  | nil => rfl
  | cons item rest ih =>
    obtain ⟨room, rfl⟩ := Nat.exists_eq_succ_of_ne_zero
      (Nat.pos_iff_ne_zero.mp (Nat.lt_of_lt_of_le (Nat.succ_pos rest.length) hroom))
    have hne : item ≠ delimiter := fun heq => hitems (heq ▸ List.mem_cons_self)
    have hrest : delimiter ∉ rest := fun hmem => hitems (List.mem_cons_of_mem _ hmem)
    rw [List.cons_append, Nat.succ_eq_add_one, frame_cons, if_neg hne,
      ih hrest (Nat.le_of_succ_le_succ hroom), List.length_cons, Nat.add_sub_add_right,
      List.cons_append]

theorem frame_of_notMem {items : List α} (hitems : delimiter ∉ items) {room : ℕ}
    (hroom : items.length ≤ room) : frame delimiter room items = items := by
  have hwhole := frame_append_of_notMem hitems hroom []
  rwa [List.append_nil, frame_nil, List.append_nil] at hwhole

/-- **A piece in which the frame ends settles it.** -/
theorem frame_append_of_frameEnds {room : ℕ} {items : List α}
    (h : FrameEnds delimiter room items) (more : List α) :
    frame delimiter room (items ++ more) = frame delimiter room items := by
  induction items generalizing room with
  | nil =>
    obtain hmem | hroom := h
    · simp at hmem
    · obtain rfl := Nat.le_zero.mp hroom
      rfl
  | cons item rest ih =>
    cases room with
    | zero => rfl
    | succ room =>
      rw [List.cons_append, frame_cons, frame_cons]
      split_ifs with hitem
      · rfl
      · congr 1
        refine ih (h.imp (fun hmem => ?_) Nat.le_of_succ_le_succ)
        rw [List.take_succ_cons, List.mem_cons] at hmem
        exact hmem.resolve_left (Ne.symm hitem)

omit [DecidableEq α] in
theorem notMem_of_not_frameEnds {room : ℕ} {items : List α} (h : ¬FrameEnds delimiter room items) :
    delimiter ∉ items ∧ items.length < room := by
  obtain ⟨hmem, hroom⟩ := not_or.mp h
  have hroom : items.length < room := not_le.mp hroom
  rw [List.take_of_length_le hroom.le] at hmem
  exact ⟨hmem, hroom⟩

/-- **A frame ends with its delimiter, or fills its room**, if it ends in what is there. -/
theorem getLast?_frame {room : ℕ} {items : List α} (h : FrameEnds delimiter room items) :
    (frame delimiter room items).getLast? = some delimiter
      ∨ (frame delimiter room items).length = room := by
  induction items generalizing room with
  | nil =>
    obtain hmem | hroom := h
    · simp at hmem
    · obtain rfl := Nat.le_zero.mp hroom
      exact Or.inr rfl
  | cons item rest ih =>
    cases room with
    | zero => exact Or.inr rfl
    | succ room =>
      unfold frame
      split_ifs with hitem
      · exact Or.inl (by rw [hitem]; rfl)
      · have hrest : FrameEnds delimiter room rest := by
          refine h.imp (fun hmem => ?_) Nat.le_of_succ_le_succ
          rw [List.take_succ_cons, List.mem_cons] at hmem
          exact hmem.resolve_left (Ne.symm hitem)
        rcases ih hrest with hlast | hlength
        · refine Or.inl ?_
          rw [List.getLast?_cons, hlast]
          rfl
        · exact Or.inr (congrArg Nat.succ hlength)

/-- **The delimiter is at the end of a frame only.** -/
theorem notMem_dropLast_frame (room : ℕ) (items : List α) :
    delimiter ∉ (frame delimiter room items).dropLast := by
  induction items generalizing room with
  | nil => simp
  | cons item rest ih =>
    cases room with
    | zero => simp [frame]
    | succ room =>
      unfold frame
      split_ifs with hitem
      · simp
      · cases hframe : frame delimiter room rest with
        | nil => simp
        | cons next more =>
          rw [List.dropLast_cons_cons, List.mem_cons, not_or]
          refine ⟨Ne.symm hitem, ?_⟩
          rw [← hframe]
          exact ih room

theorem take_findIdx_eq_frame (room : ℕ) (items : List α) :
    items.take (min (((items.findIdx? (· = delimiter)).map (· + 1)).getD items.length) room)
      = frame delimiter room items := by
  induction items generalizing room with
  | nil => simp
  | cons item rest ih =>
    cases room with
    | zero => simp [frame]
    | succ room =>
      unfold frame
      rw [List.findIdx?_cons]
      by_cases hitem : item = delimiter
      · simp [hitem]
      · have hcount : (((rest.findIdx? (· = delimiter)).map (· + 1)).map (· + 1)).getD
            (rest.length + 1)
            = ((rest.findIdx? (· = delimiter)).map (· + 1)).getD rest.length + 1 := by
          cases rest.findIdx? (· = delimiter) <;> rfl
        simp only [hitem, decide_false, if_false, Bool.false_eq_true, List.length_cons, hcount]
        rw [Nat.add_min_add_right, List.take_succ_cons, ih room]

end List
