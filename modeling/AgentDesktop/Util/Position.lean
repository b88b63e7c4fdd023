import Mathlib.Data.List.Infix

/-!
# Where a pattern occurs first

A pattern is looked for from the left. What follows an occurrence does not matter: once it is
found in the beginning of a list, it is found at the same place in the whole. An item that the
pattern does not begin with is passed over.

Two items may separate lines, as a carriage return and a line feed do. After lines that are not
empty, the empty line that is found is the one that ends them (`position_joinLines`).
-/

namespace List

variable {α : Type*} [BEq α]

/-- **Where a pattern occurs first.** -/
def position (pattern : List α) : List α → Option ℕ
  | [] => if pattern.isEmpty then some 0 else none
  | item :: rest =>
    if pattern.isPrefixOf (item :: rest) then some 0
    else (position pattern rest).map (fun place => place + 1)

variable [LawfulBEq α] {pattern l r : List α} {place : ℕ}

theorem le_length_of_position (h : position pattern l = some place) :
    place + pattern.length ≤ l.length := by
  induction l generalizing place with
  | nil =>
    unfold position at h
    split_ifs at h with hempty
    rw [List.isEmpty_iff.mp hempty, ← Option.some.inj h]
    rfl
  | cons item rest ih =>
    unfold position at h
    split_ifs at h with hhere
    · rw [← Option.some.inj h, Nat.zero_add]
      exact (List.isPrefixOf_iff_prefix.mp hhere).length_le
    · obtain ⟨before, hbefore, rfl⟩ := Option.map_eq_some_iff.mp h
      have hle := ih hbefore
      rw [List.length_cons]
      omega

/-- **What follows an occurrence does not matter.** -/
theorem position_append (h : position pattern l = some place) (r : List α) :
    position pattern (l ++ r) = some place := by
  induction l generalizing place with
  | nil =>
    unfold position at h
    split_ifs at h with hempty
    rw [List.isEmpty_iff.mp hempty, ← Option.some.inj h, List.nil_append]
    cases r with
    | nil => rfl
    | cons item rest => rfl
  | cons item rest ih =>
    have hfront : item :: rest <+: item :: (rest ++ r) := List.prefix_append (item :: rest) r
    unfold position at h
    show position pattern (item :: (rest ++ r)) = some place
    unfold position
    split_ifs at h with hhere
    · have hmore : pattern.isPrefixOf (item :: (rest ++ r)) = true :=
        List.isPrefixOf_iff_prefix.mpr ((List.isPrefixOf_iff_prefix.mp hhere).trans hfront)
      rw [if_pos hmore]
      exact h
    · obtain ⟨before, hbefore, rfl⟩ := Option.map_eq_some_iff.mp h
      have hmore : pattern.isPrefixOf (item :: (rest ++ r)) ≠ true := by
        intro hmore
        -- the pattern is not longer than the list, where it was found further on
        have hle := le_length_of_position hbefore
        refine hhere (List.isPrefixOf_iff_prefix.mpr
          (List.prefix_of_prefix_length_le (List.isPrefixOf_iff_prefix.mp hmore) hfront ?_))
        rw [List.length_cons]
        omega
      rw [if_neg hmore, ih hbefore]
      rfl

theorem position_self (pattern r : List α) : position pattern (pattern ++ r) = some 0 := by
  have hhere : pattern.isPrefixOf (pattern ++ r) = true :=
    List.isPrefixOf_iff_prefix.mpr (List.prefix_append pattern r)
  cases hlist : pattern ++ r with
  | nil =>
    rw [(List.append_eq_nil_iff.mp hlist).1]
    rfl
  | cons item rest =>
    unfold position
    rw [← hlist, if_pos hhere]

/-- **An item the pattern does not begin with is passed over.** -/
theorem position_cons_of_not_starts {item : α} (h : ¬pattern <+: item :: l) :
    position pattern (item :: l) = (position pattern l).map (fun place => place + 1) := by
  have hnot : pattern.isPrefixOf (item :: l) ≠ true := fun hhere =>
    h (List.isPrefixOf_iff_prefix.mp hhere)
  rw [position, if_neg hnot]

theorem position_append_of_notMem {first : α} {others : List α} (h : first ∉ l) (r : List α) :
    position (first :: others) (l ++ r)
      = (position (first :: others) r).map (fun place => l.length + place) := by
  induction l with
  | nil =>
    rw [List.nil_append]
    show _ = (position (first :: others) r).map (fun place => 0 + place)
    rw [funext Nat.zero_add, Option.map_id']
  | cons item rest ih =>
    rw [List.mem_cons, not_or] at h
    have hnot : ¬first :: others <+: item :: (rest ++ r) :=
      fun hhere => h.1 (List.cons_prefix_cons.mp hhere).1
    rw [List.cons_append, position_cons_of_not_starts hnot, ih h.2, Option.map_map]
    refine congrArg (fun f => Option.map f _) (funext fun place => ?_)
    show rest.length + place + 1 = (rest.length + 1) + place
    omega

/-! ## Lines -/

section Lines

variable {α : Type*} {cr lf : α}

/-- Lines with what separates two of them in between. -/
def joinLines (cr lf : α) : List (List α) → List α
  | [] => []
  | [line] => line
  | line :: next :: rest => line ++ cr :: lf :: joinLines cr lf (next :: rest)

theorem exists_joinLines_eq_cons {line : List α} (hline : line ≠ [] ∧ cr ∉ line)
    (rest : List (List α)) :
    ∃ item others, item ≠ cr ∧ joinLines cr lf (line :: rest) = item :: others := by
  cases line with
  | nil => exact absurd rfl hline.1
  | cons item others =>
    have hitem : item ≠ cr := fun heq => hline.2 (heq ▸ List.mem_cons_self)
    cases rest with
    | nil => exact ⟨item, others, hitem, rfl⟩
    | cons next rest => exact ⟨item, _, hitem, rfl⟩

theorem flatMap_end (line : List α) (rest : List (List α)) :
    (line :: rest).flatMap (fun line => line ++ [cr, lf])
      = joinLines cr lf (line :: rest) ++ [cr, lf] := by
  induction rest generalizing line with
  | nil =>
    rw [List.flatMap_cons, List.flatMap_nil, List.append_nil]
    rfl
  | cons next rest ih =>
    rw [List.flatMap_cons, ih, joinLines, List.append_assoc, List.append_assoc]
    rfl

/-- **The empty line after some lines is the first one.** -/
theorem position_joinLines [BEq α] [LawfulBEq α] (hne : lf ≠ cr) {lines : List (List α)}
    (hlines : ∀ line ∈ lines, line ≠ [] ∧ cr ∉ line) (hsome : lines ≠ []) (body : List α) :
    position [cr, lf, cr, lf] (joinLines cr lf lines ++ ([cr, lf, cr, lf] ++ body))
      = some (joinLines cr lf lines).length := by
  induction lines with
  | nil => exact absurd rfl hsome
  | cons line rest ih =>
    have hline := hlines line List.mem_cons_self
    have hrest : ∀ line ∈ rest, line ≠ [] ∧ cr ∉ line :=
      fun line hmem => hlines line (List.mem_cons_of_mem _ hmem)
    cases rest with
    | nil =>
      show position _ (line ++ _) = some line.length
      rw [position_append_of_notMem hline.2, position_self]
      rfl
    | cons next rest =>
      have hbegin : ∃ item others, item ≠ cr ∧ joinLines cr lf (next :: rest) = item :: others :=
        exists_joinLines_eq_cons (hrest next List.mem_cons_self) rest
      obtain ⟨item, others, hitem, hjoin⟩ := hbegin
      have hfound := ih hrest (List.cons_ne_nil _ _)
      rw [hjoin] at hfound
      -- the two items after the line begin no empty line, as another line follows
      have hreturn :
          ¬[cr, lf, cr, lf] <+: cr :: lf :: (item :: others ++ ([cr, lf, cr, lf] ++ body)) :=
        fun hpre => hitem (List.cons_prefix_cons.mp
          (List.cons_prefix_cons.mp (List.cons_prefix_cons.mp hpre).2).2).1.symm
      have hfeed : ¬[cr, lf, cr, lf] <+: lf :: (item :: others ++ ([cr, lf, cr, lf] ++ body)) :=
        fun hpre => hne (List.cons_prefix_cons.mp hpre).1.symm
      rw [joinLines, hjoin, List.append_assoc, position_append_of_notMem hline.2]
      show (position _ (cr :: lf :: (item :: others ++ ([cr, lf, cr, lf] ++ body)))).map _ = _
      rw [position_cons_of_not_starts hreturn, position_cons_of_not_starts hfeed, hfound]
      show some (line.length + ((item :: others).length + 1 + 1)) = _
      rw [List.length_append]
      rfl

end Lines

end List
