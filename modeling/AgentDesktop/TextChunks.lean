import Mathlib.Algebra.Order.BigOperators.Group.List
import AgentDesktop.PhysicalKeyboard
import AgentDesktop.TextInsertion

/-!
# The chunks of a typed text

A text is sent in chunks of UTF-16 units. Two loops go over it: one counts the chunks, and what
it counts is compared with the time that is left before anything is sent; the other makes them.
They agree on every text. What is made is the encoding of the text, cut between characters only,
and a text that is too long, or that has too many chunks for the time, presses no key.
-/

namespace AgentDesktop

/-- The loop of `text_chunks`, with the units of the current chunk. -/
def unitChunksFrom : List Char → List ℕ → List (List ℕ)
  | [], current => if current.isEmpty then [] else [current]
  | character :: rest, current =>
    let encoded := utf16Units character
    if !current.isEmpty && textChunkUtf16 < current.length + encoded.length then
      current :: unitChunksFrom rest encoded
    else unitChunksFrom rest (current ++ encoded)

/-- `text_chunks`, as the units that are sent. -/
def unitChunks (text : String) : Except AdapterError (List (List ℕ)) := do
  let _ ← plannedChunkCount text
  return unitChunksFrom text.toList []

/-! ## Units and characters -/

@[simp] theorem length_utf16Units (character : Char) :
    (utf16Units character).length = lenUtf16 character := by
  have hval : character.val < 0x10000 ↔ character.toNat < 0x10000 := Iff.rfl
  unfold utf16Units lenUtf16
  by_cases h : character.toNat < 0x10000
  · rw [if_pos h, if_pos (hval.mpr h)]
    rfl
  · rw [if_neg h, if_neg (mt hval.mp h)]
    rfl

@[simp] theorem length_flatMap_utf16Units (characters : List Char) :
    (characters.flatMap utf16Units).length = utf16Length characters := by
  induction characters with
  | nil => rfl
  | cons character rest ih =>
    rw [List.flatMap_cons, List.length_append, ih, length_utf16Units]
    rfl

theorem flatMap_utf16Units_eq_nil_iff (characters : List Char) :
    characters.flatMap utf16Units = [] ↔ characters = [] := by
  rw [← utf16Length_eq_zero_iff, ← length_flatMap_utf16Units, List.length_eq_zero_iff]

theorem isEmpty_flatMap_utf16Units (characters : List Char) :
    (characters.flatMap utf16Units).isEmpty = characters.isEmpty := by
  rw [Bool.eq_iff_iff, List.isEmpty_iff, List.isEmpty_iff, flatMap_utf16Units_eq_nil_iff]

/-- **The chunks of units encode the chunks of characters**, at every point of the loop. -/
theorem unitChunksFrom_flatMap (characters current : List Char) :
    unitChunksFrom characters (current.flatMap utf16Units)
      = (textChunksFrom characters current).map (List.flatMap utf16Units) := by
  induction characters generalizing current with
  | nil =>
    unfold unitChunksFrom textChunksFrom
    rw [isEmpty_flatMap_utf16Units]
    split_ifs <;> rfl
  | cons character rest ih =>
    have hone := ih [character]
    have hmore := ih (current ++ [character])
    rw [List.flatMap_singleton] at hone
    rw [List.flatMap_append, List.flatMap_singleton] at hmore
    unfold unitChunksFrom textChunksFrom
    dsimp only
    rw [isEmpty_flatMap_utf16Units, length_flatMap_utf16Units, length_utf16Units]
    split_ifs with hfull
    · rw [hone]
      rfl
    · exact hmore

/-- **The same chunks**, as units and as characters, or the same error. -/
theorem unitChunks_eq (text : String) :
    unitChunks text = (textChunks text).map (List.map (List.flatMap utf16Units)) := by
  unfold unitChunks textChunks
  cases plannedChunkCount text with
  | error error => rfl
  | ok count => exact congrArg Except.ok (unitChunksFrom_flatMap text.toList [])

/-! ## Where the chunks are cut -/

theorem ne_nil_of_mem_textChunksFrom (characters current : List Char) :
    ∀ chunk ∈ textChunksFrom characters current, chunk ≠ [] := by
  induction characters generalizing current with
  | nil =>
    unfold textChunksFrom
    cases current with
    | nil => exact fun _ hchunk => absurd hchunk List.not_mem_nil
    | cons head tail =>
      exact fun chunk hchunk => List.mem_singleton.mp hchunk ▸ List.cons_ne_nil head tail
  | cons character rest ih =>
    unfold textChunksFrom
    intro chunk hchunk
    split_ifs at hchunk with hfull
    · rcases List.mem_cons.mp hchunk with rfl | hrest
      · rw [Bool.and_eq_true] at hfull
        rintro rfl
        exact absurd hfull.1 (by decide)
      · exact ih [character] chunk hrest
    · exact ih (current ++ [character]) chunk hchunk

theorem not_isLowSurrogate_head (characters : List Char) :
    ∀ unit ∈ (characters.flatMap utf16Units).head?, isLowSurrogate unit = false := by
  cases characters with
  | nil => exact fun _ hunit => by cases hunit
  | cons character rest =>
    intro unit hunit
    rw [List.flatMap_cons] at hunit
    obtain ⟨hunits, -, hlow⟩ | ⟨high, low, hunits, hhigh, -, -⟩ := utf16Units_cases character
    · rw [hunits] at hunit
      exact Option.some.inj hunit ▸ hlow
    · rw [hunits] at hunit
      obtain rfl : high = unit := Option.some.inj hunit
      by_contra hlow
      rw [isHighSurrogate_of_isLowSurrogate (eq_true_of_ne_false hlow)] at hhigh
      exact Bool.false_ne_true hhigh

theorem not_isHighSurrogate_getLast (characters : List Char) :
    ∀ unit ∈ (characters.flatMap utf16Units).getLast?, isHighSurrogate unit = false := by
  rcases List.eq_nil_or_concat characters with rfl | ⟨front, character, rfl⟩
  · exact fun _ hunit => by cases hunit
  · intro unit hunit
    rw [List.concat_eq_append, List.flatMap_append, List.flatMap_singleton] at hunit
    obtain ⟨hunits, hhigh, -⟩ | ⟨high, low, hunits, -, hlow, -⟩ := utf16Units_cases character
    · rw [hunits, List.getLast?_append_of_ne_nil _ (List.cons_ne_nil _ _)] at hunit
      exact Option.some.inj hunit ▸ hhigh
    · rw [hunits, List.getLast?_append_of_ne_nil _ (List.cons_ne_nil _ _)] at hunit
      obtain rfl : low = unit := Option.some.inj hunit
      exact isHighSurrogate_of_isLowSurrogate hlow

theorem not_cutsPair_append (units : List ℕ) (characters : List Char) :
    ¬CutsPair (units ++ characters.flatMap utf16Units) units.length := by
  intro hcut
  have hnone := hcut.decode_drop
  rw [List.drop_left] at hnone
  unfold decodeUtf16 at hnone
  rw [decodeUtf16Units_flatMap] at hnone
  exact absurd hnone (Option.some_ne_none _)

/-! ## What is planned -/

theorem plannedChunkCountFrom_of_lt {characters : List Char} {units chunks current : ℕ}
    (hunits : units ≤ maxTextUtf16) (h : maxTextUtf16 < units + utf16Length characters) :
    plannedChunkCountFrom characters units chunks current = .error textTooLarge := by
  induction characters generalizing units chunks current with
  | nil => exact absurd h (by simpa [utf16Length] using hunits)
  | cons character rest ih =>
    have hcons : utf16Length (character :: rest) = lenUtf16 character + utf16Length rest := rfl
    rw [hcons, ← Nat.add_assoc] at h
    unfold plannedChunkCountFrom
    dsimp only
    by_cases hlarge : maxTextUtf16 < units + lenUtf16 character
    · rw [if_pos hlarge]
    · rw [if_neg hlarge, ih (Nat.not_lt.mp hlarge) h, ih (Nat.not_lt.mp hlarge) h, ite_self]

theorem exists_plannedChunkCountFrom {characters : List Char} {units : ℕ} (chunks current : ℕ)
    (h : units + utf16Length characters ≤ maxTextUtf16) :
    ∃ count, plannedChunkCountFrom characters units chunks current = .ok count := by
  induction characters generalizing units chunks current with
  | nil => exact ⟨_, rfl⟩
  | cons character rest ih =>
    have hcons : utf16Length (character :: rest) = lenUtf16 character + utf16Length rest := rfl
    rw [hcons, ← Nat.add_assoc] at h
    unfold plannedChunkCountFrom
    dsimp only
    rw [if_neg (Nat.not_lt.mpr ((Nat.le_add_right _ _).trans h))]
    split_ifs
    · exact ih (chunks + 1) (lenUtf16 character) h
    · exact ih chunks (current + lenUtf16 character) h

/-! ## Whole chunks -/

/-- **Whole chunks**: what the chunks of a text are. -/
structure WholeChunks (text : String) (chunks : List (List ℕ)) : Prop where
  /-- Together they are the encoding of the text. -/
  flatten : chunks.flatten = encodeUtf16 text
  /-- None is empty. -/
  ne_nil : ∀ chunk ∈ chunks, chunk ≠ []
  /-- None has more than thirty-two units. -/
  length_le : ∀ chunk ∈ chunks, chunk.length ≤ 32
  /-- None begins with the second half of a pair. -/
  head : ∀ chunk ∈ chunks, ∀ unit ∈ chunk.head?, isLowSurrogate unit = false
  /-- None ends with the first half of a pair. -/
  getLast : ∀ chunk ∈ chunks, ∀ unit ∈ chunk.getLast?, isHighSurrogate unit = false
  /-- No pair of the text is cut where one ends and the next begins. -/
  uncut : ∀ front back, chunks = front ++ back → ¬CutsPair (encodeUtf16 text) front.flatten.length
  /-- They are as many as were planned. -/
  count : plannedChunkCount text = .ok chunks.length

theorem flatten_map_flatMap (chunks : List (List Char)) :
    (chunks.map (List.flatMap utf16Units)).flatten = chunks.flatten.flatMap utf16Units := by
  induction chunks with
  | nil => rfl
  | cons chunk rest ih =>
    rw [List.map_cons, List.flatten_cons, List.flatten_cons, List.flatMap_append, ih]

theorem not_cutsPair_of_split {text : String} {chunks : List (List Char)}
    (h : chunks.flatten = text.toList) {front back : List (List ℕ)}
    (hsplit : chunks.map (List.flatMap utf16Units) = front ++ back) :
    ¬CutsPair (encodeUtf16 text) front.flatten.length := by
  obtain ⟨before, after, rfl, rfl, rfl⟩ := List.map_eq_append_iff.mp hsplit
  unfold encodeUtf16
  rw [← h, List.flatten_append, List.flatMap_append, ← flatten_map_flatMap before]
  exact not_cutsPair_append _ _

theorem wholeChunks_of_planned {text : String} {count : ℕ}
    (h : plannedChunkCount text = .ok count) :
    unitChunks text = .ok ((textChunksFrom text.toList []).map (List.flatMap utf16Units))
      ∧ WholeChunks text ((textChunksFrom text.toList []).map (List.flatMap utf16Units)) := by
  have hchunks : textChunks text = .ok (textChunksFrom text.toList []) := by
    unfold textChunks
    rw [h]
    rfl
  have hflatten : (textChunksFrom text.toList []).flatten = text.toList :=
    flatten_textChunksFrom text.toList []
  have hcount : count = 0 + (textChunksFrom text.toList []).length := plannedChunkCountFrom_eq h
  refine ⟨by rw [unitChunks_eq, hchunks]; rfl, ⟨?_, ?_, ?_, ?_, ?_, ?_, ?_⟩⟩
  · rw [flatten_map_flatMap, hflatten]
    rfl
  · refine List.forall_mem_map.mpr (fun chunk hchunk => ?_)
    exact mt (flatMap_utf16Units_eq_nil_iff chunk).mp
      (ne_nil_of_mem_textChunksFrom text.toList [] chunk hchunk)
  · refine List.forall_mem_map.mpr (fun chunk hchunk => ?_)
    rw [length_flatMap_utf16Units]
    exact utf16Length_textChunksFrom_le text.toList [] (Nat.zero_le _) chunk hchunk
  · exact List.forall_mem_map.mpr (fun chunk _ => not_isLowSurrogate_head chunk)
  · exact List.forall_mem_map.mpr (fun chunk _ => not_isHighSurrogate_getLast chunk)
  · exact fun front back hsplit => not_cutsPair_of_split hflatten hsplit
  · rw [h, hcount, Nat.zero_add, List.length_map]

theorem WholeChunks.length_le_units {text : String} {chunks : List (List ℕ)}
    (h : WholeChunks text chunks) : chunks.length ≤ (encodeUtf16 text).length := by
  have hpos : ∀ units ∈ chunks.map List.length, 1 ≤ units :=
    List.forall_mem_map.mpr (fun chunk hchunk => List.length_pos_of_ne_nil (h.ne_nil chunk hchunk))
  have hsum := List.length_le_sum_of_one_le _ hpos
  rw [List.length_map, ← List.length_flatten, h.flatten] at hsum
  exact hsum

/-- **A text is too long, or its chunks are whole.** -/
theorem unitChunks_cases (text : String) :
    (maxTextUtf16 < (encodeUtf16 text).length ∧ plannedChunkCount text = .error textTooLarge
        ∧ unitChunks text = .error textTooLarge)
      ∨ ((encodeUtf16 text).length ≤ maxTextUtf16
        ∧ ∃ chunks, unitChunks text = .ok chunks ∧ WholeChunks text chunks) := by
  have hlength : (encodeUtf16 text).length = 0 + utf16Length text.toList := by
    rw [Nat.zero_add]
    exact length_flatMap_utf16Units text.toList
  rcases Nat.lt_or_ge maxTextUtf16 (encodeUtf16 text).length with hlarge | hfits
  · have hplanned : plannedChunkCount text = .error textTooLarge :=
      plannedChunkCountFrom_of_lt (Nat.zero_le _) (hlength ▸ hlarge)
    refine .inl ⟨hlarge, hplanned, ?_⟩
    unfold unitChunks
    rw [hplanned]
    rfl
  · obtain ⟨count, hplanned⟩ := exists_plannedChunkCountFrom 0 0 (hlength ▸ hfits)
    exact .inr ⟨hfits, _, wholeChunks_of_planned hplanned⟩

/-- A pair does not fit in what is left of the first chunk. -/
example : ((unitChunks (String.ofList (List.replicate 31 'a') ++ "😀tail")).toOption.map
    (List.map List.length)) = some [31, 6] := by decide

/-! ## The time that is left -/

/-- **A text fits the time**: its chunks are made, and there is time for each of them. -/
def TextFits (text : String) (deadline : Deadline) (now : ℕ) : Prop :=
  ∃ chunks, unitChunks text = .ok chunks
    ∧ textChunkBudget * chunks.length ≤ deadline.remaining now

theorem preflightText_of_planned {text : String} {count : ℕ} (deadline : Deadline) (now : ℕ)
    (h : plannedChunkCount text = .ok count) (hcount : count ≤ u32Max) :
    preflightText text deadline now = .ok ()
      ↔ textChunkBudget * count ≤ deadline.remaining now := by
  unfold preflightText
  rw [h]
  dsimp only [bind, Except.bind]
  rw [if_neg (Nat.not_lt.mpr hcount)]
  dsimp only [pure, Except.pure]
  by_cases hfits : deadline.remaining now < textChunkBudget * count
  · rw [if_pos hfits]
    exact ⟨fun hok => (by cases hok), fun hle => absurd hle (Nat.not_le.mpr hfits)⟩
  · rw [if_neg hfits]
    exact ⟨fun _ => Nat.not_lt.mp hfits, fun _ => rfl⟩

/-- **The check before a text is sent** lets exactly the texts pass that fit the time. -/
theorem preflightText_eq_ok_iff (text : String) (deadline : Deadline) (now : ℕ) :
    preflightText text deadline now = .ok () ↔ TextFits text deadline now := by
  obtain ⟨-, hplanned, hchunks⟩ | ⟨hlength, chunks, hchunks, hwhole⟩ := unitChunks_cases text
  · unfold preflightText TextFits
    rw [hplanned, hchunks]
    exact ⟨fun hok => (by cases hok), fun ⟨_, hok, _⟩ => (by cases hok)⟩
  · have hcount : chunks.length ≤ u32Max :=
      (hwhole.length_le_units.trans hlength).trans (by decide)
    rw [preflightText_of_planned deadline now hwhole.count hcount]
    refine ⟨fun hfits => ⟨chunks, hchunks, hfits⟩, fun ⟨chunks', hchunks', hfits⟩ => ?_⟩
    rw [hchunks] at hchunks'
    exact Except.ok.inj hchunks' ▸ hfits

theorem exists_preflightText_error {text : String} {deadline : Deadline} {now : ℕ}
    (h : ¬TextFits text deadline now) :
    ∃ error, preflightText text deadline now = .error error := by
  cases hcheck : preflightText text deadline now with
  | ok answer => exact absurd ((preflightText_eq_ok_iff text deadline now).mp hcheck) h
  | error error => exact ⟨error, rfl⟩

variable {σ E : Type}

/-- **A text that does not fit** ends the program that sends it at its check. -/
theorem run_of_preflight_error {Ev : Type} {clock : σ → ℕ × σ} {text : String}
    {deadline : Deadline} {s : σ} (h : ¬TextFits text deadline (clock s).1)
    (f : Unit → Prog σ Ev AdapterError Unit) :
    ∃ error, (Prog.ask clock >>= fun now =>
      Prog.ofExcept (preflightText text deadline now) >>= f) s = (.error error, (clock s).2, []) := by
  obtain ⟨error, herror⟩ := exists_preflightText_error h
  refine ⟨error, ?_⟩
  rw [Prog.ask_bind_apply, herror]
  rfl

/-- **The total of the progress** is the number of the planned chunks. -/
theorem postText_eq (world : InputWorld σ) {text : String} {count : ℕ}
    (h : plannedChunkCount text = .ok count) (targetPid : ℤ) (deadline : Deadline)
    (verifyTarget : Deadline → σ → Except AdapterError Unit × σ) :
    world.postText text targetPid deadline verifyTarget
      = Prog.ask world.clock >>= fun now => Prog.ofExcept (preflightText text deadline now) >>=
        fun _ => world.postChunks targetPid deadline verifyTarget count
          (textChunksFrom text.toList []) .empty >>= fun _ => pure () := by
  have hcount : count = 0 + (textChunksFrom text.toList []).length := plannedChunkCountFrom_eq h
  have hchunks : textChunks text = .ok (textChunksFrom text.toList []) := by
    unfold textChunks
    rw [h]
    rfl
  unfold InputWorld.postText
  rw [hchunks, hcount, Nat.zero_add]
  rfl

/-- **Typed text is chunked without loss.** A text is refused because it is longer than the
limit, or its chunks are whole: they are its encoding, not empty, not larger than thirty-two
units, cut between characters only, and as many as were planned. The check before anything is
sent lets exactly the texts pass whose chunks fit the time; the progress counts to the planned
number; and a text that does not pass ends the programs that send it without an event. -/
theorem typed_text_chunked (world : InputWorld σ) (typing : TypingWorld σ E) (text : String) :
    ((maxTextUtf16 < (encodeUtf16 text).length ∧ plannedChunkCount text = .error textTooLarge
          ∧ unitChunks text = .error textTooLarge)
        ∨ ((encodeUtf16 text).length ≤ maxTextUtf16
          ∧ ∃ chunks, unitChunks text = .ok chunks ∧ WholeChunks text chunks))
      ∧ (∀ deadline now, preflightText text deadline now = .ok () ↔ TextFits text deadline now)
      ∧ (∀ count targetPid deadline verifyTarget, plannedChunkCount text = .ok count →
        world.postText text targetPid deadline verifyTarget
          = Prog.ask world.clock >>= fun now => Prog.ofExcept (preflightText text deadline now) >>=
            fun _ => world.postChunks targetPid deadline verifyTarget count
              (textChunksFrom text.toList []) .empty >>= fun _ => pure ())
      ∧ unitChunks text = (textChunks text).map (List.map (List.flatMap utf16Units))
      ∧ (∀ targetPid deadline verifyTarget s, ¬TextFits text deadline (world.clock s).1 →
        ∃ error, world.postText text targetPid deadline verifyTarget s
          = (.error error, (world.clock s).2, []))
      ∧ (∀ targetPid deadline verifyTarget s,
        ¬TextFits text deadline (typing.toInputWorld.clock s).1 →
          ∃ error, typing.synthesizeText text targetPid deadline verifyTarget s
            = (.error error, (typing.toInputWorld.clock s).2, []))
      ∧ ∀ fuel element policy deadline s,
        ¬TextFits text deadline (typing.toInputWorld.clock s).1 →
          ∃ error, typing.typeText fuel element text policy deadline s
            = (.error error, (typing.toInputWorld.clock s).2, []) := by
  refine ⟨unitChunks_cases text, preflightText_eq_ok_iff text, ?_, unitChunks_eq text, ?_, ?_, ?_⟩
  · exact fun count targetPid deadline verifyTarget hplanned =>
      postText_eq world hplanned targetPid deadline verifyTarget
  · exact fun _ _ _ _ hfits => run_of_preflight_error hfits _
  · exact fun _ _ _ _ hfits => run_of_preflight_error hfits _
  · exact fun _ _ _ _ _ hfits => run_of_preflight_error hfits _

end AgentDesktop
