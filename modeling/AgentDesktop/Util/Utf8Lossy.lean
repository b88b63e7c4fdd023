import Mathlib.Algebra.Order.Ring.Nat
import Mathlib.Data.List.Basic
import Mathlib.Data.Char

/-!
# Reading bytes as text

Bytes are read as UTF-8 from the left. Bytes that are part of no character are replaced by one
mark: a character that breaks off, with all that was read of it, or a byte that begins none. The
byte that broke it off is read anew.

A byte of the ASCII range always stands for itself: it is part of no longer character, and
nothing before it says how what follows is read. So text is cut at such bytes before it is read
or afterwards, with the same outcome (`decode_append_ascii`).
-/

namespace Utf8

/-- The mark that replaces what is no character. -/
def replacement : Char := '\uFFFD'

/-- **A character that is not read to its end.** -/
structure Pending where
  /-- How many bytes come after the next one. -/
  left : ℕ
  /-- What was read of the code. -/
  code : ℕ
  low : ℕ
  /-- The greatest next byte. -/
  high : ℕ
  /-- The next byte lies beyond the ASCII range. -/
  beyond : 0x80 ≤ low
  /-- The code will lie beyond it. -/
  wide : 0x80 ≤ (code * 64 + (low - 0x80)) * 64 ^ left

/-- A byte that begins a character: the characters it ends, and what is pending after it. -/
def first (byte : UInt8) : List Char × Option Pending :=
  if byte.toNat < 0x80 then ([Char.ofNat byte.toNat], none)
  else if h : 0xC2 ≤ byte.toNat ∧ byte.toNat ≤ 0xDF then
    ([], some ⟨0, byte.toNat - 0xC0, 0x80, 0xBF, le_rfl, by omega⟩)
  else if byte.toNat = 0xE0 then ([], some ⟨1, 0, 0xA0, 0xBF, by decide, by omega⟩)
  else if h : 0xE1 ≤ byte.toNat ∧ byte.toNat ≤ 0xEF then
    ([], some ⟨1, byte.toNat - 0xE0, 0x80, if byte.toNat = 0xED then 0x9F else 0xBF, le_rfl,
      by omega⟩)
  else if byte.toNat = 0xF0 then ([], some ⟨2, 0, 0x90, 0xBF, by decide, by omega⟩)
  else if h : 0xF1 ≤ byte.toNat ∧ byte.toNat ≤ 0xF4 then
    ([], some ⟨2, byte.toNat - 0xF0, 0x80, if byte.toNat = 0xF4 then 0x8F else 0xBF, le_rfl,
      by omega⟩)
  else ([replacement], none)

/-- The next byte of a character. -/
def Pending.next (pending : Pending) (byte : UInt8) (hlow : pending.low ≤ byte.toNat) :
    List Char × Option Pending :=
  let code := pending.code * 64 + (byte.toNat - 0x80)
  if hleft : pending.left = 0 then ([Char.ofNat code], none)
  else ([], some ⟨pending.left - 1, code, 0x80, 0xBF, le_rfl, by
    have hwide := pending.wide
    obtain ⟨left, hsucc⟩ := Nat.exists_eq_succ_of_ne_zero hleft
    rw [hsucc] at hwide ⊢
    refine hwide.trans ?_
    rw [Nat.succ_sub_one, Nat.sub_self, Nat.add_zero, Nat.mul_assoc, ← pow_succ']
    exact Nat.mul_le_mul_right _ (by omega)⟩)

/-- **A byte is read.** -/
def feed : Option Pending → UInt8 → List Char × Option Pending
  | none, byte => first byte
  | some pending, byte =>
    if h : pending.low ≤ byte.toNat ∧ byte.toNat ≤ pending.high then pending.next byte h.1
    else (replacement :: (first byte).1, (first byte).2)

/-- The bytes end. -/
def flush : Option Pending → List Char
  | none => []
  | some _ => [replacement]

/-- The text of some bytes, after a character that is not read to its end. -/
def decodeFrom (pending : Option Pending) : List UInt8 → List Char
  | [] => flush pending
  | byte :: rest => (feed pending byte).1 ++ decodeFrom (feed pending byte).2 rest

/-- **The text of some bytes.** -/
def decode (bytes : List UInt8) : List Char := decodeFrom none bytes

/-! ## The ASCII range -/

/-- The character of a byte. -/
def ofByte (byte : UInt8) : Char := Char.ofNat byte.toNat

theorem toNat_ofByte (byte : UInt8) : (ofByte byte).toNat = byte.toNat := by
  have hvalid : byte.toNat.isValidChar := Or.inl (byte.toNat_lt.trans (by decide))
  unfold ofByte
  rw [Char.ofNat, dif_pos hvalid]
  rfl

theorem ofByte_inj {byte byte' : UInt8} (h : ofByte byte = ofByte byte') : byte = byte' := by
  have htoNat := congrArg Char.toNat h
  rw [toNat_ofByte, toNat_ofByte] at htoNat
  exact UInt8.toNat.inj htoNat

theorem first_of_ascii {byte : UInt8} (h : byte.toNat < 0x80) :
    first byte = ([ofByte byte], none) := if_pos h

theorem feed_some (pending : Pending) (byte : UInt8) :
    feed (some pending) byte
      = if h : pending.low ≤ byte.toNat ∧ byte.toNat ≤ pending.high then pending.next byte h.1
        else (replacement :: (first byte).1, (first byte).2) := rfl

theorem feed_of_ascii (pending : Option Pending) {byte : UInt8} (h : byte.toNat < 0x80) :
    feed pending byte = (flush pending ++ [ofByte byte], none) := by
  cases pending with
  | none => exact first_of_ascii h
  | some pending =>
    have hbreak : ¬(pending.low ≤ byte.toNat ∧ byte.toNat ≤ pending.high) := fun hin =>
      absurd (pending.beyond.trans hin.1) (Nat.not_le.mpr h)
    rw [feed_some, dif_neg hbreak, first_of_ascii h]
    rfl

theorem decodeFrom_append_ascii (pending : Option Pending) (front : List UInt8) {byte : UInt8}
    (h : byte.toNat < 0x80) (rest : List UInt8) :
    decodeFrom pending (front ++ byte :: rest)
      = decodeFrom pending front ++ ofByte byte :: decode rest := by
  induction front generalizing pending with
  | nil =>
    show (feed pending byte).1 ++ decodeFrom (feed pending byte).2 rest = _
    rw [feed_of_ascii pending h, List.append_assoc]
    rfl
  | cons byte' front ih =>
    show (feed pending byte').1 ++ decodeFrom _ (front ++ byte :: rest) = _
    rw [ih, ← List.append_assoc]
    rfl

/-- **Text may be cut at an ASCII character.** -/
theorem decode_append_ascii (front : List UInt8) {byte : UInt8} (h : byte.toNat < 0x80)
    (rest : List UInt8) :
    decode (front ++ byte :: rest) = decode front ++ ofByte byte :: decode rest :=
  decodeFrom_append_ascii none front h rest

theorem decode_cons_ascii {byte : UInt8} (h : byte.toNat < 0x80) (rest : List UInt8) :
    decode (byte :: rest) = ofByte byte :: decode rest := decode_append_ascii [] h rest

theorem decode_of_ascii {bytes : List UInt8} (h : ∀ byte ∈ bytes, byte.toNat < 0x80)
    (rest : List UInt8) : decode (bytes ++ rest) = bytes.map ofByte ++ decode rest := by
  induction bytes with
  | nil => rfl
  | cons byte bytes ih =>
    rw [List.cons_append, decode_cons_ascii (h byte List.mem_cons_self),
      ih (fun byte hbyte => h byte (List.mem_cons_of_mem _ hbyte))]
    rfl

/-! ## No ASCII character is made up -/

theorem toNat_ofNat_of_wide {code : ℕ} (h : 0x80 ≤ code) :
    0x80 ≤ (Char.ofNat code).toNat ∨ Char.ofNat code = '\x00' := by
  by_cases hvalid : code.isValidChar
  · rw [Char.ofNat, dif_pos hvalid]
    exact Or.inl h
  · rw [Char.ofNat, dif_neg hvalid]
    exact Or.inr rfl

/-- A character of the ASCII range, but for the first. -/
def IsAscii (character : Char) : Prop := 0 < character.toNat ∧ character.toNat < 0x80

theorem not_isAscii_of_wide {code : ℕ} (h : 0x80 ≤ code) : ¬IsAscii (Char.ofNat code) := by
  rintro ⟨hpos, hlow⟩
  rcases toNat_ofNat_of_wide h with hwide | hnul
  · omega
  · rw [hnul] at hpos
    exact absurd hpos (by decide)

theorem eq_ofByte_of_mem_first {byte : UInt8} {character : Char} (hascii : IsAscii character)
    (h : character ∈ (first byte).1) : character = ofByte byte := by
  have hmark : ¬IsAscii replacement := fun hmark => absurd hmark.2 (by decide)
  unfold first at h
  split_ifs at h
  · exact List.mem_singleton.mp h
  all_goals first
    | exact absurd h List.not_mem_nil
    | exact absurd (List.mem_singleton.mp h ▸ hascii) hmark

theorem eq_ofByte_of_mem_feed {pending : Option Pending} {byte : UInt8} {character : Char}
    (hascii : IsAscii character) (h : character ∈ (feed pending byte).1) :
    character = ofByte byte := by
  cases pending with
  | none => exact eq_ofByte_of_mem_first hascii h
  | some pending =>
    rw [feed_some] at h
    split_ifs at h with hin
    · unfold Pending.next at h
      dsimp only at h
      split_ifs at h with hleft
      · have hwide := pending.wide
        rw [hleft, pow_zero, Nat.mul_one] at hwide
        have hcode : 0x80 ≤ pending.code * 64 + (byte.toNat - 0x80) := by omega
        exact absurd (List.mem_singleton.mp h ▸ hascii) (not_isAscii_of_wide hcode)
      · exact absurd h List.not_mem_nil
    · rcases List.mem_cons.mp h with rfl | h
      · exact absurd hascii.2 (by decide)
      · exact eq_ofByte_of_mem_first hascii h

/-- **An ASCII character of the text is a byte of it.** -/
theorem exists_byte_of_mem_decodeFrom {pending : Option Pending} {bytes : List UInt8}
    {character : Char} (hascii : IsAscii character) (h : character ∈ decodeFrom pending bytes) :
    ∃ byte ∈ bytes, character = ofByte byte := by
  induction bytes generalizing pending with
  | nil =>
    cases pending with
    | none => exact absurd h List.not_mem_nil
    | some pending =>
      rw [List.mem_singleton.mp h] at hascii
      exact absurd hascii.2 (by decide)
  | cons byte rest ih =>
    rcases List.mem_append.mp h with h | h
    · exact ⟨byte, List.mem_cons_self, eq_ofByte_of_mem_feed hascii h⟩
    · obtain ⟨other, hother, heq⟩ := ih h
      exact ⟨other, List.mem_cons_of_mem _ hother, heq⟩

theorem notMem_decode (byte : UInt8) (hascii : 0 < byte.toNat ∧ byte.toNat < 0x80)
    {bytes : List UInt8} (h : byte ∉ bytes) : ofByte byte ∉ decode bytes := by
  intro hmem
  have hchar : IsAscii (ofByte byte) := by
    unfold IsAscii
    rw [toNat_ofByte]
    exact hascii
  obtain ⟨other, hother, heq⟩ := exists_byte_of_mem_decodeFrom hchar hmem
  exact h (ofByte_inj heq ▸ hother)

/-! ## Nothing is read as nothing -/

theorem first_ne (byte : UInt8) : (first byte).1 ≠ [] ∨ (first byte).2.isSome := by
  unfold first
  split_ifs <;> first | exact Or.inr rfl | exact Or.inl (List.cons_ne_nil _ _)

theorem feed_ne (pending : Option Pending) (byte : UInt8) :
    (feed pending byte).1 ≠ [] ∨ (feed pending byte).2.isSome := by
  cases pending with
  | none => exact first_ne byte
  | some pending =>
    rw [feed_some]
    split_ifs with hin
    · unfold Pending.next
      dsimp only
      split_ifs
      · exact Or.inl (List.cons_ne_nil _ _)
      · exact Or.inr rfl
    · exact Or.inl (List.cons_ne_nil _ _)

theorem decodeFrom_ne_nil {pending : Option Pending} {bytes : List UInt8}
    (h : pending.isSome ∨ bytes ≠ []) : decodeFrom pending bytes ≠ [] := by
  induction bytes generalizing pending with
  | nil =>
    cases pending with
    | none => exact absurd rfl (h.resolve_left Bool.false_ne_true)
    | some pending => exact List.cons_ne_nil _ _
  | cons byte rest ih =>
    intro hnil
    have hparts := List.append_eq_nil_iff.mp hnil
    rcases feed_ne pending byte with hmade | hpending
    · exact hmade hparts.1
    · exact ih (Or.inl hpending) hparts.2

theorem decode_ne_nil {bytes : List UInt8} (h : bytes ≠ []) : decode bytes ≠ [] :=
  decodeFrom_ne_nil (Or.inr h)

end Utf8
