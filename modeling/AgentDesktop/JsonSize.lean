import Mathlib.Algebra.Ring.Nat
import AgentDesktop.Error

/-!
# The size of a JSON text

A value is written without white space. Its size in bytes is computed from the
value: brackets, commas and colons, the digits of a number, and the characters of a
string with those that are escaped. How long the text of a fraction is is the
business of the JSON library.
-/

namespace AgentDesktop

/-- **The text of a fraction**, as long as the JSON library makes it. -/
class FloatText where
  /-- Its length in bytes. -/
  size : ℚ → ℕ

namespace Json

/-- The size of a character in a string: the quote, the backslash and five control characters
are escaped by a letter, the other control characters by their code. -/
def charSize (character : Char) : ℕ :=
  if character.toNat ∈ [0x22, 0x5c, 0x08, 0x09, 0x0a, 0x0c, 0x0d] then 2
  else if character.toNat < 0x20 then 6
  else character.utf8Size

/-- The size of a string, with its quotes. -/
def textSize (text : String) : ℕ := 2 + (text.toList.map charSize).sum

/-- The size of what stands between brackets, from the sizes of the items with the comma
after each: the last one has none. -/
def bracketed (itemSizes : ℕ) : ℕ := if itemSizes = 0 then 2 else itemSizes + 1

theorem bracketed_le (itemSizes : ℕ) : bracketed itemSizes ≤ itemSizes + 2 := by
  unfold bracketed
  split <;> omega

theorem le_bracketed (itemSizes : ℕ) : itemSizes ≤ bracketed itemSizes := by
  unfold bracketed
  split <;> omega

variable [FloatText]

mutual

/-- `serialized_size`. -/
def size : Json → ℕ
  | null => 4
  | bool value => if value then 4 else 5
  | num value => (toString value).length
  | real value => FloatText.size value
  | str text => textSize text
  | arr items => bracketed (itemsSize items)
  | obj fields => bracketed (fieldsSize fields)

/-- The size of the items of an array, with a comma after each. -/
def itemsSize : List Json → ℕ
  | [] => 0
  | item :: rest => item.size + 1 + itemsSize rest

/-- The size of the fields of an object, with a comma after each. -/
def fieldsSize : List (String × Json) → ℕ
  | [] => 0
  | (key, item) :: rest => textSize key + 1 + item.size + 1 + fieldsSize rest

end

/-- `serialized_fits`: the writer fails when it would pass the limit. -/
def fits (value : Json) (limit : ℕ) : Bool := value.size ≤ limit

/-! ## The size of each kind of value -/

theorem size_bool (value : Bool) : (bool value).size = if value then 4 else 5 := by
  rw [size]

theorem size_str (text : String) : (str text).size = textSize text := by
  rw [size]

omit [FloatText] in
theorem textSize_append (text text' : String) :
    textSize (text ++ text') + 2 = textSize text + textSize text' := by
  unfold textSize
  rw [String.toList_append, List.map_append, List.sum_append]
  omega

theorem size_obj_cons (key : String) (item : Json) (fields : List (String × Json)) :
    (obj ((key, item) :: fields)).size
      = textSize key + item.size + 2 + fieldsSize fields + 1 := by
  rw [size, fieldsSize, bracketed]
  split <;> omega

theorem fieldsSize_nil : fieldsSize [] = 0 := by
  rw [fieldsSize]

theorem fieldsSize_cons (key : String) (item : Json) (fields : List (String × Json)) :
    fieldsSize ((key, item) :: fields) = textSize key + item.size + 2 + fieldsSize fields := by
  rw [fieldsSize]
  omega

theorem size_natCast_le {n digits : ℕ} (hdigits : 0 < digits) (h : n < 10 ^ digits) :
    (num n).size ≤ digits := by
  show (toString (n : ℤ)).length ≤ digits
  exact (Nat.length_repr_le_iff hdigits).mpr h

theorem itemsSize_append (items items' : List Json) :
    itemsSize (items ++ items') = itemsSize items + itemsSize items' := by
  induction items with
  | nil => simp [itemsSize]
  | cons item rest ih =>
    simp only [List.cons_append, itemsSize, ih]
    omega

end Json

end AgentDesktop
