import Mathlib.Data.Int.Log
import Mathlib.Data.Rat.Floor
import AgentDesktop.Geometry

/-!
# Numbers in texts

Controls with a numeric value are compared as numbers: a text is read as a
decimal number and rounded to the nearest floating-point number, or read as an
integer of 128 bits.
-/

namespace AgentDesktop

/-! ## Rounding -/

/-- The nearest integer, the even one of two. -/
def roundHalfEven (q : ℚ) : ℤ :=
  let below := ⌊q⌋
  let rest := q - below
  if rest < 1 / 2 then below
  else if 1 / 2 < rest then below + 1
  else if below % 2 = 0 then below
  else below + 1

/-- The nearest floating-point number of 64 bits; what is too large is not
finite. -/
def roundToF64 (q : ℚ) : F64 :=
  if q = 0 then .finite 0
  else
    let exponent := max (Int.log 2 |q|) (-1022)
    let unit : ℚ := 2 ^ (exponent - 52)
    let rounded := roundHalfEven (q / unit) * unit
    if |rounded| < 2 ^ 1024 then .finite rounded else .notFinite

/-! ## Reading -/

/-- The value of a character as a decimal digit. -/
def digitValue (character : Char) : Option ℕ :=
  if 48 ≤ character.toNat ∧ character.toNat ≤ 57 then some (character.toNat - 48) else none

/-- The digits a text begins with, and what follows them. -/
def takeDigits : List Char → List ℕ × List Char
  | [] => ([], [])
  | character :: rest =>
    match digitValue character with
    | some digit => (digit :: (takeDigits rest).1, (takeDigits rest).2)
    | none => ([], character :: rest)

/-- The number some digits stand for. -/
def digitsValue (digits : List ℕ) : ℕ := digits.foldl (fun value digit => 10 * value + digit) 0

/-- A sign, if the text begins with one: whether it is a minus, and what
follows. -/
def takeSign : List Char → Bool × List Char
  | '-' :: rest => (true, rest)
  | '+' :: rest => (false, rest)
  | text => (false, text)

/-- The exponent a text consists of; nothing is the exponent zero. -/
def readExponent : List Char → Option ℤ
  | [] => some 0
  | character :: rest =>
    if character == 'e' || character == 'E' then
      let (negative, text) := takeSign rest
      let (digits, after) := takeDigits text
      if digits.isEmpty || !after.isEmpty then none
      else some (if negative then -digitsValue digits else digitsValue digits)
    else none

/-- The value of an unsigned decimal number: digits, at least one of them, with a
point before, between or after them, and an exponent. -/
def readDecimal (text : List Char) : Option ℚ :=
  let (whole, rest) := takeDigits text
  let (fraction, rest) := match rest with
    | '.' :: rest => takeDigits rest
    | rest => ([], rest)
  if whole.isEmpty && fraction.isEmpty then none
  else
    (readExponent rest).map (fun exponent =>
      (digitsValue (whole ++ fraction) : ℚ) * (10 : ℚ) ^ (exponent - (fraction.length : ℤ)))

/-- `str::parse::<f64>`. -/
def parseF64 (text : String) : Option F64 :=
  let (negative, unsigned) := takeSign text.toList
  let word := String.ofList (unsigned.map toAsciiLowercase)
  if word == "inf" || word == "infinity" || word == "nan" then some .notFinite
  else (readDecimal unsigned).map (fun value => roundToF64 (if negative then -value else value))

/-- `str::parse::<i128>`. -/
def parseI128 (text : String) : Option ℤ :=
  let (negative, unsigned) := takeSign text.toList
  let (digits, rest) := takeDigits unsigned
  if digits.isEmpty || !rest.isEmpty then none
  else
    let value : ℤ := if negative then -digitsValue digits else digitsValue digits
    if -2 ^ 127 ≤ value ∧ value < 2 ^ 127 then some value else none

/-! ## Comparing -/

/-- The finite number a text stands for. -/
def numericText (text : String) : Option ℚ :=
  match parseF64 text with
  | some (.finite value) => some value
  | some .notFinite | none => none

/-- The roles whose values are compared as numbers. -/
def isNumericRole (role : String) : Bool :=
  role == "slider" || role == "incrementor" || role == "scrollbar" || role == "handle"

/-- `value_matches`. -/
def valueMatches (role expected : String) (observed : Option String) : Bool :=
  match observed with
  | none => false
  | some observed =>
    if expected == observed then true
    else if !isNumericRole role then false
    else
      match parseI128 expected, parseI128 observed with
      | some expected, some observed => expected == observed
      | _, _ =>
        match numericText expected, numericText observed with
        | some expected, some observed =>
          decide (max |expected| |observed| < 9007199254740992)
            && (roundToF64 |expected - observed|).both (· ≤ ·) (roundToF64 (1 / 1000000))
        | _, _ => false

/-- Text and integers are compared exactly, other numbers of a control up to the
tolerance of a read-back. -/
example : [("textfield", "001", "1"), ("slider", "50", "50.00"), ("slider", "50", "50.0000004"),
    ("incrementor", "1000000000", "1000000001"), ("slider", "1", "inf")].map
      (fun sample => valueMatches sample.1 sample.2.1 (some sample.2.2))
    = [false, true, true, false, false] := by
  decide +kernel

end AgentDesktop
