import Mathlib.Algebra.Order.Ring.Rat
import AgentDesktop.Error

/-!
# Rectangles

Bounds are four floating-point numbers. What the code asks of them is whether
they are finite and how they compare, so a number is a rational or not finite
at all. The hash of a rectangle is the one the `FxHasher` makes of its rounded
coordinates; it enters as the class `BoundsHasher`.
-/

namespace AgentDesktop

/-- A floating-point number, as far as the code looks at it. -/
inductive F64
  /-- A finite number. -/
  | finite (value : ℚ)
  /-- An infinity or not a number. -/
  | notFinite
  deriving DecidableEq

/-- Whether a number is finite and satisfies the test. -/
def F64.finiteAnd (number : F64) (test : ℚ → Bool) : Bool :=
  match number with
  | finite value => test value
  | notFinite => false

namespace F64

/-- Combining two numbers; the arithmetic on finite ones is exact. -/
def map₂ (op : ℚ → ℚ → ℚ) : F64 → F64 → F64
  | finite a, finite b => finite (op a b)
  | _, _ => notFinite

/-- Comparing two numbers. -/
def both (test : ℚ → ℚ → Bool) : F64 → F64 → Bool
  | finite a, finite b => test a b
  | _, _ => false

/-- A number as JSON; what is not finite is null. -/
def toJson : F64 → Json
  | finite value => .real value
  | notFinite => .null

end F64

/-- `Point`. -/
structure Point where
  /-- The horizontal coordinate. -/
  x : F64
  /-- The vertical coordinate. -/
  y : F64
  deriving DecidableEq

/-- `Point` as JSON. -/
def Point.toJson (point : Point) : Json :=
  .obj [("x", point.x.toJson), ("y", point.y.toJson)]

/-- `Rect`. -/
structure Rect where
  x : F64
  y : F64
  width : F64
  height : F64
  deriving DecidableEq

namespace Rect

/-- The bound on coordinates and sizes. -/
def maxGeometryMagnitude : ℚ := 10000000

/-- The test `Rect::validate` makes: finite bounded coordinates, finite bounded
sizes that are not negative. -/
def isValid (rect : Rect) : Bool :=
  let coordinate (value : ℚ) : Bool :=
    -maxGeometryMagnitude ≤ value && value ≤ maxGeometryMagnitude
  let size (value : ℚ) : Bool := 0 ≤ value && value ≤ maxGeometryMagnitude
  rect.x.finiteAnd coordinate && rect.y.finiteAnd coordinate
    && rect.width.finiteAnd size && rect.height.finiteAnd size

/-- `Rect` as JSON. -/
def toJson (rect : Rect) : Json :=
  .obj [("x", rect.x.toJson), ("y", rect.y.toJson), ("width", rect.width.toJson),
    ("height", rect.height.toJson)]

/-- A positive width and height. -/
def hasArea (rect : Rect) : Bool :=
  rect.width.finiteAnd (fun width => 0 < width)
    && rect.height.finiteAnd (fun height => 0 < height)

/-- The point at these fractions of the width and the height. -/
def pointAt (rect : Rect) (x y : ℚ) : Point where
  x := F64.map₂ (fun edge width => edge + width * x) rect.x rect.width
  y := F64.map₂ (fun edge height => edge + height * y) rect.y rect.height

/-- `Rect::validate`. -/
def validate (rect : Rect) : Except AdapterError Rect :=
  if rect.isValid then .ok rect
  else .error (.new .invalidArgs
    "Rectangle must contain finite bounded coordinates and non-negative bounded dimensions")

end Rect

/-- The hash of the rounded coordinates of a valid rectangle. -/
class BoundsHasher where
  /-- The `FxHasher` digest of the four coordinates in hundredths. -/
  finish : Rect → UInt64

/-- `Rect::bounds_hash`: a rectangle that is not valid has no hash. -/
def Rect.boundsHash [BoundsHasher] (rect : Rect) : Option UInt64 :=
  if rect.isValid then some (BoundsHasher.finish rect) else none

namespace Sample

/-- No bounds are hashed in the sample. -/
@[reducible] def noBoundsHash : BoundsHasher := ⟨fun _ => 0⟩

end Sample

end AgentDesktop
