import Mathlib.Data.List.Basic

/-!
# What lies above

From each place one way leads up: to another place, to none, or nobody knows where. The chain
above a place is complete if the ways up are known and come to an end – then it has no cycle, and
the places on it are exactly those that lie above.
-/

namespace Ancestors

variable {α : Type} (up : α → Option (Option α))

/-- **The complete chain above** a place. -/
inductive Chain : α → List α → Prop
  /-- Nothing is above. -/
  | top {place : α} (h : up place = some none) : Chain place []
  /-- A place is above, and what is above that. -/
  | parent {place above : α} {others : List α} (h : up place = some (some above))
    (hothers : Chain above others) : Chain place (above :: others)

/-- **A place lies above another.** -/
inductive Above (ancestor : α) : α → Prop
  /-- At the end of its way up. -/
  | parent {place : α} (h : up place = some (some ancestor)) : Above ancestor place
  /-- Above the place at the end of its way up. -/
  | further {place above : α} (h : up place = some (some above)) (habove : Above ancestor above) :
    Above ancestor place

variable {up}

end Ancestors
