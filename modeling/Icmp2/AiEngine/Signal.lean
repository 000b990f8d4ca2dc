import Icmp2.Monitoring.Reading
import Mathlib.Data.List.Sort
import Mathlib.Algebra.Order.Ring.Rat
import Mathlib.Algebra.BigOperators.Group.List.Basic

/-
  Measured signals as lists of numbers.

  Main definitions include:
    * `Icmp2.AiEngine.DataPoint`
    * `Icmp2.AiEngine.Sample`
    * `Icmp2.AiEngine.mean`
    * `Icmp2.AiEngine.median`
    * `Icmp2.AiEngine.diffs`
    * `Icmp2.AiEngine.fillGapsBy`

  Main theorems include:
    * `Icmp2.AiEngine.length_diffs`
    * `Icmp2.AiEngine.length_fillGapsBy`

  The functions of the array library that the predictors
  use, on exact numbers.
-/

------------------------------------------------------------
-- Statistics
------------------------------------------------------------

namespace Icmp2

namespace AiEngine

open Monitoring

/- One value at one time, of a sensor of some kind. -/
structure DataPoint (S : Type) where
  timestamp : Instant
  deviceId : String
  sensorType : S
  value : Option ℚ
  isValid : Bool
  deriving DecidableEq, Repr

/- An entry of an array of floats. -/
inductive Sample where
  | value (x : ℚ)
  | nan
  | inf
  deriving DecidableEq, Repr

namespace Sample

/- `np.isnan`. -/
def isNan : Sample → Bool
  | nan => true
  | value _ | inf => false

/- `np.isinf`. -/
def isInf : Sample → Bool
  | inf => true
  | value _ | nan => false

/- The number, where the entry is one. -/
def value? : Sample → Option ℚ
  | value x => some x
  | nan | inf => none

/- A missing value becomes NaN. -/
def ofValue? : Option ℚ → Sample
  | some x => value x
  | none => nan

end Sample

/- `np.mean`. -/
def mean
    (xs : List ℚ) :
    ℚ :=
  xs.sum / xs.length

/- `np.var`. -/
def variance
    (xs : List ℚ) :
    ℚ :=
  mean (xs.map fun x => (x - mean xs) * (x - mean xs))

/- `np.diff`. -/
def diffs : List ℚ → List ℚ
  | [] => []
  | [_] => []
  | x :: y :: rest => (y - x) :: diffs (y :: rest)

/- `np.median`, of at least one number. -/
def median
    (xs : List ℚ) :
    ℚ :=
  let sorted := xs.insertionSort (· ≤ ·)
  let half := xs.length / 2
  if xs.length % 2 = 1 then
    sorted.getD half 0
  else
    (sorted.getD (half - 1) 0 + sorted.getD half 0) / 2

theorem length_diffs
    (xs : List ℚ) :
    (diffs xs).length = xs.length - 1 := by
  induction xs with
  | nil => rfl
  | cons x rest ih =>
      cases rest with
      | nil => rfl
      | cons y rest =>
          rw [diffs, List.length_cons, ih]
          simp

end AiEngine

end Icmp2

------------------------------------------------------------
-- Interpolation
------------------------------------------------------------

namespace Icmp2

namespace AiEngine

/-
  `np.interp` at one index, with the first known point
  before the others; beyond the ends the value stays.
-/
def interpAt
    (index : Nat) :
    Nat × ℚ → List (Nat × ℚ) → ℚ
  | (_, y), [] => y
  | (x, y), (nextX, nextY) :: rest =>
      if index ≤ x then
        y
      else if index < nextX then
        y + (nextY - y) / (nextX - x) * (index - x)
      else
        interpAt index (nextX, nextY) rest

/- The known points, by index from `first`. -/
def knownPoints :
    Nat → List (Option ℚ) → List (Nat × ℚ)
  | _, [] => []
  | first, none :: rest => knownPoints (first + 1) rest
  | first, some y :: rest =>
      (first, y) :: knownPoints (first + 1) rest

/- Fill the gaps by interpolation; none without a point. -/
def fillGapsBy
    (interp : Nat → Nat × ℚ → List (Nat × ℚ) → ℚ)
    (values : List (Option ℚ)) :
    Option (List ℚ) :=
  match knownPoints 0 values with
  | [] => none
  | point :: rest =>
      some
        ((List.range values.length).map fun index =>
          interp index point rest)

theorem length_fillGapsBy
    {interp : Nat → Nat × ℚ → List (Nat × ℚ) → ℚ}
    {values : List (Option ℚ)}
    {filled : List ℚ}
    (hFilled : fillGapsBy interp values = some filled) :
    filled.length = values.length := by
  unfold fillGapsBy at hFilled
  cases hPoints : knownPoints 0 values with
  | nil =>
      rw [hPoints] at hFilled
      cases hFilled
  | cons point rest =>
      rw [hPoints] at hFilled
      rw [← Option.some.inj hFilled]
      simp

end AiEngine

end Icmp2
