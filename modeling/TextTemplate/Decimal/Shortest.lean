import TextTemplate.Decimal.Binary
import TextTemplate.Decimal.Integer

/-!
# Shortest decimals

The decimal with the fewest digits among those that are rounded to a given binary number, and the nearest of
these.  All comparisons are made on natural numbers: the number, the ends of its rounding interval and the
points of a decimal grid are brought to a common scale first.
-/

namespace TextTemplate

/-- The number `digits * 10 ^ power`. -/
structure Decimal where
  digits : Nat
  power : Int
  deriving DecidableEq

namespace Decimal

/-- Which of two equally near points is taken. -/
inductive Tie
  | up
  | even
  deriving DecidableEq

/-- A positive binary number `significand * 2 ^ power` and the step to its neighbour towards zero. -/
structure Target where
  significand : Nat
  power : Int
  closeBelow : Bool

namespace Target

/-- The factor that brings points of the grid of `10 ^ k` to the common scale. -/
def gridScale (t : Target) (k : Int) : Nat := Nat.pow 10 k.toNat * Nat.pow 2 (2 - t.power).toNat

/-- The factor that brings quarters of the binary step to the common scale. -/
def quarterScale (t : Target) (k : Int) : Nat := Nat.pow 2 (t.power - 2).toNat * Nat.pow 10 (-k).toNat

/-- Whether the point `n * 10 ^ k` is rounded to the number.  The ends of the interval are if the significand is
even. -/
def covers (t : Target) (k : Int) (n : Nat) : Bool :=
  let point := n * t.gridScale k
  let low := (4 * t.significand - if t.closeBelow then 1 else 2) * t.quarterScale k
  let high := (4 * t.significand + 2) * t.quarterScale k
  if t.significand % 2 = 0 then decide (low ≤ point ∧ point ≤ high) else decide (low < point ∧ point < high)

/-- The last point of the grid that is not above the number. -/
def below (t : Target) (k : Int) : Nat := 4 * t.significand * t.quarterScale k / t.gridScale k

/-- The nearest point of the grid that is rounded to the number, if there is one. -/
def onGrid (t : Target) (tie : Tie) (k : Int) : Option Nat :=
  let n := t.below k
  match t.covers k n, t.covers k (n + 1) with
  | false, false => none
  | true, false => some n
  | false, true => some (n + 1)
  | true, true =>
    let gap := 4 * t.significand * t.quarterScale k - n * t.gridScale k
    match compare (2 * gap) (t.gridScale k), tie with
    | .lt, _ => some n
    | .gt, _ => some (n + 1)
    | .eq, .up => some (n + 1)
    | .eq, .even => some (if n % 2 = 0 then n else n + 1)

/-- The number of digits of `n`; none for zero. -/
def digitCount (n : Nat) : Nat := if n = 0 then 0 else (Decimal.natural n).length

/-- The greatest power of ten that is not above the number. -/
def magnitude (t : Target) : Int :=
  let (num, den) := Binary.quotient t.significand t.power
  if den ≤ num then (digitCount (num / den) : Int) - 1 else -(digitCount ((den - 1) / num) : Int)

/-- The decimal of fewest digits that is rounded to the number.  Seventeen digits are enough for any word of up
to 64 bits. -/
def shortest (t : Target) (tie : Tie) : Decimal :=
  let grid (count : Nat) : Int := t.magnitude - count
  let found := (List.range 17).findSome? fun count => (t.onGrid tie (grid count)).map (⟨·, grid count⟩)
  found.getD ⟨t.below (grid 17), grid 17⟩

end Target

end Decimal

end TextTemplate
