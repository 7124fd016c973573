import TextTemplate.Decimal.Layout

/-!
# JSON numbers

A number written without point and power that fits 64 bits is an integer; any other is a binary number of 64
bits.  It is computed from at most as many digits as fit 64 bits, which are rounded once and then multiplied or
divided by a power of ten, rounding again; a number that is too large for 64 bits has no value.
-/

namespace TextTemplate

namespace Json

/-- A number as it is written. -/
structure Numeral where
  negative : Bool
  /-- The digits in front of the point. -/
  whole : Text
  /-- The digits behind the point, if there is one. -/
  fraction : Option Text
  /-- Whether the power of ten is negative, and its digits, if there is one. -/
  power : Option (Bool × Text)
  deriving DecidableEq

/-- The value of a number. -/
inductive Number
  | integer (n : Int)
  | double (bits : UInt64)
  deriving DecidableEq

/-- How numbers that are not integers are written: with the point in its place from `10 ^ (-5)` to `10 ^ 15`, and
`.0` behind whole ones. -/
def numberLayout : Decimal.Layout := ⟨fun e => decide (-5 ≤ e ∧ e ≤ 15), ['.', '0'], .even⟩

/-- The text of a number. -/
def Number.text : Number → Text
  | integer n => Decimal.integer n
  | double bits => numberLayout.text (.ofBits .double bits.toNat)

namespace Numeral

/-- The bound of the digits that count. -/
def significandBound : Nat := Nat.pow 2 64

/-- The number that leading digits stand for, read behind those that stand for `n` as long as it stays below the
bound, and the digits that are left over. -/
def takeDigits (n : Nat) : Text → Nat × Text
  | [] => (n, [])
  | c :: digits =>
    let next := Decimal.ofDigits n [c]
    if next < significandBound then takeDigits next digits else (n, c :: digits)

/-- The digits that count, as a number, and the power of ten it is to be multiplied by. -/
def parts (x : Numeral) : Nat × Int :=
  let (n, extra) := takeDigits 0 x.whole
  let fraction := x.fraction.getD []
  let (m, ignored) := takeDigits n fraction
  let written : Int := match x.power with
    | none => 0
    | some (true, digits) => -(Decimal.ofDigits 0 digits : Int)
    | some (false, digits) => Decimal.ofDigits 0 digits
  (m, extra.length - (fraction.length - ignored.length : Nat) + written)

/-- The greatest power of ten that is used as a factor. -/
def greatestPower : Nat := 308

/-- The numerator and the denominator of a non-negative number of 64 bits. -/
def fractionOf (bits : Nat) : Nat × Nat :=
  match Binary.ofBits .double bits with
  | .finite _ m power _ => Binary.quotient m power
  | _ => (0, 1)

/-- The power of ten rounded to 64 bits, as a numerator and a denominator. -/
def powerOfTen (k : Nat) : Nat × Nat := fractionOf (Binary.nearestBits .double (Nat.pow 10 k) 1)

/-- The product of two numbers, rounded. -/
def mulBits (bits : Nat) (k : Nat) : Nat :=
  let (a, b) := fractionOf bits
  let (c, d) := powerOfTen k
  Binary.nearestBits .double (a * c) (b * d)

/-- The quotient of a number by a power of ten, rounded. -/
def divBits (bits : Nat) (k : Nat) : Nat :=
  let (a, b) := fractionOf bits
  let (c, d) := powerOfTen k
  Binary.nearestBits .double (a * d) (b * c)

/-- A number of 64 bits times a power of ten, in steps of factors in use; nothing if it is too large. -/
def scale (bits : Nat) (e : Int) : Option Nat :=
  if e.natAbs ≤ greatestPower then
    if e < 0 then some (divBits bits e.natAbs)
    else
      let product := mulBits bits e.natAbs
      if product < FloatWidth.double.infinityBits then some product else none
  else if bits = 0 then some 0
  else if 0 ≤ e then none
  else scale (divBits bits greatestPower) (e + greatestPower)
termination_by e.natAbs
decreasing_by simp only [greatestPower] at *; omega

/-- The number that is not an integer. -/
def double? (x : Numeral) : Option Number :=
  let (m, e) := x.parts
  (scale (Binary.nearestBits .double m 1) e).map fun bits =>
    .double (UInt64.ofNat (if x.negative then Nat.pow 2 63 + bits else bits))

/-- The value of a number, unless it is too large. -/
def value? (x : Numeral) : Option Number :=
  let n := Decimal.ofDigits 0 x.whole
  if x.fraction.isSome || x.power.isSome then x.double?
  else if !x.negative && decide (n < Nat.pow 2 64) then some (.integer n)
  else if x.negative && decide (0 < n ∧ n ≤ Nat.pow 2 63) then some (.integer (-n))
  else x.double?

end Numeral

end Json

end TextTemplate
