/-!
# Binary floating point numbers

The numbers that a word of a given width stands for: a significand times a power of two, an infinity, or no
number.  `nearestBits` rounds a quotient of natural numbers to such a word, an exact half to the even neighbour.
-/

namespace TextTemplate

/-- How a word is divided: the lowest bits are the fraction, then come the exponent and the sign. -/
structure FloatWidth where
  fractionBits : Nat
  exponentBits : Nat

namespace FloatWidth

/-- Words of 32 bits. -/
def single : FloatWidth := ⟨23, 8⟩

/-- Words of 64 bits. -/
def double : FloatWidth := ⟨52, 11⟩

/-- The exponent field of infinities. -/
def topExponent (w : FloatWidth) : Nat := Nat.pow 2 w.exponentBits - 1

/-- The exponent of the least positive number. -/
def leastPower (w : FloatWidth) : Int := 2 - Nat.pow 2 (w.exponentBits - 1) - w.fractionBits

/-- The word of positive infinity. -/
def infinityBits (w : FloatWidth) : Nat := w.topExponent * Nat.pow 2 w.fractionBits

end FloatWidth

/-- What a word stands for. -/
inductive Binary
  | nan
  | infinite (negative : Bool)
  /-- The number `significand * 2 ^ power`.  Where the significand is the least of its power, the next number
  towards zero is only half as far away as the next one beyond: it has `closeBelow`. -/
  | finite (negative : Bool) (significand : Nat) (power : Int) (closeBelow : Bool)
  deriving DecidableEq

namespace Binary

/-- The meaning of a word. -/
def ofBits (w : FloatWidth) (bits : Nat) : Binary :=
  let fraction := bits % Nat.pow 2 w.fractionBits
  let exponent := bits / Nat.pow 2 w.fractionBits % Nat.pow 2 w.exponentBits
  let negative := bits / Nat.pow 2 (w.fractionBits + w.exponentBits) % 2 == 1
  if exponent = w.topExponent then if fraction = 0 then infinite negative else nan
  else if exponent = 0 then finite negative fraction w.leastPower false
  else
    finite negative (Nat.pow 2 w.fractionBits + fraction) (w.leastPower + (exponent - 1))
      (fraction == 0 && exponent != 1)

/-- A natural number times a power of two, as a numerator and a denominator. -/
def quotient (m : Nat) (power : Int) : Nat × Nat := (m * Nat.pow 2 power.toNat, Nat.pow 2 (-power).toNat)

/-- The quotient of two numbers rounded to the nearest integer, a half to the even one. -/
def roundDiv (num den : Nat) : Nat :=
  let q := num / den
  let r := num % den
  if 2 * r < den then q
  else if den < 2 * r then q + 1
  else if q % 2 = 0 then q else q + 1

/-- The word of the number nearest to `num / den`; that of infinity if it is too large. -/
def nearestBits (w : FloatWidth) (num den : Nat) : Nat :=
  if num = 0 then 0
  else
    let guess : Int := num.log2 - den.log2
    let fits := decide (den * Nat.pow 2 guess.toNat ≤ num * Nat.pow 2 (-guess).toNat)
    let power := max (guess - w.fractionBits - if fits then 0 else 1) w.leastPower
    let m := roundDiv (num * Nat.pow 2 (-power).toNat) (den * Nat.pow 2 power.toNat)
    min ((power - w.leastPower).toNat * Nat.pow 2 w.fractionBits + m) w.infinityBits

end Binary

end TextTemplate
