import TextTemplate.Decimal.Shortest

/-!
# Layouts of decimals

How the digits of a number are written down: with the point in its place, or behind the first digit with a power
of ten.  A layout says which, and how whole numbers are marked.
-/

namespace TextTemplate

namespace Decimal

/-- A way of writing numbers. -/
structure Layout where
  /-- Whether a number whose first digit stands for `10 ^ e` is written with the point in its place. -/
  positional : Int → Bool
  /-- What follows a whole number that is written with the point in its place. -/
  wholeMark : Text
  /-- Which of two equally near digits is taken. -/
  tie : Tie

/-- The digits of a positive number, without zeros at the end. -/
def significantDigits (n : Nat) : Text := ((natural n).reverse.dropWhile (· = '0')).reverse

/-- Digits with the point in its place, the first of them standing for `10 ^ e`. -/
def Layout.withPoint (l : Layout) (digits : Text) (e : Int) : Text :=
  if e < 0 then '0' :: '.' :: (List.replicate (-e - 1).toNat '0' ++ digits)
  else
    let whole := e.toNat + 1
    if digits.length ≤ whole then digits ++ List.replicate (whole - digits.length) '0' ++ l.wholeMark
    else digits.take whole ++ '.' :: digits.drop whole

/-- Digits with the point behind the first of them, which stands for `10 ^ e`. -/
def withPower (digits : Text) (e : Int) : Text :=
  let sign := if e < 0 then '-' else '+'
  let lead := match digits with
    | d :: d' :: rest => d :: '.' :: d' :: rest
    | short => short
  lead ++ 'e' :: sign :: natural e.natAbs

/-- The text of a positive number. -/
def Layout.decimalText (l : Layout) (d : Decimal) : Text :=
  let digits := significantDigits d.digits
  let e := d.power + (natural d.digits).length - 1
  if l.positional e then l.withPoint digits e else withPower digits e

/-- The text of a binary floating point number. -/
def Layout.text (l : Layout) : Binary → Text
  | .nan => ['N', 'a', 'N']
  | .infinite negative => (if negative then ['-'] else []) ++ ['i', 'n', 'f']
  | .finite negative m power closeBelow =>
    (if negative then ['-'] else []) ++
      if m = 0 then l.withPoint ['0'] 0 else l.decimalText (Target.shortest ⟨m, power, closeBelow⟩ l.tie)

end Decimal

end TextTemplate
