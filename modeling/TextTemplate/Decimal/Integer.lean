import TextTemplate.Text.Basic

/-!
# Whole numbers in decimal

The digits of a number without leading zeros, and a sign in front of the negative ones.
-/

namespace TextTemplate

namespace Decimal

/-- The decimal digits of a number. -/
def natural (n : Nat) : Text := Nat.toDigits 10 n

/-- The decimal text of an integer. -/
def integer : Int → Text
  | .ofNat n => natural n
  | .negSucc n => '-' :: natural (n + 1)

/-- The number that digits stand for, read behind those that stand for `n`. -/
def ofDigits (n : Nat) (digits : Text) : Nat := digits.foldl (fun n c => 10 * n + (c.toNat - '0'.toNat)) n

end Decimal

end TextTemplate
