import TextTemplate.Json.Basic

/-!
# Values

The values that a name can stand for, and the text of each: what is absent has no text, and floating point
numbers are written with as few digits as tell them from their neighbours, never with a power of ten.
-/

namespace TextTemplate

/-- A value. -/
inductive Value
  | text (t : Text)
  | char (c : Char)
  | bool (b : Bool)
  | integer (n : Int)
  | single (bits : UInt32)
  | double (bits : UInt64)
  | json (j : Json)
  | absent
  /-- A value that could have been absent, or is held indirectly. -/
  | present (v : Value)

/-- The text of a JSON value: nothing for null, a string without its quotes, any other in compact form. -/
def Json.plainText : Json → Text
  | .null => []
  | .string t => t
  | j => j.text

namespace Value

/-- How floating point numbers are written. -/
def numberLayout : Decimal.Layout := ⟨fun _ => true, [], .up⟩

/-- The text of a value. -/
def toText : Value → Text
  | text t => t
  | char c => [c]
  | bool b => if b then ['t', 'r', 'u', 'e'] else ['f', 'a', 'l', 's', 'e']
  | integer n => Decimal.integer n
  | single bits => numberLayout.text (.ofBits .single bits.toNat)
  | double bits => numberLayout.text (.ofBits .double bits.toNat)
  | json j => j.plainText
  | absent => []
  | present v => v.toText

end Value

end TextTemplate
