import TextTemplate.Json.Number
import Std.Data.TreeMap

/-!
# JSON values

Values, and their compact text: no blanks, the members of an object sorted by key, and in strings only quotes,
backslashes and control characters escaped.
-/

namespace TextTemplate

/-- A JSON value.  The members of an object are sorted by key and have different keys. -/
inductive Json
  | null
  | bool (b : Bool)
  | number (n : Json.Number)
  | string (t : Text)
  | array (items : List Json)
  | object (members : List (Text × Json))

namespace Json

/-- The object with the given members, of which the last with a key counts. -/
def ofMembers (members : List (Text × Json)) : Json := .object (Std.TreeMap.ofList members).toList

/-- A character as it stands in a string. -/
def escape (c : Char) : Text :=
  match c with
  | '"' => ['\\', '"']
  | '\\' => ['\\', '\\']
  | '\x08' => ['\\', 'b']
  | '\x0c' => ['\\', 'f']
  | '\n' => ['\\', 'n']
  | '\r' => ['\\', 'r']
  | '\t' => ['\\', 't']
  | c =>
    if c < ' ' then ['\\', 'u', '0', '0', Nat.digitChar (c.toNat / 16), Nat.digitChar (c.toNat % 16)] else [c]

/-- A string with its quotes. -/
def quote (t : Text) : Text := '"' :: (t.flatMap escape ++ ['"'])

/-- Texts with commas between them. -/
def separated (ts : List Text) : Text := List.intercalate [','] ts

mutual

/-- The compact text of a value. -/
def text : Json → Text
  | null => ['n', 'u', 'l', 'l']
  | bool b => if b then ['t', 'r', 'u', 'e'] else ['f', 'a', 'l', 's', 'e']
  | number n => n.text
  | string t => quote t
  | array items => '[' :: (separated (itemTexts items) ++ [']'])
  | object members => '\x7b' :: (separated (memberTexts members) ++ ['\x7d'])

/-- The compact texts of the items of an array. -/
def itemTexts : List Json → List Text
  | [] => []
  | v :: vs => text v :: itemTexts vs

/-- The compact texts of the members of an object. -/
def memberTexts : List (Text × Json) → List Text
  | [] => []
  | (key, v) :: ms => (quote key ++ ':' :: text v) :: memberTexts ms

end

end Json

end TextTemplate
