import TextTemplate.Decimal.Integer

/-!
# Formatters

A formatter turns a value into the text that replaces its token.  New formatters are made from others.
-/

namespace TextTemplate

/-- The text of each value. -/
abbrev Formatter (α : Type) := α → Text

namespace Formatter

variable {α : Type}

/-- The text between brackets. -/
def bracketed (f : Formatter α) : Formatter α := fun v => '[' :: (f v ++ [']'])

/-- The number of bytes of the text. -/
def byteCount (f : Formatter α) : Formatter α := fun v => Decimal.natural (Text.byteLength (f v))

/-- No text for any value. -/
def blank : Formatter α := fun _ => []

end Formatter

end TextTemplate
