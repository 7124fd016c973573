import TextTemplate.Decimal.Integer

/-!
# Resolvers

A resolver maps the name of a token to its replacement, or to nothing.
-/

namespace TextTemplate

/-- The replacement of each name, where there is one. -/
abbrev Resolver := Text → Option Text

namespace Resolver

/-- No name has a replacement. -/
def nothing : Resolver := fun _ => none

/-- Every name is replaced by the empty text. -/
def blank : Resolver := fun _ => some []

/-- Every name is replaced by itself. -/
def echo : Resolver := fun name => some name

/-- Every name is written twice. -/
def twice : Resolver := fun name => some (name ++ name)

/-- Every name is replaced by the number of its bytes. -/
def byteCount : Resolver := fun name => some (Decimal.natural (Text.byteLength name))

/-- Names of at most three bytes are put between angle brackets, longer ones have no replacement. -/
def short : Resolver := fun name =>
  if Text.byteLength name ≤ 3 then some ('<' :: (name ++ ['>'])) else none

end Resolver

end TextTemplate
