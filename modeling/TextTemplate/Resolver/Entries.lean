import TextTemplate.Mapping.Exact
import TextTemplate.Resolver.Basic

/-!
# Resolvers made of entries

In a list, an array or a vector of entries the first entry of a name counts; in a map, the one that was inserted
last.
-/

namespace TextTemplate

namespace Resolver

/-- The replacement in an entry, if it is the entry of a name. -/
def inEntry (name : Text) (entry : Text × Text) : Option Text :=
  if entry.1 = name then some entry.2 else none

/-- The first entry of a list counts. -/
def ofList (entries : List (Text × Text)) : Resolver := fun name => entries.findSome? (inEntry name)

/-- The first entry of an array counts. -/
def ofArray (entries : Array (Text × Text)) : Resolver := fun name => entries.findSome? (inEntry name)

/-- The first entry of a vector counts. -/
def ofVector {n : Nat} (entries : Vector (Text × Text) n) : Resolver := fun name =>
  entries.findSome? (inEntry name)

/-- The texts of a mapping. -/
def ofMapping {σ : Type} [Mapping σ Text] (m : σ) : Resolver := Mapping.get? m

/-- The last entry of a list counts: it is the one that stays in a hash map. -/
def ofHashed (entries : List (Text × Text)) : Resolver :=
  ofMapping (Dictionary.insertAll (∅ : Std.HashMap Text Text) entries)

/-- The last entry of a list counts: it is the one that stays in a search tree. -/
def ofTree (entries : List (Text × Text)) : Resolver :=
  ofMapping (Dictionary.insertAll (∅ : Std.TreeMap Text Text) entries)

end Resolver

end TextTemplate
