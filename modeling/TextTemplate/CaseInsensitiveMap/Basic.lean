import Std.Data.TreeMap
import TextTemplate.Mapping.Basic
import TextTemplate.Text.Uppercase

/-!
# Maps that do not tell upper from lower case

Keys are upper-cased when they are stored and when they are looked for, so keys with one upper-case form name one
entry, and the entries are listed under that form.
-/

namespace TextTemplate

/-- A map whose keys are compared in their upper-case form. -/
structure CaseInsensitiveMap (α : Type) where
  stored : Std.TreeMap Text α

namespace CaseInsensitiveMap

variable {α : Type}

/-- The map without entries. -/
def empty : CaseInsensitiveMap α := ⟨∅⟩

instance : Inhabited (CaseInsensitiveMap α) := ⟨empty⟩

/-- The value stored under a key. -/
def get? (m : CaseInsensitiveMap α) (key : Text) : Option α := m.stored[Text.upper key]?

/-- Whether there is a value under a key. -/
def containsKey (m : CaseInsensitiveMap α) (key : Text) : Bool := m.stored.contains (Text.upper key)

/-- The value stored under a key so far, and the map with the new one in its place. -/
def insert (m : CaseInsensitiveMap α) (key : Text) (v : α) : Option α × CaseInsensitiveMap α :=
  (m.get? key, ⟨m.stored.insert (Text.upper key) v⟩)

/-- The value stored under a key, and the map without it. -/
def remove (m : CaseInsensitiveMap α) (key : Text) : Option α × CaseInsensitiveMap α :=
  (m.get? key, ⟨m.stored.erase (Text.upper key)⟩)

/-- The value under a key, if there is one, changed by `f`; and the map with the changed value. -/
def modify (m : CaseInsensitiveMap α) (key : Text) (f : α → α) : Option α × CaseInsensitiveMap α :=
  ((m.get? key).map f, ⟨m.stored.modify (Text.upper key) f⟩)

/-- The number of entries. -/
def size (m : CaseInsensitiveMap α) : Nat := m.stored.size

/-- Whether there are no entries. -/
def isEmpty (m : CaseInsensitiveMap α) : Bool := m.stored.isEmpty

/-- The upper-case keys with their values, sorted by key. -/
def entries (m : CaseInsensitiveMap α) : List (Text × α) := m.stored.toList

/-- The map after inserting entries one by one. -/
def extend (m : CaseInsensitiveMap α) (es : List (Text × α)) : CaseInsensitiveMap α :=
  es.foldl (fun m e => (m.insert e.1 e.2).2) m

/-- The map of a list of entries, of which the last with a key counts. -/
def ofList (es : List (Text × α)) : CaseInsensitiveMap α := empty.extend es

instance [BEq α] : BEq (CaseInsensitiveMap α) := ⟨fun m n => m.stored == n.stored⟩

end CaseInsensitiveMap

instance {α : Type} : Dictionary (CaseInsensitiveMap α) α where
  get? := CaseInsensitiveMap.get?
  containsKey := CaseInsensitiveMap.containsKey
  remove := CaseInsensitiveMap.remove
  insert := CaseInsensitiveMap.insert
  entries := CaseInsensitiveMap.entries

end TextTemplate
