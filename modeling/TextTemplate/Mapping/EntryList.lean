import TextTemplate.Mapping.Basic

/-!
# Lists of entries

A list of entries in which the first entry of a key counts.  It may hold a key several times: only the first of
them is found and removed, and a new value goes to the end.
-/

namespace TextTemplate

/-- Entries in the order in which they came. -/
structure EntryList (α : Type) where
  toList : List (Text × α)

namespace EntryList

variable {α : Type}

/-- The value of the first entry of a key. -/
def get? (m : EntryList α) (key : Text) : Option α := m.toList.lookup key

/-- The value of the first entry of a key, and the list without that entry. -/
def remove (m : EntryList α) (key : Text) : Option α × EntryList α :=
  (m.get? key, ⟨m.toList.eraseP fun e => e.1 = key⟩)

/-- Removes the first entry of a key and puts the new one at the end. -/
def insert (m : EntryList α) (key : Text) (v : α) : Option α × EntryList α :=
  let (old, rest) := m.remove key
  (old, ⟨rest.toList ++ [(key, v)]⟩)

end EntryList

instance {α : Type} : Dictionary (EntryList α) α where
  get? := EntryList.get?
  remove := EntryList.remove
  insert := EntryList.insert
  entries m := sortEntries m.toList

end TextTemplate
