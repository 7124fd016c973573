import TextTemplate.Text.Basic

/-!
# Mappings

A mapping finds and removes values by key; a dictionary can also take values in and list its entries.  Whether
keys that differ in case are the same key is up to the instance.
-/

namespace TextTemplate

/-- Containers in which a value can be found, and from which it can be taken, by its key. -/
class Mapping (σ : Type) (α : outParam Type) where
  /-- The value stored under a key. -/
  get? : σ → Text → Option α
  /-- Whether there is a value under a key. -/
  containsKey : σ → Text → Bool := fun m key => (get? m key).isSome
  /-- The value stored under a key, and the container without it. -/
  remove : σ → Text → Option α × σ

/-- Mappings that can be filled and listed. -/
class Dictionary (σ : Type) (α : outParam Type) extends Mapping σ α where
  /-- The value stored under a key so far, and the container with the new one in its place. -/
  insert : σ → Text → α → Option α × σ
  /-- The keys with their values, sorted by key. -/
  entries : σ → List (Text × α)

/-- Entries in the order of their keys; entries of one key keep their order. -/
def sortEntries {α : Type} (es : List (Text × α)) : List (Text × α) :=
  es.mergeSort fun a b => (compare a.1 b.1).isLE

/-- The container after inserting entries one by one. -/
def Dictionary.insertAll {σ α : Type} [Dictionary σ α] (m : σ) (es : List (Text × α)) : σ :=
  es.foldl (fun m e => (Dictionary.insert m e.1 e.2).2) m

theorem Dictionary.insertAll_cons {σ α : Type} [Dictionary σ α] (m : σ) (e : Text × α) (es : List (Text × α)) :
    insertAll m (e :: es) = insertAll (insert m e.1 e.2).2 es := rfl

namespace Mapping

/-- What can be asked of a dictionary. -/
inductive Operation (α : Type)
  | insert (key : Text) (value : α)
  | get (key : Text)
  | containsKey (key : Text)
  | remove (key : Text)

/-- What a dictionary answers. -/
inductive Outcome (α : Type)
  | value (v : Option α)
  | holds (b : Bool)

/-- The answer to an operation, and the dictionary after it. -/
def Operation.run {σ α : Type} [Dictionary σ α] : Operation α → σ → Outcome α × σ
  | insert key v, m => let (old, m) := Dictionary.insert m key v; (.value old, m)
  | get key, m => (.value (get? m key), m)
  | containsKey key, m => (.holds (Mapping.containsKey m key), m)
  | remove key, m => let (old, m) := Mapping.remove m key; (.value old, m)

end Mapping

end TextTemplate
