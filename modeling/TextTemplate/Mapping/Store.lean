import TextTemplate.CaseInsensitiveMap.Basic
import TextTemplate.Mapping.EntryList
import TextTemplate.Mapping.Exact

/-!
# Stores

A store is a dictionary of any of the kinds of this library, the kind being chosen when the program runs.
-/

namespace TextTemplate

/-- The kinds of dictionary. -/
inductive Backend
  | caseInsensitive
  | hash
  | hashPacked
  | tree
  | treePacked
  | list
  deriving DecidableEq

/-- A dictionary together with its kind. -/
inductive Store (α : Type)
  | caseInsensitive (m : CaseInsensitiveMap α)
  | hash (m : Std.HashMap Text α)
  | hashPacked (m : Std.HashMap String α)
  | tree (m : Std.TreeMap Text α)
  | treePacked (m : Std.TreeMap String α)
  | list (m : EntryList α)

namespace Store

variable {α : Type}

/-- The kind of a store. -/
def backend : Store α → Backend
  | caseInsensitive _ => .caseInsensitive
  | hash _ => .hash
  | hashPacked _ => .hashPacked
  | tree _ => .tree
  | treePacked _ => .treePacked
  | list _ => .list

/-- The store of a kind that has no entries. -/
def empty : Backend → Store α
  | .caseInsensitive => caseInsensitive .empty
  | .hash => hash ∅
  | .hashPacked => hashPacked ∅
  | .tree => tree ∅
  | .treePacked => treePacked ∅
  | .list => list ⟨[]⟩

/-- The value stored under a key. -/
def get? (s : Store α) (key : Text) : Option α :=
  match s with
  | caseInsensitive m => Mapping.get? m key
  | hash m => Mapping.get? m key
  | hashPacked m => Mapping.get? m key
  | tree m => Mapping.get? m key
  | treePacked m => Mapping.get? m key
  | list m => Mapping.get? m key

/-- Whether there is a value under a key. -/
def containsKey (s : Store α) (key : Text) : Bool :=
  match s with
  | caseInsensitive m => Mapping.containsKey m key
  | hash m => Mapping.containsKey m key
  | hashPacked m => Mapping.containsKey m key
  | tree m => Mapping.containsKey m key
  | treePacked m => Mapping.containsKey m key
  | list m => Mapping.containsKey m key

/-- The value stored under a key, and the store without it. -/
def remove (s : Store α) (key : Text) : Option α × Store α :=
  match s with
  | caseInsensitive m => (Mapping.remove m key).map id caseInsensitive
  | hash m => (Mapping.remove m key).map id hash
  | hashPacked m => (Mapping.remove m key).map id hashPacked
  | tree m => (Mapping.remove m key).map id tree
  | treePacked m => (Mapping.remove m key).map id treePacked
  | list m => (Mapping.remove m key).map id list

/-- The value stored under a key so far, and the store with the new one in its place. -/
def insert (s : Store α) (key : Text) (v : α) : Option α × Store α :=
  match s with
  | caseInsensitive m => (Dictionary.insert m key v).map id caseInsensitive
  | hash m => (Dictionary.insert m key v).map id hash
  | hashPacked m => (Dictionary.insert m key v).map id hashPacked
  | tree m => (Dictionary.insert m key v).map id tree
  | treePacked m => (Dictionary.insert m key v).map id treePacked
  | list m => (Dictionary.insert m key v).map id list

/-- The keys with their values, sorted by key. -/
def entries : Store α → List (Text × α)
  | caseInsensitive m => Dictionary.entries m
  | hash m => Dictionary.entries m
  | hashPacked m => Dictionary.entries m
  | tree m => Dictionary.entries m
  | treePacked m => Dictionary.entries m
  | list m => Dictionary.entries m

instance : Dictionary (Store α) α where
  get? := get?
  containsKey := containsKey
  remove := remove
  insert := insert
  entries := entries

/-- The store of a list of entries.  A list keeps them all; in the other kinds the last entry of a key counts. -/
def ofList (b : Backend) (es : List (Text × α)) : Store α :=
  match b with
  | .list => list ⟨es⟩
  | b => Dictionary.insertAll (empty b) es

end Store

end TextTemplate
