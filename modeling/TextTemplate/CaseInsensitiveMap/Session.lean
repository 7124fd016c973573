import TextTemplate.CaseInsensitiveMap.Basic

/-!
# Runs of operations on a case-insensitive map

A session works on one map of texts and keeps a second, saved one beside it.
-/

namespace TextTemplate

namespace CaseInsensitiveMap

/-- What can be done in a session. -/
inductive Operation
  | insert (key value : Text)
  | get (key : Text)
  /-- Lengthens the value under a key. -/
  | append (key suffix : Text)
  | containsKey (key : Text)
  | remove (key : Text)
  | size
  | isEmpty
  | list
  /-- Takes one entry and counts what is left to come. -/
  | takeOne
  | extend (entries : List (Text × Text))
  /-- Starts afresh from a list of entries. -/
  | replace (entries : List (Text × Text))
  /-- Compares with the map of a list of entries. -/
  | equals (entries : List (Text × Text))
  | save
  /-- Exchanges the map and the saved one. -/
  | swap
  | equalsSaved

/-- What an operation answers. -/
inductive Outcome
  | nothing
  | value (v : Option Text)
  | holds (b : Bool)
  | count (n : Nat)
  | entries (es : List (Text × Text))
  /-- Whether there was an entry to take, the least and the greatest number of entries announced after it, and the
  number of entries that did come. -/
  | taken (first : Bool) (low high left : Nat)
  deriving DecidableEq

/-- The map at work and the saved one. -/
structure Session where
  current : CaseInsensitiveMap Text
  saved : CaseInsensitiveMap Text

/-- A session on a map without entries. -/
def Session.start : Session := ⟨empty, empty⟩

/-- What an iteration over entries still announces and gives once its first entry is taken. -/
def Outcome.ofTaken : List (Text × Text) → Outcome
  | [] => .taken false 0 0 0
  | _ :: rest => .taken true rest.length rest.length rest.length

/-- The answer to an operation, and the session after it. -/
def Operation.run (op : Operation) (s : Session) : Outcome × Session :=
  let m := s.current
  match op with
  | insert key v => let (old, m) := m.insert key v; (.value old, { s with current := m })
  | get key => (.value (m.get? key), s)
  | append key suffix => let (new, m) := m.modify key (· ++ suffix); (.value new, { s with current := m })
  | containsKey key => (.holds (m.containsKey key), s)
  | remove key => let (old, m) := m.remove key; (.value old, { s with current := m })
  | size => (.count m.size, s)
  | isEmpty => (.holds m.isEmpty, s)
  | list => (.entries m.entries, s)
  | takeOne => (.ofTaken m.entries, s)
  | extend es => (.nothing, { s with current := m.extend es })
  | replace es => (.nothing, { s with current := .ofList es })
  | equals es => (.holds (m == .ofList es), s)
  | save => (.nothing, { s with saved := m })
  | swap => (.nothing, ⟨s.saved, m⟩)
  | equalsSaved => (.holds (m == s.saved), s)

end CaseInsensitiveMap

end TextTemplate
