import TextTemplate.Json.Basic
import TextTemplate.Json.Token

/-!
# Reading JSON

Reading has two stages.  A reader takes tokens one by one, with the arrays and objects that are still open on a
stack, and ends with the tree of a complete value; that tree may hold strings and numbers that stand for
nothing.  A tree in which all of them do is the value `value?` of the tree.
-/

namespace TextTemplate

namespace Json

/-- A JSON value as it is written. -/
inductive Tree
  | null
  | bool (b : Bool)
  | numeral (n : Numeral)
  | string (pieces : List Piece)
  | array (items : List Tree)
  | object (members : List (List Piece × Tree))

/-! ### Trees of tokens -/

/-- An array or an object that is still open, what is in it the last one first. -/
inductive Frame
  | array (items : List Tree)
  | object (members : List (List Piece × Tree)) (key : List Piece)

/-- What a reader waits for. -/
inductive Awaited
  | value
  /-- A value, or the end of the array. -/
  | firstItem
  /-- A key, or the end of the object. -/
  | firstKey
  | key (members : List (List Piece × Tree))
  | colon
  /-- A comma, or the end of what is open. -/
  | more

/-- The reading of a value under way. -/
structure Reader where
  stack : List Frame
  awaited : Awaited

namespace Reader

/-- Before the first token of a value. -/
def start : Reader := ⟨[], .value⟩

/-- A value is complete: it goes into what is open, or is what was to be read. -/
def complete (v : Tree) : List Frame → Reader ⊕ Tree
  | [] => .inr v
  | .array items :: stack => .inl ⟨.array (v :: items) :: stack, .more⟩
  | .object members key :: stack => .inl ⟨.object ((key, v) :: members) key :: stack, .more⟩

/-- The first token of a value. -/
def open? (stack : List Frame) : Token → Option (Reader ⊕ Tree)
  | .null => some (complete .null stack)
  | .bool b => some (complete (.bool b) stack)
  | .numeral n => some (complete (.numeral n) stack)
  | .string ps => some (complete (.string ps) stack)
  | .beginArray => some (.inl ⟨.array [] :: stack, .firstItem⟩)
  | .beginObject => some (.inl ⟨stack, .firstKey⟩)
  | _ => none

/-- One token.  Nothing comes of a token that cannot stand there. -/
def step? (r : Reader) (t : Token) : Option (Reader ⊕ Tree) :=
  match r.awaited, t, r.stack with
  | .value, t, stack => open? stack t
  | .firstItem, .endArray, .array _ :: stack => some (complete (.array []) stack)
  | .firstItem, t, stack => open? stack t
  | .firstKey, .endObject, stack => some (complete (.object []) stack)
  | .firstKey, .string key, stack => some (.inl ⟨.object [] key :: stack, .colon⟩)
  | .key members, .string key, stack => some (.inl ⟨.object members key :: stack, .colon⟩)
  | .colon, .colon, stack => some (.inl ⟨stack, .value⟩)
  | .more, .comma, .array items :: stack => some (.inl ⟨.array items :: stack, .value⟩)
  | .more, .comma, .object members _ :: stack => some (.inl ⟨stack, .key members⟩)
  | .more, .endArray, .array items :: stack => some (complete (.array items.reverse) stack)
  | .more, .endObject, .object members _ :: stack => some (complete (.object members.reverse) stack)
  | _, _, _ => none

/-- Takes tokens until the value is complete; the tokens behind it are left. -/
def run (r : Reader) : List Token → Option (Tree × List Token)
  | [] => none
  | t :: ts =>
    match r.step? t with
    | none => none
    | some (.inl r) => r.run ts
    | some (.inr v) => some (v, ts)

theorem length_run {r : Reader} {ts rest : List Token} {v : Tree} (h : r.run ts = some (v, rest)) :
    rest.length < ts.length := by
  induction ts generalizing r with
  | nil => simp [run] at h
  | cons t ts ih =>
    simp only [run] at h
    split at h
    · simp at h
    · exact Nat.lt_succ_of_lt (ih h)
    · simp_all

end Reader

/-- The first value of a list of tokens, as it is written, and the tokens behind it. -/
def readTree (ts : List Token) : Option (Tree × List Token) := Reader.start.run ts

/-! ### Values of trees -/

/-- The text of the parts of a string, in which the units outside the basic plane must come in pairs. -/
def ofPieces : List Piece → Option Text
  | [] => some []
  | .char c :: ps => (ofPieces ps).map (c :: ·)
  | .unit u :: .unit v :: ps =>
    if u < 0xD800 ∨ 0xDFFF < u then (ofPieces (.unit v :: ps)).map (Char.ofNat u :: ·)
    else if u < 0xDC00 ∧ 0xDC00 ≤ v ∧ v ≤ 0xDFFF then
      (ofPieces ps).map (Char.ofNat (0x10000 + (u - 0xD800) * 0x400 + (v - 0xDC00)) :: ·)
    else none
  | .unit u :: ps => if u < 0xD800 ∨ 0xDFFF < u then (ofPieces ps).map (Char.ofNat u :: ·) else none

mutual

/-- The value of a tree, if all its strings and numbers stand for something. -/
def Tree.value? : Tree → Option Json
  | .null => some .null
  | .bool b => some (.bool b)
  | .numeral n => n.value?.map .number
  | .string ps => (ofPieces ps).map .string
  | .array items => (Tree.values? items).map .array
  | .object members => (Tree.members? members).map ofMembers

/-- The values of the items of an array. -/
def Tree.values? : List Tree → Option (List Json)
  | [] => some []
  | v :: vs => do return (← v.value?) :: (← Tree.values? vs)

/-- The values of the members of an object. -/
def Tree.members? : List (List Piece × Tree) → Option (List (Text × Json))
  | [] => some []
  | (key, v) :: ms => do return (← ofPieces key, ← v.value?) :: (← Tree.members? ms)

end

/-- The value that a text stands for. -/
def ofText? (t : Text) : Option Json :=
  match readTree (tokens t) with
  | some (v, []) => v.value?
  | _ => none

end Json

end TextTemplate
