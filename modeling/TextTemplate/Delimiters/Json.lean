import TextTemplate.Delimiters
import TextTemplate.Json.Reader
import TextTemplate.Text.Quoted

/-!
# Delimiters in JSON

Delimiters are stored as an object with the members `open` and `close`, or as an array of the two texts.  What
is left out is `##`, and members with other keys are skipped, whatever they are.  Reading stops at the first
problem in the text; whether a delimiter is empty is looked at when the value is complete.
-/

namespace TextTemplate

/-- The side whose name a text is. -/
def Side.ofName? (name : Text) : Option Side :=
  if name = Side.opening.name then some .opening
  else if name = Side.closing.name then some .closing
  else none

namespace Delimiters

/-- What stands in a text where something else was expected. -/
inductive Found
  | null
  | bool (b : Bool)
  | number (n : Json.Number)
  | string (t : Text)
  | sequence
  | map
  deriving DecidableEq

/-- The description of what was found. -/
def Found.description : Found → String
  | null => "null"
  | bool b => if b then "boolean `true`" else "boolean `false`"
  | number n =>
    match n with
    | .integer _ => "integer `" ++ String.ofList n.text ++ "`"
    | .double _ => "floating point `" ++ String.ofList n.text ++ "`"
  | string t => "string " ++ String.ofList t.quoted
  | sequence => "sequence"
  | map => "map"

/-- What was expected: a delimiter, or both of them. -/
inductive Expected
  | delimiter
  | delimiters
  deriving DecidableEq

/-- The description of what was expected. -/
def Expected.description : Expected → String
  | delimiter => "a string"
  | delimiters => "struct RawDelimiters"

/-- Why a JSON value is refused. -/
inductive Refusal
  | wrongType (found : Found) (expected : Expected)
  | duplicate (side : Side)
  | empty (e : EmptyDelimiter)
  deriving DecidableEq

/-- What is wrong, for a reader. -/
def Refusal.message : Refusal → String
  | wrongType found expected => "invalid type: " ++ found.description ++ ", expected " ++ expected.description
  | duplicate side => "duplicate field `" ++ String.ofList side.name ++ "`"
  | empty e => e.message

/-- Why a text does not give delimiters: it is not JSON, or not the JSON of delimiters. -/
inductive ReadError
  | malformed
  | refused (why : Refusal)
  deriving DecidableEq

/-- The delimiters that a text gives. -/
structure Settings where
  opening : Option Text
  closing : Option Text
  deriving DecidableEq

namespace Settings

/-- Nothing given. -/
def empty : Settings := ⟨none, none⟩

/-- What is given for a side. -/
def get (s : Settings) : Side → Option Text
  | .opening => s.opening
  | .closing => s.closing

/-- The settings with a side given. -/
def set (s : Settings) (side : Side) (t : Text) : Settings :=
  match side with
  | .opening => { s with opening := some t }
  | .closing => { s with closing := some t }

/-- The delimiters, with `##` for what is not given. -/
def delimiters (s : Settings) : Except EmptyDelimiter Delimiters :=
  make (s.opening.getD defaultText) (s.closing.getD defaultText)

end Settings

/-! ### Reading -/

/-- What a token starts, if it can start a value. -/
def Found.ofToken? : Json.Token → Option Found
  | .null => some .null
  | .bool b => some (.bool b)
  | .numeral n => n.value?.map .number
  | .string ps => (Json.ofPieces ps).map .string
  | .beginArray => some .sequence
  | .beginObject => some .map
  | _ => none

/-- The error at a token that does not start what is expected. -/
def unexpected (t : Json.Token) (expected : Expected) : ReadError :=
  match Found.ofToken? t with
  | some found => .refused (.wrongType found expected)
  | none => .malformed

/-- A string. -/
def readText : List Json.Token → Except ReadError (Text × List Json.Token)
  | .string ps :: ts =>
    match Json.ofPieces ps with
    | some t => .ok (t, ts)
    | none => .error .malformed
  | t :: _ => .error (unexpected t .delimiter)
  | [] => .error .malformed

/-- The rest of an array of at most two strings. -/
def readItems : List Json.Token → Except ReadError (Settings × List Json.Token)
  | .endArray :: ts => .ok (.empty, ts)
  | ts => do
    let (o, ts) ← readText ts
    match ts with
    | .endArray :: ts => return (⟨some o, none⟩, ts)
    | .comma :: ts =>
      let (c, ts) ← readText ts
      match ts with
      | .endArray :: ts => return (⟨some o, some c⟩, ts)
      | _ => throw .malformed
    | _ => throw .malformed

/-- The value of a member with the key `key`, behind the colon, put into the settings if the key is a side. -/
def readMember (s : Settings) (key : Text) (ts : List Json.Token) :
    Except ReadError (Settings × List Json.Token) :=
  match Side.ofName? key, ts with
  | some side, ts =>
    if (s.get side).isSome then .error (.refused (.duplicate side))
    else
      match ts with
      | .colon :: ts =>
        match readText ts with
        | .ok (t, ts) => .ok (s.set side t, ts)
        | .error e => .error e
      | _ => .error .malformed
  | none, .colon :: ts =>
    match Json.readTree ts with
    | some (_, ts) => .ok (s, ts)
    | none => .error .malformed
  | none, _ => .error .malformed

private theorem length_readText {ts rest : List Json.Token} {t : Text} (h : readText ts = .ok (t, rest)) :
    rest.length < ts.length := by
  unfold readText at h
  split at h
  · split at h
    · simp_all
    · simp at h
  · simp at h
  · simp at h

/-- The value of a member takes up tokens. -/
theorem length_readMember {s s' : Settings} {key : Text} {ts rest : List Json.Token}
    (h : readMember s key ts = .ok (s', rest)) : rest.length < ts.length := by
  unfold readMember at h
  split at h
  · split at h
    · simp at h
    · split at h
      · split at h
        · have := length_readText (by assumption)
          simp_all only [Except.ok.injEq, Prod.mk.injEq, List.length_cons]; omega
        · simp at h
      · simp at h
  · split at h
    · have := Json.Reader.length_run (by assumption : Json.readTree _ = some (_, _))
      simp_all only [Except.ok.injEq, Prod.mk.injEq, List.length_cons]; omega
    · simp at h
  · simp at h

/-- The rest of an object, from a key on. -/
def readMembers (s : Settings) (ts : List Json.Token) : Except ReadError (Settings × List Json.Token) :=
  match ts with
  | .string ps :: ts =>
    match Json.ofPieces ps with
    | none => .error .malformed
    | some key =>
      match _h : readMember s key ts with
      | .ok (s, .comma :: ts) => readMembers s ts
      | .ok (s, .endObject :: ts) => .ok (s, ts)
      | .ok _ => .error .malformed
      | .error e => .error e
  | _ => .error .malformed
termination_by ts.length
decreasing_by
  have := length_readMember ‹_›
  simp only [List.length_cons] at this ⊢; omega

/-- The settings at the start of a list of tokens. -/
def readSettings : List Json.Token → Except ReadError (Settings × List Json.Token)
  | .beginArray :: ts => readItems ts
  | .beginObject :: .endObject :: ts => .ok (.empty, ts)
  | .beginObject :: ts => readMembers .empty ts
  | t :: _ => .error (unexpected t .delimiters)
  | [] => .error .malformed

/-- The delimiters that a JSON text gives. -/
def ofJson (text : Text) : Except ReadError Delimiters := do
  let (s, rest) ← readSettings (Json.tokens text)
  let δ ← s.delimiters.mapError fun e => .refused (.empty e)
  if rest = [] then return δ else throw .malformed

/-! ### Writing -/

/-- A side of delimiters. -/
def get (δ : Delimiters) : Side → Text
  | .opening => δ.opening
  | .closing => δ.closing

/-- The member of a side. -/
def memberText (δ : Delimiters) (side : Side) : Text := Json.quote side.name ++ ':' :: Json.quote (δ.get side)

/-- The JSON text of delimiters. -/
def toJson (δ : Delimiters) : Text :=
  '\x7b' :: (Json.separated [δ.memberText .opening, δ.memberText .closing] ++ ['\x7d'])

end Delimiters

end TextTemplate
