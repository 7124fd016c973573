import TextTemplate.Json.Number

/-!
# JSON tokens

A JSON text is cut into punctuation, literals, numbers and strings; blanks between them are skipped.  The list
of tokens ends with a malformed one where the text cannot be read on, so that what comes before can still be
looked at.
-/

namespace TextTemplate

namespace Json

/-- A part of a string: a character, or a unit of 16 bits written as an escape. -/
inductive Piece
  | char (c : Char)
  | unit (u : Nat)
  deriving DecidableEq

/-- A word of a JSON text. -/
inductive Token
  | beginArray
  | endArray
  | beginObject
  | endObject
  | comma
  | colon
  | null
  | bool (b : Bool)
  | numeral (n : Numeral)
  | string (pieces : List Piece)
  | malformed
  deriving DecidableEq

/-- Whether a character separates tokens. -/
def isBlank (c : Char) : Bool := c = ' ' || c = '\t' || c = '\n' || c = '\r'

/-- The value of a hexadecimal digit. -/
def hexDigit? (c : Char) : Option Nat :=
  if '0' ≤ c ∧ c ≤ '9' then some (c.toNat - '0'.toNat)
  else if 'a' ≤ c ∧ c ≤ 'f' then some (c.toNat - 'a'.toNat + 10)
  else if 'A' ≤ c ∧ c ≤ 'F' then some (c.toNat - 'A'.toNat + 10)
  else none

/-- The number of four hexadecimal digits. -/
def unit? (a b c d : Char) : Option Nat := do
  return (((← hexDigit? a) * 16 + (← hexDigit? b)) * 16 + (← hexDigit? c)) * 16 + (← hexDigit? d)

/-- The character that a letter behind a backslash stands for. -/
def escaped? : Char → Option Char
  | '"' => some '"'
  | '\\' => some '\\'
  | '/' => some '/'
  | 'b' => some '\x08'
  | 'f' => some '\x0c'
  | 'n' => some '\n'
  | 'r' => some '\r'
  | 't' => some '\t'
  | _ => none

/-- The parts of a string up to its closing quote, and the text behind it. -/
def readPieces : Text → Option (List Piece × Text)
  | [] => none
  | '"' :: rest => some ([], rest)
  | '\\' :: 'u' :: a :: b :: c :: d :: rest => do
    let u ← unit? a b c d
    let (ps, rest) ← readPieces rest
    return (.unit u :: ps, rest)
  | '\\' :: c :: rest => do
    let e ← escaped? c
    let (ps, rest) ← readPieces rest
    return (.char e :: ps, rest)
  | c :: rest =>
    if c < ' ' ∨ c = '\\' then none
    else do
      let (ps, rest) ← readPieces rest
      return (.char c :: ps, rest)

/-- The digits at the start of a text, of which there must be one, and the text behind them. -/
def readDigits (t : Text) : Option (Text × Text) :=
  let digits := t.takeWhile Char.isDigit
  if digits = [] then none else some (digits, t.dropWhile Char.isDigit)

/-- The digits of a whole number: no zero in front of others. -/
def readWhole (t : Text) : Option (Text × Text) :=
  match readDigits t with
  | some ('0' :: _ :: _, _) => none
  | other => other

/-- A point with digits, if there is one. -/
def readFraction : Text → Option (Option Text × Text)
  | '.' :: t => (readDigits t).map fun (digits, rest) => (some digits, rest)
  | t => some (none, t)

/-- A power of ten, if there is one. -/
def readPower : Text → Option (Option (Bool × Text) × Text)
  | c :: t =>
    if c = 'e' ∨ c = 'E' then
      match t with
      | '+' :: t => (readDigits t).map fun (digits, rest) => (some (false, digits), rest)
      | '-' :: t => (readDigits t).map fun (digits, rest) => (some (true, digits), rest)
      | t => (readDigits t).map fun (digits, rest) => (some (false, digits), rest)
    else some (none, c :: t)
  | [] => some (none, [])

/-- A number without its sign. -/
def readMagnitude (negative : Bool) (t : Text) : Option (Numeral × Text) := do
  let (whole, t) ← readWhole t
  let (fraction, t) ← readFraction t
  let (power, t) ← readPower t
  return (⟨negative, whole, fraction, power⟩, t)

/-- The token that starts with the character `c`, and the text behind it. -/
def readToken (c : Char) (t : Text) : Token × Text :=
  let word (rest : Text) (token : Token) : Token × Text :=
    match rest.isPrefixOf? t with
    | some t => (token, t)
    | none => (.malformed, [])
  let number : Option (Numeral × Text) → Token × Text
    | some (n, t) => (.numeral n, t)
    | none => (.malformed, [])
  match c with
  | '[' => (.beginArray, t)
  | ']' => (.endArray, t)
  | '{' => (.beginObject, t)
  | '}' => (.endObject, t)
  | ',' => (.comma, t)
  | ':' => (.colon, t)
  | 'n' => word ['u', 'l', 'l'] .null
  | 't' => word ['r', 'u', 'e'] (.bool true)
  | 'f' => word ['a', 'l', 's', 'e'] (.bool false)
  | '"' =>
    match readPieces t with
    | some (ps, t) => (.string ps, t)
    | none => (.malformed, [])
  | '-' => number (readMagnitude true t)
  | c => if c.isDigit then number (readMagnitude false (c :: t)) else (.malformed, [])

/-! ### Tokens take up text -/

private theorem length_readPieces {t rest : Text} {ps : List Piece} (h : readPieces t = some (ps, rest)) :
    rest.length ≤ t.length := by
  fun_induction readPieces t generalizing ps rest with
  | case1 => simp at h
  | case2 t => simp_all
  | case3 a b c d t ih =>
    simp only [Option.bind_eq_bind, Option.bind_eq_some_iff, Option.pure_def, Option.some.injEq, Prod.mk.injEq] at h
    obtain ⟨u, -, ⟨ps', rest'⟩, hr, -, rfl⟩ := h
    have := ih hr
    simp only [List.length_cons]; omega
  | case4 c t _ ih =>
    simp only [Option.bind_eq_bind, Option.bind_eq_some_iff, Option.pure_def, Option.some.injEq, Prod.mk.injEq] at h
    obtain ⟨u, -, ⟨ps', rest'⟩, hr, -, rfl⟩ := h
    have := ih hr
    simp only [List.length_cons]; omega
  | case5 => simp at h
  | case6 c t _ _ _ _ ih =>
    simp only [Option.bind_eq_bind, Option.bind_eq_some_iff, Option.pure_def, Option.some.injEq, Prod.mk.injEq] at h
    obtain ⟨⟨ps', rest'⟩, hr, -, rfl⟩ := h
    have := ih hr
    simp only [List.length_cons]; omega

private theorem length_readDigits {t digits rest : Text} (h : readDigits t = some (digits, rest)) :
    rest.length < t.length := by
  unfold readDigits at h
  simp only at h
  split at h
  · simp at h
  · simp only [Option.some.injEq, Prod.mk.injEq] at h
    obtain ⟨rfl, rfl⟩ := h
    have h₁ := congrArg List.length (List.takeWhile_append_dropWhile (p := Char.isDigit) (l := t))
    have h₂ := List.length_pos_iff.2 (by assumption : ¬List.takeWhile Char.isDigit t = [])
    simp only [List.length_append] at h₁
    omega

private theorem length_readFraction {t rest : Text} {f : Option Text} (h : readFraction t = some (f, rest)) :
    rest.length ≤ t.length := by
  unfold readFraction at h
  split at h
  · obtain ⟨⟨d, r⟩, hr, he⟩ := Option.map_eq_some_iff.1 h
    have := length_readDigits hr
    simp_all only [Prod.mk.injEq, List.length_cons]; omega
  · simp_all

private theorem length_readPower {t rest : Text} {p : Option (Bool × Text)} (h : readPower t = some (p, rest)) :
    rest.length ≤ t.length := by
  unfold readPower at h
  split at h
  · split at h
    · split at h <;>
      · obtain ⟨⟨d, r⟩, hr, he⟩ := Option.map_eq_some_iff.1 h
        have := length_readDigits hr
        simp_all only [Prod.mk.injEq, List.length_cons]; omega
    · simp_all
  · simp_all

private theorem length_readMagnitude {b : Bool} {t rest : Text} {n : Numeral}
    (h : readMagnitude b t = some (n, rest)) : rest.length < t.length := by
  simp only [readMagnitude, Option.bind_eq_bind, Option.bind_eq_some_iff, Option.pure_def, Option.some.injEq,
    Prod.mk.injEq] at h
  obtain ⟨⟨w, t₁⟩, hw, ⟨f, t₂⟩, hf, ⟨p, t₃⟩, hp, -, rfl⟩ := h
  have h₁ : t₁.length < t.length := by
    unfold readWhole at hw
    split at hw
    · simp at hw
    · exact length_readDigits hw
  have h₂ := length_readFraction hf
  have h₃ := length_readPower hp
  exact Nat.lt_of_le_of_lt (Nat.le_trans h₃ h₂) h₁

/-- What is behind a token is no longer than what is behind its first character. -/
theorem length_readToken_le (c : Char) (t : Text) : (readToken c t).2.length ≤ t.length := by
  have word (rest : Text) (token : Token) : (match rest.isPrefixOf? t with
      | some t => (token, t)
      | none => (Token.malformed, [])).2.length ≤ t.length := by
    split
    · have := Text.length_of_isPrefixOf? (by assumption : rest.isPrefixOf? t = some _)
      simp only; omega
    · simp
  unfold readToken
  simp only
  split <;> try exact Nat.le_refl _
  · exact word _ _
  · exact word _ _
  · exact word _ _
  · split
    · exact length_readPieces (by assumption)
    · simp
  · split
    · exact Nat.le_of_lt (length_readMagnitude (by assumption))
    · simp
  · split
    · split
      · have := length_readMagnitude (by assumption)
        simp only [List.length_cons] at this ⊢; omega
      · simp
    · simp

/-- The tokens of a text. -/
def tokens : Text → List Token
  | [] => []
  | c :: t =>
    if isBlank c then tokens t
    else
      let next := readToken c t
      next.1 :: tokens next.2
termination_by t => t.length
decreasing_by
  · simp
  · exact Nat.lt_succ_of_le (length_readToken_le c t)

end Json

end TextTemplate
