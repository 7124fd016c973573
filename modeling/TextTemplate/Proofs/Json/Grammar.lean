import Mathlib.Data.List.Forall2
import TextTemplate.Proofs.Json.String

/-!
# The grammar of JSON words

How tokens are written (`Spelling`): each in one of its spellings, with blanks between them where one likes.  A
character of a string may stand for itself or be escaped, a power of ten may have a sign, and so on.  Whatever
spellings are chosen, the text is cut into the tokens again (`Spelling.tokens_eq`).
-/

namespace TextTemplate

namespace Json

/-! ### Spellings -/

/-- How a part of a string is written. -/
inductive Piece.Spelling : Piece → Text → Prop
  | raw {c : Char} (hc : ¬ c < ' ') (hquote : c ≠ '"') (hslash : c ≠ '\\') : Spelling (.char c) [c]
  | short {c e : Char} (he : escaped? c = some e) : Spelling (.char e) ['\\', c]
  | unit {a b c d : Char} {u : Nat} (hu : unit? a b c d = some u) : Spelling (.unit u) ['\\', 'u', a, b, c, d]

/-- At least one digit, and nothing else. -/
structure Digits (t : Text) : Prop where
  ne_nil : t ≠ []
  isDigit : ∀ c ∈ t, c.isDigit = true

/-- How the digits behind the point are written. -/
inductive FractionSpelling : Option Text → Text → Prop
  | none : FractionSpelling none []
  | point {digits : Text} (h : Digits digits) : FractionSpelling (some digits) ('.' :: digits)

/-- How a power of ten is written. -/
inductive PowerSpelling : Option (Bool × Text) → Text → Prop
  | none : PowerSpelling none []
  | plain {e : Char} {digits : Text} (he : e = 'e' ∨ e = 'E') (h : Digits digits) :
      PowerSpelling (some (false, digits)) (e :: digits)
  | plus {e : Char} {digits : Text} (he : e = 'e' ∨ e = 'E') (h : Digits digits) :
      PowerSpelling (some (false, digits)) (e :: '+' :: digits)
  | minus {e : Char} {digits : Text} (he : e = 'e' ∨ e = 'E') (h : Digits digits) :
      PowerSpelling (some (true, digits)) (e :: '-' :: digits)

/-- How a number is written without its sign: no zero in front of other digits. -/
inductive Numeral.Magnitude : Numeral → Text → Prop
  | mk {negative : Bool} {whole f p : Text} {fraction : Option Text} {power : Option (Bool × Text)}
      (hw : Digits whole) (hzero : whole.head? = some '0' → whole = ['0']) (hf : FractionSpelling fraction f)
      (hp : PowerSpelling power p) : Magnitude ⟨negative, whole, fraction, power⟩ (whole ++ (f ++ p))

/-- How a number is written. -/
inductive Numeral.Spelling (n : Numeral) : Text → Prop
  | positive {u : Text} (h : n.Magnitude u) (hn : n.negative = false) : Spelling n u
  | negative {u : Text} (h : n.Magnitude u) (hn : n.negative = true) : Spelling n ('-' :: u)

/-- How a token is written. -/
inductive Token.Spelling : Token → Text → Prop
  | beginArray : Spelling .beginArray ['[']
  | endArray : Spelling .endArray [']']
  | beginObject : Spelling .beginObject ['\x7b']
  | endObject : Spelling .endObject ['\x7d']
  | comma : Spelling .comma [',']
  | colon : Spelling .colon [':']
  | literalNull : Spelling .null ['n', 'u', 'l', 'l']
  | literalTrue : Spelling (.bool true) ['t', 'r', 'u', 'e']
  | literalFalse : Spelling (.bool false) ['f', 'a', 'l', 's', 'e']
  | numeral {n : Numeral} {u : Text} (hn : n.Spelling u) : Spelling (.numeral n) u
  | string {ps : List Piece} {us : List Text} (hps : List.Forall₂ Piece.Spelling ps us) :
      Spelling (.string ps) ('"' :: (us.flatten ++ ['"']))

/-- A number cannot go on with this character. -/
def EndsNumber (c : Char) : Prop := c.isDigit = false ∧ c ≠ '.' ∧ c ≠ 'e' ∧ c ≠ 'E'

/-- What may follow a token directly: behind a number, nothing that would belong to it. -/
def Token.MayPrecede : Token → Text → Prop
  | .numeral _, t => ∀ c ∈ t.head?, EndsNumber c
  | _, _ => True

/-- How tokens are written, one after the other: each in one of its spellings, and blanks where one likes. -/
inductive Spelling : List Token → Text → Prop
  | nil : Spelling [] []
  | blank {ts : List Token} {c : Char} {t : Text} (hc : isBlank c = true) (h : Spelling ts t) : Spelling ts (c :: t)
  | token {w : Token} {ts : List Token} {u t : Text} (hw : w.Spelling u) (hnext : w.MayPrecede t)
      (h : Spelling ts t) : Spelling (w :: ts) (u ++ t)

/-! ### Strings -/

/-- Characters that need no escape are a spelling of themselves. -/
theorem Token.Spelling.plain {t : Text} (h : ∀ c ∈ t, ¬ c < ' ' ∧ c ≠ '"' ∧ c ≠ '\\') :
    Token.Spelling (.string (t.map .char)) ('"' :: (t ++ ['"'])) := by
  have hps : List.Forall₂ Piece.Spelling (t.map .char) (t.map fun c => [c]) := by
    rw [List.forall₂_map_left_iff, List.forall₂_map_right_iff, List.forall₂_same]
    intro c hc
    obtain ⟨hcontrol, hquote, hslash⟩ := h c hc
    exact .raw hcontrol hquote hslash
  have hstring := Token.Spelling.string hps
  rwa [← List.flatMap_def, List.flatMap_singleton'] at hstring

theorem Piece.Spelling.readPieces_append {p : Piece} {u : Text} (h : p.Spelling u) (t : Text) :
    readPieces (u ++ t) = withPiece p (readPieces t) := by
  cases h with
  | raw hc hquote hslash => exact readPieces_raw hquote hslash hc t
  | short he => exact readPieces_short he t
  | unit hu => exact readPieces_unit hu t

theorem readPieces_flatten {ps : List Piece} {us : List Text} (h : List.Forall₂ Piece.Spelling ps us) (t : Text) :
    readPieces (us.flatten ++ '"' :: t) = some (ps, t) := by
  induction h with
  | nil => rfl
  | cons hp _ ih =>
    rw [List.flatten_cons, List.append_assoc, hp.readPieces_append, ih]
    rfl

/-! ### Numbers -/

/-- Digits are read up to the first character that is none. -/
theorem Digits.readDigits_append {digits rest : Text} (h : Digits digits)
    (hrest : ∀ c ∈ rest.head?, c.isDigit = false) : readDigits (digits ++ rest) = some (digits, rest) := by
  have htake : rest.takeWhile Char.isDigit = [] ∧ rest.dropWhile Char.isDigit = rest := by
    cases rest with
    | nil => exact ⟨rfl, rfl⟩
    | cons c rest => simp [hrest c rfl]
  rw [readDigits, List.takeWhile_append_of_pos h.isDigit, List.dropWhile_append_of_pos h.isDigit, htake.1, htake.2,
    List.append_nil]
  exact if_neg h.ne_nil

theorem Digits.readWhole_append {whole rest : Text} (h : Digits whole)
    (hzero : whole.head? = some '0' → whole = ['0']) (hrest : ∀ c ∈ rest.head?, c.isDigit = false) :
    readWhole (whole ++ rest) = some (whole, rest) := by
  rw [readWhole, h.readDigits_append hrest]
  split
  · rename_i d t _ heq
    obtain ⟨rfl, -⟩ := Prod.mk.inj (Option.some.inj heq)
    cases hzero rfl
  · rfl

theorem FractionSpelling.readFraction_append {fraction : Option Text} {f rest : Text}
    (h : FractionSpelling fraction f)
    (hrest : ∀ c ∈ rest.head?, c.isDigit = false ∧ c ≠ '.') : readFraction (f ++ rest) = some (fraction, rest) := by
  cases h with
  | none =>
    rw [List.nil_append, readFraction]
    rintro t rfl
    exact (hrest '.' rfl).2 rfl
  | point h =>
    rw [List.cons_append, readFraction, h.readDigits_append (fun c hc => (hrest c hc).1)]
    rfl

private theorem Digits.append_ne_cons {digits rest : Text} (h : Digits digits) {c : Char} (hc : c.isDigit = false)
    (t : Text) : digits ++ rest ≠ c :: t := by
  obtain ⟨d, digits, rfl⟩ := List.exists_cons_of_ne_nil h.ne_nil
  intro heq
  rw [List.cons_append, List.cons.injEq] at heq
  have hd := h.isDigit d List.mem_cons_self
  rw [heq.1, hc] at hd
  cases hd

theorem PowerSpelling.readPower_append {power : Option (Bool × Text)} {p rest : Text} (h : PowerSpelling power p)
    (hrest : ∀ c ∈ rest.head?, EndsNumber c) : readPower (p ++ rest) = some (power, rest) := by
  have hdigit : ∀ c ∈ rest.head?, c.isDigit = false := fun c hc => (hrest c hc).1
  unfold readPower
  cases h with
  | none =>
    cases rest with
    | nil => rfl
    | cons c rest =>
      obtain ⟨-, -, he, hE⟩ := hrest c rfl
      exact if_neg (not_or.2 ⟨he, hE⟩)
  | plain he h =>
    dsimp only [List.cons_append]
    rw [if_pos he]
    split
    · rename_i heq
      exact absurd heq (h.append_ne_cons rfl _)
    · rename_i heq
      exact absurd heq (h.append_ne_cons rfl _)
    · rw [h.readDigits_append hdigit]
      rfl
  | plus he h =>
    dsimp only [List.cons_append]
    rw [if_pos he]
    exact congrArg (Option.map fun read => (some (false, read.1), read.2)) (h.readDigits_append hdigit)
  | minus he h =>
    dsimp only [List.cons_append]
    rw [if_pos he]
    exact congrArg (Option.map fun read => (some (true, read.1), read.2)) (h.readDigits_append hdigit)

/-- What follows the digits behind the point ends them. -/
private theorem PowerSpelling.head?_append {power : Option (Bool × Text)} {p rest : Text}
    (h : PowerSpelling power p)
    (hrest : ∀ c ∈ rest.head?, EndsNumber c) : ∀ c ∈ (p ++ rest).head?, c.isDigit = false ∧ c ≠ '.' := by
  have hexp : ∀ {e : Char}, e = 'e' ∨ e = 'E' → e.isDigit = false ∧ e ≠ '.' := by
    rintro e (rfl | rfl)
    · decide
    · decide
  intro c hc
  cases h with
  | none => exact ⟨(hrest c hc).1, (hrest c hc).2.1⟩
  | plain he => exact Option.some.inj hc ▸ hexp he
  | plus he => exact Option.some.inj hc ▸ hexp he
  | minus he => exact Option.some.inj hc ▸ hexp he

/-- What follows the whole digits ends them. -/
private theorem FractionSpelling.head?_append {fraction : Option Text} {f rest : Text}
    (h : FractionSpelling fraction f)
    (hrest : ∀ c ∈ rest.head?, c.isDigit = false) : ∀ c ∈ (f ++ rest).head?, c.isDigit = false := by
  intro c hc
  cases h with
  | none => exact hrest c hc
  | point => exact Option.some.inj hc ▸ rfl

/-- A number without its sign is read, whichever way it is written. -/
theorem Numeral.Magnitude.readMagnitude_append {n : Numeral} {u rest : Text} (h : n.Magnitude u)
    (hrest : ∀ c ∈ rest.head?, EndsNumber c) : readMagnitude n.negative (u ++ rest) = some (n, rest) := by
  cases h with
  | mk hw hzero hf hp =>
    have hpower := hp.head?_append hrest
    have hwhole := hw.readWhole_append hzero (hf.head?_append fun c hc => (hpower c hc).1)
    rw [List.append_assoc, List.append_assoc, readMagnitude, hwhole]
    simp only [Option.bind_eq_bind, Option.bind_some, hf.readFraction_append hpower, hp.readPower_append hrest]
    rfl

private theorem Numeral.Magnitude.exists_digit {n : Numeral} {u : Text} (h : n.Magnitude u) :
    ∃ c v, u = c :: v ∧ c.isDigit = true := by
  cases h with
  | mk hw =>
    obtain ⟨c, digits, rfl⟩ := List.exists_cons_of_ne_nil hw.ne_nil
    exact ⟨c, _, rfl, hw.isDigit c List.mem_cons_self⟩

/-! ### Tokens -/

/-- A token that starts with a digit is a number. -/
private theorem readToken_digit {c : Char} (hc : c.isDigit = true) {t rest : Text} {n : Numeral}
    (hread : readMagnitude false (c :: t) = some (n, rest)) :
    isBlank c = false ∧ readToken c t = (.numeral n, rest) := by
  have hne : ∀ d : Char, d.isDigit = false → c ≠ d := by
    rintro d hd rfl
    rw [hc] at hd
    cases hd
  constructor
  · simp [isBlank, hne ' ' rfl, hne '\t' rfl, hne '\n' rfl, hne '\r' rfl]
  · unfold readToken
    split <;> try exact absurd hc (by decide)
    rw [if_pos hc, hread]

theorem Numeral.Spelling.readToken_append {n : Numeral} {u t : Text} (hn : n.Spelling u)
    (hnext : ∀ c ∈ t.head?, EndsNumber c) :
    ∃ c v, u = c :: v ∧ isBlank c = false ∧ readToken c (v ++ t) = (.numeral n, t) := by
  cases hn with
  | positive h hn =>
    have hread := h.readMagnitude_append hnext
    rw [hn] at hread
    obtain ⟨c, v, rfl, hc⟩ := h.exists_digit
    exact ⟨c, v, rfl, readToken_digit hc hread⟩
  | @negative u h hn =>
    have hread := h.readMagnitude_append hnext
    rw [hn] at hread
    refine ⟨'-', u, rfl, by decide, ?_⟩
    unfold readToken
    dsimp only
    rw [hread]
    rfl

/-- A token is read, whichever way it is written. -/
theorem Token.Spelling.readToken_append {w : Token} {u t : Text} (hw : w.Spelling u) (hnext : w.MayPrecede t) :
    ∃ c v, u = c :: v ∧ isBlank c = false ∧ readToken c (v ++ t) = (w, t) := by
  cases hw with
  | numeral hn => exact hn.readToken_append hnext
  | string hps =>
    refine ⟨'"', _, rfl, by decide, ?_⟩
    rw [List.append_assoc, List.singleton_append]
    unfold readToken
    simp only [readPieces_flatten hps]
  | _ => exact ⟨_, _, rfl, by decide, rfl⟩

/-- Whichever way tokens are written, the text is cut into them again. -/
theorem Spelling.tokens_eq {ts : List Token} {t : Text} (h : Spelling ts t) : tokens t = ts := by
  induction h with
  | nil => rw [tokens]
  | blank hc _ ih => rw [tokens, if_pos hc, ih]
  | token hw hnext _ ih =>
    obtain ⟨c, v, rfl, hblank, hread⟩ := hw.readToken_append hnext
    rw [List.cons_append, tokens_cons hblank, hread, ih]

end Json

end TextTemplate
