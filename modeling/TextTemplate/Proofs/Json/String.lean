import Mathlib.Data.List.Basic
import TextTemplate.Json.Reader

/-!
# JSON strings

What is written as a string is read back: the escape of every character is read as one part of a string, and
that part stands for the character (`exists_piece`).  So the quoted form of a text is one token, whose parts
stand for the text, whatever follows it (`exists_tokens_quote`).
-/

namespace TextTemplate

namespace Json

/-! ### Characters -/

theorem hexDigit?_digitChar {d : Nat} (h : d < 16) : hexDigit? (Nat.digitChar d) = some d := by
  revert d
  decide

/-- A part of a string puts a character in front of what the other parts stand for. -/
def Piece.StandsFor (p : Piece) (c : Char) : Prop := ∀ ps, ofPieces (p :: ps) = (ofPieces ps).map (c :: ·)

theorem Piece.StandsFor.char (c : Char) : (Piece.char c).StandsFor c := by
  intro ps
  rw [ofPieces]

/-- A unit below the surrogates stands for a character on its own, also in front of another unit. -/
theorem Piece.StandsFor.unit {c : Char} (hc : c.toNat < 0xD800) : (Piece.unit c.toNat).StandsFor c := by
  intro ps
  cases ps with
  | nil => simp [ofPieces, hc]
  | cons p ps =>
    cases p with
    | char d => simp [ofPieces, hc]
    | unit v => simp [ofPieces, hc]

/-- The four digits of a control character. -/
theorem unit?_of_control {c : Char} (hc : c.toNat < 32) :
    unit? '0' '0' (Nat.digitChar (c.toNat / 16)) (Nat.digitChar (c.toNat % 16)) = some c.toNat := by
  have hhigh := hexDigit?_digitChar (d := c.toNat / 16) (by omega)
  have hlow := hexDigit?_digitChar (d := c.toNat % 16) (by omega)
  have hzero : hexDigit? '0' = some 0 := by decide
  simp only [unit?, hzero, hhigh, hlow, Option.bind_eq_bind, Option.bind_some, Option.pure_def]
  congr 1
  omega

/-! ### Strings -/

/-- The reading of a string with one more part in front. -/
def withPiece (p : Piece) (read : Option (List Piece × Text)) : Option (List Piece × Text) :=
  read.map fun read => (p :: read.1, read.2)

theorem readPieces_short {c e : Char} (he : escaped? c = some e) (t : Text) :
    readPieces ('\\' :: c :: t) = withPiece (.char e) (readPieces t) := by
  rw [readPieces, he]
  · cases readPieces t <;> rfl
  · rintro _ _ _ _ _ rfl _
    cases he

theorem readPieces_unit {a b c d : Char} {u : Nat} (hu : unit? a b c d = some u) (t : Text) :
    readPieces ('\\' :: 'u' :: a :: b :: c :: d :: t) = withPiece (.unit u) (readPieces t) := by
  rw [readPieces, hu]
  cases readPieces t <;> rfl

theorem readPieces_raw {c : Char} (hquote : c ≠ '"') (hslash : c ≠ '\\') (hc : ¬ c < ' ') (t : Text) :
    readPieces (c :: t) = withPiece (.char c) (readPieces t) := by
  rw [readPieces, if_neg (not_or.2 ⟨hc, hslash⟩)]
  · cases readPieces t <;> rfl
  · exact hquote
  · intro _ _ _ _ _ h
    exact absurd h hslash
  · intro _ _ h
    exact absurd h hslash

/-- The escape of a character is read as one part, which stands for the character. -/
theorem exists_piece (c : Char) :
    ∃ p : Piece, p.StandsFor c ∧ ∀ t, readPieces (escape c ++ t) = withPiece p (readPieces t) := by
  unfold escape
  split
  · exact ⟨.char '"', .char _, readPieces_short rfl⟩
  · exact ⟨.char '\\', .char _, readPieces_short rfl⟩
  · exact ⟨.char '\x08', .char _, readPieces_short rfl⟩
  · exact ⟨.char '\x0c', .char _, readPieces_short rfl⟩
  · exact ⟨.char '\n', .char _, readPieces_short rfl⟩
  · exact ⟨.char '\r', .char _, readPieces_short rfl⟩
  · exact ⟨.char '\t', .char _, readPieces_short rfl⟩
  · rename_i hquote hslash _ _ _ _ _
    split
    · rename_i hc
      have hc : c.toNat < 32 := hc
      exact ⟨.unit c.toNat, .unit (by omega), readPieces_unit (unit?_of_control hc)⟩
    · rename_i hc
      exact ⟨.char c, .char c, readPieces_raw hquote hslash hc⟩

/-- The escaped characters of a text are read, up to the closing quote, as parts that stand for the text. -/
theorem exists_readPieces (t rest : Text) :
    ∃ ps, ofPieces ps = some t ∧ readPieces (t.flatMap escape ++ '"' :: rest) = some (ps, rest) := by
  induction t with
  | nil => exact ⟨[], rfl, rfl⟩
  | cons c t ih =>
    obtain ⟨ps, hps, hread⟩ := ih
    obtain ⟨p, hp, hescape⟩ := exists_piece c
    refine ⟨p :: ps, ?_, ?_⟩
    · rw [hp, hps]
      rfl
    · rw [List.flatMap_cons, List.append_assoc, hescape, hread]
      rfl

/-! ### Tokens -/

theorem tokens_cons {c : Char} (hc : isBlank c = false) (t : Text) :
    tokens (c :: t) = (readToken c t).1 :: tokens (readToken c t).2 := by
  rw [tokens, if_neg (by rw [hc]; exact Bool.false_ne_true)]

/-- A quoted text is one token, whose parts stand for the text. -/
theorem exists_tokens_quote (t rest : Text) :
    ∃ ps, ofPieces ps = some t ∧ tokens (quote t ++ rest) = .string ps :: tokens rest := by
  obtain ⟨ps, hps, hread⟩ := exists_readPieces t rest
  have htoken : readToken '"' (t.flatMap escape ++ '"' :: rest) = (.string ps, rest) := by
    unfold readToken
    simp only [hread]
  refine ⟨ps, hps, ?_⟩
  rw [quote, List.cons_append, List.append_assoc, List.singleton_append, tokens_cons (by decide), htoken]

end Json

end TextTemplate
