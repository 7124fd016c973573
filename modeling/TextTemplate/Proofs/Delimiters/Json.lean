import TextTemplate.Delimiters.Json
import TextTemplate.Proofs.Json.String
import TextTemplate.Render

/-!
# Stored delimiters

Delimiters that are written as JSON are read back (`ofJson_toJson`), whatever characters they are made of: the
text is an object of two members, in which names and delimiters are quoted, and each member gives one side.
-/

namespace TextTemplate

theorem Side.ofName?_name (side : Side) : ofName? side.name = some side := by
  cases side <;> decide

namespace Delimiters

open Json (Piece Token ofPieces tokens quote)

/-! ### Reading members -/

theorem readText_string {ps : List Piece} {t : Text} (h : ofPieces ps = some t) (ts : List Token) :
    readText (.string ps :: ts) = .ok (t, ts) := by
  rw [readText, h]

/-- The member of a side that was not given so far. -/
theorem readMember_side {s : Settings} {side : Side} {ps : List Piece} {t : Text} (hnew : s.get side = none)
    (h : ofPieces ps = some t) (ts : List Token) :
    readMember s side.name (.colon :: .string ps :: ts) = .ok (s.set side t, ts) := by
  unfold readMember
  rw [Side.ofName?_name]
  simp only [hnew, Option.isSome_none, Bool.false_eq_true, if_false, readText_string h]

/-- A member that a comma follows is read, and then the others. -/
theorem readMembers_comma {s s' : Settings} {ps : List Piece} {key : Text} {ts rest : List Token}
    (hkey : ofPieces ps = some key) (h : readMember s key ts = .ok (s', .comma :: rest)) :
    readMembers s (.string ps :: ts) = readMembers s' rest := by
  rw [readMembers]
  simp only [hkey]
  split <;> simp_all

/-- The last member. -/
theorem readMembers_endObject {s s' : Settings} {ps : List Piece} {key : Text} {ts rest : List Token}
    (hkey : ofPieces ps = some key) (h : readMember s key ts = .ok (s', .endObject :: rest)) :
    readMembers s (.string ps :: ts) = .ok (s', rest) := by
  rw [readMembers]
  simp only [hkey]
  split <;> simp_all

/-! ### Reading what was written -/

/-- A written member is four tokens, whose strings stand for the name and the delimiter of the side. -/
theorem exists_tokens_memberText (δ : Delimiters) (side : Side) (rest : Text) :
    ∃ ks ps, ofPieces ks = some side.name ∧ ofPieces ps = some (δ.get side) ∧
      tokens (δ.memberText side ++ rest) = .string ks :: .colon :: .string ps :: tokens rest := by
  obtain ⟨ps, hps, hvalue⟩ := Json.exists_tokens_quote (δ.get side) rest
  obtain ⟨ks, hks, hname⟩ := Json.exists_tokens_quote side.name (':' :: (quote (δ.get side) ++ rest))
  have hcolon : tokens (':' :: (quote (δ.get side) ++ rest)) = .colon :: .string ps :: tokens rest := by
    rw [Json.tokens_cons (by decide), ← hvalue]
    rfl
  refine ⟨ks, ps, hks, hps, ?_⟩
  rw [memberText, List.append_assoc, List.cons_append, hname, hcolon]

theorem readSettings_toJson (δ : Delimiters) :
    readSettings (tokens δ.toJson) = .ok (⟨some δ.opening, some δ.closing⟩, []) := by
  obtain ⟨kc, pc, hkc, hpc, hclosing⟩ := exists_tokens_memberText δ .closing ['\x7d']
  obtain ⟨ko, po, hko, hpo, hopening⟩ :=
    exists_tokens_memberText δ .opening (',' :: (δ.memberText .closing ++ ['\x7d']))
  have hend : tokens ['\x7d'] = [.endObject] := by
    rw [Json.tokens_cons (by decide)]
    simp [Json.readToken, tokens]
  have hcomma : tokens (',' :: (δ.memberText .closing ++ ['\x7d'])) =
      [.comma, .string kc, .colon, .string pc, .endObject] := by
    rw [Json.tokens_cons (by decide), ← hend, ← hclosing]
    rfl
  have htokens : tokens δ.toJson =
      .beginObject :: .string ko :: .colon :: .string po ::
        tokens (',' :: (δ.memberText .closing ++ ['\x7d'])) := by
    have hwritten : δ.toJson =
        '\x7b' :: (δ.memberText .opening ++ (',' :: (δ.memberText .closing ++ ['\x7d']))) := by
      simp [toJson, Json.separated, List.intercalate]
    rw [hwritten, Json.tokens_cons (by decide), ← hopening]
    rfl
  rw [htokens, hcomma, readSettings, readMembers_comma hko (readMember_side rfl hpo _),
    readMembers_endObject hkc (readMember_side rfl hpc _)]
  · rfl
  · simp

/-- Delimiters are made of their two texts. -/
theorem make_eq (δ : Delimiters) : make δ.opening δ.closing = .ok δ := by
  rw [make, dif_neg δ.opening_ne_nil, dif_neg δ.closing_ne_nil]

/-- Written delimiters are read back.  So different delimiters are written differently, and it is the same to
render with those that were read. -/
theorem ofJson_toJson (δ : Delimiters) :
    ofJson δ.toJson = .ok δ ∧ (∀ ε : Delimiters, ε.toJson = δ.toJson ↔ ε = δ) ∧
      ∀ resolve document,
        (ofJson δ.toJson).map (fun ε => render ε resolve document) = .ok (render δ resolve document) := by
  have hread (ε : Delimiters) : ofJson ε.toJson = .ok ε := by
    rw [ofJson, readSettings_toJson]
    show ((make ε.opening ε.closing).mapError _ >>= _) = _
    rw [make_eq]
    rfl
  refine ⟨hread δ, ?_, ?_⟩
  · intro ε
    constructor
    · intro h
      have hε := hread ε
      rw [h, hread δ] at hε
      exact (Except.ok.inj hε).symm
    · rintro rfl
      rfl
  · intro resolve document
    rw [hread]
    rfl

end Delimiters

end TextTemplate
