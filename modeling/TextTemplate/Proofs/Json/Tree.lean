import TextTemplate.Proofs.Json.Grammar

/-!
# The tokens of JSON values

A value as a list of tokens (`Tree.tokens`), with commas between the items of an array and the members of an
object.  A reader takes exactly these tokens and ends with the value, whatever is open around it and whatever
follows (`Reader.run_tokens`).  So every text that is a spelling of the tokens of a value is read as that value.
-/

namespace TextTemplate

namespace Json

/-! ### Tokens of values -/

mutual

/-- The tokens of a value. -/
def Tree.tokens : Tree → List Token
  | .null => [.null]
  | .bool b => [.bool b]
  | .numeral n => [.numeral n]
  | .string ps => [.string ps]
  | .array items => .beginArray :: (List.intercalate [.comma] (Tree.itemTokens items) ++ [.endArray])
  | .object members => .beginObject :: (List.intercalate [.comma] (Tree.memberTokens members) ++ [.endObject])

/-- The tokens of the items of an array. -/
def Tree.itemTokens : List Tree → List (List Token)
  | [] => []
  | v :: vs => v.tokens :: Tree.itemTokens vs

/-- The tokens of the members of an object. -/
def Tree.memberTokens : List (List Piece × Tree) → List (List Token)
  | [] => []
  | (key, v) :: ms => (.string key :: .colon :: v.tokens) :: Tree.memberTokens ms

end

/-! ### Reading them -/

theorem exists_append_intercalate {α : Type} (between first : List α) (others : List (List α)) :
    ∃ more, List.intercalate between (first :: others) = first ++ more := by
  cases others with
  | nil => exact ⟨[], by rw [List.intercalate_singleton, List.append_nil]⟩
  | cons second others => exact ⟨_, by rw [List.intercalate_cons_cons, List.append_assoc]⟩

namespace Reader

/-- Goes on with further tokens, unless the value is complete. -/
def goOn (rest : List Token) : Reader ⊕ Tree → Option (Tree × List Token)
  | .inl r => r.run rest
  | .inr v => some (v, rest)

theorem run_cons {r : Reader} {t : Token} {next : Reader ⊕ Tree} (h : r.step? t = some next) (ts : List Token) :
    r.run (t :: ts) = goOn ts next := by
  rw [run, h]
  cases next with
  | inl r => rfl
  | inr v => rfl

/-- The first item of an array is read as any other value is. -/
theorem run_firstItem {t : Token} (ht : t ≠ .endArray) (stack : List Frame) (ts : List Token) :
    run ⟨stack, .firstItem⟩ (t :: ts) = run ⟨stack, .value⟩ (t :: ts) := by
  cases t with
  | endArray => exact absurd rfl ht
  | _ => rfl

private theorem exists_cons_tokens (v : Tree) : ∃ t ts, v.tokens = t :: ts ∧ t ≠ .endArray := by
  cases v with
  | _ =>
    rw [Tree.tokens]
    exact ⟨_, _, rfl, Token.noConfusion⟩

mutual

/-- The tokens of a value are read as the value. -/
theorem run_tokens (v : Tree) (stack : List Frame) (rest : List Token) :
    run ⟨stack, .value⟩ (v.tokens ++ rest) = goOn rest (complete v stack) := by
  cases v with
  | array items =>
    rw [Tree.tokens, List.cons_append, List.append_assoc, run_cons rfl]
    cases items with
    | nil => exact run_cons rfl rest
    | cons v vs =>
      have hitems := run_items (v :: vs) (List.cons_ne_nil _ _) [] stack rest
      obtain ⟨more, hmore⟩ := exists_append_intercalate [.comma] v.tokens (Tree.itemTokens vs)
      obtain ⟨t, ts, ht, hne⟩ := exists_cons_tokens v
      rw [Tree.itemTokens, hmore, ht, List.cons_append, List.cons_append] at hitems ⊢
      exact (run_firstItem hne _ _).trans hitems
  | object members =>
    rw [Tree.tokens, List.cons_append, List.append_assoc, run_cons rfl]
    cases members with
    | nil => exact run_cons rfl rest
    | cons m ms =>
      -- a first member is read as a later one is, but after a comma an object cannot end
      have hmembers := run_members (m :: ms) (List.cons_ne_nil _ _) [] stack rest
      obtain ⟨more, hmore⟩ :=
        exists_append_intercalate [.comma] (.string m.1 :: .colon :: m.2.tokens) (Tree.memberTokens ms)
      rw [Tree.memberTokens, hmore] at hmembers ⊢
      exact hmembers
  | _ => exact run_cons rfl rest

/-- The items of an array are read one after the other, `before` holding those read so far, the last one first. -/
theorem run_items (vs : List Tree) (hne : vs ≠ []) (before : List Tree) (stack : List Frame) (rest : List Token) :
    run ⟨.array before :: stack, .value⟩ (List.intercalate [.comma] (Tree.itemTokens vs) ++ ([.endArray] ++ rest)) =
      goOn rest (complete (.array (before.reverse ++ vs)) stack) := by
  match vs with
  | [v] =>
    rw [Tree.itemTokens, Tree.itemTokens, List.intercalate_singleton, run_tokens v]
    show run ⟨.array (v :: before) :: stack, .more⟩ (.endArray :: rest) = _
    rw [run_cons rfl, List.reverse_cons]
  | v :: w :: vs =>
    have hitems := run_items (w :: vs) (List.cons_ne_nil _ _) (v :: before) stack rest
    rw [Tree.itemTokens, List.reverse_cons, List.append_assoc] at hitems
    rw [Tree.itemTokens, Tree.itemTokens, List.intercalate_cons_cons, List.append_assoc, List.append_assoc,
      run_tokens v]
    show run ⟨.array (v :: before) :: stack, .more⟩ (.comma :: _) = _
    rw [run_cons rfl]
    exact hitems

/-- The members of an object are read one after the other. -/
theorem run_members (ms : List (List Piece × Tree)) (hne : ms ≠ []) (before : List (List Piece × Tree))
    (stack : List Frame) (rest : List Token) :
    run ⟨stack, .key before⟩ (List.intercalate [.comma] (Tree.memberTokens ms) ++ ([.endObject] ++ rest)) =
      goOn rest (complete (.object (before.reverse ++ ms)) stack) := by
  match ms with
  | [(key, v)] =>
    rw [Tree.memberTokens, Tree.memberTokens, List.intercalate_singleton, List.cons_append, List.cons_append,
      run_cons rfl]
    show run ⟨.object before key :: stack, .colon⟩ (.colon :: _) = _
    rw [run_cons rfl]
    show run ⟨.object before key :: stack, .value⟩ _ = _
    rw [run_tokens v]
    show run ⟨.object ((key, v) :: before) key :: stack, .more⟩ (.endObject :: rest) = _
    rw [run_cons rfl, List.reverse_cons]
  | (key, v) :: n :: ms =>
    have hmembers := run_members (n :: ms) (List.cons_ne_nil _ _) ((key, v) :: before) stack rest
    rw [Tree.memberTokens, List.reverse_cons, List.append_assoc] at hmembers
    rw [Tree.memberTokens, Tree.memberTokens, List.intercalate_cons_cons, List.append_assoc, List.append_assoc,
      List.cons_append, List.cons_append, run_cons rfl]
    show run ⟨.object before key :: stack, .colon⟩ (.colon :: _) = _
    rw [run_cons rfl]
    show run ⟨.object before key :: stack, .value⟩ _ = _
    rw [run_tokens v]
    show run ⟨.object ((key, v) :: before) key :: stack, .more⟩ (.comma :: _) = _
    rw [run_cons rfl]
    exact hmembers

end

end Reader

/-- The tokens of a value are read as the value, and what follows them is left. -/
theorem readTree_tokens (v : Tree) (rest : List Token) : readTree (v.tokens ++ rest) = some (v, rest) :=
  Reader.run_tokens v [] rest

end Json

end TextTemplate
