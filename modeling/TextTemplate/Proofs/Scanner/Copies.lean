import TextTemplate.Proofs.Scanner.Search
import TextTemplate.Render

/-!
# Documents made of delimiters

Copies of a delimiter that opens and closes tokens render to themselves, whatever names resolve to
(`inert_copies`).  If the delimiter is made of one character, all copies are one run, of which only the last
opens a token.  In any other delimiter no run goes on, so that every copy opens a token, and the next one closes
it before there is a name.
-/

namespace TextTemplate

/-- The document renders to itself, and nothing is looked up in it, whatever names resolve to. -/
def Inert (δ : Delimiters) (document : Text) : Prop :=
  ∀ resolve, render δ resolve document = document ∧ Pull.names (scan δ resolve document) = []

theorem inert_of_ofDocument {δ : Delimiters} {document : Text}
    (h : ∀ resolve, ∃ blocks, Reading.ofDocument δ resolve document = ⟨blocks, []⟩ ∧
      blocks.flatMap Block.content = document) : Inert δ document := by
  intro resolve
  obtain ⟨blocks, hread, hcontent⟩ := h resolve
  rw [render, blocks_scan, names_scan, hread]
  exact ⟨hcontent, rfl⟩

namespace Reading

variable {δ : Delimiters} {resolve : Resolver}

private theorem ofDocument_nil (δ : Delimiters) (resolve : Resolver) : ofDocument δ resolve [] = ⟨[], []⟩ :=
  ofDocument_of_none ((Text.findFrom?_eq_none_iff_not_isInfix δ.opening_ne_nil).2 (by simp [δ.opening_ne_nil]))

private theorem ofToken_nil (δ : Delimiters) (resolve : Resolver) : ofToken δ resolve [] = lone δ :=
  ofToken_of_none ((Text.findFrom?_eq_none_iff_not_isInfix δ.closing_ne_nil).2 (by simp [δ.closing_ne_nil]))

private theorem ofToken_closing (after : Text) :
    ofToken δ resolve (δ.closing ++ after) = lone δ ++ ofDocument δ resolve (δ.closing ++ after) := by
  have hfind := (Text.clear_nil δ.closing).findFrom?_append after
  exact (ofToken_of_some hfind).trans (if_pos rfl)

/-- If no run goes on behind the delimiter, every copy is one that opens nothing. -/
theorem ofDocument_copies (hsame : δ.closing = δ.opening)
    (hstop : ∀ c, ¬ δ.opening <:+ δ.opening ++ [c]) (n : Nat) :
    ofDocument δ resolve (List.replicate n δ.opening).flatten = ⟨List.replicate n (.delimiter δ.opening), []⟩ := by
  induction n with
  | zero => exact ofDocument_nil δ resolve
  | succ n ih =>
    have hfirst : ofDocument δ resolve (List.replicate (n + 1) δ.opening).flatten =
        ofToken δ resolve (List.replicate n δ.opening).flatten :=
      ofDocument_append (Text.clear_nil δ.opening) (.inl rfl) (fun c _ => hstop c)
    rw [hfirst]
    cases n with
    | zero => exact ofToken_nil δ resolve
    | succ n =>
      -- the next copy closes the token, and is read again as the first of those that are left
      have hcopies : (List.replicate (n + 1) δ.opening).flatten =
          δ.closing ++ (List.replicate n δ.opening).flatten := by
        rw [List.replicate_succ, List.flatten_cons, hsame]
      rw [hcopies, ofToken_closing, ← hcopies, ih]
      rfl

/-- A run of the character that the delimiter is made of is text, and a delimiter if it is long enough. -/
theorem ofDocument_replicate {c : Char} {k : Nat} (hopen : δ.opening = List.replicate k c) (n : Nat) :
    ofDocument δ resolve (List.replicate n c) =
      if n < k then copied (List.replicate n c) else copied (List.replicate (n - k) c) ++ lone δ := by
  split
  · rename_i hn
    apply ofDocument_of_none
    rw [Text.findFrom?_eq_none_iff_not_isInfix δ.opening_ne_nil, hopen]
    intro hinfix
    have hle := hinfix.length_le
    rw [List.length_replicate, List.length_replicate] at hle
    omega
  · rename_i hn
    have hrun : Text.Repeats δ.opening (List.replicate (n - k) c) := .inr ⟨c, k, n - k, hopen, rfl⟩
    have hdoc : List.replicate n c = List.replicate (n - k) c ++ (δ.opening ++ []) := by
      rw [hopen, List.append_nil, List.replicate_append_replicate, Nat.sub_add_cancel (by omega)]
    have hread : ofDocument δ resolve (List.replicate (n - k) c ++ (δ.opening ++ [])) =
        copied (List.replicate (n - k) c) ++ ofToken δ resolve [] :=
      ofDocument_append (Text.clear_nil δ.opening) hrun (by simp)
    rw [hdoc, hread, ofToken_nil]

end Reading

theorem inert_replicate {δ : Delimiters} {c : Char} {k : Nat} (hopen : δ.opening = List.replicate k c) (n : Nat) :
    Inert δ (List.replicate n c) := by
  apply inert_of_ofDocument
  intro resolve
  rw [Reading.ofDocument_replicate hopen]
  split
  · exact ⟨_, rfl, Block.flatMap_content_ofText? _⟩
  · rename_i hn
    refine ⟨_, rfl, ?_⟩
    rw [List.flatMap_append, Reading.copied, Block.flatMap_content_ofText?]
    show _ ++ (δ.opening ++ []) = _
    rw [hopen, List.append_nil, List.replicate_append_replicate, Nat.sub_add_cancel (by omega)]

/-- Between a delimiter and itself, any number of its copies is inert, and if it is made of one character, so is
that character repeated any number of times. -/
theorem inert_copies {d : Text} (hd : d ≠ []) :
    let δ : Delimiters := ⟨d, d, hd, hd⟩
    (∀ n, Inert δ (List.replicate n d).flatten) ∧
      ∀ c k, d = List.replicate k c → ∀ n, Inert δ (List.replicate n c) := by
  intro δ
  refine ⟨?_, fun c k hopen n => inert_replicate hopen n⟩
  intro n
  by_cases hconst : ∃ c, d <:+ d ++ [c]
  · obtain ⟨c, hc⟩ := hconst
    have hopen : d = List.replicate d.length c := Text.isSuffix_append_singleton_iff.1 hc
    rw [hopen, List.flatten_replicate_replicate]
    exact inert_replicate hopen (n * d.length)
  · apply inert_of_ofDocument
    intro resolve
    refine ⟨_, Reading.ofDocument_copies rfl (fun c hc => hconst ⟨c, hc⟩) n, ?_⟩
    rw [List.flatMap_def, List.map_replicate]
    rfl

/-- The delimiter `aba` overlaps itself, and three times `#` is not a number of copies of `##`. -/
theorem inert_copies_overlapping :
    Inert ⟨['a', 'b', 'a'], ['a', 'b', 'a'], by decide, by decide⟩ ['a', 'b', 'a', 'a', 'b', 'a'] ∧
      Inert .default ['#', '#', '#'] :=
  ⟨(inert_copies (d := ['a', 'b', 'a']) (by decide)).1 2,
    (inert_copies (d := Delimiters.defaultText) (by decide)).2 '#' 2 rfl 3⟩

end TextTemplate
