import TextTemplate.Proofs.Scanner.Append
import TextTemplate.Proofs.Text.Offset

/-!
# The place of a scan in its document

Between its moves a scan is at a place in the document (`Scanner.Placed`): what is passed, the span and the rest
make up the document, and while a name is read an opening delimiter ends at the mark, but none ends one
character later.  Every call of a scan is answered by a move from such a place (`exists_move_of_mem_pulls`).
-/

namespace TextTemplate

namespace Scanner

variable {δ : Delimiters} {resolve : Resolver} {document : Text} {s : Scanner} {p : Pull}

/-! ### The end of a run of delimiters -/

/-- Where the sliding stops, the delimiter does not end one character later. -/
theorem not_isSuffix_slide (opening : Text) (before : Trail) (rest : Text) :
    ∀ c ∈ (slide opening before rest).2.head?, ¬ opening <:+ (slide opening before rest).1.toText ++ [c] := by
  induction rest generalizing before with
  | nil =>
    intro c hc
    cases hc
  | cons d rest ih =>
    rw [slide]
    split
    · exact ih _
    · rename_i hd
      rintro c ⟨⟩
      rw [← Trail.toText_push]
      exact fun h => hd (Trail.endsWith_iff.2 h)

/-- A token opens in the same place if the document is looked at from its start. -/
theorem slide_passed {after rest : Text} {held : Trail}
    (hs : slide δ.opening (s.span.extend δ.opening) after = (held, rest)) :
    slide δ.opening (s.passed.join (s.span.extend δ.opening)) after = (s.passed.join held, rest) := by
  have hlen : δ.opening.length ≤ (s.span.extend δ.opening).toText.length := by
    rw [Trail.toText_extend, List.length_append]
    omega
  rw [slide_join s.passed hlen, hs]

/-! ### Places -/

/-- A scan at a place in a document. -/
structure Placed (δ : Delimiters) (document : Text) (s : Scanner) : Prop where
  valid : s.Valid δ
  document_eq : s.document = document
  opening_ends : s.phase = .token → δ.opening <:+ s.passed.toText
  run_ends : s.phase = .token → ∀ c ∈ (s.span.toText ++ s.rest).head?, ¬ δ.opening <:+ s.passed.toText ++ [c]

theorem placed_start (δ : Delimiters) (document : Text) : (start document).Placed δ document where
  valid := valid_start δ document
  document_eq := rfl
  opening_ends := by
    intro hph
    cases hph
  run_ends := by
    intro hph
    cases hph

theorem cursor_eq (s : Scanner) : s.cursor = (s.passed.toText ++ s.span.toText).byteLength := by
  rw [Text.byteLength_append, ← Trail.byteLength_eq, ← Trail.byteLength_eq]
  rfl

theorem Placed.eq_append (hs : s.Placed δ document) : document = s.passed.toText ++ (s.span.toText ++ s.rest) := by
  rw [← hs.document_eq, Scanner.document, List.append_assoc]

theorem Placed.endsAt_mark (hs : s.Placed δ document) (hph : s.phase = .token) :
    Text.EndsAt δ.opening document s.mark := by
  rw [hs.eq_append, mark, Trail.byteLength_eq]
  exact Text.endsAt_append_iff.2 (hs.opening_ends hph)

/-- A move leads to a place in the same document. -/
theorem Move.placed (h : Move δ resolve s p) (hs : s.Placed δ document) : p.scanner.Placed δ document := by
  refine ⟨h.valid hs.valid, h.document_eq.trans hs.document_eq, ?_, ?_⟩
  · cases h with
    | opening hp hph hr hslide hl =>
      intro _
      rw [Pull.quiet, Trail.toText_join, hl, ← List.append_assoc]
      exact List.suffix_append _ _
    | blank | resolved | unresolved =>
      intro hph
      cases hph
    | _ => exact hs.opening_ends
  · cases h with
    | step hp hr =>
      rw [Pull.quiet]
      dsimp only
      rw [Trail.toText_push_append, ← hr]
      exact hs.run_ends
    | @opening after lead rest held hp hph hr hslide hl =>
      intro _
      have hstop := not_isSuffix_slide δ.opening (s.passed.join (s.span.extend δ.opening)) after
      rw [slide_passed hslide] at hstop
      exact hstop
    | blank | resolved | unresolved =>
      intro hph
      cases hph
    | _ => exact hs.run_ends

/-- A call is answered by a move from a place in the document, and if it has no block from its end. -/
theorem Call.exists_move (h : Call δ resolve s p) (hs : s.Placed δ document) :
    ∃ s' : Scanner, s'.Placed δ document ∧ Move δ resolve s' p ∧ (p.block = none → s'.rest = []) := by
  induction h with
  | silent hm _ _ ih => exact ih (hm.placed hs)
  | @answer s p hm hr => exact ⟨s, hs, hm, hr⟩

theorem Call.placed (h : Call δ resolve s p) (hs : s.Placed δ document) : p.scanner.Placed δ document := by
  obtain ⟨s', hs', hm, -⟩ := h.exists_move hs
  exact hm.placed hs'

/-- Every call of a run is answered by a move from a place in the document, and the last one from its end. -/
theorem exists_move_of_mem_pulls (hs : s.Placed δ document) :
    ∀ p ∈ s.pulls δ resolve, ∃ s' : Scanner,
      s'.Placed δ document ∧ Move δ resolve s' p ∧ (p.block = none → s'.rest = []) := by
  fun_induction pulls δ resolve s with
  | case1 s p hb =>
    intro q hq
    rw [List.mem_singleton.1 hq]
    exact (call_next δ resolve s).exists_move hs
  | case2 s p hb ih =>
    intro q hq
    have hc : Call δ resolve s p := call_next δ resolve s
    rcases List.mem_cons.1 hq with rfl | hq
    · exact hc.exists_move hs
    · exact ih (hc.placed hs) q hq

end Scanner

end TextTemplate
