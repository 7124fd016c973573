import Mathlib.Data.List.Basic
import TextTemplate.Scanner.Scan

/-!
# The moves of a scan

Everything a scanner does is one of nine moves (`Move`): it hands out a pending text, goes on by one character,
opens a token, closes one in three ways, or deals with the end of the document in three ways.  A call is a
number of moves without a block, all of them silent, followed by the move that answers (`Call`).

The invariant behind all of it is `Valid`: no delimiter that the scan was looking out for starts within the span.
-/

namespace TextTemplate

/-- The text itself, if it is not empty. -/
def Text.nonempty? (t : Text) : Option Text := if t = [] then none else some t

theorem Text.nonempty?_ne_nil (t : Text) : Text.nonempty? t ≠ some [] := by
  unfold nonempty?
  split
  · simp
  · rename_i ht
    intro h
    exact ht (Option.some.inj h)

@[simp] theorem Text.getD_nonempty? (t : Text) : (Text.nonempty? t).getD [] = t := by
  unfold nonempty?
  split
  · rename_i ht
    rw [ht]
    rfl
  · rfl

/-- The block of a copied text, if there is any text. -/
def Block.ofText? (t : Text) : Option Block := (Text.nonempty? t).map .text

theorem Block.ofText?_eq (t : Text) : Block.ofText? t = if t = [] then none else some (.text t) := by
  unfold ofText? Text.nonempty?
  split <;> rfl

theorem Block.eq_text_of_mem_ofText? {t : Text} {b : Block} (h : b ∈ (ofText? t).toList) : b = .text t := by
  rw [ofText?_eq] at h
  split at h
  · cases h
  · exact List.mem_singleton.1 h

@[simp] theorem Block.flatMap_content_ofText? (t : Text) : (ofText? t).toList.flatMap content = t := by
  rw [ofText?_eq]
  split
  · rename_i ht
    rw [ht]
    rfl
  · exact List.append_nil t

/-- The delimiter that a scan looks out for. -/
def Delimiters.awaited (δ : Delimiters) : Phase → Text
  | .literal => δ.opening
  | .token => δ.closing

theorem Delimiters.awaited_ne_nil (δ : Delimiters) (phase : Phase) : δ.awaited phase ≠ [] := by
  cases phase with
  | literal => exact δ.opening_ne_nil
  | token => exact δ.closing_ne_nil

theorem Text.not_isPrefix_of_isPrefixOf? {lead t : Text} (h : lead.isPrefixOf? t = none) : ¬ lead <+: t := by
  rintro ⟨rest, hrest⟩
  rw [List.isPrefixOf?_eq_some_iff_append_eq.2 hrest] at h
  cases h

/-- What a call adds to the output. -/
def Pull.output (p : Pull) : Text := (p.block.map Block.content).getD []

theorem Pull.flatMap_content_blocks (ps : List Pull) : (blocks ps).flatMap Block.content = ps.flatMap output := by
  induction ps with
  | nil => rfl
  | cons p ps ih =>
    rw [List.flatMap_cons, ← ih, output, blocks, blocks]
    cases hb : p.block with
    | none => rw [List.filterMap_cons_none hb]; rfl
    | some b => rw [List.filterMap_cons_some hb, List.flatMap_cons]; rfl

theorem Trail.toText_push_append (t : Trail) (c : Char) (rest : Text) :
    (t.push c).toText ++ rest = t.toText ++ c :: rest := by
  rw [toText_push, List.append_assoc]
  rfl

namespace Scanner

/-! ### The text before a run of delimiters -/

/-- The text before the cursor ends with the opening delimiter wherever the sliding stops. -/
theorem isSuffix_slide {opening : Text} {before : Trail} (h : opening <:+ before.toText) (rest : Text) :
    opening <:+ (slide opening before rest).1.toText := by
  induction rest generalizing before with
  | nil => exact h
  | cons c rest ih =>
    rw [slide]
    split
    · rename_i hc
      exact ih (Trail.endsWith_iff.1 hc)
    · exact h

/-- Without the delimiter at its end, the text held after sliding is the text in front of the delimiter. -/
private theorem toText_dropEnd_slide {opening : Text} {before : Trail}
    (h : opening <:+ before.toText) (rest : Text) :
    (slide opening before rest).1.toText =
      ((slide opening before rest).1.dropEnd opening.length).toText ++ opening := by
  obtain ⟨lead, hlead⟩ := isSuffix_slide h rest
  rw [Trail.toText_dropEnd, ← hlead, List.length_append, Nat.add_sub_cancel, List.take_left]

/-! ### Moves -/

/-- What a scan can do next, and what that answers. -/
inductive Move (δ : Delimiters) (resolve : Resolver) (s : Scanner) : Pull → Prop
  /-- A pending text goes out before anything else happens. -/
  | pending {text : Text} (hp : s.pending = some text) :
      Move δ resolve s (.quiet (some (.text text)) { s with pending := none })
  /-- No delimiter at the cursor: the span takes the next character. -/
  | step {c : Char} {rest : Text} (hp : s.pending = none) (hr : s.rest = c :: rest)
      (hd : ¬ δ.awaited s.phase <+: s.rest) :
      Move δ resolve s (.quiet none { s with span := s.span.push c, rest := rest })
  /-- A token opens.  Of a run of delimiter text the last opening counts, and `lead` is the text in front of it.
  -/
  | opening {after lead rest : Text} {held : Trail} (hp : s.pending = none) (hph : s.phase = .literal)
      (hr : s.rest = δ.opening ++ after)
      (hs : slide δ.opening (s.span.extend δ.opening) after = (held, rest))
      (hl : held.toText = lead ++ δ.opening) :
      Move δ resolve s (.quiet (Block.ofText? lead)
        { s with phase := .token, passed := s.passed.join held, span := .empty, rest := rest })
  /-- A token without a name closes; the close delimiter stays. -/
  | blank {after : Text} (hp : s.pending = none) (hph : s.phase = .token) (hr : s.rest = δ.closing ++ after)
      (hn : s.span.toText = []) :
      Move δ resolve s (.quiet (some (.delimiter δ.opening))
        { s with phase := .literal, passed := s.passed.join s.span, span := .empty })
  /-- A token closes whose name has a replacement. -/
  | resolved {after value : Text} (hp : s.pending = none) (hph : s.phase = .token)
      (hr : s.rest = δ.closing ++ after) (hn : s.span.toText ≠ [])
      (hv : resolve s.span.toText = some value) :
      Move δ resolve s ⟨some (.value value), [s.span.toText], [],
        { s with
          phase := .literal, passed := (s.passed.join s.span).extend δ.closing, span := .empty, rest := after }⟩
  /-- A token closes whose name has no replacement: the name is pending, the close delimiter stays. -/
  | unresolved {after : Text} (hp : s.pending = none) (hph : s.phase = .token)
      (hr : s.rest = δ.closing ++ after) (hn : s.span.toText ≠ []) (hv : resolve s.span.toText = none) :
      Move δ resolve s ⟨some (.delimiter δ.opening), [s.span.toText], [⟨s.span.toText, s.mark⟩],
        { s with
          phase := .literal, passed := s.passed.join s.span, span := .empty, pending := some s.span.toText }⟩
  /-- The document ends in literal text. -/
  | lastText (hp : s.pending = none) (hr : s.rest = []) (hf : s.finished = false) (hph : s.phase = .literal) :
      Move δ resolve s (.quiet (Block.ofText? s.span.toText) { s with finished := true })
  /-- The document ends in a token. -/
  | lastName (hp : s.pending = none) (hr : s.rest = []) (hf : s.finished = false) (hph : s.phase = .token) :
      Move δ resolve s (.quiet (some (.delimiter δ.opening))
        { s with finished := true, pending := Text.nonempty? s.span.toText })
  /-- Nothing is left. -/
  | exhausted (hp : s.pending = none) (hr : s.rest = []) (hf : s.finished = true) : Move δ resolve s (.quiet none s)

variable {δ : Delimiters} {resolve : Resolver} {s : Scanner} {p : Pull}

private theorem move_step (hp : s.pending = none) (hr : s.rest ≠ []) (hd : ¬ δ.awaited s.phase <+: s.rest) :
    Move δ resolve s (.quiet none s.step) := by
  obtain ⟨c, rest, hc⟩ := List.exists_cons_of_ne_nil hr
  have hs : s.step = { s with span := s.span.push c, rest := rest } := by
    rw [step, hc]
  rw [hs]
  exact .step hp hc hd

private theorem move_literalTurn (hp : s.pending = none) (hr : s.rest ≠ []) (hph : s.phase = .literal) :
    Move δ resolve s (literalTurn δ s) := by
  unfold literalTurn
  split
  · rename_i hno
    refine move_step hp hr ?_
    rw [hph]
    exact Text.not_isPrefix_of_isPrefixOf? hno
  · rename_i after ha
    -- the slide starts with text that ends with the delimiter, and so it stops with such text
    have hend : δ.opening <:+ (s.span.extend δ.opening).toText := by
      rw [Trail.toText_extend]
      exact List.suffix_append _ _
    have hheld := toText_dropEnd_slide hend after
    generalize hs : slide δ.opening (s.span.extend δ.opening) after = held at hheld
    dsimp only
    rw [← Block.ofText?_eq]
    exact .opening hp hph (Text.eq_append_of_isPrefixOf? ha) hs hheld

private theorem move_tokenTurn (hp : s.pending = none) (hr : s.rest ≠ []) (hph : s.phase = .token) :
    Move δ resolve s (tokenTurn δ resolve s) := by
  unfold tokenTurn
  split
  · rename_i hno
    refine move_step hp hr ?_
    rw [hph]
    exact Text.not_isPrefix_of_isPrefixOf? hno
  · rename_i after ha
    have hrest := Text.eq_append_of_isPrefixOf? ha
    dsimp only
    split
    · exact .blank hp hph hrest (by assumption)
    · split
      · exact .resolved hp hph hrest (by assumption) (by assumption)
      · exact .unresolved hp hph hrest (by assumption) (by assumption)

theorem move_turn (hp : s.pending = none) (hr : s.rest ≠ []) : Move δ resolve s (turn δ resolve s) := by
  unfold turn
  split
  · exact move_literalTurn hp hr (by assumption)
  · exact move_tokenTurn hp hr (by assumption)

theorem move_finish (hp : s.pending = none) (hr : s.rest = []) : Move δ resolve s (finish δ s) := by
  unfold finish
  split
  · exact .exhausted hp hr (by assumption)
  · rename_i hf
    rw [Bool.not_eq_true] at hf
    dsimp only
    split
    · exact .lastText hp hr hf (by assumption)
    · rw [hp, Option.or_none]
      exact .lastName hp hr hf (by assumption)

/-- A move without a block does nothing but go on. -/
theorem Move.eq_quiet (h : Move δ resolve s p) (hb : p.block = none) : p = .quiet none p.scanner := by
  cases h with
  | pending => cases hb
  | step => rfl
  | opening =>
    rw [show Block.ofText? _ = none from hb]
    rfl
  | blank => cases hb
  | resolved => cases hb
  | unresolved => cases hb
  | lastText =>
    rw [show Block.ofText? _ = none from hb]
    rfl
  | lastName => cases hb
  | exhausted => rfl

/-- Texts are made pending together with a block only. -/
theorem Move.pending_eq_none (h : Move δ resolve s p) (hb : p.block = none) : p.scanner.pending = none := by
  cases h with
  | pending => cases hb
  | step hp => exact hp
  | opening hp => exact hp
  | blank => cases hb
  | resolved => cases hb
  | unresolved => cases hb
  | lastText hp => exact hp
  | lastName => cases hb
  | exhausted hp => exact hp

/-- A move without a block at the end of the document leaves the end dealt with. -/
theorem Move.finished_eq_true (h : Move δ resolve s p) (hr : s.rest = []) (hb : p.block = none) :
    p.scanner.finished = true := by
  cases h with
  | pending => cases hb
  | step _ hc =>
    rw [hr] at hc
    cases hc
  | opening _ _ ho =>
    rw [hr] at ho
    exact absurd (List.append_eq_nil_iff.1 ho.symm).1 δ.opening_ne_nil
  | blank => cases hb
  | resolved => cases hb
  | unresolved => cases hb
  | lastText => rfl
  | lastName => cases hb
  | exhausted _ _ hf => exact hf

/-- The rest does not grow. -/
theorem Move.rest_eq_nil (h : Move δ resolve s p) (hr : s.rest = []) : p.scanner.rest = [] := by
  cases h with
  | step _ hc =>
    rw [hr] at hc
    cases hc
  | opening _ _ ho =>
    rw [hr] at ho
    exact absurd (List.append_eq_nil_iff.1 ho.symm).1 δ.opening_ne_nil
  | resolved _ _ hc =>
    rw [hr] at hc
    exact (List.append_eq_nil_iff.1 hc.symm).2
  | _ => exact hr

/-! ### The invariant -/

/-- No delimiter that the scan was looking out for starts within the span, a scan that has dealt with the end of
the document is there, and no empty text is pending. -/
structure Valid (δ : Delimiters) (s : Scanner) : Prop where
  clear : ∀ k < s.span.toText.length, ¬ δ.awaited s.phase <+: (s.span.toText ++ s.rest).drop k
  rest_of_finished : s.finished = true → s.rest = []
  pending_ne_nil : s.pending ≠ some []

theorem valid_start (δ : Delimiters) (document : Text) : (start document).Valid δ where
  clear := by
    intro k hk
    exact absurd hk (Nat.not_lt_zero k)
  rest_of_finished := by
    intro hf
    cases hf
  pending_ne_nil := by
    intro hp
    cases hp

/-- A delimiter ahead means that the end of the document is not dealt with. -/
theorem Valid.finished_eq_false (hv : s.Valid δ) (phase : Phase) {after : Text}
    (hr : s.rest = δ.awaited phase ++ after) : s.finished = false := by
  rw [← Bool.not_eq_true]
  intro hf
  rw [hv.rest_of_finished hf] at hr
  exact δ.awaited_ne_nil phase (List.append_eq_nil_iff.1 hr.symm).1

private theorem Valid.of_span_empty (hs : s.span = .empty) (hf : s.finished = false) (hp : s.pending ≠ some []) :
    s.Valid δ where
  clear := by
    intro k hk
    rw [hs] at hk
    exact absurd hk (Nat.not_lt_zero k)
  rest_of_finished := by
    intro h
    rw [hf] at h
    cases h
  pending_ne_nil := hp

private theorem Valid.push (hv : s.Valid δ) {c : Char} {rest : Text} (hr : s.rest = c :: rest)
    (hd : ¬ δ.awaited s.phase <+: s.rest) : Valid δ { s with span := s.span.push c, rest := rest } where
  clear := by
    intro k hk
    -- a delimiter could start where the span was clear already, or at the cursor
    rw [Trail.toText_push_append, ← hr]
    rw [Trail.toText_push, List.length_append, List.length_singleton] at hk
    rcases Nat.lt_succ_iff_lt_or_eq.1 hk with hk | rfl
    · exact hv.clear k hk
    · rw [List.drop_left]
      exact hd
  rest_of_finished := by
    intro hf
    rw [hv.rest_of_finished hf] at hr
    cases hr
  pending_ne_nil := hv.pending_ne_nil

theorem Move.valid (h : Move δ resolve s p) (hv : s.Valid δ) : p.scanner.Valid δ := by
  cases h with
  | pending => exact ⟨hv.clear, hv.rest_of_finished, by simp [Pull.quiet]⟩
  | step hp hr hd => exact hv.push hr hd
  | opening hp hph hr => exact .of_span_empty rfl (hv.finished_eq_false .literal hr) hv.pending_ne_nil
  | blank hp hph hr => exact .of_span_empty rfl (hv.finished_eq_false .token hr) hv.pending_ne_nil
  | resolved hp hph hr => exact .of_span_empty rfl (hv.finished_eq_false .token hr) hv.pending_ne_nil
  | unresolved hp hph hr hn =>
    exact .of_span_empty rfl (hv.finished_eq_false .token hr) (fun h => hn (Option.some.inj h))
  | lastText hp hr => exact ⟨hv.clear, fun _ => hr, hv.pending_ne_nil⟩
  | lastName hp hr => exact ⟨hv.clear, fun _ => hr, Text.nonempty?_ne_nil _⟩
  | exhausted => exact hv

/-! ### Calls -/

/-- A call goes on in silence until a move yields a block, or deals with the end of the document. -/
inductive Call (δ : Delimiters) (resolve : Resolver) : Scanner → Pull → Prop
  | silent {s s' : Scanner} {p : Pull} (hm : Move δ resolve s (.quiet none s')) (hr : s.rest ≠ [])
      (hc : Call δ resolve s' p) : Call δ resolve s p
  | answer {s : Scanner} {p : Pull} (hm : Move δ resolve s p) (hb : p.block = none → s.rest = []) :
      Call δ resolve s p

private theorem call_advance (hp : s.pending = none) : Call δ resolve s (advance δ resolve s) := by
  fun_induction advance δ resolve s with
  | case1 s hr => exact .answer (move_finish hp hr) (fun _ => hr)
  | case2 s hr p hb ih =>
    have hm : Move δ resolve s p := move_turn hp hr
    have hq := hm.eq_quiet hb
    rw [hq]
    exact .silent (hq ▸ hm) hr (ih (hm.pending_eq_none hb))
  | case3 s hr p hb => exact .answer (move_turn hp hr) (fun h => absurd h hb)

/-- A call is a number of silent moves and one that answers. -/
theorem call_next (δ : Delimiters) (resolve : Resolver) (s : Scanner) : Call δ resolve s (next δ resolve s) := by
  unfold next
  split
  · rename_i text hp
    exact .answer (.pending hp) (by intro hb; cases hb)
  · exact call_advance (by assumption)

theorem Call.valid (h : Call δ resolve s p) (hv : s.Valid δ) : p.scanner.Valid δ := by
  induction h with
  | silent hm _ _ ih => exact ih (hm.valid hv)
  | answer hm _ => exact hm.valid hv

/-- A call without a block leaves nothing to do. -/
theorem Call.finished_of_block_eq_none (h : Call δ resolve s p) (hb : p.block = none) :
    p.scanner.finished = true ∧ p.scanner.pending = none := by
  induction h with
  | silent _ _ _ ih => exact ih hb
  | answer hm hr => exact ⟨hm.finished_eq_true (hr hb) hb, hm.pending_eq_none hb⟩

end Scanner

end TextTemplate
