import TextTemplate.Proofs.Scanner.Offset

/-!
# The offsets of a scan

In the states that a scan reaches (`Scanner.Reached`), its offsets are boundaries of the document, and no turn
fails by them (`Scanner.Reached.safe`).  For as long as a scan is in its place, a turn by its offsets is a turn
of the scan (`Scanner.Move.turn?_eq`), and so are all calls (`Scanner.Placed.calls?_eq`).
-/

namespace TextTemplate

namespace Scanner

open Offsets

variable {δ : Delimiters} {resolve : Resolver} {document : Text} {s : Scanner} {p : Pull}

/-! ### The slices of a scan -/

theorem Placed.slice?_rest (hs : s.Placed δ document) :
    document.slice? s.cursor document.byteLength = some s.rest := by
  rw [hs.eq_append, ← List.append_assoc, cursor_eq]
  exact Text.slice?_rest _ _

theorem Placed.slice?_span (hs : s.Placed δ document) : document.slice? s.mark s.cursor = some s.span.toText := by
  rw [hs.eq_append, cursor_eq, mark, Trail.byteLength_eq]
  exact Text.slice?_append _ _ _

theorem Placed.slice?_last (hs : s.Placed δ document) :
    document.slice? s.mark document.byteLength = some (s.span.toText ++ s.rest) := by
  rw [hs.eq_append, mark, Trail.byteLength_eq]
  exact Text.slice?_rest _ _

/-! ### The turns by their offsets -/

/-- Behind a token nothing is in the span. -/
theorem offsets_of_passed {passed : Trail} {n : Nat} (h : passed.byteLength = n) (phase : Phase) (rest : Text)
    (pending : Option Text) (finished : Bool) :
    offsets ⟨phase, passed, .empty, rest, pending, finished⟩ = ⟨phase, n, n, pending, finished⟩ := by
  subst h
  rfl

theorem Placed.step?_eq (hs : s.Placed δ document) {c : Char} {rest : Text} (hr : s.rest = c :: rest) :
    s.offsets.step? document = some (offsets { s with span := s.span.push c, rest := rest }) := by
  have hwidth : document.widthAt? s.offsets.cursor = some c.utf8Size := by
    rw [Text.widthAt?, show s.offsets.cursor = s.cursor from rfl, hs.slice?_rest, hr]
    rfl
  have hpush : cursor { s with span := s.span.push c, rest := rest } = s.cursor + c.utf8Size := by
    rw [cursor_eq, cursor_eq, Trail.toText_push, ← List.append_assoc, Text.byteLength_append]
    rfl
  rw [step?, hwidth]
  exact congrArg (fun n => some (Offsets.mk s.phase s.mark n s.pending s.finished)) hpush.symm

/-- Behind an opening delimiter at the cursor, the cursors of its run are in the document, the delimiter ends at
each, and the run ends where the sliding does. -/
theorem Placed.exists_runCursors? (hs : s.Placed δ document) {after : Text} (hr : s.rest = δ.opening ++ after) :
    ∃ cursors, runCursors? δ.opening document (s.cursor + δ.opening.byteLength) = some cursors ∧
      cursors.getLast? = some (s.mark + (slide δ.opening (s.span.extend δ.opening) after).1.byteLength) ∧
      ∀ n ∈ cursors, s.cursor + δ.opening.byteLength ≤ n ∧ Text.EndsAt δ.opening document n := by
  have htext : ((s.passed.join s.span).extend δ.opening).toText =
      s.passed.toText ++ s.span.toText ++ δ.opening := by
    rw [Trail.toText_extend, Trail.toText_join]
  have hdoc : ((s.passed.join s.span).extend δ.opening).toText ++ after = document := by
    rw [htext, hs.eq_append, hr, List.append_assoc, List.append_assoc]
  have hcursor : ((s.passed.join s.span).extend δ.opening).byteLength = s.cursor + δ.opening.byteLength := by
    rw [Trail.byteLength_extend, Trail.byteLength_join]
    rfl
  have hsuffix : δ.opening <:+ ((s.passed.join s.span).extend δ.opening).toText := by
    rw [htext]
    exact List.suffix_append _ _
  obtain ⟨cursors, hrun, hlast, hall⟩ := Offsets.exists_runCursors? after hsuffix
  rw [hdoc, hcursor] at hrun hall
  rw [Trail.join_extend, slide_passed (Prod.eta _).symm, Trail.byteLength_join] at hlast
  exact ⟨cursors, hrun, hlast, hall⟩

/-- Without the delimiter that is looked out for at the cursor, the turn goes on by one character. -/
theorem Placed.turn?_step (hs : s.Placed δ document) {c : Char} {rest : Text} (hr : s.rest = c :: rest)
    (hd : ¬ δ.awaited s.phase <+: s.rest) :
    turn? δ resolve document s.offsets =
      some (Pull.quiet none { s with span := s.span.push c, rest := rest }).answer := by
  have hslice := hs.slice?_rest
  have hstep := hs.step?_eq hr
  rw [← List.isPrefixOf_iff_prefix] at hd
  rw [turn?, show s.offsets.phase = s.phase from rfl]
  cases hph : s.phase with
  | literal =>
    rw [hph] at hd hstep
    rw [literalTurn?, show s.offsets.cursor = s.cursor from rfl, hslice, hstep]
    exact if_neg hd
  | token =>
    rw [hph] at hd hstep
    rw [tokenTurn?, show s.offsets.cursor = s.cursor from rfl, hslice, hstep]
    exact if_neg hd

/-- With an opening delimiter at the cursor of literal text, the turn cuts the text in front of the last opening
of the run. -/
theorem Placed.turn?_opening (hs : s.Placed δ document) {after lead rest : Text} {held : Trail}
    (hph : s.phase = .literal) (hr : s.rest = δ.opening ++ after)
    (hslide : slide δ.opening (s.span.extend δ.opening) after = (held, rest))
    (hlead : held.toText = lead ++ δ.opening) :
    turn? δ resolve document s.offsets =
      some (Pull.quiet (Block.ofText? lead)
        { s with phase := .token, passed := s.passed.join held, span := .empty, rest := rest }).answer := by
  obtain ⟨cursors, hcursors, hlast, -⟩ := hs.exists_runCursors? hr
  rw [hslide] at hlast
  -- wherever the run ends, an opening delimiter is in front, which is not part of the text
  have hheld : held.byteLength = lead.byteLength + δ.opening.byteLength := by
    rw [held.byteLength_eq, hlead, Text.byteLength_append]
  have hsub : sub? (s.mark + held.byteLength) δ.opening.byteLength = some (s.mark + lead.byteLength) := by
    rw [sub?, if_pos (by omega), hheld, ← Nat.add_assoc, Nat.add_sub_cancel]
  have htext : document.slice? s.mark (s.mark + lead.byteLength) = some lead := by
    rw [hs.eq_append, append_slide hr hslide hlead, mark, Trail.byteLength_eq, ← Text.byteLength_append]
    exact Text.slice?_append _ _ _
  have hahead : δ.opening.isPrefixOf s.rest = true := List.isPrefixOf_iff_prefix.2 ⟨after, hr.symm⟩
  simp only [turn?, literalTurn?, offsets, hph, hs.slice?_rest, hcursors, hlast, hsub, htext, Option.bind_eq_bind,
    Option.bind_some]
  rw [if_pos hahead]
  exact congrArg (some ∘ Answer.quiet _) (offsets_of_passed (Trail.byteLength_join _ _) ..).symm

/-- With a closing delimiter at the cursor of a token, the turn cuts the name out of the document. -/
theorem Placed.turn?_closing (hs : s.Placed δ document) {after : Text} (hph : s.phase = .token)
    (hr : s.rest = δ.closing ++ after) :
    turn? δ resolve document s.offsets =
      let closed : Offsets := ⟨.literal, s.cursor, s.cursor, s.pending, s.finished⟩
      let name := s.span.toText
      if name = [] then some (.quiet (some (.delimiter δ.opening)) closed)
      else
        match resolve name with
        | some value =>
          let stop := s.cursor + δ.closing.byteLength
          some ⟨some (.value value), [name], [], { closed with mark := stop, cursor := stop }⟩
        | none =>
          some ⟨some (.delimiter δ.opening), [name], [⟨name, s.mark⟩], { closed with pending := some name }⟩ := by
  have hahead : δ.closing.isPrefixOf s.rest = true := List.isPrefixOf_iff_prefix.2 ⟨after, hr.symm⟩
  simp only [turn?, tokenTurn?, offsets, hph, hs.slice?_rest, hs.slice?_span, Option.bind_eq_bind, Option.bind_some]
  rw [if_pos hahead]
  rfl

/-- In its place a move before the end of the document is a turn by the offsets. -/
theorem Move.turn?_eq (h : Move δ resolve s p) (hs : s.Placed δ document) (hp : s.pending = none)
    (hr : s.rest ≠ []) : turn? δ resolve document s.offsets = some p.answer := by
  cases h with
  | pending hsome =>
    rw [hp] at hsome
    cases hsome
  | step _ hrest hd => exact hs.turn?_step hrest hd
  | opening _ hph hrest hslide hlead => exact hs.turn?_opening hph hrest hslide hlead
  | blank _ hph hrest hn =>
    rw [hs.turn?_closing hph hrest, if_pos hn]
    exact congrArg (some ∘ Answer.quiet _) (offsets_of_passed (Trail.byteLength_join _ _) ..).symm
  | resolved _ hph hrest hn hv =>
    have hpassed : ((s.passed.join s.span).extend δ.closing).byteLength = s.cursor + δ.closing.byteLength := by
      rw [Trail.byteLength_extend, Trail.byteLength_join]
      rfl
    rw [hs.turn?_closing hph hrest, if_neg hn, hv]
    exact congrArg (some ∘ Answer.mk _ _ _) (offsets_of_passed hpassed ..).symm
  | unresolved _ hph hrest hn hv =>
    rw [hs.turn?_closing hph hrest, if_neg hn, hv]
    exact congrArg (some ∘ Answer.mk _ _ _) (offsets_of_passed (Trail.byteLength_join _ _) ..).symm
  | lastText _ hend | lastName _ hend | exhausted _ hend => exact absurd hend hr

/-- In its place the end of the document is the end by the offsets. -/
theorem Placed.finish?_eq (hs : s.Placed δ document) (hr : s.rest = []) :
    finish? δ document s.offsets = some (finish δ s).answer := by
  have hlast := hs.slice?_last
  rw [hr, List.append_nil] at hlast
  rw [finish?, finish, show s.offsets.finished = s.finished from rfl, show s.offsets.mark = s.mark from rfl,
    show s.offsets.phase = s.phase from rfl, hlast]
  cases hf : s.finished with
  | true =>
    rfl
  | false =>
    cases hph : s.phase with
    | literal => rfl
    | token => rfl

/-! ### The calls by their offsets -/

theorem Placed.byteLength_eq (hs : s.Placed δ document) :
    document.byteLength = s.cursor + Text.byteLength s.rest := by
  rw [hs.eq_append, ← List.append_assoc, Text.byteLength_append, cursor_eq]

/-- The cursor is before the end of the document for as long as there is a rest. -/
theorem Placed.cursor_lt_iff (hs : s.Placed δ document) : s.cursor < document.byteLength ↔ s.rest ≠ [] := by
  rw [hs.byteLength_eq]
  constructor
  · intro hlt hr
    rw [hr] at hlt
    exact absurd hlt (Nat.lt_irrefl _)
  · intro hr
    exact Nat.lt_add_of_pos_right (Text.byteLength_pos hr)

private theorem advance?_of_turn? {o : Offsets} {a : Answer} (hlt : o.cursor < document.byteLength)
    (h : turn? δ resolve document o = some a) :
    advance? δ resolve document o =
      if a.block = none then (advance? δ resolve document a.offsets).map a.andThen else some a := by
  rw [advance?, dif_pos hlt]
  split
  · rename_i hnone
    rw [h] at hnone
    cases hnone
  · rename_i a' ha
    obtain rfl := Option.some.inj (h.symm.trans ha)
    split
    · rfl
    · rfl

theorem Placed.advance?_eq (hs : s.Placed δ document) (hp : s.pending = none) :
    advance? δ resolve document s.offsets = some (advance δ resolve s).answer := by
  fun_induction advance δ resolve s with
  | case1 s hr =>
    have hend : ¬ s.offsets.cursor < document.byteLength := fun hlt => hs.cursor_lt_iff.1 hlt hr
    rw [advance?, dif_neg hend, hs.finish?_eq hr]
  | case2 s hr p hb ih =>
    have hm : Move δ resolve s p := move_turn hp hr
    have hbehind : advance? δ resolve document p.answer.offsets = _ := ih (hm.placed hs) (hm.pending_eq_none hb)
    rw [advance?_of_turn? (hs.cursor_lt_iff.2 hr) (hm.turn?_eq hs hp hr), hbehind]
    exact if_pos hb
  | case3 s hr p hb =>
    have hm : Move δ resolve s p := move_turn hp hr
    rw [advance?_of_turn? (hs.cursor_lt_iff.2 hr) (hm.turn?_eq hs hp hr)]
    exact if_neg hb

theorem Placed.next?_eq (hs : s.Placed δ document) :
    next? δ resolve document s.offsets = some (next δ resolve s).answer := by
  rw [next?, next, show s.offsets.pending = s.pending from rfl]
  cases hp : s.pending with
  | some text => rfl
  | none => exact hs.advance?_eq hp

/-- In its place the calls of a scan are calls by the offsets, of which none fails. -/
theorem Placed.calls?_eq (hs : s.Placed δ document) (n : Nat) :
    calls? δ resolve document n s.offsets =
      some ((List.range n).map fun k => (next δ resolve (s.afterCalls δ resolve k)).answer) := by
  induction n generalizing s with
  | zero => rfl
  | succ n ih =>
    have hfurther := ih ((call_next δ resolve s).placed hs)
    rw [calls?, hs.next?_eq, List.range_succ_eq_map, List.map_cons, List.map_map]
    show (calls? δ resolve document n (next δ resolve s).scanner.offsets).bind _ = _
    rw [hfurther]
    rfl

/-! ### The states of a scan -/

/-- The states of a scan, between its calls and between the turns of a call. -/
inductive Reached (δ : Delimiters) (resolve : Resolver) (document : Text) : Scanner → Prop
  | start : Reached δ resolve document (start document)
  | call {s : Scanner} (h : Reached δ resolve document s) : Reached δ resolve document (next δ resolve s).scanner
  | turn {s : Scanner} (h : Reached δ resolve document s) (hp : s.pending = none)
      (hlt : s.cursor < document.byteLength) : Reached δ resolve document (turn δ resolve s).scanner

/-- The mark and the cursor are boundaries of the document, in this order, and by its offsets neither the turn
from here fails, nor any of the calls. -/
structure Safe (δ : Delimiters) (resolve : Resolver) (document : Text) (s : Scanner) : Prop where
  mark_le : s.mark ≤ s.cursor
  cursor_le : s.cursor ≤ document.byteLength
  mark_boundary : document.IsBoundary s.mark
  cursor_boundary : document.IsBoundary s.cursor
  opening_ends : s.phase = .token → Text.EndsAt δ.opening document s.mark
  /-- Wherever the cursor comes to in a run, the opening delimiter in front of it is behind the mark. -/
  run : s.phase = .literal → Text.StartsAt δ.opening document s.cursor →
    ∃ cursors, runCursors? δ.opening document (s.cursor + δ.opening.byteLength) = some cursors ∧ cursors ≠ [] ∧
      ∀ n ∈ cursors, s.mark + δ.opening.byteLength ≤ n ∧ n ≤ document.byteLength ∧ document.IsBoundary n ∧
        document.IsBoundary (n - δ.opening.byteLength)
  turn : s.pending = none → s.cursor < document.byteLength →
    turn? δ resolve document s.offsets = some (turn δ resolve s).answer
  finish : s.pending = none → s.cursor = document.byteLength →
    finish? δ document s.offsets = some (finish δ s).answer
  /-- However many calls follow, by their offsets none of them fails. -/
  calls (n : Nat) : calls? δ resolve document n s.offsets =
    some ((List.range n).map fun k => (next δ resolve (s.afterCalls δ resolve k)).answer)

theorem Reached.placed (h : s.Reached δ resolve document) : s.Placed δ document := by
  induction h with
  | start => exact placed_start δ document
  | call _ ih => exact (call_next δ resolve _).placed ih
  | turn _ hp hlt ih => exact (move_turn hp (ih.cursor_lt_iff.1 hlt)).placed ih

/-- What starts at the cursor is in front of the rest. -/
theorem Placed.exists_rest_eq (hs : s.Placed δ document) {pattern : Text}
    (h : Text.StartsAt pattern document s.cursor) : ∃ after, s.rest = pattern ++ after := by
  have hdoc : document = s.passed.toText ++ s.span.toText ++ s.rest := hs.document_eq.symm
  rw [hdoc, cursor_eq, Text.startsAt_append_iff] at h
  obtain ⟨after, hafter⟩ := h
  exact ⟨after, hafter.symm⟩

/-- In every state of a scan the mark and the cursor are boundaries of the document, and neither a turn nor the
end of the document asks for a slice that there is not, so that all calls from there on can be made by the
offsets. -/
theorem Reached.safe (h : s.Reached δ resolve document) : s.Safe δ resolve document := by
  have hs := h.placed
  have hlen := hs.byteLength_eq
  have hmark : s.mark ≤ s.cursor := Nat.le_add_right _ _
  refine ⟨hmark, by omega, ?_, ?_, hs.endsAt_mark, ?_, ?_, ?_, hs.calls?_eq⟩
  · exact ⟨_, _, hs.eq_append, s.passed.byteLength_eq.symm⟩
  · exact ⟨_, _, hs.document_eq.symm, (cursor_eq s).symm⟩
  · intro _ hstarts
    obtain ⟨after, hr⟩ := hs.exists_rest_eq hstarts
    obtain ⟨cursors, hrun, hlast, hall⟩ := hs.exists_runCursors? hr
    refine ⟨cursors, hrun, ?_, ?_⟩
    · rintro rfl
      cases hlast
    · intro n hn
      obtain ⟨hle, hends⟩ := hall n hn
      exact ⟨by omega, hends.bounds.2⟩
  · intro hp hlt
    have hr := hs.cursor_lt_iff.1 hlt
    exact (move_turn hp hr).turn?_eq hs hp hr
  · intro _ hend
    exact hs.finish?_eq (Text.eq_nil_of_byteLength_eq_zero (by omega))

/-- Behind a run of two delimiters of two bytes each, and all calls on the document with it. -/
theorem Reached.safe_multibyte :
    Text.EndsAt ['§'] ['§', '§', 'x'] 4 ∧
      (Offsets.turn? ⟨['§'], ['§'], by decide, by decide⟩ .nothing ['§', '§', 'x']
        ⟨.token, 4, 4, none, false⟩).isSome ∧
      (Offsets.calls? ⟨['§'], ['§'], by decide, by decide⟩ .nothing ['§', '§', 'x'] 4
        ⟨.literal, 0, 0, none, false⟩).map (List.map Offsets.Answer.block) =
        some [some (.text ['§']), some (.delimiter ['§']), some (.text ['x']), none] := by
  let δ : Delimiters := ⟨['§'], ['§'], by decide, by decide⟩
  let opened : Scanner := (Scanner.turn δ .nothing (Scanner.start ['§', '§', 'x'])).scanner
  have hreached : opened.Reached δ .nothing ['§', '§', 'x'] := .turn .start rfl (by decide)
  have hstart : (Scanner.start ['§', '§', 'x']).Reached δ .nothing ['§', '§', 'x'] := .start
  refine ⟨hreached.safe.opening_ends rfl, Option.isSome_of_eq_some (hreached.safe.turn rfl (by decide)), ?_⟩
  refine (congrArg (Option.map (List.map Offsets.Answer.block)) (hstart.safe.calls 4)).trans ?_
  decide +kernel

end Scanner

end TextTemplate
