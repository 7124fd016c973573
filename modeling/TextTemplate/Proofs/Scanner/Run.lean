import Mathlib.Logic.Function.Iterate
import TextTemplate.Proofs.Scanner.Move

/-!
# Runs of moves

In every state a scan has one move only (`Move.eq`), so that the calls from a state on are the answer of its
move, if it has a block, and the calls from the next state on (`pulls_of_move`).  What every move hands down
from the state behind it to the state before it holds of every valid state (`Valid.induction`).
-/

namespace TextTemplate

namespace Scanner

variable {δ : Delimiters} {resolve : Resolver} {s : Scanner} {p : Pull}

/-! ### The next move -/

/-- The answer of the next move. -/
def answer (δ : Delimiters) (resolve : Resolver) (s : Scanner) : Pull :=
  match s.pending with
  | some text => .quiet (some (.text text)) { s with pending := none }
  | none => if s.rest = [] then finish δ s else turn δ resolve s

private theorem answer_turn (hp : s.pending = none) (hr : s.rest ≠ []) : answer δ resolve s = turn δ resolve s := by
  rw [answer, hp]
  exact if_neg hr

private theorem answer_finish (hp : s.pending = none) (hr : s.rest = []) : answer δ resolve s = finish δ s := by
  rw [answer, hp]
  exact if_pos hr

private theorem isPrefixOf?_eq_none {lead t : Text} (h : ¬ lead <+: t) : lead.isPrefixOf? t = none := by
  cases hl : lead.isPrefixOf? t with
  | none => rfl
  | some rest => exact absurd ⟨rest, (Text.eq_append_of_isPrefixOf? hl).symm⟩ h

private theorem turn_step {c : Char} {rest : Text} (hr : s.rest = c :: rest) (hd : ¬ δ.awaited s.phase <+: s.rest) :
    turn δ resolve s = .quiet none { s with span := s.span.push c, rest := rest } := by
  have hs : s.step = { s with span := s.span.push c, rest := rest } := by
    rw [step, hr]
  have hno := isPrefixOf?_eq_none hd
  rw [turn, ← hs]
  cases hph : s.phase with
  | literal =>
    rw [hph] at hno
    rw [literalTurn, show δ.opening.isPrefixOf? s.rest = none from hno]
  | token =>
    rw [hph] at hno
    rw [tokenTurn, show δ.closing.isPrefixOf? s.rest = none from hno]

private theorem turn_opening {after lead rest : Text} {held : Trail} (hph : s.phase = .literal)
    (hr : s.rest = δ.opening ++ after) (hs : slide δ.opening (s.span.extend δ.opening) after = (held, rest))
    (hl : held.toText = lead ++ δ.opening) :
    turn δ resolve s = .quiet (Block.ofText? lead)
      { s with phase := .token, passed := s.passed.join held, span := .empty, rest := rest } := by
  have hlead : (held.dropEnd δ.opening.length).toText = lead := by
    rw [Trail.toText_dropEnd, hl, List.length_append, Nat.add_sub_cancel, List.take_left]
  rw [turn, hph]
  dsimp only
  rw [literalTurn, List.isPrefixOf?_eq_some_iff_append_eq.2 hr.symm]
  dsimp only
  rw [hs, hlead, Block.ofText?_eq]

private theorem turn_token (hph : s.phase = .token) : turn δ resolve s = tokenTurn δ resolve s := by
  rw [turn, hph]

private theorem rest_ne_nil_of_awaited (phase : Phase) {after : Text} (hr : s.rest = δ.awaited phase ++ after) :
    s.rest ≠ [] := by
  intro h
  rw [h] at hr
  exact δ.awaited_ne_nil phase (List.append_eq_nil_iff.1 hr.symm).1

/-- From a state there is one move only. -/
theorem Move.eq (h : Move δ resolve s p) : p = answer δ resolve s := by
  cases h with
  | pending hp => rw [answer, hp]
  | step hp hr hd =>
    rw [answer_turn hp (hr.trans_ne (List.cons_ne_nil _ _)), turn_step hr hd]
  | opening hp hph hr hs hl =>
    rw [answer_turn hp (rest_ne_nil_of_awaited .literal hr), turn_opening hph hr hs hl]
  | blank hp hph hr hn =>
    rw [answer_turn hp (rest_ne_nil_of_awaited .token hr), turn_token hph]
    simp only [tokenTurn, List.isPrefixOf?_eq_some_iff_append_eq.2 hr.symm, if_pos hn]
  | resolved hp hph hr hn hv =>
    rw [answer_turn hp (rest_ne_nil_of_awaited .token hr), turn_token hph]
    simp only [tokenTurn, List.isPrefixOf?_eq_some_iff_append_eq.2 hr.symm, if_neg hn, hv]
  | unresolved hp hph hr hn hv =>
    rw [answer_turn hp (rest_ne_nil_of_awaited .token hr), turn_token hph]
    simp only [tokenTurn, List.isPrefixOf?_eq_some_iff_append_eq.2 hr.symm, if_neg hn, hv]
  | lastText hp hr hf hph =>
    rw [answer_finish hp hr, finish, if_neg (by simp [hf]), hph]
    dsimp only
    rw [Block.ofText?]
    rfl
  | lastName hp hr hf hph =>
    rw [answer_finish hp hr, finish, if_neg (by simp [hf]), hph]
    dsimp only
    rw [hp, Option.or_none]
    rfl
  | exhausted hp hr hf => rw [answer_finish hp hr, finish, if_pos hf]

/-! ### The calls after a move -/

/-- A call is the next move if it has a block or is the last, and otherwise the call behind it. -/
theorem next_of_move (h : Move δ resolve s p) :
    next δ resolve s = if p.block = none ∧ s.rest ≠ [] then next δ resolve p.scanner else p := by
  cases hp : s.pending with
  | some text =>
    obtain rfl : p = .quiet (some (.text text)) { s with pending := none } := by
      rw [h.eq, answer, hp]
    rw [if_neg (by simp [Pull.quiet]), next, hp]
  | none =>
    rw [next, hp]
    dsimp only
    rw [advance]
    by_cases hr : s.rest = []
    · rw [dif_pos hr, if_neg (fun hc => hc.2 hr), h.eq, answer_finish hp hr]
    · have hturn : turn δ resolve s = p := by
        rw [h.eq, answer_turn hp hr]
      rw [dif_neg hr]
      dsimp only
      rw [hturn]
      by_cases hb : p.block = none
      · rw [dif_pos hb, if_pos ⟨hb, hr⟩, next, h.pending_eq_none hb]
        conv => lhs; rw [h.eq_quiet hb]
        rfl
      · rw [dif_neg hb, if_neg (fun hc => hb hc.1)]

theorem next_of_finished (hr : s.rest = []) (hf : s.finished = true) (hp : s.pending = none) :
    s.next δ resolve = .quiet none s :=
  (next_of_move (.exhausted hp hr hf)).trans (if_neg fun hc => hc.2 hr)

/-- The calls from a state on, by its next move. -/
theorem pulls_of_move (h : Move δ resolve s p) :
    s.pulls δ resolve =
      if p.block = none then if s.rest = [] then [p] else p.scanner.pulls δ resolve
      else p :: p.scanner.pulls δ resolve := by
  have hnext := next_of_move h
  by_cases hb : p.block = none
  · rw [if_pos hb]
    by_cases hr : s.rest = []
    · rw [if_neg (fun hc => hc.2 hr)] at hnext
      rw [if_pos hr, pulls, hnext, dif_pos hb]
    · rw [if_pos ⟨hb, hr⟩] at hnext
      rw [if_neg hr, pulls, hnext, ← pulls]
  · rw [if_neg (fun hc => hb hc.1)] at hnext
    rw [if_neg hb, pulls, hnext, dif_neg hb]

theorem pulls_of_silent {s' : Scanner} (h : Move δ resolve s (.quiet none s')) (hr : s.rest ≠ []) :
    s.pulls δ resolve = s'.pulls δ resolve :=
  (pulls_of_move h).trans ((if_pos rfl).trans (if_neg hr))

theorem pulls_of_finished (hr : s.rest = []) (hf : s.finished = true) (hp : s.pending = none) :
    s.pulls δ resolve = [.quiet none s] := by
  rw [pulls_of_move (.exhausted hp hr hf)]
  exact (if_pos rfl).trans (if_pos hr)

/-- A silent move at the end of the document leaves nothing to do. -/
private theorem pulls_of_move_at_end (h : Move δ resolve s p) (hr : s.rest = []) (hb : p.block = none) :
    p.scanner.pulls δ resolve = [.quiet none p.scanner] :=
  pulls_of_finished (h.rest_eq_nil hr) (h.finished_eq_true hr hb) (h.pending_eq_none hb)

theorem pulls_ne_nil (δ : Delimiters) (resolve : Resolver) (s : Scanner) : s.pulls δ resolve ≠ [] := by
  rw [pulls]
  split
  · exact List.cons_ne_nil _ _
  · exact List.cons_ne_nil _ _

/-- The answers of a run are those of its first move and those of the run behind it. -/
theorem flatMap_pulls_of_move {α : Type} {paid : Pull → List α} (hquiet : ∀ s, paid (.quiet none s) = [])
    (h : Move δ resolve s p) :
    (s.pulls δ resolve).flatMap paid = paid p ++ (p.scanner.pulls δ resolve).flatMap paid := by
  rw [pulls_of_move h]
  by_cases hb : p.block = none
  · have hp : paid p = [] := by
      rw [h.eq_quiet hb]
      exact hquiet p.scanner
    rw [if_pos hb, hp, List.nil_append]
    by_cases hr : s.rest = []
    · rw [if_pos hr, pulls_of_move_at_end h hr hb, List.flatMap_singleton, List.flatMap_singleton, hp, hquiet]
    · rw [if_neg hr]
  · rw [if_neg hb, List.flatMap_cons]

/-- What follows a call with a block is the run from the state that the call leaves. -/
theorem pulls_of_eq_append {before after : List Pull} (h : s.pulls δ resolve = before ++ p :: after)
    (hb : p.block ≠ none) : after = p.scanner.pulls δ resolve := by
  induction before generalizing s with
  | nil =>
    rw [pulls] at h
    split at h
    · rename_i hnone
      rw [(List.cons.inj h).1] at hnone
      exact absurd hnone hb
    · obtain ⟨rfl, hafter⟩ := List.cons.inj h
      exact hafter.symm
  | cons q before ih =>
    rw [pulls] at h
    split at h
    · have hnil := (List.cons.inj h).2
      simp at hnil
    · exact ih (List.cons.inj h).2

/-! ### Calls in a row -/

/-- The scan after `n` calls. -/
def afterCalls (δ : Delimiters) (resolve : Resolver) (s : Scanner) (n : Nat) : Scanner :=
  (fun s => (next δ resolve s).scanner)^[n] s

theorem afterCalls_succ (s : Scanner) (n : Nat) :
    s.afterCalls δ resolve (n + 1) = afterCalls δ resolve (next δ resolve s).scanner n := rfl

theorem afterCalls_add (s : Scanner) (m n : Nat) :
    s.afterCalls δ resolve (m + n) = (s.afterCalls δ resolve m).afterCalls δ resolve n := by
  rw [Nat.add_comm]
  exact Function.iterate_add_apply _ n m s

/-- A run is made of calls, one after the other, of which the last is the first without a block. -/
theorem exists_pulls_eq_map (δ : Delimiters) (resolve : Resolver) (s : Scanner) :
    ∃ n, s.pulls δ resolve = (List.range (n + 1)).map (fun k => next δ resolve (s.afterCalls δ resolve k)) ∧
      (next δ resolve (s.afterCalls δ resolve n)).block = none ∧
      ∀ k < n, (next δ resolve (s.afterCalls δ resolve k)).block ≠ none := by
  fun_induction pulls δ resolve s with
  | case1 s p hb => exact ⟨0, rfl, hb, by simp⟩
  | case2 s p hb ih =>
    obtain ⟨n, hpulls, hlast, hblocks⟩ := ih
    refine ⟨n + 1, ?_, hlast, ?_⟩
    · rw [hpulls]
      conv_rhs => rw [List.range_succ_eq_map, List.map_cons, List.map_map]
      rfl
    · intro k hk
      cases k with
      | zero => exact hb
      | succ k => exact hblocks k (by omega)

/-! ### Induction over the moves -/

/-- What holds of every scan that has nothing left to do, and of a state if of the state that its move leads to,
holds of every valid state. -/
theorem Valid.induction (resolve : Resolver) {motive : Scanner → Prop}
    (hdone : ∀ {s : Scanner}, s.Valid δ → s.finished = true → s.pending = none → motive s)
    (hmove : ∀ {s p}, s.Valid δ → Move δ resolve s p → motive p.scanner → motive s) (hv : s.Valid δ) :
    motive s := by
  have hcall : ∀ {s p}, Call δ resolve s p → s.Valid δ → motive p.scanner → motive s := by
    intro s p hc hv hp
    induction hc with
    | silent hm _ _ ih => exact hmove hv hm (ih (hm.valid hv) hp)
    | answer hm _ => exact hmove hv hm hp
  fun_induction pulls δ resolve s with
  | case1 s p hb =>
    have hc : Call δ resolve s p := call_next δ resolve s
    obtain ⟨hf, hp⟩ := hc.finished_of_block_eq_none hb
    exact hcall hc hv (hdone (hc.valid hv) hf hp)
  | case2 s p hb ih =>
    have hc : Call δ resolve s p := call_next δ resolve s
    exact hcall hc hv (ih (hc.valid hv))

/-- What holds of the answer of every move holds of every call of a scan. -/
theorem forall_pulls {P : Pull → Prop} (hmove : ∀ {s p}, s.Valid δ → Move δ resolve s p → P p) (hv : s.Valid δ) :
    ∀ p ∈ s.pulls δ resolve, P p := by
  refine Valid.induction resolve (motive := fun s => ∀ p ∈ s.pulls δ resolve, P p) ?_ ?_ hv
  · intro s hv hf hp q hq
    have hr := hv.rest_of_finished hf
    rw [pulls_of_finished hr hf hp, List.mem_singleton] at hq
    rw [hq]
    exact hmove hv (.exhausted hp hr hf)
  · intro s p hv hm ih q hq
    rw [pulls_of_move hm] at hq
    split at hq
    · split at hq
      · rw [List.mem_singleton.1 hq]
        exact hmove hv hm
      · exact ih q hq
    · rcases List.mem_cons.1 hq with rfl | hq
      · exact hmove hv hm
      · exact ih q hq

/-- If every move pays what the scan owes less after it than before, a whole scan pays what is owed at its
start. -/
theorem flatMap_pulls {α : Type} (paid : Pull → List α) (owed : Scanner → List α)
    (hmove : ∀ {s p}, s.Valid δ → Move δ resolve s p → owed s = paid p ++ owed p.scanner)
    (hquiet : ∀ s, paid (.quiet none s) = [])
    (hend : ∀ s, s.finished = true → s.pending = none → owed s = []) (hv : s.Valid δ) :
    (s.pulls δ resolve).flatMap paid = owed s := by
  refine Valid.induction resolve (motive := fun s => (s.pulls δ resolve).flatMap paid = owed s) ?_ ?_ hv
  · intro s hv hf hp
    rw [pulls_of_finished (hv.rest_of_finished hf) hf hp, List.flatMap_singleton, hquiet, hend s hf hp]
  · intro s p hv hm ih
    rw [flatMap_pulls_of_move hquiet hm, ih, hmove hv hm]

/-! ### The end of a run -/

/-- The state behind the last of the calls. -/
def atEnd (δ : Delimiters) (resolve : Resolver) (s : Scanner) : Scanner :=
  ((s.pulls δ resolve).getLast (pulls_ne_nil δ resolve s)).scanner

private theorem atEnd_eq_of_pulls_eq {ps : List Pull} (h : s.pulls δ resolve = ps) (hne : ps ≠ []) :
    s.atEnd δ resolve = (ps.getLast hne).scanner := by
  subst h
  rfl

theorem atEnd_of_finished (hr : s.rest = []) (hf : s.finished = true) (hp : s.pending = none) :
    s.atEnd δ resolve = s :=
  atEnd_eq_of_pulls_eq (pulls_of_finished hr hf hp) (List.cons_ne_nil _ _)

/-- A run ends where the run behind its first move does. -/
theorem atEnd_of_move (h : Move δ resolve s p) : s.atEnd δ resolve = p.scanner.atEnd δ resolve := by
  have hpulls := pulls_of_move h
  have hne := pulls_ne_nil δ resolve p.scanner
  by_cases hb : p.block = none
  · rw [if_pos hb] at hpulls
    by_cases hr : s.rest = []
    · rw [if_pos hr] at hpulls
      rw [atEnd_eq_of_pulls_eq hpulls (List.cons_ne_nil _ _),
        atEnd_eq_of_pulls_eq (pulls_of_move_at_end h hr hb) (List.cons_ne_nil _ _)]
      rfl
    · rw [if_neg hr] at hpulls
      exact atEnd_eq_of_pulls_eq hpulls hne
  · rw [if_neg hb] at hpulls
    rw [atEnd_eq_of_pulls_eq hpulls (List.cons_ne_nil _ _), List.getLast_cons hne]
    rfl

/-- A run passes through the document and does not change it. -/
theorem document_pulls : ∀ p ∈ s.pulls δ resolve, p.scanner.document = s.document := by
  fun_induction pulls δ resolve s with
  | case1 s p hb =>
    intro q hq
    rw [List.mem_singleton.1 hq]
    exact document_next δ resolve s
  | case2 s p hb ih =>
    intro q hq
    rcases List.mem_cons.1 hq with rfl | hq
    · exact document_next δ resolve s
    · exact (ih q hq).trans (document_next δ resolve s)

theorem document_atEnd (δ : Delimiters) (resolve : Resolver) (s : Scanner) :
    (s.atEnd δ resolve).document = s.document :=
  document_pulls _ (List.getLast_mem _)

theorem Move.document_eq (h : Move δ resolve s p) : p.scanner.document = s.document := by
  rw [← document_atEnd δ resolve, ← atEnd_of_move h, document_atEnd]

/-! ### Text without a delimiter -/

/-- A run takes text in which the delimiter that it looks out for does not start into its span in one go. -/
theorem pulls_extend {t u : Text} (hp : s.pending = none) (hr : s.rest = t ++ u)
    (hno : ∀ k < t.length, ¬ δ.awaited s.phase <+: (t ++ u).drop k) :
    s.pulls δ resolve = pulls δ resolve { s with span := s.span.extend t, rest := u } := by
  induction t generalizing s with
  | nil =>
    have hs : { s with span := s.span.extend [], rest := u } = s := by
      rw [← List.nil_append u, ← hr]
      rfl
    rw [hs]
  | cons c t ih =>
    have hd : ¬ δ.awaited s.phase <+: s.rest := by
      rw [hr]
      exact hno 0 (Nat.zero_lt_succ _)
    have hstep : s.pulls δ resolve = pulls δ resolve { s with span := s.span.push c, rest := t ++ u } :=
      pulls_of_silent (.step hp hr hd) (hr.trans_ne (List.cons_ne_nil _ _))
    rw [hstep, Trail.extend_cons]
    refine ih hp rfl ?_
    intro k hk
    exact hno (k + 1) (Nat.succ_lt_succ hk)

private theorem atEnd_eq_of_rest_eq_nil (δ : Delimiters) (resolve : Resolver) (hp : s.pending = none)
    (hf : s.finished = false) (hr : s.rest = []) :
    (s.atEnd δ resolve).phase = s.phase ∧ (s.atEnd δ resolve).span = s.span := by
  cases hph : s.phase with
  | literal =>
    have hend : s.atEnd δ resolve = { s with finished := true } :=
      (atEnd_of_move (.lastText hp hr hf hph)).trans (atEnd_of_finished hr rfl hp)
    rw [hend]
    exact ⟨hph, rfl⟩
  | token =>
    have hlast : s.atEnd δ resolve =
        atEnd δ resolve { s with finished := true, pending := Text.nonempty? s.span.toText } :=
      atEnd_of_move (.lastName hp hr hf hph)
    have hend : s.atEnd δ resolve = { s with finished := true, pending := none } := by
      rw [hlast]
      -- the name is a block of its own, if there is one
      cases Text.nonempty? s.span.toText with
      | none => exact atEnd_of_finished hr rfl rfl
      | some name => exact (atEnd_of_move (.pending rfl)).trans (atEnd_of_finished hr rfl rfl)
    rw [hend]
    exact ⟨hph, rfl⟩

/-- A run that finds no delimiter any more stays in its phase, and takes all that is left into its span. -/
theorem atEnd_eq_of_forall (resolve : Resolver) (hp : s.pending = none) (hf : s.finished = false)
    (hno : ∀ k, ¬ δ.awaited s.phase <+: s.rest.drop k) :
    (s.atEnd δ resolve).phase = s.phase ∧ (s.atEnd δ resolve).span.toText = s.span.toText ++ s.rest := by
  have hpulls : s.pulls δ resolve = pulls δ resolve { s with span := s.span.extend s.rest, rest := [] } := by
    apply pulls_extend hp (List.append_nil s.rest).symm
    intro k _
    rw [List.append_nil]
    exact hno k
  rw [atEnd_eq_of_pulls_eq hpulls (pulls_ne_nil _ _ _), ← Trail.toText_extend]
  obtain ⟨hphase, hspan⟩ := atEnd_eq_of_rest_eq_nil δ resolve
    (s := { s with span := s.span.extend s.rest, rest := [] }) hp hf rfl
  exact ⟨hphase, congrArg Trail.toText hspan⟩

end Scanner

end TextTemplate
