import Mathlib.Data.List.Chain
import TextTemplate.Proofs.Scanner.Place

/-!
# The turns of a scan

Tracing a scan records the states in which it takes its turns, and changes none of its answers
(`map_pull_traces`).  A turn that leaves the cursor in place ends a token, so that the next one moves it
(`turn_progress`).  Hence a scan takes at most two turns for every byte of the document, and behind its last
call nothing happens any more (`scan_linear`).
-/

namespace TextTemplate

/-- What a call answers, and the states in which it takes its turns. -/
structure Trace where
  turns : List Scanner
  pull : Pull

namespace Scanner

/-! ### Traced calls -/

/-- Turns until one of them yields a block, or the end of the document, each recorded. -/
def advanceTraced (δ : Delimiters) (resolve : Resolver) (s : Scanner) : Trace :=
  if _h : s.rest = [] then ⟨[], finish δ s⟩
  else
    let p := turn δ resolve s
    if _hb : p.block = none then
      let t := advanceTraced δ resolve p.scanner
      ⟨s :: t.turns, p.andThen t.pull⟩
    else ⟨[s], p⟩
termination_by s.rest.length
decreasing_by exact length_rest_turn ‹_› ‹_›

/-- One call, its turns recorded. -/
def nextTraced (δ : Delimiters) (resolve : Resolver) (s : Scanner) : Trace :=
  match s.pending with
  | some text => ⟨[], .quiet (some (.text text)) { s with pending := none }⟩
  | none => advanceTraced δ resolve s

variable {δ : Delimiters} {resolve : Resolver} {s : Scanner}

private theorem pull_advanceTraced (δ : Delimiters) (resolve : Resolver) (s : Scanner) :
    (advanceTraced δ resolve s).pull = advance δ resolve s := by
  fun_induction advance δ resolve s with
  | case1 s hr => rw [advanceTraced, dif_pos hr]
  | case2 s hr p hb ih =>
    rw [advanceTraced, dif_neg hr]
    simp only
    rw [dif_pos hb, ih]
  | case3 s hr p hb =>
    rw [advanceTraced, dif_neg hr]
    simp only
    rw [dif_neg hb]

theorem pull_nextTraced (δ : Delimiters) (resolve : Resolver) (s : Scanner) :
    (nextTraced δ resolve s).pull = next δ resolve s := by
  unfold nextTraced next
  cases s.pending with
  | some text => rfl
  | none => exact pull_advanceTraced δ resolve s

private theorem weight_nextTraced (h : (nextTraced δ resolve s).pull.block ≠ none) :
    (nextTraced δ resolve s).pull.scanner.weight < s.weight := by
  rw [pull_nextTraced] at h ⊢
  exact weight_next h

/-- The calls from here on, their turns recorded. -/
def traces (δ : Delimiters) (resolve : Resolver) (s : Scanner) : List Trace :=
  let t := nextTraced δ resolve s
  if _h : t.pull.block = none then [t] else t :: traces δ resolve t.pull.scanner
termination_by s.weight
decreasing_by exact weight_nextTraced ‹_›

theorem map_pull_traces (δ : Delimiters) (resolve : Resolver) (s : Scanner) :
    (s.traces δ resolve).map Trace.pull = s.pulls δ resolve := by
  fun_induction traces δ resolve s with
  | case1 s t hb =>
    have hpull : t.pull = next δ resolve s := pull_nextTraced δ resolve s
    rw [pulls, ← hpull, dif_pos hb, List.map_singleton]
  | case2 s t hb ih =>
    have hpull : t.pull = next δ resolve s := pull_nextTraced δ resolve s
    rw [pulls, ← hpull, dif_neg hb, List.map_cons, ih]

/-- The states in which the turns of a scan are taken. -/
def turns (δ : Delimiters) (resolve : Resolver) (s : Scanner) : List Scanner :=
  (s.traces δ resolve).flatMap Trace.turns

/-! ### The turns from a state on -/

private theorem turns_eq (δ : Delimiters) (resolve : Resolver) (s : Scanner) :
    s.turns δ resolve = (nextTraced δ resolve s).turns ++
      if (nextTraced δ resolve s).pull.block = none then []
      else turns δ resolve (nextTraced δ resolve s).pull.scanner := by
  rw [turns, traces]
  split
  · rw [List.flatMap_singleton, List.append_nil]
  · rw [List.flatMap_cons, turns]

theorem turns_of_pending {text : Text} (hp : s.pending = some text) :
    s.turns δ resolve = turns δ resolve { s with pending := none } := by
  have ht : nextTraced δ resolve s = ⟨[], .quiet (some (.text text)) { s with pending := none }⟩ := by
    rw [nextTraced, hp]
  rw [turns_eq, ht, List.nil_append]
  exact if_neg (Option.some_ne_none _)

theorem turns_of_rest_eq_nil (hr : s.rest = []) : s.turns δ resolve = [] := by
  have hcall (s : Scanner) (hr : s.rest = []) :
      (nextTraced δ resolve s).turns = [] ∧ (nextTraced δ resolve s).pull.scanner.rest = [] := by
    unfold nextTraced
    cases hp : s.pending with
    | some text => exact ⟨rfl, hr⟩
    | none =>
      have hm : Move δ resolve s (finish δ s) := move_finish hp hr
      rw [advanceTraced, dif_pos hr]
      exact ⟨rfl, hm.rest_eq_nil hr⟩
  rw [turns]
  fun_induction traces δ resolve s with
  | case1 s t hb => simpa using (hcall s hr).1
  | case2 s t hb ih => rw [List.flatMap_cons, (hcall s hr).1, ih (hcall s hr).2, List.append_nil]

theorem turns_of_turn (hp : s.pending = none) (hr : s.rest ≠ []) :
    s.turns δ resolve = s :: turns δ resolve (turn δ resolve s).scanner := by
  have hm : Move δ resolve s (turn δ resolve s) := move_turn hp hr
  rw [turns_eq, nextTraced, hp]
  simp only
  rw [advanceTraced, dif_neg hr]
  simp only
  by_cases hb : (turn δ resolve s).block = none
  · -- the call goes on from the state that the turn leaves
    have hnext : nextTraced δ resolve (turn δ resolve s).scanner =
        advanceTraced δ resolve (turn δ resolve s).scanner := by
      rw [nextTraced, hm.pending_eq_none hb]
    rw [dif_pos hb, turns_eq δ resolve (turn δ resolve s).scanner, hnext]
    rfl
  · rw [dif_neg hb, if_neg hb]
    rfl

/-! ### Progress -/

private theorem slide_isSuffix (opening : Text) (before : Trail) (rest : Text) :
    (slide opening before rest).2 <:+ rest := by
  induction rest generalizing before with
  | nil => exact List.suffix_rfl
  | cons c rest ih =>
    unfold slide
    split
    · exact (ih _).trans (List.suffix_cons c rest)
    · exact List.suffix_rfl

/-- A turn shortens the rest, or it ends a token and leaves the rest as it is. -/
theorem turn_progress (δ : Delimiters) (resolve : Resolver) (hp : s.pending = none) (hr : s.rest ≠ []) :
    Text.byteLength (turn δ resolve s).scanner.rest < Text.byteLength s.rest ∨
      s.phase = .token ∧ (turn δ resolve s).scanner.phase = .literal ∧
        (turn δ resolve s).scanner.rest = s.rest := by
  have hm : Move δ resolve s (turn δ resolve s) := move_turn hp hr
  generalize turn δ resolve s = p at hm
  cases hm with
  | pending hsome =>
    rw [hp] at hsome
    cases hsome
  | @step c rest _ hc =>
    left
    have hpos := c.utf8Size_pos
    rw [hc, Text.byteLength_cons]
    show Text.byteLength rest < _
    omega
  | @opening after lead rest held _ _ ho hslide =>
    left
    -- the run passes over a part of what follows the delimiter
    obtain ⟨run, hrun⟩ := slide_isSuffix δ.opening (s.span.extend δ.opening) after
    have hpos := Text.byteLength_pos δ.opening_ne_nil
    rw [hslide] at hrun
    dsimp only at hrun
    rw [ho, Text.byteLength_append, ← hrun, Text.byteLength_append]
    show Text.byteLength rest < _
    omega
  | blank _ hph => exact .inr ⟨hph, rfl, rfl⟩
  | @resolved after value _ _ hc =>
    left
    have hpos := Text.byteLength_pos δ.closing_ne_nil
    rw [hc, Text.byteLength_append]
    show Text.byteLength after < _
    omega
  | unresolved _ hph => exact .inr ⟨hph, rfl, rfl⟩
  | lastText _ hend | lastName _ hend | exhausted _ hend => exact absurd hend hr

/-- A bound on the turns that are left: two for a byte, and one that may end a token. -/
def turnsLeft (s : Scanner) : Nat :=
  2 * Text.byteLength s.rest + match s.phase with
    | .literal => 0
    | .token => 1

theorem turnsLeft_turn (δ : Delimiters) (resolve : Resolver) (hp : s.pending = none) (hr : s.rest ≠ []) :
    (turn δ resolve s).scanner.turnsLeft < s.turnsLeft := by
  have hextra (phase : Phase) : (match phase with | .literal => 0 | .token => 1) ≤ 1 := by
    cases phase <;> simp
  rcases turn_progress δ resolve hp hr with hlt | ⟨hph, hph', heq⟩
  · have := hextra (turn δ resolve s).scanner.phase
    unfold turnsLeft
    omega
  · simp [turnsLeft, hph, hph', heq]

/-- What holds of the end of a document, and is handed back by a pending text and by a turn, holds of every
state and the turns from there on. -/
theorem turns_induction {motive : Scanner → List Scanner → Prop} (hend : ∀ {s : Scanner}, s.rest = [] → motive s [])
    (hpending : ∀ {s : Scanner} {ts}, motive { s with pending := none } ts → motive s ts)
    (hturn : ∀ {s : Scanner} {ts}, s.pending = none → s.rest ≠ [] → motive (turn δ resolve s).scanner ts →
      motive s (s :: ts)) (s : Scanner) : motive s (s.turns δ resolve) := by
  induction hn : s.turnsLeft using Nat.strong_induction_on generalizing s with
  | h n ih =>
    have hidle (s : Scanner) (hp : s.pending = none) (hn : s.turnsLeft = n) : motive s (s.turns δ resolve) := by
      by_cases hr : s.rest = []
      · rw [turns_of_rest_eq_nil hr]
        exact hend hr
      · rw [turns_of_turn hp hr]
        exact hturn hp hr (ih _ (hn ▸ turnsLeft_turn δ resolve hp hr) _ rfl)
    cases hp : s.pending with
    | none => exact hidle s hp hn
    | some text =>
      rw [turns_of_pending hp]
      exact hpending (hidle { s with pending := none } rfl hn)

theorem length_turns_le (s : Scanner) : (s.turns δ resolve).length ≤ s.turnsLeft := by
  refine turns_induction (motive := fun s ts => ts.length ≤ s.turnsLeft) (fun _ => Nat.zero_le _) (fun h => h) ?_ s
  intro s ts hp hr hts
  have := turnsLeft_turn δ resolve hp hr
  rw [List.length_cons]
  omega

/-- The turns follow one another: each starts in the state that the one before leaves, its pending text handed
out. -/
theorem isChain_turns (s : Scanner) :
    (s.turns δ resolve).IsChain fun t u => u = { (turn δ resolve t).scanner with pending := none } := by
  refine (turns_induction (motive := fun s ts =>
    ts.IsChain (fun t u => u = { (turn δ resolve t).scanner with pending := none }) ∧
      ∀ t ∈ ts.head?, t = { s with pending := none }) ?_ (fun h => h) ?_ s).1
  · intro s hr
    exact ⟨.nil, by simp⟩
  · intro s ts hp hr ⟨hchain, hhead⟩
    refine ⟨List.isChain_cons.2 ⟨hhead, hchain⟩, ?_⟩
    rintro t ⟨⟩
    rw [← hp]

theorem head?_turns (δ : Delimiters) (resolve : Resolver) (s : Scanner) :
    (s.turns δ resolve).head? = if s.rest = [] then none else some { s with pending := none } := by
  split
  · rename_i hr
    rw [turns_of_rest_eq_nil hr, List.head?_nil]
  · rename_i hr
    cases hp : s.pending with
    | none =>
      rw [turns_of_turn hp hr, List.head?_cons, ← hp]
    | some text =>
      have hturns : turns δ resolve { s with pending := none } = { s with pending := none } :: _ :=
        turns_of_turn rfl hr
      rw [turns_of_pending hp, hturns, List.head?_cons]

/-- The turns go on to the end of the document. -/
theorem rest_of_getLast?_turns (δ : Delimiters) (resolve : Resolver) (s : Scanner) :
    ∀ t ∈ (s.turns δ resolve).getLast?, (turn δ resolve t).scanner.rest = [] := by
  refine (turns_induction (motive := fun s ts =>
    (ts = [] → s.rest = []) ∧ ∀ t ∈ ts.getLast?, (turn δ resolve t).scanner.rest = []) ?_ (fun h => h) ?_ s).2
  · intro s hr
    exact ⟨fun _ => hr, by simp⟩
  · intro s ts hp hr ⟨hnil, hlast⟩
    refine ⟨fun h => absurd h (List.cons_ne_nil _ _), ?_⟩
    cases ts with
    | nil =>
      rintro t ⟨⟩
      exact hnil rfl
    | cons t' ts =>
      rw [List.getLast?_cons_cons]
      exact hlast

theorem ready_of_mem_turns (δ : Delimiters) (resolve : Resolver) (s : Scanner) :
    ∀ t ∈ s.turns δ resolve, t.pending = none ∧ t.rest ≠ [] := by
  refine turns_induction (motive := fun _ ts => ∀ t ∈ ts, t.pending = none ∧ t.rest ≠ []) ?_ (fun h => h) ?_ s
  · intro s hr t ht
    cases ht
  · intro s ts hp hr hts
    exact List.forall_mem_cons.2 ⟨⟨hp, hr⟩, hts⟩

/-! ### The cursor -/

/-- The turn from here leaves the cursor where it is. -/
def Stalls (δ : Delimiters) (resolve : Resolver) (s : Scanner) : Prop :=
  (turn δ resolve s).scanner.cursor = s.cursor

theorem cursor_add_byteLength (s : Scanner) : s.cursor + Text.byteLength s.rest = Text.byteLength s.document := by
  rw [cursor_eq, document, Text.byteLength_append _ s.rest]

/-- Only the turn that ends a token can leave the cursor where it is. -/
theorem Stalls.phase_eq (h : s.Stalls δ resolve) (hp : s.pending = none) (hr : s.rest ≠ []) :
    s.phase = .token ∧ (turn δ resolve s).scanner.phase = .literal := by
  have hbefore := cursor_add_byteLength s
  have hbehind := cursor_add_byteLength (turn δ resolve s).scanner
  rw [document_turn, h] at hbehind
  rcases turn_progress δ resolve hp hr with hlt | ⟨hph, hph', -⟩
  · omega
  · exact ⟨hph, hph'⟩

theorem isChain_not_stalls (s : Scanner) :
    (s.turns δ resolve).IsChain fun t u => ¬ (t.Stalls δ resolve ∧ u.Stalls δ resolve) := by
  have hready := ready_of_mem_turns δ resolve s
  refine (isChain_turns s).imp_of_mem_imp ?_
  rintro t u ht hu rfl ⟨hstall, hstall'⟩
  obtain ⟨hp, hr⟩ := hready t ht
  obtain ⟨hp', hr'⟩ := hready _ hu
  -- the first turn ends a token, and the second would have to end another one
  have hliteral := (hstall.phase_eq hp hr).2
  have htoken := (hstall'.phase_eq hp' hr').1
  simp [hliteral] at htoken

/-! ### Behind the last call -/

theorem Valid.afterCalls (hv : s.Valid δ) (n : Nat) : (s.afterCalls δ resolve n).Valid δ := by
  induction n generalizing s with
  | zero => exact hv
  | succ n ih => exact ih ((call_next δ resolve s).valid hv)

/-- Behind a call without a block nothing is left to do. -/
theorem Valid.next_of_block_eq_none (hv : s.Valid δ) (hb : (next δ resolve s).block = none) (n : Nat) :
    s.afterCalls δ resolve (n + 1) = (next δ resolve s).scanner ∧
      next δ resolve (s.afterCalls δ resolve (n + 1)) = .quiet none (next δ resolve s).scanner := by
  have hc := call_next δ resolve s
  obtain ⟨hf, hp⟩ := hc.finished_of_block_eq_none hb
  have hquiet : (next δ resolve s).scanner.next δ resolve = .quiet none (next δ resolve s).scanner :=
    next_of_finished ((hc.valid hv).rest_of_finished hf) hf hp
  have hfixed : (next δ resolve s).scanner.afterCalls δ resolve n = (next δ resolve s).scanner :=
    Function.iterate_fixed (congrArg Pull.scanner hquiet) n
  rw [afterCalls_succ, hfixed]
  exact ⟨rfl, hquiet⟩

end Scanner

/-- The turns of a scan start at the start of the document, each from where the one before stopped, and end at
its end.  There are at most two of them for every byte, and of two turns in a row one moves the cursor.  There
is a first call without a block, and all later calls answer nothing, look nothing up, report nothing, and leave
the scan as it is. -/
theorem scan_linear (δ : Delimiters) (resolve : Resolver) (document : Text) :
    let traces := (Scanner.start document).traces δ resolve
    let turns := traces.flatMap Trace.turns
    let after := (Scanner.start document).afterCalls δ resolve
    traces.map Trace.pull = scan δ resolve document ∧
      turns.head? = (if document = [] then none else some (Scanner.start document)) ∧
      turns.IsChain (fun s t => t = { (s.turn δ resolve).scanner with pending := none }) ∧
      (∀ t ∈ turns.getLast?, (t.turn δ resolve).scanner.rest = []) ∧
      turns.length ≤ 2 * document.byteLength ∧
      turns.IsChain (fun s t => ¬ (s.Stalls δ resolve ∧ t.Stalls δ resolve)) ∧
      ∃ n, scan δ resolve document = (List.range (n + 1)).map (fun k => (after k).next δ resolve) ∧
        (∀ k < n, ((after k).next δ resolve).block ≠ none) ∧
        ((after n).next δ resolve).block = none ∧
        ∀ m > n, (after m).next δ resolve = .quiet none (after m) ∧ after m = after (n + 1) := by
  intro traces turns after
  refine ⟨Scanner.map_pull_traces δ resolve _, Scanner.head?_turns δ resolve _, Scanner.isChain_turns _,
    Scanner.rest_of_getLast?_turns δ resolve _, Scanner.length_turns_le (Scanner.start document),
    Scanner.isChain_not_stalls _, ?_⟩
  obtain ⟨n, hpulls, hlast, hblocks⟩ := Scanner.exists_pulls_eq_map δ resolve (Scanner.start document)
  refine ⟨n, hpulls, hblocks, hlast, ?_⟩
  intro m hm
  obtain ⟨i, rfl⟩ : ∃ i, m = n + (i + 1) := ⟨m - n - 1, by omega⟩
  obtain ⟨hstate, hquiet⟩ := ((Scanner.valid_start δ document).afterCalls n).next_of_block_eq_none hlast i
  rw [← Scanner.afterCalls_add] at hstate hquiet
  have hbehind : after (n + 1) = ((after n).next δ resolve).scanner := Scanner.afterCalls_add _ n 1
  exact ⟨hquiet.trans (congrArg _ hstate.symm), hstate.trans hbehind.symm⟩

/-- The second turn ends a token without a name, and the third looks at the closing delimiter again. -/
example : ((Scanner.start ['a', 'b']).turns ⟨['a'], ['b'], by decide, by decide⟩ .nothing).map Scanner.cursor =
    [0, 1, 1] := by cbv

end TextTemplate
