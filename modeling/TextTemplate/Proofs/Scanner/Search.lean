import Mathlib.Data.List.Basic
import TextTemplate.Proofs.Scanner.Run
import TextTemplate.Proofs.Text.Occurrence

/-!
# Reading a document by search

The second account of a document (`Reading.ofDocument`) has no state: it looks for the first opening delimiter,
then for the first closing one behind the run, and goes on with what is left of the document.  A scan yields the
same blocks and looks up the same names (`scan_eq_ofDocument`): in every state what is left to read is a
function of the span and the rest (`Scanner.reading`), and a move takes its own part off the front of it.
-/

namespace TextTemplate

/-- Blocks, and the names looked up for them, in order. -/
@[ext] structure Reading where
  blocks : List Block
  lookups : List Text

namespace Reading

instance : Append Reading := ⟨fun r t => ⟨r.blocks ++ t.blocks, r.lookups ++ t.lookups⟩⟩

@[simp] theorem blocks_append (r t : Reading) : (r ++ t).blocks = r.blocks ++ t.blocks := rfl

@[simp] theorem lookups_append (r t : Reading) : (r ++ t).lookups = r.lookups ++ t.lookups := rfl

private theorem append_nil (r : Reading) : r ++ ⟨[], []⟩ = r := by
  ext1
  · rw [blocks_append, List.append_nil]
  · rw [lookups_append, List.append_nil]

/-- A copied text, if there is any. -/
def copied (t : Text) : Reading := ⟨(Block.ofText? t).toList, []⟩

/-- An opening delimiter that opens no resolved token. -/
def lone (δ : Delimiters) : Reading := ⟨[.delimiter δ.opening], []⟩

/-- After the opening delimiter at `i`, the run ends inside the document. -/
private theorem runEnd_bounds {δ : Delimiters} {d : Text} {i : Nat} (h : Text.findFrom? δ.opening d 0 = some i) :
    0 < Text.runEnd δ.opening d (i + δ.opening.length) ∧
      Text.runEnd δ.opening d (i + δ.opening.length) ≤ d.length := by
  obtain ⟨-, -, ho, -⟩ := Text.findFrom?_eq_some_iff.1 h
  have hl := ho.length_le
  have hpos := List.length_pos_iff.2 δ.opening_ne_nil
  rw [List.length_drop] at hl
  have hrun := Text.le_runEnd δ.opening d (i + δ.opening.length)
  exact ⟨by omega, Text.runEnd_le (by omega)⟩

/-- What is left behind the closing delimiter is shorter than the document. -/
private theorem length_drop_lt {δ : Delimiters} {d : Text} {i q : Nat} (hi : Text.findFrom? δ.opening d 0 = some i)
    (hq : Text.findFrom? δ.closing d (Text.runEnd δ.opening d (i + δ.opening.length)) = some q) (n : Nat) :
    (d.drop (q + n)).length < d.length := by
  obtain ⟨hpos, hle⟩ := runEnd_bounds hi
  obtain ⟨hs, -, -, -⟩ := Text.findFrom?_eq_some_iff.1 hq
  rw [List.length_drop]
  omega

/-- The reading of a document by search.  The first opening delimiter is at `i`, the run behind it ends at `e`,
and `q` is the first position from there on of a closing delimiter. -/
def ofDocument (δ : Delimiters) (resolve : Resolver) (d : Text) : Reading :=
  match _hi : Text.findFrom? δ.opening d 0 with
  | none => copied d
  | some i =>
    let e := Text.runEnd δ.opening d (i + δ.opening.length)
    let lead := copied (d.take (e - δ.opening.length))
    match _hq : Text.findFrom? δ.closing d e with
    | none => lead ++ (lone δ ++ copied (d.drop e))
    | some q =>
      let name := (d.take q).drop e
      if q = e then lead ++ (lone δ ++ ofDocument δ resolve (d.drop q))
      else
        match resolve name with
        | some v => lead ++ (⟨[.value v], [name]⟩ ++ ofDocument δ resolve (d.drop (q + δ.closing.length)))
        | none =>
          lead ++ (⟨[.delimiter δ.opening, .text name], [name]⟩ ++ ofDocument δ resolve (d.drop q))
termination_by d.length
decreasing_by
  · exact length_drop_lt _hi _hq 0
  · exact length_drop_lt _hi _hq δ.closing.length
  · exact length_drop_lt _hi _hq 0

/-- The reading of what follows an opening delimiter, by search. -/
def ofToken (δ : Delimiters) (resolve : Resolver) (u : Text) : Reading :=
  match Text.findFrom? δ.closing u 0 with
  | none => lone δ ++ copied u
  | some n =>
    if n = 0 then lone δ ++ ofDocument δ resolve u
    else
      match resolve (u.take n) with
      | some v => ⟨[.value v], [u.take n]⟩ ++ ofDocument δ resolve (u.drop (n + δ.closing.length))
      | none => ⟨[.delimiter δ.opening, .text (u.take n)], [u.take n]⟩ ++ ofDocument δ resolve (u.drop n)

variable {δ : Delimiters} {resolve : Resolver}

theorem ofDocument_of_none {d : Text} (h : Text.findFrom? δ.opening d 0 = none) :
    ofDocument δ resolve d = copied d := by
  rw [ofDocument]
  split
  · rfl
  · rename_i hi
    rw [h] at hi
    cases hi

theorem ofDocument_of_some {d : Text} {i e : Nat} (h : Text.findFrom? δ.opening d 0 = some i)
    (he : Text.runEnd δ.opening d (i + δ.opening.length) = e) :
    ofDocument δ resolve d = copied (d.take (e - δ.opening.length)) ++ ofToken δ resolve (d.drop e) := by
  have hle : e ≤ d.length := he ▸ (runEnd_bounds h).2
  have hq := Text.findFrom?_eq_map_drop δ.closing_ne_nil hle
  rw [ofDocument, ofToken]
  split
  · rename_i hi
    rw [h] at hi
    cases hi
  · rename_i i' hi
    obtain rfl : i' = i := by
      rw [h] at hi
      exact (Option.some.inj hi).symm
    subst he
    dsimp only
    -- the closing delimiter found behind `e` is the one found in the text from `e` on
    generalize Text.runEnd δ.opening d (i' + δ.opening.length) = e at *
    cases hn : Text.findFrom? δ.closing (d.drop e) 0 with
    | none =>
      rw [hn, Option.map_none] at hq
      split
      · rfl
      · rename_i hsome
        rw [hq] at hsome
        cases hsome
    | some n =>
      rw [hn, Option.map_some] at hq
      split
      · rename_i hnone
        rw [hq] at hnone
        cases hnone
      · rename_i q hsome
        obtain rfl : q = e + n := by
          rw [hq] at hsome
          exact (Option.some.inj hsome).symm
        simp only [Nat.add_eq_left, List.drop_take, Nat.add_sub_cancel_left, List.drop_drop, Nat.add_assoc]
        split
        · rename_i h0
          rw [h0, Nat.add_zero]
        · split <;> rfl

theorem ofToken_of_none {u : Text} (h : Text.findFrom? δ.closing u 0 = none) :
    ofToken δ resolve u = lone δ ++ copied u := by
  rw [ofToken, h]

/-- A token whose name ends at the first closing delimiter. -/
theorem ofToken_of_some {name after : Text}
    (h : Text.findFrom? δ.closing (name ++ (δ.closing ++ after)) 0 = some name.length) :
    ofToken δ resolve (name ++ (δ.closing ++ after)) =
      if name = [] then lone δ ++ ofDocument δ resolve (δ.closing ++ after)
      else
        match resolve name with
        | some v => ⟨[.value v], [name]⟩ ++ ofDocument δ resolve after
        | none => ⟨[.delimiter δ.opening, .text name], [name]⟩ ++ ofDocument δ resolve (δ.closing ++ after) := by
  rw [ofToken, h]
  simp only [List.length_eq_zero_iff, List.take_left, List.drop_left, ← List.drop_drop]
  by_cases hn : name = []
  · rw [if_pos hn, if_pos hn, hn, List.nil_append]
  · rw [if_neg hn, if_neg hn]

/-- A document up to its first token: text in which no opening delimiter starts, text that repeats the
delimiter, and the delimiter behind which the run ends. -/
theorem ofDocument_append {lead run u : Text} (hlead : Text.Clear δ.opening lead)
    (hrun : Text.Repeats δ.opening run) (hstop : ∀ c ∈ u.head?, ¬ δ.opening <:+ δ.opening ++ [c]) :
    ofDocument δ resolve (lead ++ (run ++ (δ.opening ++ u))) = copied (lead ++ run) ++ ofToken δ resolve u := by
  have hd : lead ++ (run ++ (δ.opening ++ u)) = lead ++ (δ.opening ++ (run ++ u)) := by
    rw [← List.append_assoc run, hrun.append_comm, List.append_assoc]
  have hfind := hlead.findFrom?_append (run ++ u)
  have hend := Text.runEnd_of_repeats lead hrun hstop
  have hlen : (lead ++ δ.opening ++ run).length - δ.opening.length = (lead ++ run).length := by
    simp only [List.length_append]
    omega
  rw [← hd] at hfind
  rw [List.length_append, List.append_assoc, List.append_assoc, ← hd] at hend
  rw [ofDocument_of_some hfind hend, hlen]
  congr 2
  · rw [← List.append_assoc lead, List.take_left]
  · rw [← List.append_assoc run, hrun.append_comm, ← List.append_assoc lead, ← List.append_assoc lead,
      List.drop_left]

end Reading

/-- The part of a reading that a call contributes. -/
def Pull.reading (p : Pull) : Reading := ⟨p.block.toList, p.lookups⟩

namespace Scanner

/-! ### Sliding reaches the end of the run -/

theorem slide_eq_runEnd (opening : Text) (before : Trail) (rest : Text) :
    (slide opening before rest).1.toText =
        (before.toText ++ rest).take (Text.runEnd opening (before.toText ++ rest) before.toText.length) ∧
      (slide opening before rest).2 =
        (before.toText ++ rest).drop (Text.runEnd opening (before.toText ++ rest) before.toText.length) := by
  induction rest generalizing before with
  | nil =>
    rw [slide, List.append_nil, Text.runEnd, if_neg (by simp)]
    exact ⟨List.take_length.symm, List.drop_length.symm⟩
  | cons c rest ih =>
    have hlen : (before.push c).toText.length = before.toText.length + 1 := by
      rw [Trail.toText_push, List.length_append, List.length_singleton]
    have htake : (before.toText ++ c :: rest).take (before.toText.length + 1) = (before.push c).toText := by
      rw [← Trail.toText_push_append, ← hlen, List.take_left]
    rw [slide, Text.runEnd, htake]
    -- both go on by the character `c` on the same condition
    by_cases hc : opening <:+ (before.push c).toText
    · rw [if_pos (Trail.endsWith_iff.2 hc), if_pos ⟨by simp, hc⟩, ← hlen, ← Trail.toText_push_append]
      exact ih (before.push c)
    · rw [if_neg (fun h => hc (Trail.endsWith_iff.1 h)), if_neg (fun h => hc h.2)]
      exact ⟨List.take_left.symm, List.drop_left.symm⟩

/-! ### The reading that is left -/

/-- What a scan has still to yield and to look up. -/
def reading (δ : Delimiters) (resolve : Resolver) (s : Scanner) : Reading :=
  ⟨s.pending.toList.map .text, []⟩ ++
    if s.finished then ⟨[], []⟩
    else
      match s.phase with
      | .literal => .ofDocument δ resolve (s.span.toText ++ s.rest)
      | .token => .ofToken δ resolve (s.span.toText ++ s.rest)

variable {δ : Delimiters} {resolve : Resolver} {s : Scanner} {p : Pull}

private theorem reading_literal (hp : s.pending = none) (hf : s.finished = false) (hph : s.phase = .literal) :
    s.reading δ resolve = .ofDocument δ resolve (s.span.toText ++ s.rest) := by
  rw [reading, hp, hf, hph]
  rfl

private theorem reading_token (hp : s.pending = none) (hf : s.finished = false) (hph : s.phase = .token) :
    s.reading δ resolve = .ofToken δ resolve (s.span.toText ++ s.rest) := by
  rw [reading, hp, hf, hph]
  rfl

private theorem reading_of_finished (hf : s.finished = true) :
    s.reading δ resolve = ⟨s.pending.toList.map .text, []⟩ := by
  rw [reading, hf]
  exact Reading.append_nil _

/-- The delimiter that a scan looks out for is first found at the cursor if it is there. -/
theorem Valid.findFrom?_eq (hv : s.Valid δ) (h : δ.awaited s.phase <+: s.rest) :
    Text.findFrom? (δ.awaited s.phase) (s.span.toText ++ s.rest) 0 = some s.span.toText.length :=
  Text.findFrom?_append h hv.clear

/-- At the end of the document there is no delimiter left to find. -/
theorem Valid.findFrom?_eq_none (hv : s.Valid δ) (hr : s.rest = []) :
    Text.findFrom? (δ.awaited s.phase) (s.span.toText ++ s.rest) 0 = none := by
  rw [Text.findFrom?_eq_none_iff (δ.awaited_ne_nil s.phase)]
  intro k _
  by_cases hk : k < s.span.toText.length
  · exact hv.clear k hk
  · rw [hr, List.append_nil, List.drop_eq_nil_of_le (by omega), List.prefix_nil]
    exact δ.awaited_ne_nil s.phase

private theorem reading_opening (hv : s.Valid δ) {after lead rest : Text} {held : Trail} (hp : s.pending = none)
    (hph : s.phase = .literal) (hr : s.rest = δ.opening ++ after)
    (hs : slide δ.opening (s.span.extend δ.opening) after = (held, rest)) (hl : held.toText = lead ++ δ.opening) :
    s.reading δ resolve = .copied lead ++ .ofToken δ resolve rest := by
  have hfind := hv.findFrom?_eq (by rw [hph, hr]; exact List.prefix_append _ _)
  obtain ⟨htake, hdrop⟩ := slide_eq_runEnd δ.opening (s.span.extend δ.opening) after
  rw [hph] at hfind
  rw [hs, Trail.toText_extend, List.append_assoc, ← hr, List.length_append] at htake hdrop
  rw [reading_literal hp (hv.finished_eq_false .literal hr) hph, Reading.ofDocument_of_some hfind rfl]
  have hle := (Reading.runEnd_bounds hfind).2
  -- the held text is all up to the end `e` of the run, of which the delimiter is the last part
  generalize Text.runEnd δ.opening (s.span.toText ++ s.rest) (s.span.toText.length + δ.opening.length) = e at *
  have hlen : lead.length + δ.opening.length = e := by
    rw [← List.length_append, ← hl, htake, List.length_take, Nat.min_eq_left hle]
  have hlead : (s.span.toText ++ s.rest).take (e - δ.opening.length) = lead := by
    rw [← Nat.min_eq_left (Nat.sub_le e δ.opening.length), ← List.take_take, ← htake, hl, ← hlen,
      Nat.add_sub_cancel, List.take_left]
  rw [hlead, ← hdrop]

private theorem reading_closing (hv : s.Valid δ) {after : Text} (hp : s.pending = none) (hph : s.phase = .token)
    (hr : s.rest = δ.closing ++ after) :
    s.reading δ resolve =
      if s.span.toText = [] then .lone δ ++ .ofDocument δ resolve s.rest
      else
        match resolve s.span.toText with
        | some v => ⟨[.value v], [s.span.toText]⟩ ++ .ofDocument δ resolve after
        | none => ⟨[.delimiter δ.opening, .text s.span.toText], [s.span.toText]⟩ ++
            .ofDocument δ resolve s.rest := by
  have hfind := hv.findFrom?_eq (by rw [hph, hr]; exact List.prefix_append _ _)
  rw [hph, hr] at hfind
  rw [reading_token hp (hv.finished_eq_false .token hr) hph, hr]
  exact Reading.ofToken_of_some hfind

/-- A move takes its own part off the front of what is left to read. -/
theorem Move.reading_eq (h : Move δ resolve s p) (hv : s.Valid δ) :
    s.reading δ resolve = p.reading ++ p.scanner.reading δ resolve := by
  cases h with
  | pending hp =>
    rw [reading, hp]
    rfl
  | step hp hr =>
    rw [reading, reading, Pull.quiet]
    dsimp only
    rw [Trail.toText_push_append, ← hr]
    rfl
  | opening hp hph hr hs hl =>
    rw [reading_opening hv hp hph hr hs hl, hp, hv.finished_eq_false .literal hr]
    rfl
  | blank hp hph hr hn =>
    rw [reading_closing hv hp hph hr, if_pos hn, hp, hv.finished_eq_false .token hr]
    rfl
  | resolved hp hph hr hn hval =>
    rw [reading_closing hv hp hph hr, if_neg hn, hval, hp, hv.finished_eq_false .token hr]
    rfl
  | unresolved hp hph hr hn hval =>
    -- the name is read with the token, and is what the scan has pending behind it
    rw [reading_closing hv hp hph hr, if_neg hn, hval, hv.finished_eq_false .token hr]
    rfl
  | lastText hp hr hf hph =>
    have hfind := hv.findFrom?_eq_none hr
    rw [hph] at hfind
    rw [reading_literal hp hf hph, Reading.ofDocument_of_none hfind, hr, List.append_nil,
      reading_of_finished rfl, hp]
    exact (Reading.append_nil _).symm
  | lastName hp hr hf hph =>
    have hfind := hv.findFrom?_eq_none hr
    rw [hph] at hfind
    rw [reading_token hp hf hph, Reading.ofToken_of_none hfind, hr, List.append_nil, reading_of_finished rfl,
      Reading.copied, Block.ofText?, Option.toList_map]
    rfl
  | exhausted hp hr hf => rfl

/-- What is left to read in a state is what the calls from there on yield and look up. -/
theorem reading_pulls (hv : s.Valid δ) :
    (⟨Pull.blocks (s.pulls δ resolve), Pull.names (s.pulls δ resolve)⟩ : Reading) = s.reading δ resolve := by
  ext1
  · show (s.pulls δ resolve).filterMap Pull.block = (s.reading δ resolve).blocks
    rw [List.filterMap_eq_flatMap_toList]
    refine flatMap_pulls _ (fun s => (s.reading δ resolve).blocks) ?_ (fun _ => rfl) ?_ hv
    · intro s p hv hm
      exact congrArg Reading.blocks (hm.reading_eq hv)
    · intro s hf hp
      rw [reading_of_finished hf, hp]
      rfl
  · show (s.pulls δ resolve).flatMap Pull.lookups = (s.reading δ resolve).lookups
    refine flatMap_pulls _ (fun s => (s.reading δ resolve).lookups) ?_ (fun _ => rfl) ?_ hv
    · intro s p hv hm
      exact congrArg Reading.lookups (hm.reading_eq hv)
    · intro s hf _
      rw [reading_of_finished hf]

end Scanner

theorem blocks_scan (δ : Delimiters) (resolve : Resolver) (document : Text) :
    Pull.blocks (scan δ resolve document) = (Reading.ofDocument δ resolve document).blocks :=
  congrArg Reading.blocks (Scanner.reading_pulls (Scanner.valid_start δ document))

theorem names_scan (δ : Delimiters) (resolve : Resolver) (document : Text) :
    Pull.names (scan δ resolve document) = (Reading.ofDocument δ resolve document).lookups :=
  congrArg Reading.lookups (Scanner.reading_pulls (Scanner.valid_start δ document))

/-- A scan yields the blocks, and makes the lookups, of the reading by search. -/
theorem scan_eq_ofDocument (δ : Delimiters) (resolve : Resolver) (document : Text) :
    (⟨Pull.blocks (scan δ resolve document), Pull.names (scan δ resolve document)⟩ : Reading) =
      .ofDocument δ resolve document := by
  have hstart : (Scanner.start document).reading δ resolve = .ofDocument δ resolve document := rfl
  rw [← hstart]
  exact Scanner.reading_pulls (Scanner.valid_start δ document)

end TextTemplate
