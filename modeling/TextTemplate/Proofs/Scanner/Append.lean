import TextTemplate.Proofs.Scanner.Effect
import TextTemplate.Proofs.Scanner.Source

/-!
# Documents one behind the other

Where a scan ends in literal text, the scan of a longer document does the same and goes on with what follows as
if that stood alone (`scan_append`): it looks up the same names, writes the same text, and leaves the same
tokens unresolved, further on by the bytes in front.

Three changes to a scanner are followed through its moves: text in front of what is passed (`behind`), which
nothing depends on but the offsets; text in front of the span (`led`), which goes out in front of the next
block; and text behind the rest (`more`), which nothing shows as long as no delimiter of the longer document
reaches into it.
-/

namespace TextTemplate

/-! ### Text in front of what is passed -/

/-- The scan with more text passed already. -/
def Scanner.behind (t : Trail) (s : Scanner) : Scanner := { s with passed := t.join s.passed }

/-- The call of a scan with more text passed already. -/
def Pull.behind (t : Trail) (p : Pull) : Pull :=
  { p with unresolved := p.unresolved.map (.shift t.byteLength), scanner := p.scanner.behind t }

theorem Pull.flatMap_effects_behind (t : Trail) (ps : List Pull) :
    (ps.map (behind t)).flatMap effects = (ps.flatMap effects).map (.shift t.byteLength) := by
  rw [List.flatMap_map, List.map_flatMap]
  refine List.flatMap_congr ?_
  intro p _
  simp [behind, effects, output, Effect.shift, Function.comp_def]

theorem Pull.flatMap_output_behind (t : Trail) (ps : List Pull) :
    (ps.map (behind t)).flatMap output = ps.flatMap output := by
  rw [List.flatMap_map]
  rfl

theorem Pull.flatMap_source_behind (δ : Delimiters) (t : Trail) (ps : List Pull) :
    (ps.map (behind t)).flatMap (source δ) = ps.flatMap (source δ) := by
  rw [List.flatMap_map]
  rfl

theorem Pull.blocks_behind (t : Trail) (ps : List Pull) : blocks (ps.map (behind t)) = blocks ps := by
  rw [blocks, List.filterMap_map]
  rfl

theorem Pull.names_behind (t : Trail) (ps : List Pull) : names (ps.map (behind t)) = names ps := by
  rw [names, List.flatMap_map]
  rfl

theorem Pull.leftovers_behind (t : Trail) (ps : List Pull) :
    leftovers (ps.map (behind t)) = (leftovers ps).map (.shift t.byteLength) := by
  rw [leftovers, List.flatMap_map, leftovers, List.map_flatMap]
  rfl

namespace Scanner

variable {δ : Delimiters} {resolve : Resolver} {s : Scanner} {p : Pull}

theorem Move.behind (t : Trail) (h : Move δ resolve s p) : Move δ resolve (s.behind t) (p.behind t) := by
  cases h with
  | pending hp => exact .pending hp
  | step hp hr hd => exact .step hp hr hd
  | opening hp hph hr hs hl =>
    have hmove : Move δ resolve (s.behind t) _ := .opening hp hph hr hs hl
    rwa [Scanner.behind, Trail.join_assoc] at hmove
  | blank hp hph hr hn =>
    have hmove : Move δ resolve (s.behind t) _ := .blank hp hph hr hn
    rwa [Scanner.behind, Trail.join_assoc] at hmove
  | resolved hp hph hr hn hv =>
    have hmove : Move δ resolve (s.behind t) _ := .resolved hp hph hr hn hv
    rwa [Scanner.behind, Trail.join_assoc, Trail.join_extend] at hmove
  | unresolved hp hph hr hn hv =>
    have hmove : Move δ resolve (s.behind t) _ := .unresolved hp hph hr hn hv
    rwa [mark, Scanner.behind, Trail.join_assoc, Trail.byteLength_join] at hmove
  | lastText hp hr hf hph => exact .lastText hp hr hf hph
  | lastName hp hr hf hph => exact .lastName hp hr hf hph
  | exhausted hp hr hf => exact .exhausted hp hr hf

/-- Of the text that is passed only its length matters, and that only for the offsets of the unresolved tokens. -/
theorem pulls_behind (t : Trail) (hv : s.Valid δ) :
    (s.behind t).pulls δ resolve = (s.pulls δ resolve).map (Pull.behind t) := by
  refine Valid.induction resolve (motive := fun s =>
    (s.behind t).pulls δ resolve = (s.pulls δ resolve).map (.behind t)) ?_ ?_ hv
  · intro s hv hf hp
    have hr := hv.rest_of_finished hf
    rw [pulls_of_finished hr hf hp]
    exact pulls_of_finished hr hf hp
  · intro s p hv hm ih
    rw [pulls_of_move hm, pulls_of_move (hm.behind t)]
    show (if p.block = none then if s.rest = [] then _ else pulls δ resolve (p.scanner.behind t)
      else _ :: pulls δ resolve (p.scanner.behind t)) = _
    rw [ih]
    split
    · split
      · rfl
      · rfl
    · rfl

theorem effects_behind (resolve : Resolver) (t : Trail) (hv : s.Valid δ) :
    (s.behind t).effects δ resolve = (s.effects δ resolve).map (.shift t.byteLength) := by
  rw [effects, pulls_behind t hv, Pull.flatMap_effects_behind, effects]

/-! ### Text in front of the span -/

/-- The scan with more text in front of its span. -/
def led (t : Trail) (s : Scanner) : Scanner := { s with span := t.join s.span }

/-- Text in front of what the sliding starts with stays there. -/
theorem slide_join {opening : Text} {before : Trail} (t : Trail) (h : opening.length ≤ before.toText.length)
    (rest : Text) :
    slide opening (t.join before) rest =
      (t.join (slide opening before rest).1, (slide opening before rest).2) := by
  induction rest generalizing before with
  | nil => rfl
  | cons c rest ih =>
    have hpush : (t.join before).push c = t.join (before.push c) := rfl
    have hlen : opening.length ≤ (before.push c).toText.length := by
      rw [Trail.toText_push, List.length_append]
      omega
    have hends : (t.join (before.push c)).endsWith opening = (before.push c).endsWith opening := by
      rw [Bool.eq_iff_iff, Trail.endsWith_iff, Trail.endsWith_iff, Trail.toText_join, Text.isSuffix_append_iff hlen]
    rw [slide, slide, hpush, hends]
    split
    · exact ih hlen
    · rfl

private theorem effects_led_of_opening (t : Trail) (hv : s.Valid δ) {after lead rest : Text} {held : Trail}
    (hp : s.pending = none) (hph : s.phase = .literal) (hpassed : s.passed = .empty)
    (hr : s.rest = δ.opening ++ after) (hs : slide δ.opening (s.span.extend δ.opening) after = (held, rest))
    (hl : held.toText = lead ++ δ.opening) :
    (s.led t).effects δ resolve =
      t.toText.map .write ++ (s.effects δ resolve).map (.shift t.byteLength) := by
  have hs' : slide δ.opening ((s.led t).span.extend δ.opening) after = (t.join held, rest) := by
    have hlen : δ.opening.length ≤ (s.span.extend δ.opening).toText.length := by
      rw [Trail.toText_extend, List.length_append]
      omega
    rw [led, Trail.join_extend, slide_join t hlen, hs]
  have hl' : (t.join held).toText = t.toText ++ lead ++ δ.opening := by
    rw [Trail.toText_join, hl, List.append_assoc]
  have hpass : s.passed.join (t.join held) = t.join (s.passed.join held) := by
    rw [hpassed, Trail.empty_join, Trail.empty_join]
  have hm : Move δ resolve s _ := .opening hp hph hr hs hl
  have hled : Move δ resolve (s.led t) _ := .opening hp hph hr hs' hl'
  -- the text in front of the span is passed together with the span
  have hbehind := effects_behind resolve t (hm.valid hv)
  rw [Pull.quiet, behind, ← hpass] at hbehind
  rw [effects_of_move hm, effects_of_move hled, Pull.effects_quiet_ofText?, Pull.effects_quiet_ofText?,
    List.map_append, List.map_append, List.append_assoc, Effect.map_shift_write]
  exact congrArg (fun e => t.toText.map .write ++ (lead.map .write ++ e)) hbehind

/-- Text in front of a span of literal text is written before everything else, and passed by then. -/
theorem effects_led (t : Trail) (hv : s.Valid δ) (hp : s.pending = none) (hf : s.finished = false)
    (hph : s.phase = .literal) (hpassed : s.passed = .empty) :
    (s.led t).effects δ resolve =
      t.toText.map .write ++ (s.effects δ resolve).map (.shift t.byteLength) := by
  refine Valid.induction resolve (motive := fun s => s.pending = none → s.finished = false → s.phase = .literal →
    s.passed = .empty → (s.led t).effects δ resolve =
      t.toText.map .write ++ (s.effects δ resolve).map (.shift t.byteLength)) ?_ ?_ hv hp hf hph hpassed
  · intro s _ hf' _ _ hf
    rw [hf'] at hf
    cases hf
  · intro s p hv hm ih hp hf hph hpassed
    cases hm with
    | pending ht =>
      rw [hp] at ht
      cases ht
    | @step c rest _ hr hd =>
      have hne : s.rest ≠ [] := hr.trans_ne (List.cons_ne_nil _ _)
      have hstep : s.pulls δ resolve = _ := pulls_of_silent (.step hp hr hd) hne
      have hled : (s.led t).pulls δ resolve = _ := pulls_of_silent (.step hp hr hd) hne
      rw [effects, effects, hstep, hled]
      exact ih hp hf hph hpassed
    | opening _ _ hr hs hl => exact effects_led_of_opening t hv hp hph hpassed hr hs hl
    | lastText _ hr =>
      rw [effects_of_lastText hp hr hf hph, Effect.map_shift_write, ← List.map_append, ← Trail.toText_join]
      exact effects_of_lastText hp hr hf hph
    | exhausted _ _ hf' =>
      rw [hf] at hf'
      cases hf'
    | blank _ hph' | resolved _ hph' | unresolved _ hph' | lastName _ _ _ hph' =>
      rw [hph] at hph'
      cases hph'

/-- A text in which no delimiter starts is written before everything else. -/
theorem effects_of_clear (resolve : Resolver) {t u : Text}
    (hclear : ∀ k < t.length, ¬ δ.opening <+: (t ++ u).drop k) :
    (start (t ++ u)).effects δ resolve =
      t.map .write ++ ((start u).effects δ resolve).map (.shift t.byteLength) := by
  have hpulls : (start (t ++ u)).pulls δ resolve = ((start u).led (Trail.empty.extend t)).pulls δ resolve :=
    pulls_extend rfl rfl hclear
  rw [effects, hpulls, ← effects, effects_led _ (valid_start δ u) rfl rfl rfl rfl, Trail.byteLength_eq,
    Trail.toText_extend, Trail.toText_empty, List.nil_append]

/-! ### Text behind the rest -/

/-- The scan with more text behind its rest. -/
def more (u : Text) (s : Scanner) : Scanner := { s with rest := s.rest ++ u }

/-- The run ends in literal text, and no opening delimiter starts in the last of it when `u` follows. -/
structure Settled (δ : Delimiters) (resolve : Resolver) (u : Text) (s : Scanner) : Prop where
  phase_eq : (s.atEnd δ resolve).phase = .literal
  clear : ∀ k < (s.atEnd δ resolve).span.toText.length,
    ¬ δ.opening <+: ((s.atEnd δ resolve).span.toText ++ u).drop k

theorem Settled.of_move {u : Text} (h : s.Settled δ resolve u) (hm : Move δ resolve s p) :
    p.scanner.Settled δ resolve u := by
  have hend := atEnd_of_move hm
  exact ⟨hend ▸ h.phase_eq, hend ▸ h.clear⟩

/-- A delimiter that is not at the cursor is not there either when `u` follows: it would be the last one, and
start in the text that the run ends in. -/
theorem Settled.not_isPrefix {u : Text} (h : s.Settled δ resolve u) (hp : s.pending = none)
    (hf : s.finished = false)
    (hr : s.rest ≠ []) (hd : ¬ δ.awaited s.phase <+: s.rest) : ¬ δ.awaited s.phase <+: s.rest ++ u := by
  intro hu
  have hlen : s.rest.length < (δ.awaited s.phase).length := by
    by_contra hle
    exact hd (List.prefix_of_prefix_length_le hu (List.prefix_append _ _) (by omega))
  have hno : ∀ k, ¬ δ.awaited s.phase <+: s.rest.drop k := by
    intro k hk
    have := hk.length_le
    rw [List.length_drop] at this
    omega
  obtain ⟨hphase, hspan⟩ := atEnd_eq_of_forall resolve hp hf hno
  have hph : s.phase = .literal := hphase.symm.trans h.phase_eq
  have hclear := h.clear
  rw [hspan] at hclear
  rw [hph] at hu
  have hpos := List.length_pos_iff.2 hr
  apply hclear s.span.toText.length (by rw [List.length_append]; omega)
  rw [List.append_assoc, List.drop_left]
  exact hu

/-- A run that is to end in literal text does not end in a token. -/
theorem Settled.rest_ne_nil {u : Text} (h : s.Settled δ resolve u) (hp : s.pending = none) (hf : s.finished = false)
    (hph : s.phase = .token) : s.rest ≠ [] := by
  intro hr
  have hno : ∀ k, ¬ δ.awaited s.phase <+: s.rest.drop k := by
    intro k
    rw [hr, List.drop_nil, List.prefix_nil]
    exact δ.awaited_ne_nil s.phase
  have hphase := (atEnd_eq_of_forall resolve hp hf hno).1
  rw [hph, h.phase_eq] at hphase
  cases hphase

/-- The sliding stops where it does when `u` follows, unless it came to the end. -/
theorem slide_append {opening rest : Text} {before : Trail} (u : Text) (h : (slide opening before rest).2 ≠ []) :
    slide opening before (rest ++ u) = ((slide opening before rest).1, (slide opening before rest).2 ++ u) := by
  induction rest generalizing before with
  | nil => exact absurd rfl h
  | cons c rest ih =>
    rw [slide] at h ⊢
    rw [List.cons_append, slide]
    split
    · rename_i hc
      rw [if_pos hc] at h
      exact ih h
    · rfl

/-- A move is the same with `u` behind the rest, as long as the run does not end with it. -/
theorem Move.more {u : Text} (h : Move δ resolve s p) (hset : s.Settled δ resolve u)
    (hf : p.scanner.finished = false) : Move δ resolve (s.more u) { p with scanner := p.scanner.more u } := by
  have happend : ∀ lead {after}, s.rest = lead ++ after → (s.more u).rest = lead ++ (after ++ u) := by
    intro lead after hr
    rw [Scanner.more, hr, List.append_assoc]
  have hset' := hset.of_move h
  cases h with
  | pending hp => exact .pending hp
  | @step c rest hp hr hd =>
    have hne : s.rest ≠ [] := hr.trans_ne (List.cons_ne_nil _ _)
    exact .step hp (happend [c] hr) (hset.not_isPrefix hp hf hne hd)
  | @opening after lead rest held hp hph hr hs hl =>
    have hne : rest ≠ [] := hset'.rest_ne_nil hp hf rfl
    have hslide : slide δ.opening (s.span.extend δ.opening) (after ++ u) = (held, rest ++ u) := by
      rw [slide_append u (by rw [hs]; exact hne), hs]
    exact .opening hp hph (happend _ hr) hslide hl
  | blank hp hph hr hn => exact .blank hp hph (happend _ hr) hn
  | resolved hp hph hr hn hv => exact .resolved hp hph (happend _ hr) hn hv
  | unresolved hp hph hr hn hv => exact .unresolved hp hph (happend _ hr) hn hv
  | lastText | lastName => cases hf
  | exhausted _ _ hf' =>
    rw [Pull.quiet, hf'] at hf
    cases hf

/-- Where the run ends, the run with `u` behind the rest goes on with `u`, after the text that is left. -/
private theorem effects_more_of_lastText {u : Text} (hset : s.Settled δ resolve u) (hp : s.pending = none)
    (hr : s.rest = []) (hf : s.finished = false) (hph : s.phase = .literal) :
    (s.more u).effects δ resolve =
      s.effects δ resolve ++ ((start u).effects δ resolve).map (.shift s.document.byteLength) := by
  have hmore : s.more u = ((start u).led s.span).behind s.passed := by
    cases s
    cases hp
    cases hr
    cases hf
    cases hph
    rfl
  have hend : s.atEnd δ resolve = { s with finished := true } :=
    (atEnd_of_move (.lastText hp hr hf hph)).trans (atEnd_of_finished hr rfl hp)
  have hv : ((start u).led s.span).Valid δ := by
    refine ⟨?_, by simp [led, start], by simp [led, start]⟩
    have hclear := hset.clear
    rw [hend] at hclear
    exact hclear
  have hlen : s.document.byteLength = s.passed.byteLength + s.span.byteLength := by
    rw [document, hr, List.append_nil, Text.byteLength_append, ← Trail.byteLength_eq, ← Trail.byteLength_eq]
  rw [hmore, effects_behind resolve _ hv, effects_led s.span (valid_start δ u) rfl rfl rfl rfl,
    effects_of_lastText hp hr hf hph, hlen, List.map_append, Effect.map_shift_write, List.map_map]
  congr 2
  funext e
  exact Effect.shift_shift _ _ e

/-- A run that ends in literal text does what it does, and then what a run on the text behind does. -/
theorem effects_more {u : Text} (hv : s.Valid δ) (hset : s.Settled δ resolve u) (hf : s.finished = false) :
    (s.more u).effects δ resolve =
      s.effects δ resolve ++ ((start u).effects δ resolve).map (.shift s.document.byteLength) := by
  refine Valid.induction resolve (motive := fun s => s.Settled δ resolve u → s.finished = false →
    (s.more u).effects δ resolve =
      s.effects δ resolve ++ ((start u).effects δ resolve).map (.shift s.document.byteLength)) ?_ ?_ hv hset hf
  · intro s _ hf' _ _ hf
    rw [hf'] at hf
    cases hf
  · intro s p hv hm ih hset hf
    cases hfp : p.scanner.finished with
    | false =>
      have hmore := effects_of_move (hm.more hset hfp)
      rw [hmore, effects_of_move hm, ← hm.document_eq, List.append_assoc, ← ih (hset.of_move hm) hfp]
      rfl
    | true =>
      cases hm with
      | lastText hp hr _ hph => exact effects_more_of_lastText hset hp hr hf hph
      | lastName hp hr _ hph => exact absurd hr (hset.rest_ne_nil hp hf hph)
      | pending | step | opening | blank | resolved | unresolved | exhausted =>
        rw [show s.finished = true from hfp] at hf
        cases hf

/-! ### Behind a resolved token -/

/-- A resolved token leaves nothing open. -/
theorem scanner_of_value (hv : s.Valid δ) :
    ∀ p ∈ s.pulls δ resolve, ∀ v, p.block = some (.value v) →
      p.scanner = (start p.scanner.rest).behind p.scanner.passed := by
  refine forall_pulls ?_ hv
  intro s p hv hm v hb
  cases hm with
  | resolved hp hph hr =>
    rw [hp, hv.finished_eq_false .token hr]
    rfl
  | @opening _ lead =>
    have hmem : Block.value v ∈ (Block.ofText? lead).toList := Option.mem_toList.2 hb
    cases Block.eq_text_of_mem_ofText? hmem
  | lastText =>
    have hmem : Block.value v ∈ (Block.ofText? s.span.toText).toList := Option.mem_toList.2 hb
    cases Block.eq_text_of_mem_ofText? hmem
  | pending | step | blank | unresolved | lastName | exhausted => cases hb

end Scanner

theorem render_eq_output (δ : Delimiters) (resolve : Resolver) (document : Text) :
    render δ resolve document = (scan δ resolve document).flatMap Pull.output :=
  Pull.flatMap_content_blocks _

/-- The rendering, the lookups and the unresolved tokens of a document that a scan deals with in two parts. -/
private theorem readings_of_effects {δ : Delimiters} {resolve : Resolver} {document u : Text} {front : List Effect}
    {n : Nat} (h : (Scanner.start document).effects δ resolve =
      front ++ ((Scanner.start u).effects δ resolve).map (.shift n)) :
    render δ resolve document = front.filterMap Effect.written? ++ render δ resolve u ∧
      Pull.names (scan δ resolve document) = front.filterMap Effect.name? ++ Pull.names (scan δ resolve u) ∧
      Pull.leftovers (scan δ resolve document) =
        front.filterMap Effect.leftover? ++ (Pull.leftovers (scan δ resolve u)).map (.shift n) := by
  rw [Scanner.effects, Scanner.effects, ← scan, ← scan] at h
  refine ⟨?_, ?_, ?_⟩
  · rw [render_eq_output, render_eq_output, ← Pull.filterMap_written?, h, List.filterMap_append,
      Effect.filterMap_written?_shift, Pull.filterMap_written?]
  · rw [← Pull.filterMap_name?, h, List.filterMap_append, Effect.filterMap_name?_shift, Pull.filterMap_name?]
  · rw [← Pull.filterMap_leftover?, h, List.filterMap_append, Effect.filterMap_leftover?_shift,
      Pull.filterMap_leftover?]

/-- The scan behind a resolved token is the scan of the text behind it, but for the offsets. -/
theorem scan_behind_value {δ : Delimiters} {resolve : Resolver} {document v : Text}
    {before after : List Pull} {p : Pull}
    (h : scan δ resolve document = before ++ p :: after) (hb : p.block = some (.value v)) :
    ∃ t : Trail, t.toText = (before ++ [p]).flatMap (Pull.source δ) ∧ document = t.toText ++ p.scanner.rest ∧
      after = (scan δ resolve p.scanner.rest).map (.behind t) := by
  have hmem : p ∈ scan δ resolve document := by
    rw [h]
    exact List.mem_append_right _ List.mem_cons_self
  have hp := Scanner.scanner_of_value (Scanner.valid_start δ document) p hmem v hb
  have hdoc : document = p.scanner.passed.toText ++ p.scanner.rest := by
    have hscanner : p.scanner.document = document := Scanner.document_pulls p hmem
    rw [hp] at hscanner
    rw [← hscanner]
    simp [Scanner.document, Scanner.behind, Scanner.start]
  have hafter : after = (scan δ resolve p.scanner.rest).map (.behind p.scanner.passed) := by
    rw [Scanner.pulls_of_eq_append h (by simp [hb]), hp]
    exact Scanner.pulls_behind _ (Scanner.valid_start δ _)
  refine ⟨p.scanner.passed, ?_, hdoc, hafter⟩
  have hsource : (before ++ [p]).flatMap (Pull.source δ) ++ after.flatMap (Pull.source δ) = document := by
    rw [← List.flatMap_append, List.append_assoc, List.singleton_append, ← h, flatMap_source_scan]
  have hrest : after.flatMap (Pull.source δ) = p.scanner.rest := by
    rw [hafter, Pull.flatMap_source_behind, flatMap_source_scan]
  rw [hrest, hdoc] at hsource
  exact (List.append_cancel_right hsource).symm

/-- Rendering composes over the concatenation of documents.

If the scan of `d` ends in literal text, and no opening delimiter starts in the last of that text when `u`
follows, the rendering, the lookups and the unresolved tokens of `d ++ u` are those of `d` and then those of
`u`, the latter further on by the bytes of `d`.  So a text in which no opening delimiter starts is copied in
front of any document; and what follows a resolved token is scanned as if it stood alone. -/
theorem scan_append (δ : Delimiters) (resolve : Resolver) :
    (∀ d u : Text,
      let last := (Scanner.start d).atEnd δ resolve
      last.phase = .literal →
      (∀ k < last.span.toText.length, ¬ δ.opening <+: (last.span.toText ++ u).drop k) →
        render δ resolve (d ++ u) = render δ resolve d ++ render δ resolve u ∧
        Pull.names (scan δ resolve (d ++ u)) =
          Pull.names (scan δ resolve d) ++ Pull.names (scan δ resolve u) ∧
        Pull.leftovers (scan δ resolve (d ++ u)) =
          Pull.leftovers (scan δ resolve d) ++
            (Pull.leftovers (scan δ resolve u)).map (.shift d.byteLength)) ∧
    (∀ t u : Text, (∀ k < t.length, ¬ δ.opening <+: (t ++ u).drop k) →
        render δ resolve (t ++ u) = t ++ render δ resolve u ∧
        Pull.names (scan δ resolve (t ++ u)) = Pull.names (scan δ resolve u) ∧
        Pull.leftovers (scan δ resolve (t ++ u)) =
          (Pull.leftovers (scan δ resolve u)).map (.shift t.byteLength)) ∧
    (∀ (d v : Text) (before after : List Pull) (p : Pull),
      scan δ resolve d = before ++ p :: after → p.block = some (.value v) →
        let read := (before ++ [p]).flatMap (Pull.source δ)
        let rest := p.scanner.rest
        d = read ++ rest ∧
        render δ resolve d = (before ++ [p]).flatMap Pull.output ++ render δ resolve rest ∧
        Pull.blocks after = Pull.blocks (scan δ resolve rest) ∧
        Pull.names after = Pull.names (scan δ resolve rest) ∧
        Pull.leftovers after = (Pull.leftovers (scan δ resolve rest)).map (.shift (Text.byteLength read))) := by
  refine ⟨?_, ?_, ?_⟩
  · intro d u last hphase hclear
    have hall := readings_of_effects (Scanner.effects_more (Scanner.valid_start δ d) ⟨hphase, hclear⟩ rfl)
    rw [Scanner.effects, ← scan, Pull.filterMap_written?, Pull.filterMap_name?, Pull.filterMap_leftover?,
      ← render_eq_output] at hall
    exact hall
  · intro t u hclear
    have hall := readings_of_effects (Scanner.effects_of_clear resolve hclear)
    rw [Effect.filterMap_written?_write, Effect.filterMap_name?_write, Effect.filterMap_leftover?_write] at hall
    exact hall
  · intro d v before after p h hb read rest
    obtain ⟨t, ht, hd, rfl⟩ := scan_behind_value h hb
    have hread : Text.byteLength read = t.byteLength := by
      rw [Trail.byteLength_eq, ht]
    rw [ht] at hd
    refine ⟨hd, ?_, Pull.blocks_behind t _, Pull.names_behind t _, ?_⟩
    · rw [render_eq_output, render_eq_output, h, List.append_cons, List.flatMap_append, Pull.flatMap_output_behind]
    · rw [hread]
      exact Pull.leftovers_behind t _

/-- A delimiter character on either side of the border, a text that ends with one, and the text behind a token
that does. -/
theorem scan_append_sharp :
    let one : Resolver := fun name => if name = ['x'] then some ['1'] else none
    render .default one (['#', '#', 'x', '#', '#', 'a', '#'] ++ ['b', '#', '#', 'y', '#', '#']) =
        ['1', 'a', '#', 'b', '#', '#', 'y', '#', '#'] ∧
      Pull.leftovers (scan .default one (['#', '#', 'x', '#', '#', 'a', '#'] ++ ['b', '#', '#', 'y', '#', '#'])) =
        [⟨['y'], 10⟩] ∧
      render .default one (['#'] ++ ['a', '#', '#', 'x', '#', '#']) = ['#', 'a', '1'] ∧
      render .default one ['#', '#', 'x', '#', '#', '#', '#', 'x'] = ['1', '#', '#', 'x'] := by
  intro one
  have hphase : ((Scanner.start ['#', '#', 'x', '#', '#', 'a', '#']).atEnd .default one).phase = .literal := by
    decide +kernel
  have hspan : ((Scanner.start ['#', '#', 'x', '#', '#', 'a', '#']).atEnd .default one).span.toText =
      ['a', '#'] := by
    decide +kernel
  obtain ⟨hrender, -, hleftovers⟩ := (scan_append .default one).1 ['#', '#', 'x', '#', '#', 'a', '#']
    ['b', '#', '#', 'y', '#', '#'] hphase (by rw [hspan]; decide)
  obtain ⟨hcopied, -, -⟩ := (scan_append .default one).2.1 ['#'] ['a', '#', '#', 'x', '#', '#'] (by decide)
  refine ⟨?_, ?_, ?_, ?_⟩
  · rw [hrender]
    decide +kernel
  · rw [hleftovers]
    decide +kernel
  · rw [hcopied]
    decide +kernel
  · let behind : Scanner := ⟨.literal, ⟨['#', '#', 'x', '#', '#']⟩, .empty, ['#', '#', 'x'], none, false⟩
    have hscan : scan .default one ['#', '#', 'x', '#', '#', '#', '#', 'x'] =
        [] ++ ⟨some (.value ['1']), [['x']], [], behind⟩ :: behind.pulls .default one := by
      decide +kernel
    obtain ⟨-, hrest, -⟩ := (scan_append .default one).2.2 _ _ _ _ _ hscan rfl
    rw [hrest]
    decide +kernel

end TextTemplate
