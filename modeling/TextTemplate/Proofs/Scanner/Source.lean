import Mathlib.Data.List.Forall2
import TextTemplate.Proofs.Scanner.Run
import TextTemplate.Render

/-!
# The source of the blocks

Every block stands for a stretch of the document (`Pull.StandsFor`): a text or a delimiter for itself, a value
for the token that it replaces.  The stretches are consecutive and make up the whole document
(`scan_partition`), since in every state the part of the document that no block stands for yet can be read off
the scanner (`Scanner.outstanding`).
-/

namespace TextTemplate

namespace Pull

/-- The calls that yield a block. -/
def yielding (ps : List Pull) : List Pull := ps.filter fun p => p.block.isSome

/-- The block of a call stands for a stretch of the document: a text or a delimiter for itself, a value for the
token whose name the call looked up. -/
inductive StandsFor (δ : Delimiters) (resolve : Resolver) (p : Pull) : Text → Prop
  | text {t : Text} (hb : p.block = some (.text t)) (ht : t ≠ []) : StandsFor δ resolve p t
  | delimiter (hb : p.block = some (.delimiter δ.opening)) : StandsFor δ resolve p δ.opening
  | value {name v : Text} (hb : p.block = some (.value v)) (hl : p.lookups = [name]) (hn : name ≠ [])
      (hv : resolve name = some v) : StandsFor δ resolve p (δ.opening ++ name ++ δ.closing)

/-- The block of a call with a value put back to the source of its token. -/
def source (δ : Delimiters) (p : Pull) : Text :=
  match p.block with
  | none => []
  | some (.text t) => t
  | some (.delimiter t) => t
  | some (.value _) => δ.opening ++ p.lookups.flatten ++ δ.closing

theorem source_of_block_eq_none {δ : Delimiters} {p : Pull} (h : p.block = none) : p.source δ = [] := by
  rw [source, h]

theorem source_quiet_ofText? (δ : Delimiters) (t : Text) (s : Scanner) :
    (quiet (Block.ofText? t) s).source δ = t := by
  rw [source, quiet, Block.ofText?_eq]
  by_cases ht : t = []
  · rw [if_pos ht, ht]
  · rw [if_neg ht]

theorem StandsFor.source_eq {δ : Delimiters} {resolve : Resolver} {p : Pull} {span : Text}
    (h : StandsFor δ resolve p span) : p.source δ = span := by
  cases h with
  | text hb => rw [source, hb]
  | delimiter hb => rw [source, hb]
  | value hb hl => rw [source, hb, hl, List.flatten_singleton]

end Pull

namespace Scanner

variable {δ : Delimiters} {resolve : Resolver} {s : Scanner} {p : Pull}

/-- The part of the document that no block stands for yet. -/
def outstanding (δ : Delimiters) (s : Scanner) : Text :=
  s.pending.getD [] ++
    if s.finished then []
    else
      match s.phase with
      | .literal => s.span.toText ++ s.rest
      | .token => δ.opening ++ (s.span.toText ++ s.rest)

private theorem outstanding_literal (hp : s.pending = none) (hf : s.finished = false) (hph : s.phase = .literal) :
    s.outstanding δ = s.span.toText ++ s.rest := by
  rw [outstanding, hp, hf, hph]
  rfl

private theorem outstanding_token (hp : s.pending = none) (hf : s.finished = false) (hph : s.phase = .token) :
    s.outstanding δ = δ.opening ++ (s.span.toText ++ s.rest) := by
  rw [outstanding, hp, hf, hph]
  rfl

private theorem outstanding_of_finished (hf : s.finished = true) : s.outstanding δ = s.pending.getD [] := by
  rw [outstanding, hf]
  exact List.append_nil _

/-- A move that opens a token keeps the run of delimiter text in one piece. -/
theorem append_slide {after lead rest : Text} {held : Trail} (hr : s.rest = δ.opening ++ after)
    (hs : slide δ.opening (s.span.extend δ.opening) after = (held, rest)) (hl : held.toText = lead ++ δ.opening) :
    s.span.toText ++ s.rest = lead ++ (δ.opening ++ rest) := by
  have h := toText_slide δ.opening (s.span.extend δ.opening) after
  rw [hs, hl, Trail.toText_extend, List.append_assoc, List.append_assoc, ← hr] at h
  exact h.symm

/-- A move takes the source of its block off the front of what is outstanding. -/
theorem Move.outstanding_eq (h : Move δ resolve s p) (hv : s.Valid δ) :
    s.outstanding δ = p.source δ ++ p.scanner.outstanding δ := by
  cases h with
  | pending hp =>
    rw [outstanding, hp]
    rfl
  | step hp hr =>
    rw [outstanding, outstanding, Pull.quiet]
    dsimp only
    rw [Trail.toText_push_append, ← hr]
    rfl
  | opening hp hph hr hs hl =>
    have hf := hv.finished_eq_false .literal hr
    rw [outstanding_literal hp hf hph, append_slide hr hs hl, Pull.source_quiet_ofText?, hp, hf]
    rfl
  | blank hp hph hr hn =>
    have hf := hv.finished_eq_false .token hr
    -- the close delimiter stays in the rest, as literal text
    rw [outstanding_token hp hf hph, hn, hp, hf]
    rfl
  | resolved hp hph hr hn hval =>
    have hf := hv.finished_eq_false .token hr
    rw [outstanding_token hp hf hph, hr, hp, hf]
    show δ.opening ++ _ = δ.opening ++ [s.span.toText].flatten ++ δ.closing ++ _
    rw [List.flatten_singleton, List.append_assoc, List.append_assoc]
    rfl
  | unresolved hp hph hr hn hval =>
    have hf := hv.finished_eq_false .token hr
    -- the name is outstanding still: it is pending, and no longer in the span
    rw [outstanding_token hp hf hph, hf]
    rfl
  | lastText hp hr hf hph =>
    rw [outstanding_literal hp hf hph, hr, Pull.source_quiet_ofText?, outstanding_of_finished rfl, hp]
    rfl
  | lastName hp hr hf hph =>
    rw [outstanding_token hp hf hph, hr, outstanding_of_finished rfl, List.append_nil]
    exact congrArg (δ.opening ++ ·) (Text.getD_nonempty? _).symm
  | exhausted => rfl

private theorem standsFor_ofText? {t : Text} (hb : (Pull.quiet (Block.ofText? t) s).block ≠ none) :
    (Pull.quiet (Block.ofText? t) s).StandsFor δ resolve t := by
  by_cases ht : t = []
  · refine absurd ?_ hb
    rw [Pull.quiet, Block.ofText?_eq, if_pos ht]
  · refine .text ?_ ht
    rw [Pull.quiet, Block.ofText?_eq, if_neg ht]

/-- The block of a move stands for some stretch of text. -/
theorem Move.exists_standsFor (h : Move δ resolve s p) (hv : s.Valid δ) (hb : p.block ≠ none) :
    ∃ span, p.StandsFor δ resolve span := by
  cases h with
  | @pending text hp =>
    have ht : text ≠ [] := by
      intro ht
      exact hv.pending_ne_nil (ht ▸ hp)
    exact ⟨_, .text rfl ht⟩
  | step => exact absurd rfl hb
  | opening => exact ⟨_, standsFor_ofText? hb⟩
  | blank => exact ⟨_, .delimiter rfl⟩
  | resolved hp hph hr hn hval => exact ⟨_, .value rfl rfl hn hval⟩
  | unresolved => exact ⟨_, .delimiter rfl⟩
  | lastText => exact ⟨_, standsFor_ofText? hb⟩
  | lastName => exact ⟨_, .delimiter rfl⟩
  | exhausted => exact absurd rfl hb

theorem standsFor_source (hv : s.Valid δ) :
    ∀ p ∈ s.pulls δ resolve, p.block ≠ none → p.StandsFor δ resolve (p.source δ) := by
  refine forall_pulls ?_ hv
  intro s p hv hm hb
  obtain ⟨span, hspan⟩ := hm.exists_standsFor hv hb
  rw [hspan.source_eq]
  exact hspan

/-- The sources of the calls make up what is outstanding. -/
theorem flatMap_source_pulls (hv : s.Valid δ) : (s.pulls δ resolve).flatMap (Pull.source δ) = s.outstanding δ := by
  refine flatMap_pulls (Pull.source δ) (outstanding δ) ?_ (fun _ => rfl) ?_ hv
  · intro s p hv hm
    exact hm.outstanding_eq hv
  · intro s hf hp
    rw [outstanding_of_finished hf, hp]
    rfl

end Scanner

/-- With every value put back to the source of its token, the blocks of a scan are the document. -/
theorem flatMap_source_scan (δ : Delimiters) (resolve : Resolver) (document : Text) :
    (scan δ resolve document).flatMap (Pull.source δ) = document := by
  have hstart : (Scanner.start document).outstanding δ = document := rfl
  rw [scan, Scanner.flatMap_source_pulls (Scanner.valid_start δ document), hstart]

/-- Where nothing resolves, a call adds its source to the output. -/
private theorem Pull.output_eq_source {δ : Delimiters} {p : Pull}
    (h : p.block ≠ none → p.StandsFor δ .nothing (p.source δ)) : p.output = p.source δ := by
  by_cases hb : p.block = none
  · rw [source_of_block_eq_none hb, output, hb]
    rfl
  · have hs := h hb
    generalize p.source δ = span at hs
    cases hs with
    | text hb => rw [output, hb]; rfl
    | delimiter hb => rw [output, hb]; rfl
    | value _ _ _ hv => cases hv

/-- The stretches that the blocks stand for, one for each block and none of them empty, make up the document. -/
private theorem forall₂_standsFor (δ : Delimiters) (resolve : Resolver) (document : Text) :
    List.Forall₂ (Pull.StandsFor δ resolve) (Pull.yielding (scan δ resolve document))
      ((Pull.yielding (scan δ resolve document)).map (Pull.source δ)) := by
  rw [List.forall₂_map_right_iff, List.forall₂_same]
  intro p hp
  obtain ⟨hp, hb⟩ := List.mem_filter.1 hp
  exact Scanner.standsFor_source (Scanner.valid_start δ document) p hp (Option.isSome_iff_ne_none.1 hb)

private theorem flatten_source_yielding (δ : Delimiters) (ps : List Pull) :
    ((Pull.yielding ps).map (Pull.source δ)).flatten = ps.flatMap (Pull.source δ) := by
  induction ps with
  | nil => rfl
  | cons p ps ih =>
    rw [List.flatMap_cons, ← ih, Pull.yielding, List.filter_cons]
    by_cases hb : p.block = none
    · rw [Pull.source_of_block_eq_none hb, hb]
      rfl
    · rw [if_pos (Option.isSome_iff_ne_none.2 hb)]
      rfl

/-- Nothing of a document is lost, duplicated or reordered.  The blocks of a scan stand for consecutive
stretches that make up the document; with the tokens put back for the values they are the document; and where
nothing resolves, so is the rendering. -/
theorem scan_partition (δ : Delimiters) (resolve : Resolver) (document : Text) :
    (∃ spans, List.Forall₂ (Pull.StandsFor δ resolve) (Pull.yielding (scan δ resolve document)) spans ∧
        spans.flatten = document) ∧
      (scan δ resolve document).flatMap (Pull.source δ) = document ∧
      render δ .nothing document = document := by
  refine ⟨⟨_, forall₂_standsFor δ resolve document, ?_⟩, flatMap_source_scan δ resolve document, ?_⟩
  · rw [flatten_source_yielding, flatMap_source_scan]
  · have hout : ∀ p ∈ scan δ .nothing document, p.output = p.source δ := fun p hp =>
      Pull.output_eq_source (Scanner.standsFor_source (Scanner.valid_start δ document) p hp)
    rw [render, Pull.flatMap_content_blocks, List.flatMap_congr hout, flatMap_source_scan]

end TextTemplate
