import TextTemplate.Proofs.Scanner.Search
import TextTemplate.Render

/-!
# Templates

A template is a sequence of tokens, each with the text in front of it, and the text behind the last of them.  If
its parts can be told apart (`Slot.WellFormed`), and every name resolves, the template renders to its texts with
the values in place of the tokens (`render_slots`), whatever its length and however its delimiters overlap.
-/

namespace TextTemplate

/-- A token of a template: the text in front of it, a run of delimiter text that it does not use, its name, and
what replaces it. -/
structure Slot where
  lead : Text
  run : Text
  name : Text
  value : Text

namespace Slot

/-- How the slot is written in a document. -/
def source (δ : Delimiters) (s : Slot) : Text := s.lead ++ (s.run ++ (δ.opening ++ (s.name ++ δ.closing)))

/-- The slot with its token replaced. -/
def filled (s : Slot) : Text := s.lead ++ (s.run ++ s.value)

/-- The parts of a slot can be told apart: no opening delimiter starts in the text before the token, and the run
behind one ends at the name, in which no closing delimiter starts.  The name resolves to the value. -/
structure WellFormed (δ : Delimiters) (resolve : Resolver) (s : Slot) : Prop where
  lead_clear : Text.Clear δ.opening s.lead
  run_repeats : Text.Repeats δ.opening s.run
  name_ne_nil : s.name ≠ []
  name_clear : Text.Clear δ.closing s.name
  name_stops : ∀ c ∈ s.name.head?, ¬ δ.opening <:+ δ.opening ++ [c]
  resolves : resolve s.name = some s.value

/-- The blocks of a slot. -/
def blocks (s : Slot) : List Block := (Block.ofText? (s.lead ++ s.run)).toList ++ [.value s.value]

variable {δ : Delimiters} {resolve : Resolver}

theorem WellFormed.ofDocument_append {s : Slot} (h : s.WellFormed δ resolve) (rest : Text) :
    Reading.ofDocument δ resolve (s.source δ ++ rest) =
      ⟨s.blocks, [s.name]⟩ ++ Reading.ofDocument δ resolve rest := by
  have hsource : s.source δ ++ rest = s.lead ++ (s.run ++ (δ.opening ++ (s.name ++ (δ.closing ++ rest)))) := by
    simp only [source, List.append_assoc]
  have hstop : ∀ c ∈ (s.name ++ (δ.closing ++ rest)).head?, ¬ δ.opening <:+ δ.opening ++ [c] := by
    rw [List.head?_append_of_ne_nil _ h.name_ne_nil]
    exact h.name_stops
  have htoken : Reading.ofToken δ resolve (s.name ++ (δ.closing ++ rest)) = _ :=
    Reading.ofToken_of_some (h.name_clear.findFrom?_append rest)
  rw [if_neg h.name_ne_nil, h.resolves] at htoken
  rw [hsource, Reading.ofDocument_append h.lead_clear h.run_repeats hstop, htoken]
  ext1
  · simp [blocks, Reading.copied]
  · simp [Reading.copied]

/-- A template is read slot by slot. -/
theorem ofDocument_template {slots : List Slot} {tail : Text} (hslots : ∀ s ∈ slots, s.WellFormed δ resolve)
    (htail : ¬ δ.opening <:+: tail) :
    Reading.ofDocument δ resolve (slots.flatMap (source δ) ++ tail) =
      ⟨slots.flatMap blocks ++ (Block.ofText? tail).toList, slots.map name⟩ := by
  induction slots with
  | nil =>
    have hnone := (Text.findFrom?_eq_none_iff_not_isInfix δ.opening_ne_nil).2 htail
    rw [List.flatMap_nil, List.nil_append, Reading.ofDocument_of_none hnone]
    rfl
  | cons s slots ih =>
    rw [List.forall_mem_cons] at hslots
    rw [List.flatMap_cons, List.append_assoc, hslots.1.ofDocument_append, ih hslots.2]
    ext1
    · simp
    · simp

theorem flatMap_content_blocks (s : Slot) : s.blocks.flatMap Block.content = s.filled := by
  rw [blocks, filled, List.flatMap_append, Block.flatMap_content_ofText?, List.flatMap_singleton,
    List.append_assoc]
  rfl

end Slot

/-- A template whose slots are well formed, and that ends in text without an opening delimiter, renders to its
texts with the values in place of the tokens.  The names are looked up in order, and no delimiter stays in the
output. -/
theorem render_slots {δ : Delimiters} {resolve : Resolver} (slots : List Slot) (tail : Text)
    (hslots : ∀ s ∈ slots, s.WellFormed δ resolve) (htail : ¬ δ.opening <:+: tail) :
    let document := slots.flatMap (Slot.source δ) ++ tail
    render δ resolve document = slots.flatMap Slot.filled ++ tail ∧
      Pull.names (scan δ resolve document) = slots.map Slot.name ∧
      ∀ t, .delimiter t ∉ Pull.blocks (scan δ resolve document) := by
  intro document
  have hread := Slot.ofDocument_template hslots htail
  have hblocks : Pull.blocks (scan δ resolve document) = _ := blocks_scan δ resolve document
  have hnames : Pull.names (scan δ resolve document) = _ := names_scan δ resolve document
  rw [hread] at hblocks hnames
  refine ⟨?_, hnames, ?_⟩
  · rw [render, hblocks, List.flatMap_append, Block.flatMap_content_ofText?, List.flatMap_assoc]
    simp only [Slot.flatMap_content_blocks]
  · intro t ht
    rw [hblocks, List.mem_append, List.mem_flatMap] at ht
    rcases ht with ⟨s, -, hs⟩ | ht
    · rw [Slot.blocks, List.mem_append, List.mem_singleton] at hs
      rcases hs with hs | hs
      · cases Block.eq_text_of_mem_ofText? hs
      · cases hs
    · cases Block.eq_text_of_mem_ofText? ht

/-- Adjacent tokens between `<<` and `><`, where the closing delimiter could begin an opening one, with a run in
front of the first. -/
theorem render_slots_adjacent :
    render ⟨['<', '<'], ['>', '<'], by decide, by decide⟩
        (fun name => if name = ['k'] then some ['V'] else if name = ['n'] then some [] else none)
        ['x', '<', '<', '<', 'k', '>', '<', '<', '<', 'n', '>', '<', 't', '<'] = ['x', '<', 'V', 't', '<'] := by
  refine (render_slots [⟨['x'], ['<'], ['k'], ['V']⟩, ⟨[], [], ['n'], []⟩] ['t', '<'] ?_ ?_).1
  · rw [List.forall_mem_cons, List.forall_mem_singleton]
    refine ⟨⟨by decide, .inr ⟨'<', 2, 1, rfl, rfl⟩, by decide, by decide, ?_, rfl⟩,
      ⟨by decide, .inl rfl, by decide, by decide, ?_, rfl⟩⟩
    · rintro c ⟨⟩
      decide
    · rintro c ⟨⟩
      decide
  · decide

end TextTemplate
