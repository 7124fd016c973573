import TextTemplate.Scanner.Basic

/-!
# A whole scan

The calls on a scanner until it has no further block.  Every block costs weight, so the calls come to an end; the
blocks, the lookups and the unresolved tokens of the scan are read off the list of its calls.
-/

namespace TextTemplate

/-- A token still owes its opening delimiter and its name. -/
def Phase.weight : Phase → Nat
  | .literal => 0
  | .token => 2

namespace Scanner

/-- What is left to do, counted so that every block lowers it. -/
def weight (s : Scanner) : Nat :=
  3 * s.rest.length + s.phase.weight + s.pending.isSome.toNat + 2 * (!s.finished).toNat

/-! ### Every block costs weight -/

private theorem weight_step (s : Scanner) : s.step.weight ≤ s.weight := by
  unfold step
  split
  · exact Nat.le_refl _
  · simp only [weight, *, List.length_cons]; omega

private theorem weight_literalTurn (δ : Delimiters) (s : Scanner) :
    (literalTurn δ s).scanner.weight ≤ s.weight ∧
      ((literalTurn δ s).block ≠ none → (literalTurn δ s).scanner.weight < s.weight) := by
  unfold literalTurn
  split
  · exact ⟨weight_step s, by simp [Pull.quiet]⟩
  · rename_i after ha
    have h₁ := Text.length_of_isPrefixOf? ha
    have h₂ := length_slide_le δ.opening (s.span.extend δ.opening) after
    have h₃ := List.length_pos_iff.2 δ.opening_ne_nil
    simp only [Pull.quiet, weight, Phase.weight]
    omega

private theorem weight_tokenTurn (δ : Delimiters) (resolve : Resolver) (s : Scanner) (h : s.phase = .token) :
    (tokenTurn δ resolve s).scanner.weight ≤ s.weight ∧
      ((tokenTurn δ resolve s).block ≠ none → (tokenTurn δ resolve s).scanner.weight < s.weight) := by
  unfold tokenTurn
  split
  · exact ⟨weight_step s, by simp [Pull.quiet]⟩
  · rename_i after ha
    have h₁ := Text.length_of_isPrefixOf? ha
    simp only
    split
    · simp [Pull.quiet, weight, Phase.weight, h]
    · split
      · simp [weight, Phase.weight, h]; omega
      · simp [weight, Phase.weight, h]; omega

private theorem weight_turn (δ : Delimiters) (resolve : Resolver) (s : Scanner) :
    (turn δ resolve s).scanner.weight ≤ s.weight ∧
      ((turn δ resolve s).block ≠ none → (turn δ resolve s).scanner.weight < s.weight) := by
  unfold turn
  split
  · exact weight_literalTurn δ s
  · exact weight_tokenTurn δ resolve s (by assumption)

private theorem weight_finish (δ : Delimiters) (s : Scanner) (h : (finish δ s).block ≠ none) :
    (finish δ s).scanner.weight < s.weight := by
  unfold finish at h ⊢
  split at h
  · simp [Pull.quiet] at h
  · rename_i hf
    rw [if_neg hf]
    have h₁ := Bool.toNat_le
      ((if s.span.toText = [] then none else some s.span.toText).or s.pending).isSome
    simp only at h ⊢
    split
    · simp [Pull.quiet, weight, hf]
    · simp only [Pull.quiet, weight, hf]
      simp only [Bool.not_true, Bool.not_false, Bool.toNat_true, Bool.toNat_false]
      omega

private theorem weight_advance (δ : Delimiters) (resolve : Resolver) (s : Scanner)
    (h : (advance δ resolve s).block ≠ none) : (advance δ resolve s).scanner.weight < s.weight := by
  fun_induction advance δ resolve s with
  | case1 s hr => exact weight_finish δ s h
  | case2 s hr p hb ih => exact Nat.lt_of_lt_of_le (ih h) (weight_turn δ resolve s).1
  | case3 s hr p hb => exact (weight_turn δ resolve s).2 h

/-- A call that yields a block lowers the weight. -/
theorem weight_next {δ : Delimiters} {resolve : Resolver} {s : Scanner} (h : (next δ resolve s).block ≠ none) :
    (next δ resolve s).scanner.weight < s.weight := by
  unfold next at h ⊢
  split
  · simp [Pull.quiet, weight, *]
  · rename_i hp
    rw [hp] at h
    exact weight_advance δ resolve s h

/-! ### The calls of a scan -/

/-- The calls from here on, up to and including the first that yields no block. -/
def pulls (δ : Delimiters) (resolve : Resolver) (s : Scanner) : List Pull :=
  let p := next δ resolve s
  if _h : p.block = none then [p] else p :: pulls δ resolve p.scanner
termination_by s.weight
decreasing_by exact weight_next ‹_›

end Scanner

/-- The calls that scan a document to its end. -/
def scan (δ : Delimiters) (resolve : Resolver) (document : Text) : List Pull :=
  (Scanner.start document).pulls δ resolve

namespace Pull

/-- The blocks that a list of calls yields. -/
def blocks (ps : List Pull) : List Block := ps.filterMap Pull.block

/-- The names that a list of calls looks up. -/
def names (ps : List Pull) : List Text := ps.flatMap Pull.lookups

/-- The tokens that a list of calls leaves unresolved. -/
def leftovers (ps : List Pull) : List Unresolved := ps.flatMap Pull.unresolved

/-- The blocks that a list of calls yields, each with the number of names looked up by then, `n` of them before.
-/
def blocksCounted (n : Nat) : List Pull → List (Block × Nat)
  | [] => []
  | p :: ps =>
    let rest := blocksCounted (n + p.lookups.length) ps
    match p.block with
    | none => rest
    | some b => (b, n + p.lookups.length) :: rest

end Pull

end TextTemplate
