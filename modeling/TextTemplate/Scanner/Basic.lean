import TextTemplate.Block
import TextTemplate.Delimiters
import TextTemplate.Resolver.Basic
import TextTemplate.Text.Trail

/-!
# The scanner

One pass over a document, from left to right.  The document is held in three parts: what is `passed`, the `span`
between the mark and the cursor (the literal text or the name being read), and the `rest`.  A turn looks at the
start of the rest: it moves the span forward by a character, opens a token, or closes one.  A close delimiter that
does not end a resolved token is left in the rest, to be looked at again as a possible opening.
-/

namespace TextTemplate

/-- What the span is: literal text, or the name of a token. -/
inductive Phase
  | literal
  | token
  deriving DecidableEq

/-- A scan under way. -/
structure Scanner where
  phase : Phase
  passed : Trail
  span : Trail
  rest : Text
  /-- A text that is the next block already. -/
  pending : Option Text
  /-- Whether the end of the document has been dealt with. -/
  finished : Bool
  deriving DecidableEq

/-- What one call on the scanner answers, the names looked up and the tokens left unresolved during the call, and
the scan from there on. -/
structure Pull where
  block : Option Block
  lookups : List Text
  unresolved : List Unresolved
  scanner : Scanner
  deriving DecidableEq

namespace Pull

/-- A call that looks nothing up. -/
def quiet (block : Option Block) (scanner : Scanner) : Pull := ⟨block, [], [], scanner⟩

/-- The call `q` as the continuation of the blockless turn `p`. -/
def andThen (p q : Pull) : Pull :=
  ⟨q.block, p.lookups ++ q.lookups, p.unresolved ++ q.unresolved, q.scanner⟩

end Pull

namespace Scanner

/-- The scan of a document, before the first call. -/
def start (document : Text) : Scanner := ⟨.literal, .empty, .empty, document, none, false⟩

/-- The byte at which the span starts. -/
def mark (s : Scanner) : Nat := s.passed.byteLength

/-- The byte at which the rest starts. -/
def cursor (s : Scanner) : Nat := s.mark + s.span.byteLength

/-- The whole document. -/
def document (s : Scanner) : Text := s.passed.toText ++ s.span.toText ++ s.rest

/-- The scan with the next character in its span. -/
def step (s : Scanner) : Scanner :=
  match s.rest with
  | [] => s
  | c :: rest => { s with span := s.span.push c, rest := rest }

/-- Moves on by one character for as long as the text before the cursor still ends with `opening`. -/
def slide (opening : Text) (before : Trail) : Text → Trail × Text
  | [] => (before, [])
  | c :: rest =>
    if (before.push c).endsWith opening then slide opening (before.push c) rest else (before, c :: rest)

theorem length_slide_le (opening : Text) (before : Trail) (rest : Text) :
    (slide opening before rest).2.length ≤ rest.length := by
  induction rest generalizing before with
  | nil => simp [slide]
  | cons c rest ih =>
    simp only [slide]
    split
    · exact Nat.le_succ_of_le (ih _)
    · simp

/-- A turn in literal text: an opening delimiter at the cursor ends the text in front of it.  Of a run of
delimiter text the last opening counts. -/
def literalTurn (δ : Delimiters) (s : Scanner) : Pull :=
  match δ.opening.isPrefixOf? s.rest with
  | none => .quiet none s.step
  | some after =>
    let (held, rest) := slide δ.opening (s.span.extend δ.opening) after
    let text := (held.dropEnd δ.opening.length).toText
    .quiet (if text = [] then none else some (.text text))
      { s with phase := .token, passed := s.passed.join held, span := .empty, rest := rest }

/-- A turn in a token: a close delimiter at the cursor ends the name in front of it, which is looked up unless
it is empty. -/
def tokenTurn (δ : Delimiters) (resolve : Resolver) (s : Scanner) : Pull :=
  match δ.closing.isPrefixOf? s.rest with
  | none => .quiet none s.step
  | some after =>
    let name := s.span.toText
    let closed := { s with phase := .literal, passed := s.passed.join s.span, span := .empty }
    if name = [] then .quiet (some (.delimiter δ.opening)) closed
    else
      match resolve name with
      | some value =>
        ⟨some (.value value), [name], [], { closed with passed := closed.passed.extend δ.closing, rest := after }⟩
      | none =>
        ⟨some (.delimiter δ.opening), [name], [⟨name, s.mark⟩], { closed with pending := some name }⟩

/-- One turn of the scan. -/
def turn (δ : Delimiters) (resolve : Resolver) (s : Scanner) : Pull :=
  match s.phase with
  | .literal => literalTurn δ s
  | .token => tokenTurn δ resolve s

/-- At the end of the document the last span becomes text, behind its opening delimiter if it was a name.  This
happens once. -/
def finish (δ : Delimiters) (s : Scanner) : Pull :=
  if s.finished then .quiet none s
  else
    let text := s.span.toText
    let left := if text = [] then none else some text
    let done := { s with finished := true }
    match s.phase with
    | .literal => .quiet (left.map .text) done
    | .token => .quiet (some (.delimiter δ.opening)) { done with pending := left.or s.pending }

/-! ### Turns make progress -/

private theorem length_rest_step {s : Scanner} (h : s.rest ≠ []) : s.step.rest.length < s.rest.length := by
  unfold step
  split
  · contradiction
  · simp_all

private theorem length_rest_slide {opening after rest : Text} (h : opening ≠ [])
    (ha : opening.isPrefixOf? rest = some after) (before : Trail) :
    (slide opening before after).2.length < rest.length := by
  have := Text.length_of_isPrefixOf? ha
  have := length_slide_le opening before after
  have := List.length_pos_iff.2 h
  omega

/-- A turn without a block shortens the rest. -/
theorem length_rest_turn {δ : Delimiters} {resolve : Resolver} {s : Scanner} (h : s.rest ≠ [])
    (hb : (turn δ resolve s).block = none) : (turn δ resolve s).scanner.rest.length < s.rest.length := by
  unfold turn at hb ⊢
  split at hb
  · unfold literalTurn at hb ⊢
    split at hb
    · exact length_rest_step h
    · exact length_rest_slide δ.opening_ne_nil (by assumption) _
  · unfold tokenTurn at hb ⊢
    split at hb
    · exact length_rest_step h
    · simp only at hb
      split at hb
      · simp [Pull.quiet] at hb
      · split at hb <;> simp at hb

/-! ### Calls -/

/-- Turns until one of them yields a block, or the end of the document. -/
def advance (δ : Delimiters) (resolve : Resolver) (s : Scanner) : Pull :=
  if _h : s.rest = [] then finish δ s
  else
    let p := turn δ resolve s
    if _hb : p.block = none then p.andThen (advance δ resolve p.scanner) else p
termination_by s.rest.length
decreasing_by exact length_rest_turn ‹_› ‹_›

/-- One call: the next block, if there is one. -/
def next (δ : Delimiters) (resolve : Resolver) (s : Scanner) : Pull :=
  match s.pending with
  | some text => .quiet (some (.text text)) { s with pending := none }
  | none => advance δ resolve s

/-! ### The document stays the same -/

theorem toText_slide (opening : Text) (before : Trail) (rest : Text) :
    (slide opening before rest).1.toText ++ (slide opening before rest).2 = before.toText ++ rest := by
  induction rest generalizing before with
  | nil => rfl
  | cons c rest ih =>
    simp only [slide]
    split
    · rw [ih, Trail.toText_push, List.append_assoc]; rfl
    · rfl

theorem document_step (s : Scanner) : s.step.document = s.document := by
  unfold step
  split
  · rfl
  · simp [document, *]

theorem document_turn (δ : Delimiters) (resolve : Resolver) (s : Scanner) :
    (turn δ resolve s).scanner.document = s.document := by
  unfold turn
  split
  · unfold literalTurn
    split
    · exact document_step s
    · rename_i after ha
      have h := toText_slide δ.opening (s.span.extend δ.opening) after
      simp only [document, Pull.quiet, Trail.toText_join, Trail.toText_empty, List.append_nil, List.append_assoc, h,
        Text.eq_append_of_isPrefixOf? ha, Trail.toText_extend]
  · unfold tokenTurn
    split
    · exact document_step s
    · rename_i after ha
      simp only
      split
      · simp [document, Pull.quiet]
      · split
        · simp [document, Text.eq_append_of_isPrefixOf? ha]
        · simp [document]

private theorem document_finish (δ : Delimiters) (s : Scanner) : (finish δ s).scanner.document = s.document := by
  unfold finish
  split
  · rfl
  · simp only; split <;> rfl

private theorem document_advance (δ : Delimiters) (resolve : Resolver) (s : Scanner) :
    (advance δ resolve s).scanner.document = s.document := by
  fun_induction advance δ resolve s with
  | case1 s _ => exact document_finish δ s
  | case2 s _ p _ ih => exact ih.trans (document_turn δ resolve s)
  | case3 s _ p _ => exact document_turn δ resolve s

/-- A call moves through the document and does not change it. -/
theorem document_next (δ : Delimiters) (resolve : Resolver) (s : Scanner) :
    (next δ resolve s).scanner.document = s.document := by
  unfold next
  split
  · rfl
  · exact document_advance δ resolve s

end Scanner

end TextTemplate
