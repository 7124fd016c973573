import TextTemplate.Proofs.Scanner.Place

/-!
# A scan by its offsets

A scan needs the document and two places in it, the mark and the cursor, counted in bytes (`Offsets`).  The
texts that it works with are slices of the document, and there is no slice at a byte inside a character, behind
the end of the document, or that stops before it starts; nor is there a difference below zero.  So a turn may
fail (`Offsets.turn?`), and a call with it (`Offsets.next?`).
-/

namespace TextTemplate

/-- A scan under way, its mark and its cursor as bytes of the document. -/
structure Offsets where
  phase : Phase
  mark : Nat
  cursor : Nat
  pending : Option Text
  finished : Bool
  deriving DecidableEq

namespace Offsets

/-- What a turn answers, and the scan from there on. -/
structure Answer where
  block : Option Block
  lookups : List Text
  unresolved : List Unresolved
  offsets : Offsets
  deriving DecidableEq

def Answer.quiet (block : Option Block) (offsets : Offsets) : Answer := ⟨block, [], [], offsets⟩

/-- What a call answers whose first turn has no block. -/
def Answer.andThen (first rest : Answer) : Answer :=
  ⟨rest.block, first.lookups ++ rest.lookups, first.unresolved ++ rest.unresolved, rest.offsets⟩

/-- The difference of two bytes, if it is not below zero. -/
def sub? (m n : Nat) : Option Nat := if n ≤ m then some (m - n) else none

/-- The cursors along a run of delimiter text, one character behind the other for as long as the document up to
there still ends with `opening`. -/
def runCursors? (opening document : Text) (cursor : Nat) : Option (List Nat) :=
  if _h : cursor < document.byteLength then
    match _hwidth : document.widthAt? cursor with
    | none => none
    | some width =>
      match document.slice? 0 (cursor + width) with
      | none => none
      | some front =>
        if opening.isSuffixOf front then (runCursors? opening document (cursor + width)).map (cursor :: ·)
        else some [cursor]
  else some [cursor]
termination_by document.byteLength - cursor
decreasing_by
  have hpos := Text.widthAt?_pos _hwidth
  omega

/-- The scan behind the next character. -/
def step? (document : Text) (o : Offsets) : Option Offsets :=
  (document.widthAt? o.cursor).map fun width => { o with cursor := o.cursor + width }

/-- A turn in literal text. -/
def literalTurn? (δ : Delimiters) (document : Text) (o : Offsets) : Option Answer := do
  let rest ← document.slice? o.cursor document.byteLength
  if δ.opening.isPrefixOf rest then
    let cursors ← runCursors? δ.opening document (o.cursor + δ.opening.byteLength)
    let cursor ← cursors.getLast?
    let stop ← sub? cursor δ.opening.byteLength
    let text ← document.slice? o.mark stop
    return .quiet (Block.ofText? text) { o with phase := .token, mark := cursor, cursor := cursor }
  else
    let behind ← o.step? document
    return .quiet none behind

/-- A turn in a token. -/
def tokenTurn? (δ : Delimiters) (resolve : Resolver) (document : Text) (o : Offsets) : Option Answer := do
  let rest ← document.slice? o.cursor document.byteLength
  if δ.closing.isPrefixOf rest then
    let name ← document.slice? o.mark o.cursor
    let closed := { o with phase := .literal, mark := o.cursor }
    if name = [] then
      return .quiet (some (.delimiter δ.opening)) closed
    else
      match resolve name with
      | some value =>
        let stop := o.cursor + δ.closing.byteLength
        return ⟨some (.value value), [name], [], { closed with mark := stop, cursor := stop }⟩
      | none => return ⟨some (.delimiter δ.opening), [name], [⟨name, o.mark⟩], { closed with pending := some name }⟩
  else
    let behind ← o.step? document
    return .quiet none behind

def turn? (δ : Delimiters) (resolve : Resolver) (document : Text) (o : Offsets) : Option Answer :=
  match o.phase with
  | .literal => literalTurn? δ document o
  | .token => tokenTurn? δ resolve document o

/-- The end of the document. -/
def finish? (δ : Delimiters) (document : Text) (o : Offsets) : Option Answer :=
  if o.finished then some (.quiet none o)
  else do
    let text ← document.slice? o.mark document.byteLength
    let done := { o with finished := true }
    match o.phase with
    | .literal => return .quiet (Block.ofText? text) done
    | .token =>
      return .quiet (some (.delimiter δ.opening)) { done with pending := (Text.nonempty? text).or o.pending }

/-! ### Turns make progress -/

theorem le_of_mem_runCursors? {opening document : Text} {cursor : Nat} {cursors : List Nat}
    (h : runCursors? opening document cursor = some cursors) : ∀ n ∈ cursors, cursor ≤ n := by
  fun_induction runCursors? opening document cursor generalizing cursors with
  | case1 | case2 => cases h
  | case3 cursor _ width _ front _ _ ih =>
    obtain ⟨further, hfurther, rfl⟩ := Option.map_eq_some_iff.1 h
    intro n hn
    rcases List.mem_cons.1 hn with rfl | hn
    · exact Nat.le_refl _
    · exact Nat.le_trans (Nat.le_add_right _ _) (ih hfurther n hn)
  | case4 | case5 =>
    obtain rfl := Option.some.inj h
    intro n hn
    exact Nat.le_of_eq (List.mem_singleton.1 hn).symm

section Progress

variable {δ : Delimiters} {resolve : Resolver} {document : Text} {o : Offsets} {a : Answer}

private theorem cursor_lt_of_step?
    (h : ((o.step? document).bind fun behind => some (.quiet none behind)) = some a) :
    o.cursor < a.offsets.cursor := by
  obtain ⟨behind, hstep, ha⟩ := Option.bind_eq_some_iff.1 h
  obtain ⟨width, hwidth, rfl⟩ := Option.map_eq_some_iff.1 hstep
  obtain rfl := Option.some.inj ha
  exact Nat.lt_add_of_pos_right (Text.widthAt?_pos hwidth)

private theorem cursor_lt_of_literalTurn? (h : literalTurn? δ document o = some a) :
    o.cursor < a.offsets.cursor := by
  simp only [literalTurn?, Option.bind_eq_bind, Option.pure_def, Option.bind_eq_some_iff] at h
  obtain ⟨rest, -, h⟩ := h
  split at h
  · simp only [Option.bind_eq_some_iff, Option.some.injEq] at h
    obtain ⟨cursors, hcursors, cursor, hlast, -, -, -, -, rfl⟩ := h
    have hle := le_of_mem_runCursors? hcursors cursor (List.mem_of_getLast? hlast)
    have hpos := Text.byteLength_pos δ.opening_ne_nil
    show o.cursor < cursor
    omega
  · exact cursor_lt_of_step? h

/-- Without a block there is no closing delimiter at the cursor. -/
private theorem cursor_lt_of_tokenTurn? (h : tokenTurn? δ resolve document o = some a) (hb : a.block = none) :
    o.cursor < a.offsets.cursor := by
  simp only [tokenTurn?, Option.bind_eq_bind, Option.pure_def, Option.bind_eq_some_iff] at h
  obtain ⟨rest, -, h⟩ := h
  split at h
  · obtain ⟨name, -, h⟩ := Option.bind_eq_some_iff.1 h
    have hblock : a.block ≠ none := by
      split at h
      · obtain rfl := Option.some.inj h
        exact Option.some_ne_none _
      · split at h
        · obtain rfl := Option.some.inj h
          exact Option.some_ne_none _
        · obtain rfl := Option.some.inj h
          exact Option.some_ne_none _
    exact absurd hb hblock
  · exact cursor_lt_of_step? h

/-- A turn without a block moves the cursor on. -/
theorem cursor_lt_of_turn? (h : turn? δ resolve document o = some a) (hb : a.block = none) :
    o.cursor < a.offsets.cursor := by
  rw [turn?] at h
  split at h
  · exact cursor_lt_of_literalTurn? h
  · exact cursor_lt_of_tokenTurn? h hb

end Progress

/-! ### Calls -/

/-- Turns until one of them yields a block, or the end of the document. -/
def advance? (δ : Delimiters) (resolve : Resolver) (document : Text) (o : Offsets) : Option Answer :=
  if _h : o.cursor < document.byteLength then
    match _ha : turn? δ resolve document o with
    | none => none
    | some a => if _hb : a.block = none then (advance? δ resolve document a.offsets).map a.andThen else some a
  else finish? δ document o
termination_by document.byteLength - o.cursor
decreasing_by
  have hlt := cursor_lt_of_turn? _ha _hb
  omega

/-- One call: the next block, if there is one. -/
def next? (δ : Delimiters) (resolve : Resolver) (document : Text) (o : Offsets) : Option Answer :=
  match o.pending with
  | some text => some (.quiet (some (.text text)) { o with pending := none })
  | none => advance? δ resolve document o

/-- A number of calls in a row. -/
def calls? (δ : Delimiters) (resolve : Resolver) (document : Text) : Nat → Offsets → Option (List Answer)
  | 0, _ => some []
  | n + 1, o => do
    let answer ← next? δ resolve document o
    let further ← calls? δ resolve document n answer.offsets
    return answer :: further

end Offsets

/-- A scan by its offsets. -/
def Scanner.offsets (s : Scanner) : Offsets := ⟨s.phase, s.mark, s.cursor, s.pending, s.finished⟩

/-- What a turn answers, by the offsets of the scan from there on. -/
def Pull.answer (p : Pull) : Offsets.Answer := ⟨p.block, p.lookups, p.unresolved, p.scanner.offsets⟩

namespace Offsets

open Scanner (slide)

variable {δ : Delimiters} {resolve : Resolver} {document : Text} {s : Scanner}

/-! ### Runs of delimiter text -/

theorem runCursors?_of_end (opening document : Text) :
    runCursors? opening document document.byteLength = some [document.byteLength] := by
  rw [runCursors?, dif_neg (Nat.lt_irrefl _)]

/-- Before the end of the document a run goes on with the next character, or stops. -/
theorem runCursors?_append_cons (opening before rest : Text) (c : Char) :
    runCursors? opening (before ++ c :: rest) before.byteLength =
      if opening <:+ before ++ [c] then
        (runCursors? opening (before ++ c :: rest) (before ++ [c]).byteLength).map (before.byteLength :: ·)
      else some [before.byteLength] := by
  have hlen : (before ++ [c]).byteLength = before.byteLength + c.utf8Size := Text.byteLength_append _ _
  have hfront : Text.slice? (before ++ c :: rest) 0 (before.byteLength + c.utf8Size) = some (before ++ [c]) := by
    have happend := Text.slice?_append [] (before ++ [c]) rest
    rwa [List.nil_append, List.nil_append, List.append_assoc, hlen] at happend
  have hpos := c.utf8Size_pos
  have hlt : before.byteLength < Text.byteLength (before ++ c :: rest) := by
    rw [Text.byteLength_append, Text.byteLength_cons]
    omega
  rw [runCursors?, dif_pos hlt]
  split
  · rename_i hwidth
    rw [Text.widthAt?_append_cons] at hwidth
    cases hwidth
  · rename_i width hwidth
    rw [Text.widthAt?_append_cons] at hwidth
    obtain rfl := Option.some.inj hwidth
    rw [hfront, hlen]
    simp only [List.isSuffixOf_iff_suffix]

/-- The run of cursors behind an opening delimiter is the way that the text before the cursor slides, and the
delimiter ends at each of them. -/
theorem exists_runCursors? {opening : Text} {before : Trail} (rest : Text) (h : opening <:+ before.toText) :
    ∃ cursors, runCursors? opening (before.toText ++ rest) before.byteLength = some cursors ∧
      cursors.getLast? = some (slide opening before rest).1.byteLength ∧
      ∀ n ∈ cursors, before.byteLength ≤ n ∧ Text.EndsAt opening (before.toText ++ rest) n := by
  have hends (before : Trail) (rest : Text) (h : opening <:+ before.toText) :
      Text.EndsAt opening (before.toText ++ rest) before.byteLength := by
    rw [Trail.byteLength_eq]
    exact Text.endsAt_append_iff.2 h
  induction rest generalizing before with
  | nil =>
    refine ⟨[before.byteLength], ?_, rfl, ?_⟩
    · rw [List.append_nil, Trail.byteLength_eq]
      exact runCursors?_of_end _ _
    · intro n hn
      obtain rfl := List.mem_singleton.1 hn
      exact ⟨Nat.le_refl _, hends before [] h⟩
  | cons c rest ih =>
    have hrun := runCursors?_append_cons opening before.toText rest c
    rw [← Trail.toText_push, ← Trail.byteLength_eq, ← Trail.byteLength_eq] at hrun
    by_cases hc : opening <:+ (before.push c).toText
    · obtain ⟨cursors, hcursors, hlast, hall⟩ := ih hc
      rw [Trail.toText_push_append] at hcursors hall
      rw [if_pos hc, hcursors] at hrun
      refine ⟨before.byteLength :: cursors, hrun, ?_, ?_⟩
      · rw [slide, if_pos (Trail.endsWith_iff.2 hc), List.getLast?_cons, hlast]
        rfl
      · rintro n (_ | ⟨_, hn⟩)
        · exact ⟨Nat.le_refl _, hends before (c :: rest) h⟩
        · obtain ⟨hle, hn⟩ := hall n hn
          exact ⟨Nat.le_trans (Nat.le_add_left _ _) hle, hn⟩
    · rw [if_neg hc] at hrun
      refine ⟨[before.byteLength], hrun, ?_, ?_⟩
      · rw [slide, if_neg (fun hends => hc (Trail.endsWith_iff.1 hends))]
        rfl
      · intro n hn
        obtain rfl := List.mem_singleton.1 hn
        exact ⟨Nat.le_refl _, hends before (c :: rest) h⟩

end Offsets

end TextTemplate
