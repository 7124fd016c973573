import TextTemplate.Proofs.Scanner.Run

/-!
# What a scan does

The lookups of a scan, the tokens that it leaves unresolved, and the characters of its output, as one list of
effects in the order in which they happen.  Each of the three is read off the list (`Pull.filterMap_written?`
and its companions).
-/

namespace TextTemplate

/-- What a scan does: it looks up a name, leaves a token unresolved, or writes a character. -/
inductive Effect
  | lookup (name : Text)
  | leave (u : Unresolved)
  | write (c : Char)

/-- The same token, `n` bytes further on. -/
def Unresolved.shift (n : Nat) (u : Unresolved) : Unresolved := { u with offset := n + u.offset }

namespace Effect

/-- The same effect in a document with `n` bytes more in front. -/
def shift (n : Nat) : Effect → Effect
  | lookup name => lookup name
  | leave u => leave (u.shift n)
  | write c => write c

def written? : Effect → Option Char
  | write c => some c
  | _ => none

def name? : Effect → Option Text
  | lookup name => some name
  | _ => none

def leftover? : Effect → Option Unresolved
  | leave u => some u
  | _ => none

theorem shift_shift (m n : Nat) (e : Effect) : (e.shift n).shift m = e.shift (m + n) := by
  cases e with
  | leave u => simp [shift, Unresolved.shift, Nat.add_assoc]
  | _ => rfl

theorem filterMap_written?_shift (n : Nat) (es : List Effect) :
    (es.map (shift n)).filterMap written? = es.filterMap written? := by
  rw [List.filterMap_map]
  refine List.filterMap_congr ?_
  intro e _
  cases e <;> rfl

theorem filterMap_name?_shift (n : Nat) (es : List Effect) :
    (es.map (shift n)).filterMap name? = es.filterMap name? := by
  rw [List.filterMap_map]
  refine List.filterMap_congr ?_
  intro e _
  cases e <;> rfl

theorem filterMap_leftover?_shift (n : Nat) (es : List Effect) :
    (es.map (shift n)).filterMap leftover? = (es.filterMap leftover?).map (.shift n) := by
  rw [List.filterMap_map, List.map_filterMap]
  refine List.filterMap_congr ?_
  intro e _
  cases e <;> rfl

theorem filterMap_written?_write (t : Text) : (t.map write).filterMap written? = t := by
  simp [List.filterMap_map, Function.comp_def, written?]

theorem filterMap_name?_write (t : Text) : (t.map write).filterMap name? = [] := by
  simp [List.filterMap_map, Function.comp_def, name?]

theorem filterMap_leftover?_write (t : Text) : (t.map write).filterMap leftover? = [] := by
  simp [List.filterMap_map, Function.comp_def, leftover?]

theorem map_shift_write (n : Nat) (t : Text) : (t.map write).map (shift n) = t.map write := by
  rw [List.map_map]
  rfl

end Effect

namespace Pull

/-- What a call does, in order. -/
def effects (p : Pull) : List Effect :=
  p.lookups.map .lookup ++ (p.unresolved.map .leave ++ p.output.map .write)

theorem effects_quiet (block : Option Block) (s : Scanner) :
    (quiet block s).effects = ((block.map Block.content).getD []).map .write := rfl

theorem effects_quiet_ofText? (t : Text) (s : Scanner) : (quiet (Block.ofText? t) s).effects = t.map .write := by
  rw [effects_quiet, Block.ofText?_eq]
  split
  · rename_i ht
    rw [ht]
    rfl
  · rfl

theorem filterMap_written? (ps : List Pull) :
    (ps.flatMap effects).filterMap Effect.written? = ps.flatMap output := by
  rw [List.filterMap_flatMap]
  refine List.flatMap_congr ?_
  intro p _
  simp [effects, List.filterMap_append, List.filterMap_map, Function.comp_def, Effect.written?]

theorem filterMap_name? (ps : List Pull) : (ps.flatMap effects).filterMap Effect.name? = names ps := by
  rw [List.filterMap_flatMap, names]
  refine List.flatMap_congr ?_
  intro p _
  simp [effects, List.filterMap_append, List.filterMap_map, Function.comp_def, Effect.name?]

theorem filterMap_leftover? (ps : List Pull) :
    (ps.flatMap effects).filterMap Effect.leftover? = leftovers ps := by
  rw [List.filterMap_flatMap, leftovers]
  refine List.flatMap_congr ?_
  intro p _
  simp [effects, List.filterMap_append, List.filterMap_map, Function.comp_def, Effect.leftover?]

end Pull

namespace Scanner

variable {δ : Delimiters} {resolve : Resolver} {s : Scanner} {p : Pull}

/-- What a run does from a state on. -/
def effects (δ : Delimiters) (resolve : Resolver) (s : Scanner) : List Effect :=
  (s.pulls δ resolve).flatMap Pull.effects

theorem effects_of_move (h : Move δ resolve s p) :
    s.effects δ resolve = p.effects ++ p.scanner.effects δ resolve :=
  flatMap_pulls_of_move (fun _ => rfl) h

theorem effects_of_finished (hr : s.rest = []) (hf : s.finished = true) (hp : s.pending = none) :
    s.effects δ resolve = [] := by
  rw [effects, pulls_of_finished hr hf hp]
  rfl

/-- The last text is written, and then nothing more happens. -/
theorem effects_of_lastText (hp : s.pending = none) (hr : s.rest = []) (hf : s.finished = false)
    (hph : s.phase = .literal) : s.effects δ resolve = s.span.toText.map .write := by
  have hend : effects δ resolve { s with finished := true } = [] := effects_of_finished hr rfl hp
  rw [effects_of_move (.lastText hp hr hf hph), Pull.effects_quiet_ofText?]
  exact (congrArg _ hend).trans (List.append_nil _)

end Scanner

end TextTemplate
