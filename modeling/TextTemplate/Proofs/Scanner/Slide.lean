import Mathlib.Data.List.TakeWhile
import TextTemplate.Proofs.Scanner.Offset
import TextTemplate.Proofs.Text.Occurrence

/-!
# Runs of delimiter text

Behind an opening delimiter a scan slides on for as long as the delimiter ends one character later
(`Scanner.slide`).  A text that ends with a delimiter does so again with one more character only if the
delimiter is made of copies of that character (`Text.isSuffix_append_singleton_iff_of_isSuffix`).  So there are
two kinds of delimiter: one is not slid over at all (`Scanner.slide_of_forall_ne`), the other is slid over to
the end of the copies of its character (`Scanner.slide_replicate`).
-/

namespace TextTemplate

namespace Text

/-- The run that goes on behind an occurrence of `pattern`, from its end at the byte `start`, stops at the byte
`stop`. -/
structure RunsTo (pattern t : Text) (start stop : Nat) : Prop where
  le : start ≤ stop
  boundary : t.IsBoundary stop
  endsAt : EndsAt pattern t stop
  maximal : stop = t.byteLength ∨ ∃ c, StartsAt [c] t stop ∧ ¬ EndsAt pattern t (stop + c.utf8Size)
  eq_start : (∀ c k, pattern ≠ List.replicate k c) → stop = start
  copies : ∀ c k, pattern = List.replicate k c →
    (∃ n, t.slice? start stop = some (List.replicate n c)) ∧ ¬ StartsAt [c] t stop

end Text

namespace Scanner

variable {opening : Text} {before : Trail}

theorem slide_of_forall_ne (h : opening <:+ before.toText) (hne : ∀ c k, opening ≠ List.replicate k c)
    (rest : Text) : slide opening before rest = (before, rest) := by
  cases rest with
  | nil => rfl
  | cons c rest =>
    have hc : ¬ (before.push c).endsWith opening = true := by
      rw [Trail.endsWith_iff, Trail.toText_push, Text.isSuffix_append_singleton_iff_of_isSuffix h]
      exact hne c _
    rw [slide, if_neg hc]

theorem slide_replicate {c : Char} {k : Nat} (hk : 0 < k) (h : List.replicate k c <:+ before.toText) (rest : Text) :
    slide (List.replicate k c) before rest = (before.extend (rest.takeWhile (· = c)), rest.dropWhile (· = c)) := by
  induction rest generalizing before with
  | nil => rfl
  | cons d rest ih =>
    have hends : (before.push d).endsWith (List.replicate k c) = true ↔ d = c := by
      rw [Trail.endsWith_iff, Trail.toText_push, Text.isSuffix_replicate_append_singleton_iff hk h]
    rw [slide]
    by_cases hd : d = c
    · have hpush : List.replicate k c <:+ (before.push d).toText := Trail.endsWith_iff.1 (hends.2 hd)
      rw [if_pos (hends.2 hd), ih hpush, List.takeWhile_cons_of_pos (by simpa using hd),
        List.dropWhile_cons_of_pos (by simpa using hd), Trail.extend_cons, hd]
    · rw [if_neg (fun hc => hd (hends.1 hc)), List.takeWhile_cons_of_neg (by simpa using hd),
        List.dropWhile_cons_of_neg (by simpa using hd)]
      rfl

/-- What is slid over is all that there is of the character behind the delimiter. -/
theorem copies_slide {c : Char} {k : Nat} (hk : 0 < k) (h : List.replicate k c <:+ before.toText) (rest : Text) :
    (∃ n, (before.toText ++ rest).slice? before.byteLength (slide (List.replicate k c) before rest).1.byteLength =
        some (List.replicate n c)) ∧
      ¬ Text.StartsAt [c] (before.toText ++ rest) (slide (List.replicate k c) before rest).1.byteLength := by
  have hcopies : rest.takeWhile (· = c) = List.replicate (rest.takeWhile (· = c)).length c := by
    apply List.eq_replicate_of_mem
    intro d hd
    simpa using List.mem_takeWhile_imp hd
  have hdoc := List.takeWhile_append_dropWhile (p := fun d => decide (d = c)) (l := rest)
  have hstop : ¬ [c] <+: rest.dropWhile (· = c) := by
    rintro ⟨after, hafter⟩
    have hnot := List.head?_dropWhile_not (fun d => decide (d = c)) rest
    rw [← hafter] at hnot
    simp at hnot
  rw [slide_replicate hk h]
  generalize rest.takeWhile (· = c) = run at hcopies hdoc ⊢
  rw [← hdoc, Trail.byteLength_eq, Trail.byteLength_eq, Trail.toText_extend]
  constructor
  · refine ⟨run.length, ?_⟩
    rw [← hcopies]
    exact Text.slice?_append _ _ _
  · rw [← List.append_assoc, Text.startsAt_append_iff]
    exact hstop

/-- The text that is slid over is a run, seen from the byte where the sliding starts. -/
theorem runsTo_slide {δ : Delimiters} (h : δ.opening <:+ before.toText) (rest : Text) :
    Text.RunsTo δ.opening (before.toText ++ rest) before.byteLength (slide δ.opening before rest).1.byteLength := by
  obtain ⟨cursors, -, hlast, hall⟩ := Offsets.exists_runCursors? rest h
  obtain ⟨hle, hends⟩ := hall _ (List.mem_of_getLast? hlast)
  refine ⟨hle, hends.bounds.2.2.1, hends, ?_, ?_, ?_⟩
  · have hstop := not_isSuffix_slide δ.opening before rest
    rw [← toText_slide δ.opening before rest, Trail.byteLength_eq]
    generalize slide δ.opening before rest = held at hstop ⊢
    obtain ⟨held, after⟩ := held
    cases after with
    | nil =>
      left
      rw [List.append_nil]
    | cons c after =>
      right
      have hlen : held.toText.byteLength + c.utf8Size = (held.toText ++ [c]).byteLength := by simp
      refine ⟨c, Text.startsAt_append_iff.2 (List.prefix_append [c] after), ?_⟩
      rw [hlen, List.append_cons, Text.endsAt_append_iff]
      exact hstop c rfl
  · intro hne
    rw [slide_of_forall_ne h hne]
  · intro c k hopen
    have hk := Text.pos_of_eq_replicate hopen δ.opening_ne_nil
    rw [hopen] at h ⊢
    exact copies_slide hk h rest

/-- From a cursor behind an opening delimiter, whatever is `passed` before the text that is looked at, the scan
slides to the end of the run in the document, and a walk by offsets ends there as well, without asking for a
slice that there is not. -/
theorem slide_exact (δ : Delimiters) (passed before : Trail) (rest : Text) (h : δ.opening <:+ before.toText) :
    let document := (passed.join before).toText ++ rest
    let start := (passed.join before).byteLength
    let held := passed.join (slide δ.opening before rest).1
    document.splitAt? held.byteLength = some (held.toText, (slide δ.opening before rest).2) ∧
      (∃ cursors, Offsets.runCursors? δ.opening document start = some cursors ∧
        cursors.getLast? = some held.byteLength) ∧
      Text.RunsTo δ.opening document start held.byteLength := by
  intro document start held
  have hjoin : δ.opening <:+ (passed.join before).toText := by
    rw [Trail.toText_join]
    exact h.trans (List.suffix_append _ _)
  have hslide : slide δ.opening (passed.join before) rest = (held, (slide δ.opening before rest).2) :=
    slide_join passed h.length_le rest
  obtain ⟨cursors, hcursors, hlast, -⟩ := Offsets.exists_runCursors? rest hjoin
  have hdoc := toText_slide δ.opening (passed.join before) rest
  have hruns := runsTo_slide hjoin rest
  rw [hslide] at hlast hdoc hruns
  refine ⟨?_, ⟨cursors, hcursors, hlast⟩, hruns⟩
  rw [Text.splitAt?_eq_some_iff]
  exact ⟨hdoc.symm, held.byteLength_eq.symm⟩

/-- Of three `§` in a row, the last is slid over; of `ab` twice in a row, the second is not. -/
theorem slide_exact_multibyte :
    Text.RunsTo ['§', '§'] ['x', '§', '§', '§', 'y'] 5 7 ∧ Text.RunsTo ['a', 'b'] ['a', 'b', 'a', 'b'] 2 2 := by
  constructor
  · exact (slide_exact ⟨['§', '§'], ['#'], by decide, by decide⟩ ⟨['x']⟩ ⟨['§', '§']⟩ ['§', 'y'] (by decide)).2.2
  · exact (slide_exact ⟨['a', 'b'], ['#'], by decide, by decide⟩ .empty ⟨['b', 'a']⟩ ['a', 'b'] (by decide)).2.2

end Scanner

end TextTemplate
