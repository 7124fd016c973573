import Mathlib.Data.List.Infix
import TextTemplate.Proofs.Scanner.Lockstep
import TextTemplate.Proofs.Scanner.Safety
import TextTemplate.Proofs.Scanner.Uppercase

/-!
# Names between copies of one character

If both delimiters are the same number of copies of one character, not every text can be the name of a token
(`Text.Nameable`).  A name that started with the character would be part of the run in front of it, and one that
ended with it would have been closed earlier.  So no token is closed without a name, and entries with other keys
are of no consequence, whatever the case of the keys (`lookups_nameable`).
-/

namespace TextTemplate

namespace Text

/-- The text has `c` at neither end, and nowhere `k` times in a row, and there is some text. -/
structure Nameable (c : Char) (k : Nat) (name : Text) : Prop where
  ne_nil : name ≠ []
  head_ne : name.head? ≠ some c
  last_ne : name.getLast? ≠ some c
  not_isInfix : ¬ List.replicate k c <:+: name

theorem nameable_iff {c : Char} {k : Nat} {name : Text} :
    Nameable c k name ↔
      name ≠ [] ∧ name.head? ≠ some c ∧ name.getLast? ≠ some c ∧ ¬ List.replicate k c <:+: name :=
  ⟨fun h => ⟨h.1, h.2, h.3, h.4⟩, fun h => ⟨h.1, h.2.1, h.2.2.1, h.2.2.2⟩⟩

instance (c : Char) (k : Nat) : DecidablePred (Nameable c k) := fun _ => decidable_of_iff' _ nameable_iff

/-- A text between the last of a run of `k` copies of `c` and the first such copies behind it. -/
theorem nameable_of_between {c : Char} {k : Nat} {before name after : Text} (hk : 0 < k)
    (hends : List.replicate k c <:+ before)
    (hstop : ∀ d ∈ (name ++ (List.replicate k c ++ after)).head?, ¬ List.replicate k c <:+ before ++ [d])
    (hclear : ∀ i < name.length, ¬ List.replicate k c <+: (name ++ (List.replicate k c ++ after)).drop i) :
    Nameable c k name := by
  have hcomm : [c] ++ List.replicate k c = List.replicate k c ++ [c] :=
    Repeats.append_comm (.inr ⟨c, k, 1, rfl, rfl⟩)
  have hhead : (name ++ (List.replicate k c ++ after)).head? ≠ some c := by
    intro h
    exact hstop c h ((isSuffix_replicate_append_singleton_iff hk hends).2 rfl)
  rw [List.head?_append, List.head?_append, List.head?_replicate, if_neg (by omega)] at hhead
  refine ⟨?_, ?_, ?_, ?_⟩
  · rintro rfl
    exact hhead rfl
  · intro h
    rw [h] at hhead
    exact hhead rfl
  · intro h
    obtain ⟨lead, rfl⟩ := List.getLast?_eq_some_iff.1 h
    apply hclear lead.length (by simp)
    rw [List.append_assoc, List.drop_left, ← List.append_assoc, hcomm, List.append_assoc]
    exact List.prefix_append _ _
  · rintro ⟨lead, rest, rfl⟩
    apply hclear lead.length (by simp; omega)
    rw [List.append_assoc, List.append_assoc, List.drop_left]
    exact List.prefix_append _ _

/-- Whether a text can stand between two `##` does not depend on its case. -/
theorem Nameable.of_upper_eq {t u : Text} (ht : Nameable '#' 2 t) (h : upper t = upper u) : Nameable '#' 2 u where
  ne_nil := by
    intro hu
    rw [← upper_eq_nil_iff, ← h, upper_eq_nil_iff] at hu
    exact ht.ne_nil hu
  head_ne := by
    intro hu
    refine head?_of_upper_eq ?_ h '#' hu rfl
    rintro c hc rfl
    exact ht.head_ne hc
  last_ne := by
    intro hu
    obtain ⟨lead, rfl⟩ := List.getLast?_eq_some_iff.1 hu
    rw [upper_append, show upper ['#'] = ['#'] by rw [upper_cons, upperChar_sharp]; rfl] at h
    obtain ⟨a, b, rfl, -, hb⟩ := exists_of_upper_eq_append_cons h
    rw [upper_eq_nil_iff.1 hb] at ht
    exact ht.last_ne List.getLast?_concat
  not_isInfix := fun hi => ht.not_isInfix (isInfix_of_upper_eq h hi)

end Text

/-! ### Scans -/

section

variable {δ : Delimiters} {resolve : Resolver} {document : Text} {c : Char} {k : Nat}
variable (ho : δ.opening = List.replicate k c) (hc : δ.closing = List.replicate k c)
include ho hc

namespace Scanner

variable {s : Scanner} {p : Pull}

theorem Placed.nameable (hs : s.Placed δ document) (hph : s.phase = .token) (hahead : δ.closing <+: s.rest) :
    Text.Nameable c k s.span.toText := by
  have hk := Text.pos_of_eq_replicate ho δ.opening_ne_nil
  obtain ⟨after, hr⟩ := hahead
  have hends := hs.opening_ends hph
  have hstop := hs.run_ends hph
  have hclear := hs.valid.clear
  rw [hph] at hclear
  simp only [← hr, ho, hc, Delimiters.awaited] at hends hstop hclear
  exact Text.nameable_of_between hk hends hstop hclear

theorem Move.nameable (h : Move δ resolve s p) (hs : s.Placed δ document) :
    ∀ name ∈ p.lookups, Text.Nameable c k name := by
  intro name hname
  cases h with
  | resolved hp hph hr | unresolved hp hph hr =>
    rw [List.mem_singleton.1 hname]
    exact hs.nameable ho hc hph ⟨_, hr.symm⟩
  | _ => cases hname

end Scanner

theorem nameable_of_mem_names :
    ∀ name ∈ Pull.names (scan δ resolve document), Text.Nameable c k name := by
  intro name hname
  obtain ⟨p, hp, hname⟩ := List.mem_flatMap.1 hname
  obtain ⟨s, hs, hm, -⟩ := Scanner.exists_move_of_mem_pulls (Scanner.placed_start δ document) p hp
  exact hm.nameable ho hc hs name hname

/-- Only the replacements of texts that can be names count. -/
theorem render_eq_of_nameable {r₁ r₂ : Resolver} (h : ∀ name, Text.Nameable c k name → r₁ name = r₂ name)
    (document : Text) : render δ r₁ document = render δ r₂ document := by
  have hscan : scan δ r₁ document = scan δ r₂ document :=
    Scanner.pulls_eq_of_agree fun name hname => h name (nameable_of_mem_names ho hc name hname)
  rw [render, render, hscan]

end

/-! ### Renderings -/

/-- Only the entries count whose keys can be names. -/
theorem renderFormatted_filter {α : Type} (format : Formatter α) (values alts : List (Text × α)) (document : Text) :
    renderFormatted format (values.filter fun e => Text.Nameable '#' 2 e.1)
        (alts.filter fun e => Text.Nameable '#' 2 e.1)
      document = renderFormatted format values alts document := by
  rw [renderFormatted_eq, renderFormatted_eq]
  apply render_eq_of_nameable (c := '#') (k := 2) rfl rfl
  intro name hname
  have hkey : ∀ e : Text × α, Text.upper e.1 = Text.upper name → decide (Text.Nameable '#' 2 e.1) = true := by
    intro e he
    exact decide_eq_true (hname.of_upper_eq he.symm)
  rw [Resolver.merged, Resolver.merged, CaseInsensitiveMap.lastValue?_filter fun e _ => hkey e,
    CaseInsensitiveMap.lastValue?_filter fun e _ => hkey e]

/-- Between copies of one character, every name that is looked up can be one, and wherever a token is closed
there is a name.  So values that differ only in keys that are empty, have a `#` at either end or a `##` anywhere
render to the same text. -/
theorem lookups_nameable :
    (∀ {δ : Delimiters} {c : Char} {k : Nat}, δ.opening = List.replicate k c → δ.closing = List.replicate k c →
      ∀ (resolve : Resolver) (document : Text),
        (∀ name ∈ Pull.names (scan δ resolve document), Text.Nameable c k name) ∧
          ∀ s : Scanner, s.Reached δ resolve document → s.phase = .token → δ.closing <+: s.rest →
            s.span.toText ≠ []) ∧
    ∀ (document : Text) (values values' : List (Text × Value)),
      (values.filter fun e => Text.Nameable '#' 2 e.1) = (values'.filter fun e => Text.Nameable '#' 2 e.1) →
        renderValues values document = renderValues values' document := by
  constructor
  · intro δ c k ho hc resolve document
    refine ⟨nameable_of_mem_names ho hc, ?_⟩
    intro s hs hph hahead
    exact (hs.placed.nameable ho hc hph hahead).ne_nil
  · intro document values values' h
    rw [renderValues, renderValues, renderValuesOr, renderValuesOr, ← renderFormatted_filter, h,
      renderFormatted_filter]

/-- Of three `#` the first is text, and a key that starts with a `#` is of no consequence. -/
theorem lookups_nameable_run :
    Text.Nameable '#' 2 ['a', '#', 'b'] ∧
      renderValues [(['#', 'a'], .text ['x']), (['A'], .text ['y'])] ['#', '#', '#', 'a', '#', '#'] =
        renderValues [(['A'], .text ['y'])] ['#', '#', '#', 'a', '#', '#'] := by
  have hnames : Pull.names (scan .default .nothing ['#', '#', '#', 'a', '#', 'b', '#', '#']) =
      [['a', '#', 'b']] := by
    decide +kernel
  have hname := (lookups_nameable.1 (δ := .default) (c := '#') (k := 2) rfl rfl .nothing
    ['#', '#', '#', 'a', '#', 'b', '#', '#']).1
  rw [hnames] at hname
  exact ⟨hname _ (List.mem_singleton_self _), lookups_nameable.2 _ _ _ rfl⟩

end TextTemplate
