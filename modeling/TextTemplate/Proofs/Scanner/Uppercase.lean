import Mathlib.Data.Nat.Init
import TextTemplate.Proofs.Render
import TextTemplate.Proofs.Scanner.Search
import TextTemplate.Proofs.Text.Uppercase

/-!
# Scans of documents that differ in case

Upper-casing changes the length of a text, but not where it has a `#`.  So documents with one upper-case form
are cut into corresponding pieces by `##`, and if names that differ in case resolve to the same text, their
scans yield the same values between texts that differ in case only (`scan_caseEqual`).
-/

namespace TextTemplate

/-! ### Cutting a text by its upper-case form -/

namespace Text

open Delimiters (defaultText)

variable {t t' a b : Text}

theorem upper_defaultText : upper defaultText = defaultText := by
  rw [defaultText, upper_cons, upper_cons, upperChar_sharp]
  rfl

private theorem exists_cons_of_upper_eq {y : Text} (h : upper t = '#' :: y) : ∃ b, t = '#' :: b ∧ upper b = y := by
  obtain ⟨a, b, rfl, ha, hb⟩ := exists_of_upper_eq_append_cons (x := []) h
  obtain rfl := upper_eq_nil_iff.1 ha
  exact ⟨b, rfl, hb⟩

/-- Where one of two texts with the same upper-case form has a `##`, so has the other. -/
theorem exists_of_upper_eq_append (h : upper t = upper (a ++ (defaultText ++ b))) :
    ∃ a' b', t = a' ++ (defaultText ++ b') ∧ upper a' = upper a ∧ upper b' = upper b := by
  rw [upper_append, upper_append, upper_defaultText] at h
  obtain ⟨a', u, rfl, ha, hu⟩ := exists_of_upper_eq_append_cons h
  obtain ⟨b', rfl, hb⟩ := exists_cons_of_upper_eq hu
  exact ⟨a', b', rfl, ha, hb⟩

private theorem exists_of_upper_eq_replicate_append {r : Nat} (h : upper t = upper (List.replicate r '#' ++ b)) :
    ∃ b', t = List.replicate r '#' ++ b' ∧ upper b' = upper b := by
  induction r generalizing t with
  | zero => exact ⟨t, rfl, h⟩
  | succ r ih =>
    rw [List.replicate_succ, List.cons_append, upper_cons, upperChar_sharp] at h
    obtain ⟨u, rfl, hu⟩ := exists_cons_of_upper_eq h
    obtain ⟨b', rfl, hb⟩ := ih hu
    exact ⟨b', rfl, hb⟩

theorem isInfix_of_upper_eq (h : upper t = upper t') (hi : defaultText <:+: t') : defaultText <:+: t := by
  obtain ⟨a, b, rfl⟩ := hi
  rw [List.append_assoc] at h
  obtain ⟨a', b', rfl, -, -⟩ := exists_of_upper_eq_append h
  exact ⟨a', b', List.append_assoc _ _ _⟩

private theorem findFrom?_of_upper_eq (h : upper t = upper t') (hn : findFrom? defaultText t 0 = none) :
    findFrom? defaultText t' 0 = none := by
  have hne : defaultText ≠ [] := by decide
  rw [findFrom?_eq_none_iff_not_isInfix hne] at hn ⊢
  exact fun hi => hn (isInfix_of_upper_eq h hi)

private theorem Clear.of_upper_eq (hc : Clear defaultText t) (h : upper t = upper t') : Clear defaultText t' := by
  apply clear_of_eq_nil
  intro before after heq
  have hup : upper (t ++ defaultText) = upper (before ++ (defaultText ++ after)) := by
    rw [← heq, upper_append, upper_append, h]
  obtain ⟨before', after', heq', -, hafter⟩ := exists_of_upper_eq_append hup
  rw [hc.eq_nil heq', upper_nil] at hafter
  exact upper_eq_nil_iff.1 hafter.symm

theorem head?_of_upper_eq (hc : ∀ c ∈ t.head?, c ≠ '#') (h : upper t = upper t') :
    ∀ c ∈ t'.head?, c ≠ '#' := by
  rintro c hc' rfl
  cases t' with
  | nil => cases hc'
  | cons d t' =>
    cases hc'
    rw [upper_cons, upperChar_sharp] at h
    obtain ⟨b, rfl, -⟩ := exists_cons_of_upper_eq h
    exact hc '#' rfl rfl

private theorem exists_replicate_append (c : Char) (t : Text) :
    ∃ r u, t = List.replicate r c ++ u ∧ ∀ d ∈ u.head?, d ≠ c := by
  induction t with
  | nil => exact ⟨0, [], rfl, by simp⟩
  | cons d t ih =>
    by_cases hd : d = c
    · obtain ⟨r, u, rfl, hu⟩ := ih
      exact ⟨r + 1, u, by rw [hd, List.replicate_succ]; rfl, hu⟩
    · exact ⟨0, d :: t, rfl, by simp [hd]⟩

end Text

/-! ### Blocks and readings -/

/-- Two blocks are the same but for the case of copied text. -/
inductive Block.CaseEqual : Block → Block → Prop
  | text {t u : Text} (h : Text.upper t = Text.upper u) : CaseEqual (.text t) (.text u)
  | delimiter (t : Text) : CaseEqual (.delimiter t) (.delimiter t)
  | value (t : Text) : CaseEqual (.value t) (.value t)

/-- The replacement that a block is. -/
def Block.replacement? : Block → Option Text
  | text _ => none
  | delimiter _ => none
  | value t => some t

/-- The replacements among the blocks of a list of calls. -/
def Pull.replacements (ps : List Pull) : List Text := (blocks ps).filterMap Block.replacement?

theorem Block.CaseEqual.filterMap_replacement? {bs bs' : List Block} (h : List.Forall₂ CaseEqual bs bs') :
    bs.filterMap replacement? = bs'.filterMap replacement? := by
  induction h with
  | nil => rfl
  | @cons b b' bs bs' hb _ ih =>
    have hrep : b.replacement? = b'.replacement? := by
      cases hb with
      | text => rfl
      | delimiter => rfl
      | value => rfl
    rw [List.filterMap_cons, List.filterMap_cons, hrep, ih]

namespace Reading

/-- Two readings are the same but for the case of copied text and of names. -/
structure CaseEqual (r t : Reading) : Prop where
  blocks : List.Forall₂ Block.CaseEqual r.blocks t.blocks
  lookups : List.Forall₂ (fun n m => Text.upper n = Text.upper m) r.lookups t.lookups

variable {r r' t t' : Reading}

theorem CaseEqual.append (h : CaseEqual r r') (h' : CaseEqual t t') : CaseEqual (r ++ t) (r' ++ t') :=
  ⟨List.rel_append h.blocks h'.blocks, List.rel_append h.lookups h'.lookups⟩

theorem CaseEqual.copied {u u' : Text} (h : Text.upper u = Text.upper u') :
    CaseEqual (Reading.copied u) (Reading.copied u') := by
  refine ⟨?_, .nil⟩
  rw [Reading.copied, Reading.copied, Block.ofText?_eq, Block.ofText?_eq]
  by_cases hu : u = []
  · have hu' : u' = [] := by
      rw [← Text.upper_eq_nil_iff, ← h, hu, Text.upper_nil]
    rw [if_pos hu, if_pos hu']
    exact .nil
  · have hu' : u' ≠ [] := by
      intro hu'
      rw [hu', Text.upper_nil, Text.upper_eq_nil_iff] at h
      exact hu h
    rw [if_neg hu, if_neg hu']
    exact .cons (.text h) .nil

theorem CaseEqual.lone (δ : Delimiters) : CaseEqual (Reading.lone δ) (Reading.lone δ) :=
  ⟨.cons (.delimiter _) .nil, .nil⟩

/-! ### Reading between `##` -/

open Delimiters (defaultText)

variable {resolve resolve' : Resolver}

private theorem ofDocument_sharps {lead u : Text} {r : Nat} (hlead : Text.Clear defaultText lead)
    (hu : ∀ c ∈ u.head?, c ≠ '#') :
    ofDocument .default resolve (lead ++ (defaultText ++ (List.replicate r '#' ++ u))) =
      copied (lead ++ List.replicate r '#') ++ ofToken .default resolve u := by
  have hrun : Text.Repeats defaultText (List.replicate r '#') := .inr ⟨'#', 2, r, rfl, rfl⟩
  have hstop : ∀ c ∈ u.head?, ¬ defaultText <:+ defaultText ++ [c] := by
    intro c hc hend
    -- the last of `##` and `c` is `c`, and that of `##` is `#`
    obtain ⟨t, ht⟩ := hend
    have hlast := congrArg List.getLast? ht
    rw [List.getLast?_append, List.getLast?_append] at hlast
    exact hu c hc (Option.some.inj hlast).symm
  rw [← List.append_assoc defaultText, ← hrun.append_comm, List.append_assoc]
  exact ofDocument_append hlead hrun hstop

private theorem ofToken_sharps {name after : Text} (hname : Text.Clear defaultText name) :
    ofToken .default resolve (name ++ (defaultText ++ after)) =
      if name = [] then lone .default ++ ofDocument .default resolve (defaultText ++ after)
      else
        match resolve name with
        | some v => ⟨[.value v], [name]⟩ ++ ofDocument .default resolve after
        | none => ⟨[.delimiter defaultText, .text name], [name]⟩ ++
            ofDocument .default resolve (defaultText ++ after) :=
  ofToken_of_some (hname.findFrom?_append after)

variable (hr : ∀ {n m : Text}, Text.upper n = Text.upper m → resolve n = resolve' m)
include hr

/-- What follows a `##` is read in the same way in both documents, if what is left of it is. -/
private theorem ofToken_caseEqual {u u' : Text} (hu : Text.upper u = Text.upper u')
    (ih : ∀ {d d' : Text}, d.length ≤ u.length → Text.upper d = Text.upper d' →
      CaseEqual (ofDocument .default resolve d) (ofDocument .default resolve' d')) :
    CaseEqual (ofToken .default resolve u) (ofToken .default resolve' u') := by
  cases hf : Text.findFrom? defaultText u 0 with
  | none =>
    rw [ofToken_of_none hf, ofToken_of_none (Text.findFrom?_of_upper_eq hu hf)]
    exact (CaseEqual.lone _).append (.copied hu)
  | some n =>
    obtain ⟨name, after, rfl, hname⟩ := Text.exists_clear_of_findFrom? hf
    obtain ⟨name', after', rfl, hnames, hafter⟩ := Text.exists_of_upper_eq_append hu.symm
    have hclosing : Text.upper (defaultText ++ after) = Text.upper (defaultText ++ after') := by
      rw [Text.upper_append, Text.upper_append, hafter]
    have hnil : name' = [] ↔ name = [] := by
      rw [← Text.upper_eq_nil_iff, hnames, Text.upper_eq_nil_iff]
    rw [ofToken_sharps hname, ofToken_sharps (hname.of_upper_eq hnames.symm), ← hr hnames.symm]
    by_cases hn : name = []
    · rw [if_pos hn, if_pos (hnil.2 hn)]
      exact (CaseEqual.lone _).append (ih (by simp) hclosing)
    · rw [if_neg hn, if_neg (fun hn' => hn (hnil.1 hn'))]
      cases resolve name with
      | some v =>
        have htoken : CaseEqual ⟨[.value v], [name]⟩ ⟨[.value v], [name']⟩ :=
          ⟨.cons (.value v) .nil, .cons hnames.symm .nil⟩
        exact htoken.append (ih (by simp; omega) hafter.symm)
      | none =>
        have htoken : CaseEqual ⟨[.delimiter defaultText, .text name], [name]⟩
            ⟨[.delimiter defaultText, .text name'], [name']⟩ :=
          ⟨.cons (.delimiter _) (.cons (.text hnames.symm) .nil), .cons hnames.symm .nil⟩
        exact htoken.append (ih (by simp) hclosing)

/-- Documents with one upper-case form are read in the same way, token by token. -/
theorem ofDocument_caseEqual {d d' : Text} (h : Text.upper d = Text.upper d') :
    CaseEqual (ofDocument .default resolve d) (ofDocument .default resolve' d') := by
  induction hn : d.length using Nat.strong_induction_on generalizing d d' with
  | _ n ih =>
    cases hf : Text.findFrom? defaultText d 0 with
    | none =>
      rw [ofDocument_of_none hf, ofDocument_of_none (Text.findFrom?_of_upper_eq h hf)]
      exact .copied h
    | some i =>
      obtain ⟨lead, rest, rfl, hlead⟩ := Text.exists_clear_of_findFrom? hf
      obtain ⟨r, u, rfl, hu⟩ := Text.exists_replicate_append '#' rest
      obtain ⟨lead', rest', rfl, hleads, hrests⟩ := Text.exists_of_upper_eq_append h.symm
      obtain ⟨u', rfl, hus⟩ := Text.exists_of_upper_eq_replicate_append hrests
      rw [ofDocument_sharps hlead hu,
        ofDocument_sharps (hlead.of_upper_eq hleads.symm) (Text.head?_of_upper_eq hu hus.symm)]
      have hcopied : Text.upper (lead ++ List.replicate r '#') = Text.upper (lead' ++ List.replicate r '#') := by
        rw [Text.upper_append, Text.upper_append, hleads]
      have hpos : 0 < defaultText.length := by decide
      refine (CaseEqual.copied hcopied).append (ofToken_caseEqual hr hus.symm ?_)
      intro e e' hle he
      refine ih e.length ?_ he rfl
      rw [← hn]
      simp only [List.length_append]
      omega

end Reading

/-- If names that differ in case resolve to the same text, the scans of documents that differ in case are the
same but for the case of copied text and of names. -/
theorem readings_caseEqual {resolve resolve' : Resolver}
    (hr : ∀ {n m : Text}, Text.upper n = Text.upper m → resolve n = resolve' m) {d d' : Text}
    (hd : Text.upper d = Text.upper d') :
    List.Forall₂ Block.CaseEqual (Pull.blocks (scan .default resolve d)) (Pull.blocks (scan .default resolve' d')) ∧
      List.Forall₂ (fun n m => Text.upper n = Text.upper m) (Pull.names (scan .default resolve d))
        (Pull.names (scan .default resolve' d')) ∧
      Pull.replacements (scan .default resolve d) = Pull.replacements (scan .default resolve' d') := by
  have h := Reading.ofDocument_caseEqual hr hd
  have hblocks := h.blocks
  have hnames := h.lookups
  rw [← blocks_scan, ← blocks_scan] at hblocks
  rw [← names_scan, ← names_scan] at hnames
  exact ⟨hblocks, hnames, Block.CaseEqual.filterMap_replacement? hblocks⟩

/-- The scans of two documents with one upper-case form, in models of entries whose keys have the same
upper-case forms, look up names that differ in case only, and yield the same blocks but for the case of copied
text.  So the values that a document and its upper-case form are rendered with are the same. -/
theorem scan_caseEqual {α : Type} (format : Formatter α) {values values' alts alts' : List (Text × α)} {d d' : Text}
    (hvalues : List.Forall₂ (fun e f => Text.upper e.1 = Text.upper f.1 ∧ e.2 = f.2) values values')
    (halts : List.Forall₂ (fun e f => Text.upper e.1 = Text.upper f.1 ∧ e.2 = f.2) alts alts')
    (hd : Text.upper d = Text.upper d') :
    let m : Model (CaseInsensitiveMap α) (CaseInsensitiveMap α) α := ⟨.ofList values, .ofList alts, format⟩
    let m' : Model (CaseInsensitiveMap α) (CaseInsensitiveMap α) α := ⟨.ofList values', .ofList alts', format⟩
    List.Forall₂ Block.CaseEqual (Pull.blocks (scan .default m.resolver d))
        (Pull.blocks (scan .default m'.resolver d')) ∧
      List.Forall₂ (fun n n' => Text.upper n = Text.upper n') (Pull.names (scan .default m.resolver d))
        (Pull.names (scan .default m'.resolver d')) ∧
      Pull.replacements (scan .default m.resolver d) = Pull.replacements (scan .default m'.resolver d') ∧
      Pull.replacements (scan .default m.resolver (Text.upper d)) =
        Pull.replacements (scan .default m.resolver d) := by
  intro m m'
  have hr : ∀ {n n' : Text}, Text.upper n = Text.upper n' → m.resolver n = m'.resolver n' := by
    intro n n' hn
    rw [Model.resolver_ofList, Model.resolver_ofList, Resolver.merged, Resolver.merged,
      CaseInsensitiveMap.lastValue?_congr hvalues hn, CaseInsensitiveMap.lastValue?_congr halts hn]
  have hself : ∀ {n n' : Text}, Text.upper n = Text.upper n' → m.resolver n = m.resolver n' := by
    intro n n' hn
    rw [hr hn, hr rfl]
  obtain ⟨hblocks, hnames, hvals⟩ := readings_caseEqual hr hd
  exact ⟨hblocks, hnames, hvals, (readings_caseEqual hself (Text.upper_upper d)).2.2⟩

/-- A name that is as long as its upper-case form, one that is shorter, and keys in two cases. -/
theorem scan_caseEqual_sharpS :
    Pull.replacements (scan .default
        (⟨.ofList [(['s', 's'], ['1'])], .ofList [(['K'], ['2'])], id⟩ :
          Model (CaseInsensitiveMap Text) (CaseInsensitiveMap Text) Text).resolver
        ['#', '#', 'ß', '#', '#', 'x', '#', '#', 'k', '#', '#']) =
      Pull.replacements (scan .default
        (⟨.ofList [(['ß'], ['1'])], .ofList [(['k'], ['2'])], id⟩ :
          Model (CaseInsensitiveMap Text) (CaseInsensitiveMap Text) Text).resolver
        ['#', '#', 'S', 's', '#', '#', 'X', '#', '#', 'K', '#', '#']) := by
  refine (scan_caseEqual id ?_ ?_ ?_).2.2.1
  · exact .cons ⟨by decide +kernel, rfl⟩ .nil
  · exact .cons ⟨by decide +kernel, rfl⟩ .nil
  · decide +kernel

end TextTemplate
