import TextTemplate.Text.Uppercase

/-!
# The laws of upper-casing

No form in the table of upper-case forms has a form of its own, so that upper-casing twice is upper-casing once
(`upper_upper`).  Every form has a character, and `#` is a form of nothing but itself: a text whose upper-case
form has a `#` somewhere has one in the corresponding place (`exists_of_upper_eq_append_cons`).
-/

namespace TextTemplate

namespace Uppercase

/-! ### The table -/

/-- Whether the run leaves out every second code point, or is too short to tell. -/
def Run.sparse (r : Run) : Bool := r.stride == 2 || r.last == r.first

/-- A reason why no form of the run `r` is in the run `q`: one of the two ends before the other starts, or the
code points of each are those that the other leaves out. -/
def Run.apart (r q : Run) : Bool :=
  q.last.blt r.image || (r.image + (r.last - r.first)).blt q.first ||
    (r.sparse && q.sparse && r.image % 2 != q.first % 2)

/-- The run of one code point that is its own form. -/
def Run.single (n : Nat) : Run := ⟨n, n, 1, n⟩

/-- A reason why no form of the run has a form other than itself. -/
def Run.final (r : Run) : Bool :=
  runs.all r.apart && expansions.all fun e => e.1.blt r.image || (r.image + (r.last - r.first)).blt e.1

private theorem runs_final : (runs.all fun r => r.final && Nat.blt 35 r.image) = true := by decide +kernel

private theorem expansions_final :
    (expansions.all fun e => !e.2.isEmpty && e.2.all fun n => (Run.single n).final && Nat.blt 35 n) = true := by
  decide +kernel

theorem Run.contains_iff {r : Run} {n : Nat} :
    r.contains n = true ↔ r.first ≤ n ∧ n ≤ r.last ∧ (n - r.first) % r.stride = 0 := by
  simp [contains, and_assoc]

theorem Run.single_contains (n : Nat) : (single n).contains n = true := by
  simp [contains_iff, single]

theorem Run.single_apply (n : Nat) : (single n).apply n = n := by
  simp [single, apply]

/-- The code points of a sparse run are at even distances from its first one. -/
private theorem Run.even_of_sparse {r : Run} {n : Nat} (hs : r.sparse = true) (hn : r.contains n = true) :
    (n - r.first) % 2 = 0 := by
  obtain ⟨h₁, h₂, h₃⟩ := contains_iff.1 hn
  simp only [sparse, Bool.or_eq_true, beq_iff_eq] at hs
  rcases hs with hs | hs
  · rwa [hs] at h₃
  · omega

theorem Run.not_contains_apply {r q : Run} {n : Nat} (h : r.apart q = true) (hn : r.contains n = true) :
    ¬ q.contains (r.apply n) = true := by
  intro hq
  obtain ⟨h₁, h₂, -⟩ := contains_iff.1 hn
  obtain ⟨h₃, h₄, -⟩ := contains_iff.1 hq
  simp only [apart, Bool.or_eq_true, Bool.and_eq_true, Nat.blt_eq, bne_iff_ne] at h
  rw [apply] at h₃ h₄
  rcases h with (h | h) | ⟨⟨hr, hs⟩, hne⟩
  · omega
  · omega
  · have h₅ := even_of_sparse hr hn
    have h₆ := even_of_sparse hs hq
    rw [apply] at h₆
    omega

end Uppercase

namespace Text

open Uppercase

/-! ### Characters -/

private theorem upperChar_eq_singleton {c : Char} (hr : ∀ r ∈ runs, ¬ r.contains c.toNat = true)
    (he : ∀ e ∈ expansions, e.1 ≠ c.toNat) : upperChar c = [c] := by
  have hfind : runs.find? (·.contains c.toNat) = none := List.find?_eq_none.2 hr
  have hlookup : expansions.lookup c.toNat = none := by
    rw [List.lookup_eq_none_iff]
    intro e h
    exact bne_iff_ne.2 (he e h).symm
  rw [upperChar, hfind]
  dsimp only
  rw [hlookup]

private theorem toNat_ofNat_of_isValidChar {n : Nat} (h : n.isValidChar) : (Char.ofNat n).toNat = n := by
  rw [Char.ofNat, dif_pos h]
  rfl

private theorem ofNat_of_not_isValidChar {n : Nat} (h : ¬ n.isValidChar) : Char.ofNat n = '\x00' := dif_neg h

/-- The form of a character of a run that is final is its own form. -/
private theorem upperChar_apply {r : Run} {n : Nat} (hr : r.final = true) (hn : r.contains n = true) :
    upperChar (Char.ofNat (r.apply n)) = [Char.ofNat (r.apply n)] := by
  by_cases hv : (r.apply n).isValidChar
  · have hto := toNat_ofNat_of_isValidChar hv
    simp only [Run.final, Bool.and_eq_true, List.all_eq_true, Bool.or_eq_true, Nat.blt_eq] at hr
    apply upperChar_eq_singleton
    · intro q hq
      rw [hto]
      exact Run.not_contains_apply (hr.1 q hq) hn
    · intro e he heq
      have h := hr.2 e he
      obtain ⟨h₁, h₂, -⟩ := Run.contains_iff.1 hn
      rw [hto, Run.apply] at heq
      omega
  · rw [ofNat_of_not_isValidChar hv]
    decide +kernel

/-- What the form of a character can be: the form in a run, the forms in an expansion, or the character itself. -/
private theorem upperChar_cases (c : Char) :
    (∃ r ∈ runs, r.contains c.toNat = true ∧ upperChar c = [Char.ofNat (r.apply c.toNat)]) ∨
      (∃ e ∈ expansions, upperChar c = e.2.map Char.ofNat) ∨ upperChar c = [c] := by
  rw [upperChar]
  cases hr : runs.find? fun r => r.contains c.toNat with
  | some r =>
    exact .inl ⟨r, List.mem_of_find?_eq_some hr, List.find?_some (p := fun r : Run => r.contains c.toNat) hr, rfl⟩
  | none =>
    dsimp only
    cases he : expansions.lookup c.toNat with
    | some forms =>
      obtain ⟨_, _, hmem, -⟩ := List.lookup_eq_some_iff.1 he
      exact .inr (.inl ⟨(c.toNat, forms), by simp [hmem], rfl⟩)
    | none => exact .inr (.inr rfl)

/-- A form is not empty, and has one of two kinds of characters: the only one, unchanged, or the form of a code
point in a final run that lies behind `#`. -/
private theorem upperChar_spec (c : Char) :
    upperChar c ≠ [] ∧
      (upperChar c = [c] ∨ ∀ d ∈ upperChar c, ∃ (r : Run) (n : Nat), r.final = true ∧ r.contains n = true ∧
        35 < r.image ∧ d = Char.ofNat (r.apply n)) := by
  rcases upperChar_cases c with ⟨r, hr, hc, h⟩ | ⟨e, he, h⟩ | h
  · have hf := List.all_eq_true.1 runs_final r hr
    rw [Bool.and_eq_true, Nat.blt_eq] at hf
    refine ⟨by simp [h], .inr ?_⟩
    intro d hd
    rw [h, List.mem_singleton] at hd
    exact ⟨r, c.toNat, hf.1, hc, hf.2, hd⟩
  · have hf := List.all_eq_true.1 expansions_final e he
    rw [Bool.and_eq_true, List.all_eq_true] at hf
    refine ⟨?_, .inr ?_⟩
    · intro hnil
      rw [h, List.map_eq_nil_iff] at hnil
      simp [hnil] at hf
    · intro d hd
      rw [h, List.mem_map] at hd
      obtain ⟨n, hn, rfl⟩ := hd
      have hn := hf.2 n hn
      rw [Bool.and_eq_true, Nat.blt_eq] at hn
      exact ⟨.single n, n, hn.1, Run.single_contains n, hn.2, by rw [Run.single_apply]⟩
  · exact ⟨by simp [h], .inl h⟩

theorem upperChar_ne_nil (c : Char) : upperChar c ≠ [] := (upperChar_spec c).1

/-- The characters of a form are their own forms. -/
theorem upperChar_of_mem {c d : Char} (hd : d ∈ upperChar c) : upperChar d = [d] := by
  rcases (upperChar_spec c).2 with h | h
  · rw [h, List.mem_singleton] at hd
    rw [hd, h]
  · obtain ⟨r, n, hr, hn, -, rfl⟩ := h d hd
    exact upperChar_apply hr hn

theorem upperChar_sharp : upperChar '#' = ['#'] := by decide +kernel

theorem eq_sharp_of_mem_upperChar {c : Char} (hc : '#' ∈ upperChar c) : c = '#' := by
  rcases (upperChar_spec c).2 with h | h
  · rw [h, List.mem_singleton] at hc
    exact hc.symm
  · obtain ⟨r, n, -, -, himage, hd⟩ := h _ hc
    have hto : 35 = (Char.ofNat (r.apply n)).toNat := congrArg Char.toNat hd
    by_cases hv : (r.apply n).isValidChar
    · rw [toNat_ofNat_of_isValidChar hv, Run.apply] at hto
      omega
    · -- a code point that is no character stands for the character 0
      rw [ofNat_of_not_isValidChar hv] at hto
      cases hto

/-! ### Texts -/

theorem upper_cons (c : Char) (t : Text) : upper (c :: t) = upperChar c ++ upper t := List.flatMap_cons

theorem upper_eq_nil_iff {t : Text} : upper t = [] ↔ t = [] := by
  cases t with
  | nil => simp
  | cons c t => simp [upper_cons, upperChar_ne_nil]

private theorem upper_of_forall {t : Text} (h : ∀ d ∈ t, upperChar d = [d]) : upper t = t := by
  induction t with
  | nil => rfl
  | cons c t ih =>
    rw [List.forall_mem_cons] at h
    rw [upper_cons, h.1, ih h.2]
    rfl

/-- An upper-case form is its own upper-case form. -/
@[simp] theorem upper_upper (t : Text) : upper (upper t) = upper t := by
  apply upper_of_forall
  intro d hd
  obtain ⟨c, -, hd⟩ := List.mem_flatMap.1 hd
  exact upperChar_of_mem hd

/-- A `#` in an upper-case form is a `#` in the text, between the parts with the forms in front of it and behind
it. -/
theorem exists_of_upper_eq_append_cons {t x y : Text} (h : upper t = x ++ '#' :: y) :
    ∃ a b, t = a ++ '#' :: b ∧ upper a = x ∧ upper b = y := by
  induction t generalizing x with
  | nil => simp at h
  | cons c t ih =>
    rw [upper_cons] at h
    rcases List.append_eq_append_iff.1 h with ⟨z, rfl, hz⟩ | ⟨z, hz, hy⟩
    · obtain ⟨a, b, rfl, rfl, rfl⟩ := ih hz
      exact ⟨c :: a, b, rfl, upper_cons c a, rfl⟩
    · cases z with
      | nil =>
        -- the form of `c` ends where the `#` is
        obtain ⟨a, b, rfl, ha, rfl⟩ := ih (x := []) hy.symm
        rw [List.append_nil] at hz
        exact ⟨c :: a, b, rfl, by rw [upper_cons, ha, hz, List.append_nil], rfl⟩
      | cons d z =>
        rw [List.cons_append, List.cons.injEq] at hy
        obtain ⟨rfl, rfl⟩ := hy
        obtain rfl : c = '#' := eq_sharp_of_mem_upperChar (by simp [hz])
        rw [upperChar_sharp, List.singleton_eq_append_iff] at hz
        rcases hz with ⟨rfl, hz⟩ | ⟨-, hz⟩
        · cases hz
          exact ⟨[], t, rfl, rfl, rfl⟩
        · cases hz

end Text

end TextTemplate
