import TextTemplate.Text.Basic

/-!
# Occurrences

Where a text occurs in another: the first occurrence from a position on (`findFrom?`), and the end of a run of
occurrences, each one character after the other (`runEnd`).
-/

namespace TextTemplate

namespace Text

/-! ### The first occurrence -/

/-- The first position, `start` or later, at which `pattern` occurs in `t`. -/
def findFrom? (pattern t : Text) (start : Nat) : Option Nat :=
  (List.range (t.length + 1)).find? fun i => decide (start ≤ i ∧ pattern <+: t.drop i)

theorem findFrom?_eq_some_iff {pattern t : Text} {start i : Nat} :
    findFrom? pattern t start = some i ↔
      start ≤ i ∧ i ≤ t.length ∧ pattern <+: t.drop i ∧ ∀ k, start ≤ k → k < i → ¬ pattern <+: t.drop k := by
  rw [findFrom?, List.find?_range_eq_some]
  simp only [decide_eq_true_eq, Bool.not_eq_true', decide_eq_false_iff_not, List.mem_range]
  constructor
  · rintro ⟨⟨hs, hp⟩, hi, hk⟩
    exact ⟨hs, by omega, hp, fun k h₁ h₂ h₃ => hk k h₂ ⟨h₁, h₃⟩⟩
  · rintro ⟨hs, hi, hp, hk⟩
    exact ⟨⟨hs, hp⟩, by omega, fun k h₂ ⟨h₁, h₃⟩ => hk k h₁ h₂ h₃⟩

theorem findFrom?_eq_none_iff {pattern t : Text} {start : Nat} (h : pattern ≠ []) :
    findFrom? pattern t start = none ↔ ∀ k, start ≤ k → ¬ pattern <+: t.drop k := by
  rw [findFrom?, List.find?_range_eq_none]
  simp only [Bool.not_eq_true', decide_eq_false_iff_not, not_and]
  constructor
  · intro hno k hk
    by_cases hl : k < t.length + 1
    · exact hno k hl hk
    · rw [List.drop_eq_nil_of_le (by omega), List.prefix_nil]
      exact h
  · intro hno k _ hk
    exact hno k hk

/-- Looking from `e` on is looking at what follows `e`. -/
theorem findFrom?_eq_map_drop {pattern t : Text} {e : Nat} (h : pattern ≠ []) (he : e ≤ t.length) :
    findFrom? pattern t e = (findFrom? pattern (t.drop e) 0).map (e + ·) := by
  cases hf : findFrom? pattern (t.drop e) 0 with
  | none =>
    rw [findFrom?_eq_none_iff h] at hf
    rw [Option.map_none, findFrom?_eq_none_iff h]
    intro k hk
    have := hf (k - e) (Nat.zero_le _)
    rwa [List.drop_drop, Nat.add_sub_cancel' hk] at this
  | some q =>
    rw [findFrom?_eq_some_iff, List.length_drop, List.drop_drop] at hf
    obtain ⟨-, hq, hp, hk⟩ := hf
    rw [Option.map_some, findFrom?_eq_some_iff]
    refine ⟨by omega, by omega, hp, ?_⟩
    intro k h₁ h₂
    have := hk (k - e) (Nat.zero_le _) (by omega)
    rwa [List.drop_drop, Nat.add_sub_cancel' h₁] at this

/-- A text that nothing starts in before its end, and that `pattern` follows. -/
theorem findFrom?_append {pattern lead rest : Text} (hp : pattern <+: rest)
    (hno : ∀ k < lead.length, ¬ pattern <+: (lead ++ rest).drop k) :
    findFrom? pattern (lead ++ rest) 0 = some lead.length := by
  rw [findFrom?_eq_some_iff, List.drop_left, List.length_append]
  exact ⟨Nat.zero_le _, by omega, hp, fun k _ hk => hno k hk⟩

/-- No occurrence of `pattern` in `t` followed by `pattern` starts inside `t`. -/
def Clear (pattern t : Text) : Prop := ∀ k < t.length, ¬ pattern <+: (t ++ pattern).drop k

instance (pattern t : Text) : Decidable (Clear pattern t) :=
  inferInstanceAs (Decidable (∀ k < t.length, ¬ pattern <+: (t ++ pattern).drop k))

theorem clear_nil (pattern : Text) : Clear pattern [] := by simp [Clear]

/-- An occurrence that starts inside `t` ends before a `pattern` that follows `t` does. -/
theorem isPrefix_drop_append {pattern t rest : Text} {k : Nat} (hk : k ≤ t.length)
    (hp : pattern <+: (t ++ (pattern ++ rest)).drop k) : pattern <+: (t ++ pattern).drop k := by
  rw [← List.append_assoc, List.drop_append_of_le_length (by rw [List.length_append]; omega)] at hp
  refine List.prefix_of_prefix_length_le hp (List.prefix_append _ _) ?_
  rw [List.length_drop, List.length_append]
  omega

theorem Clear.findFrom?_append {pattern t : Text} (h : Clear pattern t) (rest : Text) :
    findFrom? pattern (t ++ (pattern ++ rest)) 0 = some t.length := by
  refine Text.findFrom?_append (List.prefix_append _ _) ?_
  intro k hk hp
  exact h k hk (isPrefix_drop_append (Nat.le_of_lt hk) hp)

/-- Whatever follows an occurrence in a clear text and its `pattern` is nothing. -/
theorem Clear.eq_nil {pattern t before after : Text} (h : Clear pattern t)
    (heq : t ++ pattern = before ++ (pattern ++ after)) : after = [] := by
  have hlen := congrArg List.length heq
  simp only [List.length_append] at hlen
  by_cases hk : before.length < t.length
  · refine absurd ?_ (h _ hk)
    rw [heq, List.drop_left]
    exact List.prefix_append _ _
  · exact List.eq_nil_of_length_eq_zero (by omega)

theorem clear_of_eq_nil {pattern t : Text}
    (h : ∀ before after, t ++ pattern = before ++ (pattern ++ after) → after = []) : Clear pattern t := by
  rintro k hk ⟨after, hafter⟩
  have heq : t ++ pattern = (t ++ pattern).take k ++ (pattern ++ after) := by
    rw [hafter, List.take_append_drop]
  have hnil := h _ _ heq
  have hlen := congrArg List.length heq
  rw [hnil, List.append_nil, List.length_append, List.length_append, List.length_take, List.length_append] at hlen
  omega

/-- A text in which `pattern` occurs starts with a clear text and `pattern`. -/
theorem exists_clear_of_findFrom? {pattern t : Text} {i : Nat} (h : findFrom? pattern t 0 = some i) :
    ∃ lead rest, t = lead ++ (pattern ++ rest) ∧ Clear pattern lead := by
  obtain ⟨-, hi, ⟨rest, hrest⟩, hno⟩ := findFrom?_eq_some_iff.1 h
  have ht : t = t.take i ++ (pattern ++ rest) := by
    rw [hrest, List.take_append_drop]
  refine ⟨t.take i, rest, ht, ?_⟩
  intro k hk hp
  rw [List.length_take] at hk
  apply hno k (Nat.zero_le _) (by omega)
  rw [ht, ← List.append_assoc, List.drop_append_of_le_length (by rw [List.length_append, List.length_take]; omega)]
  exact hp.trans (List.prefix_append _ _)

theorem findFrom?_eq_none_iff_not_isInfix {pattern t : Text} (h : pattern ≠ []) :
    findFrom? pattern t 0 = none ↔ ¬ pattern <:+: t := by
  rw [findFrom?_eq_none_iff h]
  constructor
  · rintro hno ⟨before, after, rfl⟩
    apply hno before.length (Nat.zero_le _)
    rw [List.append_assoc, List.drop_left]
    exact List.prefix_append _ _
  · intro hno k _ hp
    exact hno (hp.isInfix.trans (List.drop_suffix k t).isInfix)

/-! ### The end of a run -/

/-- From `e` on, one character further for as long as `t` up to one character further ends with `pattern`. -/
def runEnd (pattern t : Text) (e : Nat) : Nat :=
  if e < t.length ∧ pattern <:+ t.take (e + 1) then runEnd pattern t (e + 1) else e
termination_by t.length - e

theorem le_runEnd (pattern t : Text) (e : Nat) : e ≤ runEnd pattern t e := by
  fun_induction runEnd pattern t e with
  | case1 e h ih => exact Nat.le_of_succ_le ih
  | case2 e h => exact Nat.le_refl e

theorem runEnd_le {pattern t : Text} {e : Nat} (h : e ≤ t.length) : runEnd pattern t e ≤ t.length := by
  fun_induction runEnd pattern t e with
  | case1 e hc ih => exact ih hc.1
  | case2 e hc => exact h

private theorem take_length_succ (t : Text) (c : Char) (rest : Text) :
    (t ++ c :: rest).take (t.length + 1) = t ++ [c] := by
  have ht : t ++ c :: rest = t ++ [c] ++ rest := List.append_cons t c rest
  rw [ht]
  exact List.take_left' (by simp)

/-- A run passes over `run` if the text still ends with `pattern` after every character of it, and stops behind
it if the next character breaks that. -/
theorem runEnd_append {pattern t run rest : Text}
    (hrun : ∀ i < run.length, pattern <:+ t ++ run.take (i + 1))
    (hstop : ∀ c ∈ rest.head?, ¬ pattern <:+ t ++ run ++ [c]) :
    runEnd pattern (t ++ run ++ rest) t.length = (t ++ run).length := by
  induction run generalizing t with
  | nil =>
    rw [List.append_nil] at hstop ⊢
    rw [runEnd, if_neg]
    rintro ⟨hlt, hend⟩
    cases rest with
    | nil => simp at hlt
    | cons c rest =>
      rw [take_length_succ] at hend
      exact hstop c rfl hend
  | cons c run ih =>
    have hc : pattern <:+ t ++ [c] := hrun 0 (Nat.zero_lt_succ _)
    have ht : t ++ c :: run = t ++ [c] ++ run := List.append_cons t c run
    have hlen : t.length + 1 = (t ++ [c]).length := by simp
    rw [runEnd, if_pos ⟨by simp, by rwa [List.append_assoc, List.cons_append, take_length_succ]⟩, ht, hlen]
    apply ih
    · intro i hi
      have hi' := hrun (i + 1) (Nat.succ_lt_succ hi)
      rwa [List.take_succ_cons, List.append_cons] at hi'
    · rwa [← ht]

/-- No text at all, or further copies of the character that `pattern` is made of. -/
def Repeats (pattern run : Text) : Prop :=
  run = [] ∨ ∃ c k r, pattern = List.replicate k c ∧ run = List.replicate r c

theorem Repeats.append_comm {pattern run : Text} (h : Repeats pattern run) : run ++ pattern = pattern ++ run := by
  rcases h with rfl | ⟨c, k, r, rfl, rfl⟩
  · simp
  · rw [List.replicate_append_replicate, List.replicate_append_replicate, Nat.add_comm]

theorem Repeats.take {pattern run : Text} (h : Repeats pattern run) (n : Nat) : Repeats pattern (run.take n) := by
  rcases h with rfl | ⟨c, k, r, rfl, rfl⟩
  · exact .inl List.take_nil
  · exact .inr ⟨c, k, min n r, rfl, List.take_replicate⟩

theorem Repeats.isSuffix {pattern run : Text} (h : Repeats pattern run) (lead : Text) :
    pattern <:+ lead ++ pattern ++ run := by
  rw [List.append_assoc, ← h.append_comm, ← List.append_assoc]
  exact List.suffix_append _ _

/-- Of a text that ends with `pattern`, nothing in front of that counts when one more character follows. -/
theorem isSuffix_append_singleton_congr {pattern before : Text} {c : Char} (h : pattern <:+ before) :
    pattern <:+ before ++ [c] ↔ pattern <:+ pattern ++ [c] := by
  obtain ⟨lead, rfl⟩ := h
  rw [List.append_assoc, isSuffix_append_iff (by simp)]

/-- The run behind an occurrence of `pattern` takes in all the text that only repeats it. -/
theorem runEnd_of_repeats {pattern run rest : Text} (lead : Text) (hrun : Repeats pattern run)
    (hstop : ∀ c ∈ rest.head?, ¬ pattern <:+ pattern ++ [c]) :
    runEnd pattern (lead ++ pattern ++ run ++ rest) (lead ++ pattern).length = (lead ++ pattern ++ run).length := by
  apply runEnd_append
  · intro i _
    exact (hrun.take (i + 1)).isSuffix lead
  · intro c hc hend
    exact hstop c hc ((isSuffix_append_singleton_congr (hrun.isSuffix lead)).1 hend)

/-! ### Texts of one character -/

/-- A text that is its own shift by one character is made of that character. -/
theorem eq_replicate_of_append_eq_cons {t : Text} {a c : Char} (h : t ++ [c] = a :: t) :
    a = c ∧ t = List.replicate t.length c := by
  induction t generalizing a with
  | nil => simpa [eq_comm] using h
  | cons b t ih =>
    obtain ⟨rfl, hshift⟩ := List.cons.inj h
    obtain ⟨rfl, ht⟩ := ih hshift
    exact ⟨rfl, by rw [List.length_cons, List.replicate_succ, ← ht]⟩

theorem isSuffix_append_singleton_iff {t : Text} {c : Char} :
    t <:+ t ++ [c] ↔ t = List.replicate t.length c := by
  constructor
  · rintro ⟨u, hu⟩
    have hlen := congrArg List.length hu
    simp only [List.length_append, List.length_singleton] at hlen
    obtain ⟨a, rfl⟩ := List.length_eq_one_iff.1 (show u.length = 1 by omega)
    exact (eq_replicate_of_append_eq_cons hu.symm).2
  · intro ht
    refine ⟨[c], ?_⟩
    rw [ht, List.singleton_append, ← List.replicate_succ, List.replicate_succ']

theorem isSuffix_append_singleton_iff_of_isSuffix {pattern before : Text} {c : Char} (h : pattern <:+ before) :
    pattern <:+ before ++ [c] ↔ pattern = List.replicate pattern.length c := by
  rw [isSuffix_append_singleton_congr h, isSuffix_append_singleton_iff]

theorem isSuffix_replicate_append_singleton_iff {before : Text} {c d : Char} {k : Nat} (hk : 0 < k)
    (h : List.replicate k c <:+ before) : List.replicate k c <:+ before ++ [d] ↔ d = c := by
  rw [isSuffix_append_singleton_iff_of_isSuffix h, List.length_replicate, List.replicate_inj]
  constructor
  · rintro ⟨-, h0 | hcd⟩
    · omega
    · exact hcd.symm
  · rintro rfl
    exact ⟨rfl, .inr rfl⟩

theorem pos_of_eq_replicate {t : Text} {c : Char} {k : Nat} (h : t = List.replicate k c) (ht : t ≠ []) : 0 < k := by
  rw [h, ne_eq, List.replicate_eq_nil_iff] at ht
  omega

end Text

end TextTemplate
