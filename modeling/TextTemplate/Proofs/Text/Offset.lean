import TextTemplate.Text.Basic

/-!
# Byte offsets

Positions in a text that are counted in bytes of its UTF-8 form.  Not every byte is a boundary between
characters, and only between boundaries can a text be cut: `splitAt?` and `slice?` give nothing for a byte
inside a character, or behind the text.
-/

namespace TextTemplate

namespace Text

/-- The parts of a text in front of a byte and from it on, if a character starts there or the text ends there. -/
def splitAt? : Text → Nat → Option (Text × Text)
  | t, 0 => some ([], t)
  | [], _ + 1 => none
  | c :: t, n + 1 =>
    if c.utf8Size ≤ n + 1 then (splitAt? t (n + 1 - c.utf8Size)).map fun parts => (c :: parts.1, parts.2) else none

/-- The part of a text between two bytes, if they are boundaries between characters and in this order. -/
def slice? (t : Text) (start stop : Nat) : Option Text := do
  let (front, _) ← splitAt? t stop
  let (_, part) ← splitAt? front start
  return part

/-- The number of bytes of the character that starts at this byte, and 1 at the end of the text. -/
def widthAt? (t : Text) (n : Nat) : Option Nat :=
  (t.slice? n t.byteLength).map fun rest => (rest.head?.map Char.utf8Size).getD 1

/-- A character starts at this byte, or the text ends there. -/
def IsBoundary (t : Text) (n : Nat) : Prop := ∃ before after, t = before ++ after ∧ before.byteLength = n

/-- An occurrence of `pattern` starts at this byte. -/
def StartsAt (pattern t : Text) (n : Nat) : Prop :=
  ∃ before after, t = before ++ (pattern ++ after) ∧ before.byteLength = n

/-- An occurrence of `pattern` ends at this byte. -/
def EndsAt (pattern t : Text) (n : Nat) : Prop :=
  ∃ before after, t = before ++ (pattern ++ after) ∧ (before ++ pattern).byteLength = n

/-! ### Bytes and characters -/

theorem eq_nil_of_byteLength_eq_zero {t : Text} (h : t.byteLength = 0) : t = [] := by
  cases t with
  | nil => rfl
  | cons c t =>
    have hc := c.utf8Size_pos
    rw [byteLength_cons] at h
    omega

theorem byteLength_pos {t : Text} (h : t ≠ []) : 0 < t.byteLength := by
  rw [Nat.pos_iff_ne_zero]
  intro h0
  exact h (eq_nil_of_byteLength_eq_zero h0)

/-- Of two parts in front of a text the one with fewer bytes is the front of the other. -/
theorem isPrefix_of_byteLength_le {t u v : Text} (ht : t <+: v) (hu : u <+: v) (h : t.byteLength ≤ u.byteLength) :
    t <+: u := by
  rcases List.prefix_or_prefix_of_prefix ht hu with hp | ⟨w, rfl⟩
  · exact hp
  · rw [byteLength_append] at h
    have hw : w = [] := eq_nil_of_byteLength_eq_zero (by omega)
    exact ⟨[], by rw [hw, List.append_nil, List.append_nil]⟩

theorem eq_of_byteLength_eq {t u v : Text} (ht : t <+: v) (hu : u <+: v) (h : t.byteLength = u.byteLength) :
    t = u := by
  obtain ⟨w, rfl⟩ := isPrefix_of_byteLength_le ht hu (Nat.le_of_eq h)
  rw [byteLength_append] at h
  have hw : w = [] := eq_nil_of_byteLength_eq_zero (by omega)
  rw [hw, List.append_nil]

/-- At one byte a text can be cut in one way only. -/
theorem append_inj_of_byteLength_eq {t t' u u' : Text} (h : t ++ u = t' ++ u')
    (hlen : t.byteLength = t'.byteLength) : t = t' ∧ u = u' := by
  obtain rfl : t = t' := eq_of_byteLength_eq ⟨u, rfl⟩ ⟨u', h.symm⟩ hlen
  exact ⟨rfl, List.append_cancel_left h⟩

theorem startsAt_append_iff {pattern before rest : Text} :
    StartsAt pattern (before ++ rest) before.byteLength ↔ pattern <+: rest := by
  constructor
  · rintro ⟨lead, after, heq, hlen⟩
    obtain ⟨rfl, rfl⟩ := append_inj_of_byteLength_eq heq hlen.symm
    exact List.prefix_append _ _
  · rintro ⟨after, rfl⟩
    exact ⟨before, after, rfl, rfl⟩

theorem endsAt_append_iff {pattern before rest : Text} :
    EndsAt pattern (before ++ rest) before.byteLength ↔ pattern <:+ before := by
  constructor
  · rintro ⟨lead, after, heq, hlen⟩
    rw [← List.append_assoc] at heq
    obtain ⟨rfl, -⟩ := append_inj_of_byteLength_eq heq hlen.symm
    exact List.suffix_append _ _
  · rintro ⟨lead, rfl⟩
    exact ⟨lead, rest, List.append_assoc _ _ _, rfl⟩

/-- Behind an occurrence, and in front of it, is a boundary. -/
theorem EndsAt.bounds {pattern t : Text} {n : Nat} (h : EndsAt pattern t n) :
    pattern.byteLength ≤ n ∧ n ≤ t.byteLength ∧ IsBoundary t n ∧ IsBoundary t (n - pattern.byteLength) := by
  obtain ⟨before, after, rfl, rfl⟩ := h
  have hlen := byteLength_append before pattern
  refine ⟨by omega, ?_, ⟨before ++ pattern, after, (List.append_assoc _ _ _).symm, rfl⟩,
    before, pattern ++ after, rfl, by omega⟩
  rw [← List.append_assoc, byteLength_append (before ++ pattern)]
  exact Nat.le_add_right _ _

/-! ### Slices -/

theorem splitAt?_eq_some_iff {t before after : Text} {n : Nat} :
    splitAt? t n = some (before, after) ↔ t = before ++ after ∧ before.byteLength = n := by
  fun_induction splitAt? t n generalizing before after with
  | case1 t =>
    constructor
    · rintro ⟨⟩
      exact ⟨rfl, rfl⟩
    · rintro ⟨rfl, hlen⟩
      rw [eq_nil_of_byteLength_eq_zero hlen, List.nil_append]
  | case2 n =>
    constructor
    · rintro ⟨⟩
    · rintro ⟨heq, hlen⟩
      obtain ⟨rfl, -⟩ := List.nil_eq_append_iff.1 heq
      cases hlen
  | case3 c t n hle ih =>
    rw [Option.map_eq_some_iff]
    constructor
    · rintro ⟨⟨front, back⟩, hsplit, heq⟩
      obtain ⟨rfl, hlen⟩ := ih.1 hsplit
      obtain ⟨rfl, rfl⟩ := Prod.mk.inj heq
      refine ⟨rfl, ?_⟩
      rw [byteLength_cons, hlen]
      omega
    · rintro ⟨heq, hlen⟩
      cases before with
      | nil => cases hlen
      | cons d before =>
        obtain ⟨rfl, rfl⟩ := List.cons.inj heq
        rw [byteLength_cons] at hlen
        exact ⟨(before, after), ih.2 ⟨rfl, by omega⟩, rfl⟩
  | case4 c t n hlt =>
    constructor
    · rintro ⟨⟩
    · rintro ⟨heq, hlen⟩
      cases before with
      | nil => cases hlen
      | cons d before =>
        obtain ⟨rfl, -⟩ := List.cons.inj heq
        rw [byteLength_cons] at hlen
        omega

theorem slice?_eq_some_iff {t part : Text} {start stop : Nat} :
    slice? t start stop = some part ↔
      ∃ before after, t = before ++ (part ++ after) ∧ before.byteLength = start ∧
        (before ++ part).byteLength = stop := by
  simp only [slice?, Option.bind_eq_bind, Option.bind_eq_some_iff, Prod.exists, splitAt?_eq_some_iff,
    Option.pure_def, Option.some.injEq]
  constructor
  · rintro ⟨front, after, ⟨rfl, hstop⟩, before, part, ⟨rfl, hstart⟩, rfl⟩
    exact ⟨before, after, List.append_assoc _ _ _, hstart, hstop⟩
  · rintro ⟨before, after, rfl, hstart, hstop⟩
    exact ⟨before ++ part, after, ⟨(List.append_assoc _ _ _).symm, hstop⟩, before, part, ⟨rfl, hstart⟩, rfl⟩

/-- The second byte is inside the character. -/
example : slice? ['§', 'x'] 1 3 = none := by decide

theorem slice?_append (before part after : Text) :
    slice? (before ++ (part ++ after)) before.byteLength (before ++ part).byteLength = some part :=
  slice?_eq_some_iff.2 ⟨before, after, rfl, rfl, rfl⟩

theorem slice?_rest (before rest : Text) :
    slice? (before ++ rest) before.byteLength (before ++ rest).byteLength = some rest :=
  slice?_eq_some_iff.2 ⟨before, [], by rw [List.append_nil], rfl, rfl⟩

theorem widthAt?_append_cons (before rest : Text) (c : Char) :
    widthAt? (before ++ c :: rest) before.byteLength = some c.utf8Size := by
  rw [widthAt?, slice?_rest]
  rfl

theorem widthAt?_pos {t : Text} {n width : Nat} (h : widthAt? t n = some width) : 0 < width := by
  obtain ⟨rest, -, rfl⟩ := Option.map_eq_some_iff.1 h
  cases rest with
  | nil => exact Nat.one_pos
  | cons c rest => exact c.utf8Size_pos

end Text

end TextTemplate
