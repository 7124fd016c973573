/-!
# Texts

Documents, names, keys and replacement texts are lists of characters.  Lengths and offsets are counted in bytes of
the UTF-8 form, and both the count and the form are compatible with concatenation.
-/

namespace TextTemplate

/-- A text is the list of its characters. -/
abbrev Text := List Char

namespace Text

/-- The number of bytes of the UTF-8 form. -/
def byteLength : Text → Nat
  | [] => 0
  | c :: t => c.utf8Size + byteLength t

/-- The bytes of the UTF-8 form. -/
def utf8 (t : Text) : List UInt8 := t.flatMap String.utf8EncodeChar

@[simp] theorem byteLength_nil : byteLength [] = 0 := rfl

@[simp] theorem byteLength_cons (c : Char) (t : Text) : byteLength (c :: t) = c.utf8Size + byteLength t := rfl

@[simp] theorem byteLength_append (t u : Text) : byteLength (t ++ u) = byteLength t + byteLength u := by
  induction t with
  | nil => simp
  | cons c t ih => simp [ih, Nat.add_assoc]

@[simp] theorem byteLength_reverse (t : Text) : byteLength t.reverse = byteLength t := by
  induction t with
  | nil => rfl
  | cons c t ih => simp [ih, Nat.add_comm]

@[simp] theorem utf8_append (t u : Text) : utf8 (t ++ u) = utf8 t ++ utf8 u := by
  simp [utf8]

theorem length_utf8 (t : Text) : (utf8 t).length = byteLength t := by
  induction t with
  | nil => rfl
  | cons c t ih => rw [byteLength_cons, ← ih]; simp [utf8]

/-- Whether a text ends with `tail` is seen from its last part, if that is as long as `tail`. -/
theorem isSuffix_append_iff {tail t u : Text} (h : tail.length ≤ u.length) : tail <:+ t ++ u ↔ tail <:+ u := by
  constructor
  · intro ht
    exact List.suffix_of_suffix_length_le ht (List.suffix_append _ _) h
  · intro hu
    exact hu.trans (List.suffix_append _ _)

private theorem isPrefixOf?_cons_cons (c d : Char) (lead t : Text) :
    (c :: lead).isPrefixOf? (d :: t) = if c == d then lead.isPrefixOf? t else none := rfl

/-- What follows `lead` in a text that starts with it is the rest of the text. -/
theorem eq_append_of_isPrefixOf? {lead t rest : Text} (h : lead.isPrefixOf? t = some rest) : t = lead ++ rest := by
  induction lead generalizing t with
  | nil => exact Option.some.inj h
  | cons c lead ih =>
    cases t with
    | nil => cases h
    | cons d t =>
      rw [isPrefixOf?_cons_cons] at h
      split at h
      · rename_i hc
        rw [beq_iff_eq.1 hc, ih h, List.cons_append]
      · cases h

theorem length_of_isPrefixOf? {lead t rest : Text} (h : lead.isPrefixOf? t = some rest) :
    t.length = lead.length + rest.length := by
  rw [eq_append_of_isPrefixOf? h, List.length_append]

end Text

end TextTemplate
