import TextTemplate.Text.Basic

/-!
# Texts that grow at their end

A trail holds a text with its newest character first, so that a character is added, and the end compared, without
walking through the whole.  Every operation is described by the text it stands for, `toText`.
-/

namespace TextTemplate

/-- A text read from left to right; `latest` holds its characters, the newest first. -/
structure Trail where
  latest : List Char
  deriving DecidableEq

namespace Trail

/-- The text itself, in reading order. -/
def toText (t : Trail) : Text := t.latest.reverse

/-- Nothing read yet. -/
def empty : Trail := ⟨[]⟩

/-- The trail after one more character. -/
def push (t : Trail) (c : Char) : Trail := ⟨c :: t.latest⟩

/-- The trail after a further text. -/
def extend (t : Trail) (u : Text) : Trail := ⟨u.reverse ++ t.latest⟩

/-- The trail `t` followed by the trail `u`. -/
def join (t u : Trail) : Trail := ⟨u.latest ++ t.latest⟩

/-- The trail without its last `n` characters. -/
def dropEnd (t : Trail) (n : Nat) : Trail := ⟨t.latest.drop n⟩

/-- Whether the text ends with `tail`. -/
def endsWith (t : Trail) (tail : Text) : Bool := tail.reverse.isPrefixOf t.latest

/-- The number of bytes of the text. -/
def byteLength (t : Trail) : Nat := Text.byteLength t.latest

@[simp] theorem toText_empty : empty.toText = [] := rfl

@[simp] theorem toText_push (t : Trail) (c : Char) : (t.push c).toText = t.toText ++ [c] := by
  simp [toText, push]

@[simp] theorem toText_extend (t : Trail) (u : Text) : (t.extend u).toText = t.toText ++ u := by
  simp [toText, extend]

theorem extend_cons (t : Trail) (c : Char) (u : Text) : t.extend (c :: u) = (t.push c).extend u := by
  simp [extend, push]

@[simp] theorem toText_join (t u : Trail) : (t.join u).toText = t.toText ++ u.toText := by
  simp [toText, join]

@[simp] theorem toText_dropEnd (t : Trail) (n : Nat) :
    (t.dropEnd n).toText = t.toText.take (t.toText.length - n) := by
  simp [toText, dropEnd, List.reverse_drop]

theorem byteLength_eq (t : Trail) : t.byteLength = Text.byteLength t.toText := by
  simp [byteLength, toText]

theorem join_assoc (t u v : Trail) : (t.join u).join v = t.join (u.join v) := by
  simp [join]

theorem join_extend (t u : Trail) (v : Text) : (t.join u).extend v = t.join (u.extend v) := by
  simp [join, extend]

theorem empty_join (t : Trail) : empty.join t = t := by
  simp [join, empty]

theorem byteLength_join (t u : Trail) : (t.join u).byteLength = t.byteLength + u.byteLength := by
  simp [byteLength_eq]

theorem byteLength_extend (t : Trail) (u : Text) : (t.extend u).byteLength = t.byteLength + Text.byteLength u := by
  simp [byteLength_eq]

theorem endsWith_iff {t : Trail} {tail : Text} : t.endsWith tail = true ↔ tail <:+ t.toText := by
  rw [endsWith, List.isPrefixOf_iff_prefix, toText, ← List.reverse_prefix, List.reverse_reverse]

end Trail

end TextTemplate
