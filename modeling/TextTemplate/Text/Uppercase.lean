import TextTemplate.Text.Basic
import TextTemplate.Text.Uppercase.Table

/-!
# Upper-casing

The upper-case form of a text is the concatenation of the forms of its characters, each taken alone: `ß` becomes
`SS`, wherever it stands and in any language.
-/

namespace TextTemplate

namespace Text

/-- The upper-case form of a character. -/
def upperChar (c : Char) : Text :=
  match Uppercase.runs.find? (·.contains c.toNat) with
  | some r => [Char.ofNat (r.apply c.toNat)]
  | none =>
    match Uppercase.expansions.lookup c.toNat with
    | some forms => forms.map Char.ofNat
    | none => [c]

/-- The upper-case form of a text. -/
def upper (t : Text) : Text := t.flatMap upperChar

@[simp] theorem upper_nil : upper [] = [] := rfl

@[simp] theorem upper_append (t u : Text) : upper (t ++ u) = upper t ++ upper u := by
  simp [upper]

end Text

end TextTemplate
