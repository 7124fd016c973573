import TextTemplate.CaseInsensitiveMap.Basic
import TextTemplate.Model.Basic
import TextTemplate.Scanner.Scan
import TextTemplate.Value

/-!
# Rendering

The rendering of a document is the concatenation of the blocks of its scan.
-/

namespace TextTemplate

/-- The document with every token that resolves replaced. -/
def render (δ : Delimiters) (resolve : Resolver) (document : Text) : Text :=
  (Pull.blocks (scan δ resolve document)).flatMap Block.content

/-- Rendering between delimiters given as texts. -/
def renderBetween (opening closing : Text) (resolve : Resolver) (document : Text) : Except EmptyDelimiter Text :=
  (Delimiters.make opening closing).map fun δ => render δ resolve document

/-- Rendering between `##` with values, and alternatives for the keys they lack; the case of keys does not
matter. -/
def renderFormatted {α : Type} (format : Formatter α) (values alts : List (Text × α)) (document : Text) : Text :=
  let model : Model (CaseInsensitiveMap α) (CaseInsensitiveMap α) α := ⟨.ofList values, .ofList alts, format⟩
  render .default model.resolver document

/-- Rendering between `##` with the texts of values, and of alternatives for the keys they lack. -/
def renderValuesOr (values alts : List (Text × Value)) (document : Text) : Text :=
  renderFormatted Value.toText values alts document

/-- Rendering between `##` with the texts of values. -/
def renderValues (values : List (Text × Value)) (document : Text) : Text := renderValuesOr values [] document

end TextTemplate
