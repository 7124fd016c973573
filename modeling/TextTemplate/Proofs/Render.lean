import TextTemplate.Proofs.CaseInsensitiveMap.Entries
import TextTemplate.Render

/-!
# Rendering with values and alternatives

Values and alternatives are one namespace: a name resolves to the last of the values that has it as its key, in
some case, else to the last such alternative (`Resolver.merged`).  So the alternatives can be put in front of
the values, and the formatter can be applied to the entries beforehand (`renderFormatted_merged`).
-/

namespace TextTemplate

variable {α : Type}

/-- The text of the last value with a name, or of the last alternative, where the case of names does not matter.
-/
def Resolver.merged (format : Formatter α) (values alts : List (Text × α)) : Resolver := fun name =>
  ((CaseInsensitiveMap.lastValue? values name).or (CaseInsensitiveMap.lastValue? alts name)).map format

/-- The model of two lists of entries resolves names in the namespace of both. -/
theorem Model.resolver_ofList (format : Formatter α) (values alts : List (Text × α)) :
    (⟨.ofList values, .ofList alts, format⟩ : Model (CaseInsensitiveMap α) (CaseInsensitiveMap α) α).resolver =
      Resolver.merged format values alts := by
  funext name
  show (((CaseInsensitiveMap.ofList values).get? name).or
    ((CaseInsensitiveMap.ofList alts).get? name)).map format = _
  rw [CaseInsensitiveMap.get?_ofList, CaseInsensitiveMap.get?_ofList]
  rfl

theorem renderFormatted_eq (format : Formatter α) (values alts : List (Text × α)) (document : Text) :
    renderFormatted format values alts document = render .default (.merged format values alts) document := by
  rw [← Model.resolver_ofList]
  rfl

namespace Resolver

theorem merged_append_nil (format : Formatter α) (values alts : List (Text × α)) :
    merged format (alts ++ values) [] = merged format values alts := by
  funext name
  rw [merged, merged, CaseInsensitiveMap.lastValue?_append, CaseInsensitiveMap.lastValue?_nil, Option.or_none]

theorem merged_nil_append (format : Formatter α) (values alts : List (Text × α)) :
    merged format [] (alts ++ values) = merged format values alts := by
  funext name
  rw [merged, merged, CaseInsensitiveMap.lastValue?_append, CaseInsensitiveMap.lastValue?_nil, Option.none_or]

/-- Formatting a value when it is found is formatting it beforehand. -/
theorem merged_formatted (format : Formatter α) (values : List (Text × α)) :
    merged Value.toText (values.map fun e => (e.1, .text (format e.2))) [] = merged format values [] := by
  funext name
  rw [merged, merged, CaseInsensitiveMap.lastValue?_map fun v => Value.text (format v),
    CaseInsensitiveMap.lastValue?_nil, CaseInsensitiveMap.lastValue?_nil, Option.or_none, Option.or_none,
    Option.map_map]
  rfl

end Resolver

/-- Rendering with values and alternatives is rendering in their common namespace.  It is the same to have all
entries as values, the alternatives first, to have all as alternatives, and to have the texts of all as values.
-/
theorem renderFormatted_merged (format : Formatter α) (values alts : List (Text × α)) (document : Text) :
    renderFormatted format values alts document = render .default (.merged format values alts) document ∧
      renderFormatted format values alts document = renderFormatted format (alts ++ values) [] document ∧
      renderFormatted format values alts document = renderFormatted format [] (alts ++ values) document ∧
      renderFormatted format values alts document =
        renderValues ((alts ++ values).map fun e => (e.1, .text (format e.2))) document := by
  have hmerged := renderFormatted_eq format values alts document
  refine ⟨hmerged, ?_, ?_, ?_⟩
  · rw [hmerged, renderFormatted_eq, Resolver.merged_append_nil]
  · rw [hmerged, renderFormatted_eq, Resolver.merged_nil_append]
  · rw [hmerged, renderValues, renderValuesOr, renderFormatted_eq, Resolver.merged_formatted,
      Resolver.merged_append_nil]

end TextTemplate
