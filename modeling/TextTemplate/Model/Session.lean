import TextTemplate.Mapping.Store
import TextTemplate.Render

/-!
# Runs of operations on a model

A session works on a model over stores and keeps a saved copy of its values.
-/

namespace TextTemplate

namespace Model

variable {α : Type}

/-- The model of a store alone: no alternatives, held in a store of the same kind. -/
def ofStore (values : Store α) (format : Formatter α) : Model (Store α) (Store α) α :=
  ⟨values, .empty values.backend, format⟩

/-- What can be done in a session. -/
inductive Operation (α : Type)
  | containsKey (key : Text)
  | lookup (key : Text)
  | resolve (key : Text)
  | render (document : Text) (delimiters : Except EmptyDelimiter Delimiters)
  | onValues (op : Mapping.Operation α)
  | onAlts (op : Mapping.Operation α)
  | withAlts (alts : Store α)
  | withFormat (format : Formatter α)
  | swap
  | saveValues
  | restoreValues

/-- What an operation answers. -/
inductive Outcome (α : Type)
  | nothing
  | holds (b : Bool)
  | value (v : Option α)
  | text (t : Option Text)
  | rendered (t : Except EmptyDelimiter Text)
  | ofMapping (o : Mapping.Outcome α)

/-- The model at work and the saved values. -/
structure Session (α : Type) where
  model : Model (Store α) (Store α) α
  saved : Store α

/-- A session on a model, whose values are saved at once. -/
def Session.start (model : Model (Store α) (Store α) α) : Session α := ⟨model, model.values⟩

/-- The answer to an operation, and the session after it. -/
def Operation.run (op : Operation α) (s : Session α) : Outcome α × Session α :=
  let m := s.model
  match op with
  | containsKey key => (.holds (m.containsKey key), s)
  | lookup key => (.value (m.lookup key), s)
  | resolve key => (.text (m.resolve key), s)
  | render document delimiters =>
    (.rendered (delimiters.map fun δ => TextTemplate.render δ m.resolver document), s)
  | onValues op =>
    let (answer, values) := op.run m.values
    (.ofMapping answer, { s with model := { m with values := values } })
  | onAlts op =>
    let (answer, alts) := op.run m.alts
    (.ofMapping answer, { s with model := { m with alts := alts } })
  | withAlts alts => (.nothing, { s with model := m.withAlts alts })
  | withFormat format => (.nothing, { s with model := m.withFormat format })
  | swap => (.nothing, { s with model := m.swap })
  | saveValues => (.nothing, { s with saved := m.values })
  | restoreValues => (.nothing, { s with model := { m with values := s.saved } })

end Model

end TextTemplate
