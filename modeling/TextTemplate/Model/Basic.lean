import TextTemplate.Formatter
import TextTemplate.Mapping.Basic
import TextTemplate.Resolver.Basic

/-!
# Models

A model resolves names through a mapping of values and a mapping of alternatives, which is asked only for keys
that the values do not have at all, and turns what it finds into text.
-/

namespace TextTemplate

/-- Values, alternatives, and the text of a value. -/
structure Model (σ τ α : Type) where
  values : σ
  alts : τ
  format : Formatter α

namespace Model

variable {σ τ α : Type} [Mapping σ α] [Mapping τ α]

/-- Whether values or alternatives have a key. -/
def containsKey (m : Model σ τ α) (key : Text) : Bool :=
  Mapping.containsKey m.values key || Mapping.containsKey m.alts key

/-- The value of a key: that of the values if they have one, whatever it is, else that of the alternatives. -/
def lookup (m : Model σ τ α) (key : Text) : Option α :=
  (Mapping.get? m.values key).or (Mapping.get? m.alts key)

/-- The text of the value of a key. -/
def resolve (m : Model σ τ α) (key : Text) : Option Text := (m.lookup key).map m.format

/-- The model as the replacement of every name. -/
def resolver (m : Model σ τ α) : Resolver := m.resolve

/-- The model with other alternatives. -/
def withAlts {υ : Type} (m : Model σ τ α) (alts : υ) : Model σ υ α := ⟨m.values, alts, m.format⟩

/-- The model with another text of values. -/
def withFormat (m : Model σ τ α) (format : Formatter α) : Model σ τ α := { m with format := format }

/-- The model with values and alternatives exchanged. -/
def swap (m : Model σ τ α) : Model τ σ α := ⟨m.alts, m.values, m.format⟩

end Model

end TextTemplate
