import TextTemplate.Text.Basic

/-!
# Blocks and events

The blocks of a document are what its rendering is concatenated from; the events report what happened on the way.
-/

namespace TextTemplate

/-- One piece of rendered output. -/
inductive Block
  /-- A stretch of the document, copied. -/
  | text (t : Text)
  /-- An opening delimiter that did not open a resolved token. -/
  | delimiter (t : Text)
  /-- The replacement of a resolved token. -/
  | value (t : Text)
  deriving DecidableEq

namespace Block

/-- What the block adds to the output. -/
def content : Block → Text
  | text t => t
  | delimiter t => t
  | value t => t

/-- The name of the kind of block. -/
def kind : Block → String
  | text _ => "text"
  | delimiter _ => "delimiter"
  | value _ => "value"

end Block

/-- A closed token whose name did not resolve, and the byte at which the name starts. -/
structure Unresolved where
  token : Text
  offset : Nat
  deriving DecidableEq

/-- How much attention an event asks for. -/
inductive Level
  | debug
  | trace
  deriving DecidableEq

/-- The name of a level in a log. -/
def Level.name : Level → String
  | .debug => "DEBUG"
  | .trace => "TRACE"

/-- Something worth a line in a log. -/
inductive Event
  /-- A document of `length` bytes is about to be rendered. -/
  | rendering (length : Nat) (opening closing : Text)
  /-- A token stays in the output as it was written. -/
  | unresolved (u : Unresolved)
  deriving DecidableEq

namespace Event

/-- Rendering is announced once, unresolved tokens are details. -/
def level : Event → Level
  | rendering .. => .debug
  | unresolved _ => .trace

/-- The wording of the log line. -/
def message : Event → String
  | rendering .. => "rendering document"
  | unresolved _ => "unresolved token left verbatim"

end Event

end TextTemplate
