import TextTemplate.Render

/-!
# Rendering into a sink

A sink takes bytes in portions.  A portion may be cut short, the sink may be full, and a call may be
interrupted, in which case it is made again.  Rendering into a sink hands over one block after the other and
stops at the first that does not fit.
-/

namespace TextTemplate

/-- What a full sink does with further bytes. -/
inductive WhenFull
  | acceptNothing
  | fail
  deriving DecidableEq

/-- A sink: how it behaves, and what has happened to it. -/
structure Sink where
  /-- The most bytes that one call accepts. -/
  chunk : Option Nat
  /-- The most bytes that are accepted in all. -/
  limit : Option Nat
  whenFull : WhenFull
  /-- Whether every other call is interrupted, beginning with the first. -/
  interrupts : Bool
  accepted : Array UInt8
  /-- The number of bytes that each call accepted. -/
  writes : Array Nat
  calls : Nat
  deriving DecidableEq

/-- Why a call accepts nothing at all. -/
inductive Rejection
  | interrupted
  | full
  deriving DecidableEq

/-- Why a text was not written to its end. -/
inductive WriteError
  | sinkFull
  | nothingAccepted
  deriving DecidableEq

/-- What is wrong, for a reader. -/
def WriteError.message : WriteError → String
  | sinkFull => "sink full"
  | nothingAccepted => "failed to write whole buffer"

namespace Sink

/-- A sink before the first call. -/
def new (chunk limit : Option Nat) (whenFull : WhenFull) (interrupts : Bool) : Sink :=
  ⟨chunk, limit, whenFull, interrupts, #[], #[], 0⟩

/-- How many of `n` bytes the next call accepts, unless it is interrupted. -/
def room (s : Sink) (n : Nat) : Nat :=
  let n := match s.chunk with
    | none => n
    | some chunk => min n chunk
  match s.limit with
  | none => n
  | some limit => min n (limit - s.accepted.size)

/-- Whether the next call is interrupted. -/
def willInterrupt (s : Sink) : Bool := s.interrupts && s.calls % 2 == 0

/-- One call with some bytes: how many of them are accepted, or why none. -/
def write (s : Sink) (bytes : List UInt8) : Except Rejection Nat × Sink :=
  let called := { s with calls := s.calls + 1 }
  if s.willInterrupt then (.error .interrupted, called)
  else
    let n := s.room bytes.length
    if n = 0 ∧ s.whenFull = .fail then (.error .full, called)
    else (.ok n, { called with accepted := s.accepted ++ bytes.take n, writes := s.writes.push n })

private theorem willInterrupt_of_write {s s' : Sink} {bytes : List UInt8}
    (h : s.write bytes = (.error .interrupted, s')) : s.willInterrupt = true ∧ s'.willInterrupt = false := by
  unfold write at h
  simp only at h
  split at h
  · rename_i hi
    refine ⟨hi, ?_⟩
    simp only [Prod.mk.injEq, true_and] at h
    subst h
    simp only [willInterrupt, Bool.and_eq_true, beq_iff_eq] at hi ⊢
    simp only [Bool.and_eq_false_iff, beq_eq_false_iff_ne]
    omega
  · split at h <;> simp at h

/-- Calls until all bytes are accepted or a call fails; an interrupted call is made again. -/
def writeAll (s : Sink) (bytes : List UInt8) : Except WriteError Unit × Sink :=
  if bytes = [] then (.ok (), s)
  else
    match _h : s.write bytes with
    | (.error .interrupted, s) => s.writeAll bytes
    | (.error .full, s) => (.error .sinkFull, s)
    | (.ok 0, s) => (.error .nothingAccepted, s)
    | (.ok (n + 1), s) => s.writeAll (bytes.drop (n + 1))
termination_by 2 * bytes.length + s.willInterrupt.toNat
decreasing_by
  · have := willInterrupt_of_write ‹_›
    simp_all
  · have h₁ := List.length_pos_iff.2 (by assumption : ¬bytes = [])
    have h₂ := Bool.toNat_le (willInterrupt ‹Sink›)
    simp only [List.length_drop]
    omega

end Sink

/-- The outcome of rendering into a sink. -/
structure Delivery where
  sink : Sink
  /-- The names that were looked up. -/
  lookups : List Text
  events : List Event
  failure : Option WriteError

/-- Hands over the blocks of a list of calls, and makes no further call once a block does not fit. -/
def deliver (s : Sink) : List Pull → Delivery
  | [] => ⟨s, [], [], none⟩
  | p :: ps =>
    let (result, s) : Except WriteError Unit × Sink := match p.block with
      | none => (.ok (), s)
      | some b => s.writeAll (Text.utf8 b.content)
    let rest := match result with
      | .ok () => deliver s ps
      | .error e => ⟨s, [], [], some e⟩
    { rest with
      lookups := p.lookups ++ rest.lookups, events := p.unresolved.map Event.unresolved ++ rest.events }

/-- Renders a document into a sink. -/
def renderInto (s : Sink) (δ : Delimiters) (resolve : Resolver) (document : Text) : Delivery :=
  let d := deliver s (scan δ resolve document)
  { d with events := .rendering (Text.byteLength document) δ.opening δ.closing :: d.events }

end TextTemplate
