import TextTemplate.Model.Session
import TextTemplate.Proofs.Mapping.Lawful
import TextTemplate.Proofs.Transcript

/-!
# Models

Whether a model has a key, finds a value for it and resolves it is one question, which the values answer first
and the alternatives only for keys that the values lack (`Model.Coherent`).  This is so for any mappings that
contain what they find, and it stays so whatever is done in a session: an operation changes the sides it writes
to and no other, and a key that was new to the values can be removed from them without a trace
(`Session.coherent_stateAfter`).
-/

namespace TextTemplate

variable {α : Type}

/-- Whether an operation can change a dictionary. -/
def Mapping.Operation.writes : Mapping.Operation α → Bool
  | .insert _ _ => true
  | .remove _ => true
  | _ => false

theorem Mapping.Operation.run_of_not_writes {σ : Type} [Dictionary σ α] {op : Mapping.Operation α}
    (h : op.writes = false) (m : σ) : (op.run m).2 = m := by
  cases op with
  | insert key v => cases h
  | remove key => cases h
  | get key => rfl
  | containsKey key => rfl

namespace Model

/-- The answers of a model about a key fit together, and it renders by them. -/
structure Coherent {σ τ : Type} [Mapping σ α] [Mapping τ α] (m : Model σ τ α) : Prop where
  containsKey_eq : ∀ key, m.containsKey key = (m.lookup key).isSome
  isSome_resolve : ∀ key, (m.resolve key).isSome = (m.lookup key).isSome
  isSome_resolver : ∀ key, (m.resolver key).isSome = (m.lookup key).isSome
  lookup_of_values : ∀ key v, Mapping.get? m.values key = some v → m.lookup key = some v
  lookup_of_alts : ∀ key, Mapping.get? m.values key = none → m.lookup key = Mapping.get? m.alts key
  render_eq : ∀ δ document,
    TextTemplate.render δ m.resolver document =
      TextTemplate.render δ (fun name => (m.lookup name).map m.format) document

theorem coherent {σ τ : Type} [Mapping σ α] [Mapping τ α] [LawfulMapping σ] [LawfulMapping τ] (m : Model σ τ α) :
    m.Coherent where
  containsKey_eq key := by
    rw [containsKey, lookup, Option.isSome_or, LawfulMapping.containsKey_eq, LawfulMapping.containsKey_eq]
  isSome_resolve _ := Option.isSome_map
  isSome_resolver _ := Option.isSome_map
  lookup_of_values key v h := by rw [lookup, h, Option.some_or]
  lookup_of_alts key h := by rw [lookup, h, Option.none_or]
  render_eq _ _ := rfl

/-! ### What operations write to -/

/-- Whether an operation can change the values. -/
def Operation.writesValues : Operation α → Bool
  | onValues op => op.writes
  | swap => true
  | restoreValues => true
  | _ => false

/-- Whether an operation can change the alternatives. -/
def Operation.writesAlts : Operation α → Bool
  | onAlts op => op.writes
  | withAlts _ => true
  | swap => true
  | _ => false

theorem Operation.values_run {op : Operation α} (h : op.writesValues = false) (s : Session α) :
    (op.run s).2.model.values = s.model.values := by
  cases op with
  | onValues op => exact Mapping.Operation.run_of_not_writes h s.model.values
  | swap => cases h
  | restoreValues => cases h
  | _ => rfl

theorem Operation.alts_run {op : Operation α} (h : op.writesAlts = false) (s : Session α) :
    (op.run s).2.model.alts = s.model.alts := by
  cases op with
  | onAlts op => exact Mapping.Operation.run_of_not_writes h s.model.alts
  | withAlts alts => cases h
  | swap => cases h
  | _ => rfl

namespace Session

variable {s : Session α}

theorem values_stateAfter {ops : List (Operation α)} (hops : ∀ op ∈ ops, op.writesValues = false) :
    (stateAfter Operation.run s ops).model.values = s.model.values := by
  refine stateAfter_induction (P := fun s' : Session α => s'.model.values = s.model.values) ops ?_ rfl
  intro op hop s' hs'
  rw [Operation.values_run (hops op hop), hs']

theorem alts_stateAfter {ops : List (Operation α)} (hops : ∀ op ∈ ops, op.writesAlts = false) :
    (stateAfter Operation.run s ops).model.alts = s.model.alts := by
  refine stateAfter_induction (P := fun s' : Session α => s'.model.alts = s.model.alts) ops ?_ rfl
  intro op hop s' hs'
  rw [Operation.alts_run (hops op hop), hs']

/-! ### A key that comes and goes -/

/-- The session in which a value was inserted, and other operations followed. -/
def inserted (s : Session α) (key : Text) (v : α) (ops : List (Operation α)) : Session α :=
  stateAfter Operation.run s (.onValues (.insert key v) :: ops)

/-- The session in which that value was removed again. -/
def removed (s : Session α) (key : Text) (v : α) (ops : List (Operation α)) : Session α :=
  ((Operation.onValues (.remove key)).run (s.inserted key v ops)).2

variable {key : Text} {v : α} {ops : List (Operation α)}

theorem values_inserted (hops : ∀ op ∈ ops, op.writesValues = false) :
    (s.inserted key v ops).model.values = (Dictionary.insert s.model.values key v).2 := by
  rw [inserted, stateAfter_cons, values_stateAfter hops]
  rfl

theorem alts_inserted (hops : ∀ op ∈ ops, op.writesAlts = false) :
    (s.inserted key v ops).model.alts = s.model.alts := by
  rw [inserted, stateAfter_cons, alts_stateAfter hops]
  rfl

theorem values_removed (hops : ∀ op ∈ ops, op.writesValues = false) :
    (s.removed key v ops).model.values = (Mapping.remove (Dictionary.insert s.model.values key v).2 key).2 := by
  rw [← values_inserted hops]
  rfl

theorem alts_removed (hops : ∀ op ∈ ops, op.writesAlts = false) :
    (s.removed key v ops).model.alts = s.model.alts :=
  alts_inserted hops

/-- A key that the values lacked hides the alternative until it is removed, and then nothing is left of it. -/
theorem lookup_removed (hnew : Mapping.get? s.model.values key = none)
    (hvalues : ∀ op ∈ ops, op.writesValues = false) (halts : ∀ op ∈ ops, op.writesAlts = false) :
    (s.inserted key v ops).model.lookup key = some v ∧ (s.removed key v ops).model.lookup = s.model.lookup := by
  constructor
  · apply (coherent _).lookup_of_values
    rw [values_inserted hvalues, LawfulDictionary.get?_insert_self v hnew]
  · funext k
    rw [lookup, lookup, values_removed hvalues, alts_removed halts, LawfulDictionary.get?_remove_insert v hnew]

/-- Whatever was done in a session, the answers of its model about every key fit together, as do those of every
model of mappings that are made of functions.  Operations leave alone the side that they do not write to.  A key
that the values lack can be inserted, and removed when others have read the model: in between it hides the
alternative, and then all lookups and entries are as they were. -/
theorem coherent_stateAfter (model : Model (Store α) (Store α) α) (ops : List (Operation α)) :
    let s := stateAfter Operation.run (start model) ops
    s.model.Coherent ∧
      (∀ ops' : List (Operation α), (∀ op ∈ ops', op.writesValues = false) →
        (stateAfter Operation.run s ops').model.values = s.model.values) ∧
      (∀ ops' : List (Operation α), (∀ op ∈ ops', op.writesAlts = false) →
        (stateAfter Operation.run s ops').model.alts = s.model.alts) ∧
      (∀ key v (reads : List (Operation α)), Mapping.get? s.model.values key = none →
        (∀ op ∈ reads, op.writesValues = false ∧ op.writesAlts = false) →
        (s.inserted key v reads).model.lookup key = some v ∧
          (s.removed key v reads).model.lookup key = Mapping.get? s.model.alts key ∧
          (∀ k, (s.removed key v reads).model.lookup k = s.model.lookup k) ∧
          Dictionary.entries (s.removed key v reads).model.values = Dictionary.entries s.model.values ∧
          Dictionary.entries (s.removed key v reads).model.alts = Dictionary.entries s.model.alts) ∧
      ∀ (σ τ : Type) (findValue : σ → Text → Option α) (takeValue : σ → Text → Option α × σ)
        (findAlt : τ → Text → Option α) (takeAlt : τ → Text → Option α × τ) (m : Model σ τ α),
        letI := Mapping.ofFunctions findValue takeValue
        letI := Mapping.ofFunctions findAlt takeAlt
        m.Coherent := by
  intro s
  refine ⟨coherent _, fun _ h => values_stateAfter h, fun _ h => alts_stateAfter h, ?_, ?_⟩
  · intro key v reads hnew hreads
    have hvalues : ∀ op ∈ reads, op.writesValues = false := fun op hop => (hreads op hop).1
    have halts : ∀ op ∈ reads, op.writesAlts = false := fun op hop => (hreads op hop).2
    obtain ⟨hinserted, hremoved⟩ := lookup_removed (v := v) hnew hvalues halts
    refine ⟨hinserted, ?_, fun k => congrFun hremoved k, ?_, ?_⟩
    · rw [hremoved, (coherent s.model).lookup_of_alts key hnew]
    · rw [values_removed hvalues, LawfulDictionary.entries_remove_insert v hnew]
    · rw [alts_removed halts]
  · intro σ τ findValue takeValue findAlt takeAlt m
    let := Mapping.ofFunctions findValue takeValue
    let := Mapping.ofFunctions findAlt takeAlt
    have := lawfulMapping_ofFunctions findValue takeValue
    have := lawfulMapping_ofFunctions findAlt takeAlt
    exact coherent m

/-- The second of two alternatives with one key comes to light when the first is removed; a value hides it, but
not for long. -/
theorem coherent_stateAfter_hidden :
    let model : Model (Store Nat) (Store Nat) Nat :=
      ⟨.ofList .caseInsensitive [(['b'], 1)], .ofList .list [(['a'], 2), (['a'], 3)], fun _ => []⟩
    let s := stateAfter Operation.run (start model) [.onAlts (.remove ['a'])]
    (s.inserted ['a'] 7 [.lookup ['a'], .saveValues]).model.lookup ['a'] = some 7 ∧
      (s.removed ['a'] 7 [.lookup ['a'], .saveValues]).model.lookup ['a'] = some 3 ∧
      (stateAfter Operation.run s [.onAlts (.insert ['c'] 4)]).model.values = s.model.values ∧
      (stateAfter Operation.run s [.onValues (.insert ['c'] 4)]).model.alts = s.model.alts := by
  intro model s
  obtain ⟨-, hvalues, halts, hcomes, -⟩ := coherent_stateAfter model [.onAlts (.remove ['a'])]
  obtain ⟨hinserted, hremoved, -⟩ := hcomes ['a'] 7 [.lookup ['a'], .saveValues] (by decide +kernel)
    (List.forall_mem_cons.2 ⟨⟨rfl, rfl⟩, List.forall_mem_singleton.2 ⟨rfl, rfl⟩⟩)
  refine ⟨hinserted, hremoved.trans (by decide +kernel), ?_, ?_⟩
  · exact hvalues _ (List.forall_mem_singleton.2 rfl)
  · exact halts _ (List.forall_mem_singleton.2 rfl)

end Session

end Model

end TextTemplate
