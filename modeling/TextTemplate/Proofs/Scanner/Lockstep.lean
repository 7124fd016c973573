import TextTemplate.Proofs.Scanner.Move
import TextTemplate.Render

/-!
# Two scans in lockstep

What a token is replaced by has no influence on where a scan goes: it only matters whether the name resolves.
Two scans of a document whose resolvers resolve the same names, among those that the first scan looks up, go
through the same states, and differ in the values they yield and in nothing else (`scan_lockstep`).
-/

namespace TextTemplate

variable {δ : Delimiters} {r₁ r₂ : Resolver}

/-- Two blocks are the same text or delimiter, or the two replacements of one of the `names`. -/
inductive Block.Alike (r₁ r₂ : Resolver) (names : List Text) : Block → Block → Prop
  | text (t : Text) : Alike r₁ r₂ names (.text t) (.text t)
  | delimiter (t : Text) : Alike r₁ r₂ names (.delimiter t) (.delimiter t)
  | value {name v w : Text} (hn : name ∈ names) (h₁ : r₁ name = some v) (h₂ : r₂ name = some w) :
      Alike r₁ r₂ names (.value v) (.value w)

namespace Pull

/-- Two calls are the same, or yield the two replacements of a name and are the same apart from that. -/
inductive Lockstep (r₁ r₂ : Resolver) : Pull → Pull → Prop
  | same {p : Pull} (h : ∀ v, p.block ≠ some (.value v)) : Lockstep r₁ r₂ p p
  | value {name v w : Text} {s : Scanner} (h₁ : r₁ name = some v) (h₂ : r₂ name = some w) :
      Lockstep r₁ r₂ ⟨some (.value v), [name], [], s⟩ ⟨some (.value w), [name], [], s⟩

namespace Lockstep

variable {p q : Pull}

theorem lookups_eq (h : Lockstep r₁ r₂ p q) : p.lookups = q.lookups := by
  cases h with
  | same => rfl
  | value => rfl

theorem unresolved_eq (h : Lockstep r₁ r₂ p q) : p.unresolved = q.unresolved := by
  cases h with
  | same => rfl
  | value => rfl

theorem scanner_eq (h : Lockstep r₁ r₂ p q) : p.scanner = q.scanner := by
  cases h with
  | same => rfl
  | value => rfl

theorem eq_of_block_eq_none (h : Lockstep r₁ r₂ p q) (hb : p.block = none) : p = q := by
  cases h with
  | same => rfl
  | value => cases hb

theorem block_ne_none (h : Lockstep r₁ r₂ p q) (hb : p.block ≠ none) : q.block ≠ none := by
  cases h with
  | same => exact hb
  | value => simp

theorem eq_of_agree (h : Lockstep r₁ r₂ p q) (ha : ∀ name ∈ p.lookups, r₁ name = r₂ name) : p = q := by
  cases h with
  | same => rfl
  | @value name v w s h₁ h₂ =>
    have hname := ha name (List.mem_singleton_self name)
    rw [h₁, h₂] at hname
    cases hname
    rfl

end Lockstep

/-! ### Lists of calls in lockstep -/

variable {ps qs : List Pull}

/-- What calls in lockstep have in common, so have lists of them. -/
private theorem flatMap_eq {α : Type} {part : Pull → List α} (hpart : ∀ {p q}, Lockstep r₁ r₂ p q → part p = part q)
    (h : List.Forall₂ (Lockstep r₁ r₂) ps qs) : ps.flatMap part = qs.flatMap part := by
  induction h with
  | nil => rfl
  | cons hpq _ ih => rw [List.flatMap_cons, List.flatMap_cons, hpart hpq, ih]

private theorem blocks_alike (h : List.Forall₂ (Lockstep r₁ r₂) ps qs) {ns : List Text}
    (hns : ∀ name ∈ names ps, name ∈ ns) : List.Forall₂ (Block.Alike r₁ r₂ ns) (blocks ps) (blocks qs) := by
  induction h with
  | nil => exact .nil
  | @cons p q ps qs hpq _ ih =>
    rw [names, List.flatMap_cons, List.forall_mem_append] at hns
    have ih := ih hns.2
    cases hpq with
    | same hno =>
      cases hb : p.block with
      | none =>
        rw [blocks, blocks, List.filterMap_cons_none hb, List.filterMap_cons_none hb]
        exact ih
      | some b =>
        rw [blocks, blocks, List.filterMap_cons_some hb, List.filterMap_cons_some hb]
        cases b with
        | text t => exact .cons (.text t) ih
        | delimiter t => exact .cons (.delimiter t) ih
        | value v => exact absurd hb (hno v)
    | value h₁ h₂ => exact .cons (.value (hns.1 _ (List.mem_singleton_self _)) h₁ h₂) ih

private theorem eq_of_agree (h : List.Forall₂ (Lockstep r₁ r₂) ps qs) (ha : ∀ name ∈ names ps, r₁ name = r₂ name) :
    ps = qs := by
  induction h with
  | nil => rfl
  | cons hpq _ ih =>
    rw [names, List.flatMap_cons, List.forall_mem_append] at ha
    rw [hpq.eq_of_agree ha.1, ih ha.2]

end Pull

namespace Scanner

open Pull (Lockstep)

variable {s : Scanner}

private theorem literalTurn_block_ne_value (s : Scanner) (v : Text) :
    (literalTurn δ s).block ≠ some (.value v) := by
  unfold literalTurn
  split
  · simp [Pull.quiet]
  · dsimp only [Pull.quiet]
    split <;> simp

private theorem finish_block_ne_value (s : Scanner) (v : Text) : (finish δ s).block ≠ some (.value v) := by
  unfold finish
  split
  · simp [Pull.quiet]
  · dsimp only
    split
    · simp [Pull.quiet]
    · simp [Pull.quiet]

private theorem tokenTurn_lockstep
    (h : ∀ name ∈ (tokenTurn δ r₁ s).lookups, (r₁ name).isSome = (r₂ name).isSome) :
    Lockstep r₁ r₂ (tokenTurn δ r₁ s) (tokenTurn δ r₂ s) := by
  unfold tokenTurn at h ⊢
  cases hc : δ.closing.isPrefixOf? s.rest with
  | none => exact .same (by simp [Pull.quiet])
  | some after =>
    rw [hc] at h
    dsimp only at h ⊢
    by_cases hn : s.span.toText = []
    · rw [if_pos hn, if_pos hn]
      exact .same (by simp [Pull.quiet])
    · rw [if_neg hn] at h ⊢
      rw [if_neg hn]
      -- the two resolvers are compared at the only name that the turn looks up
      cases h₁ : r₁ s.span.toText with
      | none =>
        rw [h₁] at h
        have hsome := h _ (List.mem_singleton_self _)
        rw [h₁, Option.isSome_none, eq_comm, Option.isSome_eq_false_iff, Option.isNone_iff_eq_none] at hsome
        rw [hsome]
        exact .same (by simp)
      | some v =>
        rw [h₁] at h
        have hsome := h _ (List.mem_singleton_self _)
        rw [h₁, Option.isSome_some, eq_comm, Option.isSome_iff_exists] at hsome
        obtain ⟨w, h₂⟩ := hsome
        rw [h₂]
        exact .value h₁ h₂

private theorem turn_lockstep (h : ∀ name ∈ (turn δ r₁ s).lookups, (r₁ name).isSome = (r₂ name).isSome) :
    Lockstep r₁ r₂ (turn δ r₁ s) (turn δ r₂ s) := by
  unfold turn at h ⊢
  cases hph : s.phase with
  | literal => exact .same (literalTurn_block_ne_value s)
  | token =>
    rw [hph] at h
    exact tokenTurn_lockstep h

private theorem advance_lockstep (hp : s.pending = none)
    (h : ∀ name ∈ (advance δ r₁ s).lookups, (r₁ name).isSome = (r₂ name).isSome) :
    Lockstep r₁ r₂ (advance δ r₁ s) (advance δ r₂ s) := by
  fun_induction advance δ r₁ s with
  | case1 s hr =>
    rw [advance, dif_pos hr]
    exact .same (finish_block_ne_value s)
  | case2 s hr p hb ih =>
    have hm : Move δ r₁ s p := move_turn hp hr
    have hq := hm.eq_quiet hb
    -- a silent turn looks nothing up, so that the other scan takes the same turn
    have hturn : p = turn δ r₂ s := by
      refine (turn_lockstep ?_).eq_of_block_eq_none hb
      intro name hname
      rw [show turn δ r₁ s = p from rfl, hq] at hname
      cases hname
    rw [advance.eq_def δ r₂ s, dif_neg hr, ← hturn, dif_pos hb]
    rw [hq] at h ⊢
    exact ih (hm.pending_eq_none hb) h
  | case3 s hr p hb =>
    have hlock : Lockstep r₁ r₂ p (turn δ r₂ s) := turn_lockstep h
    rw [advance.eq_def δ r₂ s, dif_neg hr, dif_neg (hlock.block_ne_none hb)]
    exact hlock

/-- A call of one scan is in lockstep with a call of the other in the same state. -/
theorem next_lockstep (h : ∀ name ∈ (next δ r₁ s).lookups, (r₁ name).isSome = (r₂ name).isSome) :
    Lockstep r₁ r₂ (next δ r₁ s) (next δ r₂ s) := by
  unfold next at h ⊢
  cases hp : s.pending with
  | some text => exact .same (by simp [Pull.quiet])
  | none =>
    rw [hp] at h
    exact advance_lockstep hp h

/-- From the same state on, the calls of the two scans are in lockstep. -/
theorem pulls_lockstep (h : ∀ name ∈ Pull.names (s.pulls δ r₁), (r₁ name).isSome = (r₂ name).isSome) :
    List.Forall₂ (Lockstep r₁ r₂) (s.pulls δ r₁) (s.pulls δ r₂) := by
  fun_induction pulls δ r₁ s with
  | case1 s p hb =>
    -- the last call of one scan is the last call of the other
    have hlock : Lockstep r₁ r₂ p (next δ r₂ s) := by
      apply next_lockstep
      intro name hname
      exact h name (by simpa [Pull.names] using hname)
    rw [pulls.eq_def δ r₂ s, ← hlock.eq_of_block_eq_none hb, dif_pos hb]
    exact .cons (hlock.eq_of_block_eq_none hb ▸ hlock) .nil
  | case2 s p hb ih =>
    rw [Pull.names, List.flatMap_cons, List.forall_mem_append] at h
    have hlock : Lockstep r₁ r₂ p (next δ r₂ s) := next_lockstep h.1
    rw [pulls.eq_def δ r₂ s, dif_neg (hlock.block_ne_none hb), ← hlock.scanner_eq]
    exact .cons hlock (ih h.2)

/-- Two scans whose resolvers agree on what the first looks up are the same. -/
theorem pulls_eq_of_agree (h : ∀ name ∈ Pull.names (s.pulls δ r₁), r₁ name = r₂ name) :
    s.pulls δ r₁ = s.pulls δ r₂ := by
  refine Pull.eq_of_agree (pulls_lockstep ?_) h
  intro name hname
  rw [h name hname]

end Scanner

/-- If two resolvers resolve the same of the names that are looked up with the first, then the calls of the two
scans are in lockstep: the lookups and the unresolved tokens are the same, and so are the blocks apart from the
values, which are the replacements of the same name.  If the two agree on these names, the renderings are the
same. -/
theorem scan_lockstep {document : Text}
    (h : ∀ name ∈ Pull.names (scan δ r₁ document), (r₁ name).isSome = (r₂ name).isSome) :
    List.Forall₂ (Pull.Lockstep r₁ r₂) (scan δ r₁ document) (scan δ r₂ document) ∧
      Pull.names (scan δ r₁ document) = Pull.names (scan δ r₂ document) ∧
      Pull.leftovers (scan δ r₁ document) = Pull.leftovers (scan δ r₂ document) ∧
      List.Forall₂ (Block.Alike r₁ r₂ (Pull.names (scan δ r₁ document)))
        (Pull.blocks (scan δ r₁ document)) (Pull.blocks (scan δ r₂ document)) ∧
      ((∀ name ∈ Pull.names (scan δ r₁ document), r₁ name = r₂ name) →
        render δ r₁ document = render δ r₂ document) := by
  have hlock : List.Forall₂ (Pull.Lockstep r₁ r₂) (scan δ r₁ document) (scan δ r₂ document) :=
    Scanner.pulls_lockstep h
  refine ⟨hlock, Pull.flatMap_eq Pull.Lockstep.lookups_eq hlock, Pull.flatMap_eq Pull.Lockstep.unresolved_eq hlock,
    Pull.blocks_alike hlock (fun _ hn => hn), ?_⟩
  intro ha
  rw [render, render, Pull.eq_of_agree hlock ha]

/-- A value that looks like a token, and an entry for the name of that token, are of no consequence. -/
theorem scan_lockstep_tokenLike :
    Pull.names (scan .default (fun name => if name = ['b'] then some ['#', '#', 'c', '#', '#'] else none)
        ['#', '#', 'a', '#', '#', 'b', '#', '#']) =
      Pull.names (scan .default (fun name => if name = ['b'] ∨ name = ['c'] then some [] else none)
        ['#', '#', 'a', '#', '#', 'b', '#', '#']) := by
  have hnames : Pull.names (scan .default
      (fun name => if name = ['b'] then some ['#', '#', 'c', '#', '#'] else none)
      ['#', '#', 'a', '#', '#', 'b', '#', '#']) = [['a'], ['b']] := by decide +kernel
  refine (scan_lockstep ?_).2.1
  rw [hnames]
  decide

end TextTemplate
