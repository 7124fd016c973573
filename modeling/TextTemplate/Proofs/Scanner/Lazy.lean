import TextTemplate.Proofs.Scanner.Lockstep
import TextTemplate.Proofs.Scanner.Lookup
import TextTemplate.Proofs.Scanner.Search

/-!
# Lookups when they are needed

A scan looks a name up in the call whose block depends on it, and in no other (`Pull.needsLookup`).  So the
number of lookups is known at every block, and the blocks up to there depend on the answers so far only.  A
failed lookup is reported by the call that makes it, and the name follows in the next call (`scan_lazy`).
-/

namespace TextTemplate

/-- The name of a token, `t` being the document behind its opening delimiter: what is in front of the first
closing delimiter, if there is one and the name is not empty. -/
def Delimiters.closedName? (δ : Delimiters) (t : Text) : Option Text :=
  (Text.findFrom? δ.closing t 0).bind fun n => Text.nonempty? (t.take n)

namespace Pull

/-- The block depends on a lookup: it is a replacement, or the opening delimiter of a token that is closed and
has a name without replacement. -/
def needsLookup (δ : Delimiters) (resolve : Resolver) (p : Pull) : Bool :=
  match p.block with
  | some (.value _) => true
  | some (.delimiter _) => (δ.closedName? (p.scanner.outstanding δ)).any fun name => (resolve name).isNone
  | _ => false

/-- What a call of a scan has to do with lookups, between the calls `before` and `after`. -/
structure Accurate (δ : Delimiters) (resolve : Resolver) (document : Text) (before : List Pull) (p : Pull)
    (after : List Pull) : Prop where
  /-- The blocks so far stand for the document up to here, and what is outstanding is the document behind them. -/
  document_eq : document = (before ++ [p]).flatMap (source δ) ++ p.scanner.outstanding δ
  length_lookups : p.lookups.length = (p.needsLookup δ resolve).toNat
  /-- The failed lookups are reported by the call that makes them. -/
  reports : p.unresolved.map Unresolved.token = p.lookups.filter fun name => (resolve name).isNone
  /-- What is reported is a token in its place. -/
  place : ∀ u ∈ p.unresolved, document.slice? u.offset (u.offset + u.token.byteLength) = some u.token ∧
    Lookup.Sound δ resolve document ⟨u.token, u.offset, false⟩
  /-- The name itself comes next. -/
  name_next : ∀ u ∈ p.unresolved, ∃ s rest, after = .quiet (some (.text u.token)) s :: rest

end Pull

namespace Pull

variable {δ : Delimiters} {resolve : Resolver} {p : Pull}

theorem needsLookup_of_ofText? {t : Text} (h : p.block = Block.ofText? t) : p.needsLookup δ resolve = false := by
  rw [needsLookup, h, Block.ofText?_eq]
  split
  · rename_i hblock
    split at hblock <;> cases hblock
  · rename_i hblock
    split at hblock <;> cases hblock
  · rfl

theorem needsLookup_of_delimiter {t : Text} {name : Option Text} (h : p.block = some (.delimiter t))
    (hname : δ.closedName? (p.scanner.outstanding δ) = name) :
    p.needsLookup δ resolve = name.any fun name => (resolve name).isNone := by
  rw [needsLookup, h, ← hname]

end Pull

namespace Scanner

variable {δ : Delimiters} {resolve : Resolver} {document : Text} {s : Scanner} {p : Pull}

/-! ### Single moves -/

private theorem closedName?_append {name after : Text}
    (h : ∀ k < name.length, ¬ δ.closing <+: (name ++ (δ.closing ++ after)).drop k) :
    δ.closedName? (name ++ (δ.closing ++ after)) = Text.nonempty? name := by
  rw [Delimiters.closedName?, Text.findFrom?_append (List.prefix_append _ _) h, Option.bind_some, List.take_left]

/-- A move makes the lookup that its block needs. -/
theorem Move.length_lookups (h : Move δ resolve s p) (hv : s.Valid δ) :
    p.lookups.length = (p.needsLookup δ resolve).toNat := by
  cases h with
  | pending | step | resolved | exhausted => rfl
  | opening => exact (congrArg Bool.toNat (Pull.needsLookup_of_ofText? rfl)).symm
  | lastText => exact (congrArg Bool.toNat (Pull.needsLookup_of_ofText? rfl)).symm
  | @blank after hp hph hr hn =>
    -- behind the delimiter the document goes on with the closing one
    have hnone : δ.closedName?
        (outstanding δ { s with phase := .literal, passed := s.passed.join s.span, span := .empty }) = none := by
      rw [outstanding, hp, hv.finished_eq_false .token hr, hr]
      exact @closedName?_append δ [] after (fun k hk => absurd hk (Nat.not_lt_zero k))
    rw [Pull.needsLookup_of_delimiter rfl hnone]
    rfl
  | @unresolved after hp hph hr hn hval =>
    have hclear := hv.clear
    rw [hph, hr] at hclear
    have hname : δ.closedName? (outstanding δ
        { s with
          phase := .literal, passed := s.passed.join s.span, span := .empty, pending := some s.span.toText }) =
        some s.span.toText := by
      rw [outstanding, hv.finished_eq_false .token hr, hr]
      exact (closedName?_append hclear).trans (if_neg hn)
    rw [Pull.needsLookup_of_delimiter rfl hname, Option.any_some, hval]
    rfl
  | lastName hp hr hf hph =>
    have hnone : δ.closedName? (outstanding δ
        { s with finished := true, pending := Text.nonempty? s.span.toText }) = none := by
      have hfind := hv.findFrom?_eq_none hr
      rw [hph, hr, List.append_nil] at hfind
      rw [outstanding, Text.getD_nonempty?, if_pos rfl, List.append_nil, Delimiters.closedName?]
      exact congrArg (Option.bind · _) hfind
    rw [Pull.needsLookup_of_delimiter rfl hnone]
    rfl

theorem Move.reports (h : Move δ resolve s p) :
    p.unresolved.map Unresolved.token = p.lookups.filter fun name => (resolve name).isNone := by
  cases h with
  | resolved _ _ _ _ hval | unresolved _ _ _ _ hval => simp [hval]
  | _ => rfl

/-- A name that is reported is pending. -/
theorem Move.pending_of_unresolved (h : Move δ resolve s p) :
    ∀ u ∈ p.unresolved, p.block ≠ none ∧ p.scanner.pending = some u.token := by
  intro u hu
  cases h with
  | unresolved =>
    obtain rfl := List.mem_singleton.1 hu
    exact ⟨Option.some_ne_none _, rfl⟩
  | _ => cases hu

theorem Move.place (h : Move δ resolve s p) (hs : s.Placed δ document) :
    ∀ u ∈ p.unresolved, Lookup.Sound δ resolve document ⟨u.token, u.offset, false⟩ := by
  intro u hu
  rw [h.unresolved_eq, List.mem_map] at hu
  obtain ⟨⟨name, offset, resolved⟩, hw, rfl⟩ := hu
  obtain ⟨hw, hno⟩ := List.mem_filter.1 hw
  rw [Bool.not_eq_true'] at hno
  subst hno
  exact (h.looks _ hw).sound hs

/-! ### Calls of a run -/

theorem exists_pulls_eq_cons (δ : Delimiters) (resolve : Resolver) (s : Scanner) :
    ∃ after, s.pulls δ resolve = next δ resolve s :: after := by
  rw [pulls]
  split
  · exact ⟨_, rfl⟩
  · exact ⟨_, rfl⟩

theorem Call.outstanding_eq (h : Call δ resolve s p) (hv : s.Valid δ) :
    s.outstanding δ = p.source δ ++ p.scanner.outstanding δ := by
  induction h with
  | silent hm _ _ ih => exact (hm.outstanding_eq hv).trans (ih (hm.valid hv))
  | answer hm _ => exact hm.outstanding_eq hv

/-- At every call of a run, the blocks up to there stand for what is not outstanding any more. -/
theorem outstanding_of_pulls_eq {before after : List Pull} (hv : s.Valid δ)
    (h : s.pulls δ resolve = before ++ p :: after) :
    s.outstanding δ = (before ++ [p]).flatMap (Pull.source δ) ++ p.scanner.outstanding δ := by
  have hc := call_next δ resolve s
  induction before generalizing s with
  | nil =>
    obtain ⟨rest, hrest⟩ := exists_pulls_eq_cons δ resolve s
    rw [(List.cons.inj (hrest.symm.trans h)).1] at hc
    rw [hc.outstanding_eq hv]
    simp
  | cons q before ih =>
    rw [pulls] at h
    split at h
    · have hnil := (List.cons.inj h).2
      simp at hnil
    · obtain ⟨rfl, hrest⟩ := List.cons.inj h
      rw [hc.outstanding_eq hv, ih (hc.valid hv) hrest (call_next δ resolve _), List.cons_append, List.flatMap_cons,
        List.append_assoc]

/-- The name of a failed lookup is the next block. -/
theorem pulls_of_unresolved {before after : List Pull} (hs : s.Placed δ document)
    (h : s.pulls δ resolve = before ++ p :: after) :
    ∀ u ∈ p.unresolved, ∃ s' rest, after = .quiet (some (.text u.token)) s' :: rest := by
  intro u hu
  have hmem : p ∈ s.pulls δ resolve := by
    rw [h]
    exact List.mem_append_right _ (List.mem_cons_self ..)
  obtain ⟨s', -, hm, -⟩ := exists_move_of_mem_pulls hs p hmem
  obtain ⟨hb, hpending⟩ := hm.pending_of_unresolved u hu
  rw [pulls_of_eq_append h hb, pulls_of_move (.pending hpending)]
  exact ⟨_, _, if_neg (Option.some_ne_none _)⟩

/-! ### Counting -/

theorem blocks_take_pulls (δ : Delimiters) (resolve : Resolver) (s : Scanner) (k : Nat) :
    Pull.blocks ((s.pulls δ resolve).take k) = (Pull.blocks (s.pulls δ resolve)).take k := by
  fun_induction pulls δ resolve s generalizing k with
  | case1 s p hb =>
    have hnone : Pull.blocks [p] = [] := List.filterMap_cons_none hb
    cases k with
    | zero => rfl
    | succ k => rw [List.take_succ_cons, List.take_nil, hnone, List.take_nil]
  | case2 s p hb ih =>
    obtain ⟨b, hsome⟩ := Option.ne_none_iff_exists'.1 hb
    cases k with
    | zero => rfl
    | succ k =>
      rw [List.take_succ_cons, Pull.blocks, Pull.blocks, List.filterMap_cons_some hsome,
        List.filterMap_cons_some hsome, List.take_succ_cons, ← Pull.blocks, ← Pull.blocks, ih]

/-- Every block comes with the lookups of the calls up to it. -/
theorem blocksCounted_pulls (δ : Delimiters) (resolve : Resolver) (s : Scanner) (n k : Nat) :
    (Pull.blocksCounted n (s.pulls δ resolve))[k]? = (Pull.blocks (s.pulls δ resolve))[k]?.map fun b =>
      (b, n + (Pull.names ((s.pulls δ resolve).take (k + 1))).length) := by
  fun_induction pulls δ resolve s generalizing n k with
  | case1 s p hb =>
    simp only [Pull.blocksCounted, Pull.blocks, List.filterMap_cons_none hb, hb]
    rfl
  | case2 s p hb ih =>
    obtain ⟨b, hsome⟩ := Option.ne_none_iff_exists'.1 hb
    simp only [Pull.blocksCounted, hsome]
    rw [Pull.blocks, List.filterMap_cons_some hsome, List.take_succ_cons, Pull.names, List.flatMap_cons,
      List.length_append]
    cases k with
    | zero => rfl
    | succ k =>
      rw [List.getElem?_cons_succ, List.getElem?_cons_succ, ih, Nat.add_assoc]
      rfl

end Scanner

theorem Pull.length_names {ps : List Pull} {needs : Pull → Bool}
    (h : ∀ p ∈ ps, p.lookups.length = (needs p).toNat) : (names ps).length = ps.countP needs := by
  induction ps with
  | nil => rfl
  | cons p ps ih =>
    rw [List.forall_mem_cons] at h
    rw [names, List.flatMap_cons, List.length_append, h.1, List.countP_cons, ← ih h.2, Nat.add_comm, names]
    cases needs p with
    | false => rfl
    | true => rfl

namespace Scanner

variable {δ : Delimiters} {r₁ r₂ : Resolver} {s : Scanner}

/-! ### Prefixes of a run -/

/-- The calls up to some point depend on the answers to the lookups up to there only. -/
theorem take_pulls_eq {k : Nat} (h : ∀ name ∈ Pull.names ((s.pulls δ r₁).take k), r₁ name = r₂ name) :
    (s.pulls δ r₂).take k = (s.pulls δ r₁).take k := by
  induction k generalizing s with
  | zero => rfl
  | succ k ih =>
    -- the first call is the same, so the next one starts in the same state
    have hfirst : ∀ name ∈ (next δ r₁ s).lookups, r₁ name = r₂ name := by
      obtain ⟨after, hafter⟩ := exists_pulls_eq_cons δ r₁ s
      rw [hafter, List.take_succ_cons, Pull.names, List.flatMap_cons, List.forall_mem_append] at h
      exact h.1
    have hnext : next δ r₁ s = next δ r₂ s := by
      refine (next_lockstep ?_).eq_of_agree hfirst
      intro name hname
      rw [hfirst name hname]
    rw [pulls] at h
    rw [pulls, pulls.eq_def δ r₁, ← hnext]
    dsimp only at h ⊢
    split
    · rfl
    · rename_i hb
      rw [dif_neg hb, List.take_succ_cons, Pull.names, List.flatMap_cons, List.forall_mem_append] at h
      rw [List.take_succ_cons, List.take_succ_cons, ih h.2]

end Scanner

/-- A scan looks up what the block of a call depends on, in that call.  Every call reports what it looked up in
vain.  Behind the last call there is nothing to do.  So the lookups up to a block are counted by the blocks up
to there, and these blocks depend on the answers to these lookups only. -/
theorem scan_lazy (δ : Delimiters) (resolve : Resolver) (document : Text) :
    (∀ before p after, scan δ resolve document = before ++ p :: after →
      p.Accurate δ resolve document before after) ∧
    (∀ p ∈ scan δ resolve document, p.block = none → p.scanner.next δ resolve = .quiet none p.scanner) ∧
    (∀ k, Pull.blocks ((scan δ resolve document).take k) = (Pull.blocks (scan δ resolve document)).take k ∧
      (Pull.blocksCounted 0 (scan δ resolve document))[k]? =
        (Pull.blocks (scan δ resolve document))[k]?.map fun b =>
          (b, ((scan δ resolve document).take (k + 1)).countP (Pull.needsLookup δ resolve))) ∧
    ∀ k r, (∀ name ∈ Pull.names ((scan δ resolve document).take k), resolve name = r name) →
      (scan δ r document).take k = (scan δ resolve document).take k ∧
        (Pull.blocks (scan δ r document)).take k = (Pull.blocks (scan δ resolve document)).take k := by
  have hstart := Scanner.placed_start δ document
  have hmove := @Scanner.exists_move_of_mem_pulls δ resolve document _ hstart
  refine ⟨?_, ?_, ?_, ?_⟩
  · intro before p after h
    obtain ⟨s, hs, hm, -⟩ := hmove p (by rw [← scan, h]; simp)
    have hplace := hm.place hs
    refine ⟨Scanner.outstanding_of_pulls_eq hstart.valid h, hm.length_lookups hs.valid, hm.reports, ?_,
      Scanner.pulls_of_unresolved hstart h⟩
    intro u hu
    refine ⟨Text.slice?_eq_some_iff.2 ?_, hplace u hu⟩
    obtain ⟨before, behind, hdoc, hlen⟩ := (hplace u hu).name_starts
    exact ⟨before, behind, hdoc, hlen, by rw [Text.byteLength_append, hlen]⟩
  · intro p hp hb
    obtain ⟨s, hs, hm, hr⟩ := hmove p hp
    have hfinished := hm.finished_eq_true (hr hb) hb
    exact Scanner.next_of_finished ((hm.valid hs.valid).rest_of_finished hfinished) hfinished
      (hm.pending_eq_none hb)
  · intro k
    refine ⟨Scanner.blocks_take_pulls δ resolve _ k, ?_⟩
    have hlength : ∀ p ∈ (scan δ resolve document).take (k + 1),
        p.lookups.length = (p.needsLookup δ resolve).toNat := by
      intro p hp
      obtain ⟨s, hs, hm, -⟩ := hmove p (List.mem_of_mem_take hp)
      exact hm.length_lookups hs.valid
    rw [← Pull.length_names hlength, scan, Scanner.blocksCounted_pulls]
    simp only [Nat.zero_add]
  · intro k r h
    have htake : (scan δ r document).take k = (scan δ resolve document).take k := Scanner.take_pulls_eq h
    refine ⟨htake, ?_⟩
    rw [scan, scan, ← Scanner.blocks_take_pulls, ← Scanner.blocks_take_pulls, ← scan, ← scan, htake]

/-- The first two blocks do not depend on the second name, whose token is closed only behind them. -/
theorem scan_lazy_reopened :
    (Pull.blocks (scan .default .nothing ['#', '#', 'a', '#', '#', 'b', '#', '#'])).take 2 =
      (Pull.blocks (scan .default (fun name => if name = ['b'] then some ['B'] else none)
        ['#', '#', 'a', '#', '#', 'b', '#', '#'])).take 2 := by
  have hnames : Pull.names ((scan .default (fun name => if name = ['b'] then some ['B'] else none)
      ['#', '#', 'a', '#', '#', 'b', '#', '#']).take 2) = [['a']] := by decide +kernel
  refine ((scan_lazy .default _ _).2.2.2 2 .nothing ?_).2
  rw [hnames]
  decide

end TextTemplate
