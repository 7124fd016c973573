import Mathlib.Logic.Function.Basic
import TextTemplate.Proofs.Mapping.KeyLaws
import TextTemplate.Proofs.Transcript

/-!
# Runs of mappings

If keys are exact, what a dictionary finds after an operation is determined by what it found before (`Exact`).
So dictionaries that find the same, and list it, cannot be told apart in any run.  A list of entries is such a
dictionary for as long as no key is in it twice, which no operation brings about (`Store.run_laws`).
-/

namespace TextTemplate

variable {σ α : Type}

namespace Mapping.Operation

/-- The answer of a dictionary in which `find` finds values. -/
def answer (op : Operation α) (find : Text → Option α) : Outcome α :=
  match op with
  | insert key _ => .value (find key)
  | get key => .value (find key)
  | containsKey key => .holds (find key).isSome
  | remove key => .value (find key)

/-- What finds values after an operation, if keys are exact. -/
def update (op : Operation α) (find : Text → Option α) : Text → Option α :=
  match op with
  | insert key v => Function.update find key (some v)
  | remove key => Function.update find key none
  | _ => find

end Mapping.Operation

theorem Mapping.KeyLaws.run_fst [Dictionary σ α] {normal : Text → Text} {m : σ} (h : Mapping.KeyLaws normal m)
    (op : Mapping.Operation α) : (op.run m).1 = op.answer (Mapping.get? m) := by
  cases op with
  | insert key v => exact congrArg Outcome.value (h.insert_fst key v)
  | get => rfl
  | containsKey key => exact congrArg Outcome.holds (h.containsKey_eq key)
  | remove key => exact congrArg Outcome.value (h.remove_fst key)

/-- A dictionary finds what `find` finds, and lists it. -/
structure Describes [Dictionary σ α] (find : Text → Option α) (m : σ) : Prop where
  get?_eq : Mapping.get? m = find
  listing : Listing find (Dictionary.entries m)

/-- A dictionary goes on finding what the operations put there. -/
def Exact (σ : Type) {α : outParam Type} [Dictionary σ α] : Prop :=
  ∀ {find : Text → Option α} {m : σ} (op : Mapping.Operation α), Describes find m →
    Describes (op.update find) (op.run m).2

/-! ### Maps -/

namespace StoresUnder

variable [Dictionary σ α] {stored : σ → Text → Option α}

theorem describes (h : StoresUnder id stored) {find : Text → Option α} {m : σ} (hfind : stored m = find) :
    Describes find m := by
  subst hfind
  exact ⟨funext (h.get?_eq m), h.listing m⟩

theorem exact (h : StoresUnder id stored) : Exact σ := by
  intro find m op hm
  have hstored : stored m = find := (funext (h.get?_eq m)).symm.trans hm.get?_eq
  cases op with
  | insert key v =>
    apply h.describes
    funext k
    show stored (Dictionary.insert m key v).2 k = _
    rw [h.stored_insert, hstored, Mapping.Operation.update, Function.update_apply]
    exact if_congr eq_comm rfl rfl
  | get | containsKey => exact hm
  | remove key =>
    apply h.describes
    funext k
    show stored (Mapping.remove m key).2 k = _
    rw [h.stored_remove, hstored, Mapping.Operation.update, Function.update_apply]
    exact if_congr eq_comm rfl rfl

end StoresUnder

/-! ### Lists of entries -/

namespace EntryList

variable {m : EntryList α} {key : Text}

/-- No key is in the list twice. -/
def Distinct (m : EntryList α) : Prop := (m.toList.map Prod.fst).Nodup

theorem distinct_append_iff {es fs : List (Text × α)} :
    Distinct ⟨es ++ fs⟩ ↔ Distinct ⟨es⟩ ∧ Distinct ⟨fs⟩ ∧ ∀ e ∈ es, ∀ f ∈ fs, e.1 ≠ f.1 := by
  simp only [Distinct, List.map_append, List.nodup_append, List.forall_mem_map]

theorem get?_eq_none_iff : m.get? key = none ↔ ∀ e ∈ m.toList, e.1 ≠ key := by
  constructor
  · exact ne_of_get?_eq_none
  · intro h
    rw [get?, List.lookup_eq_none_iff]
    intro e he
    exact bne_iff_ne.2 (h e he).symm

namespace Distinct

theorem mem_iff (hm : m.Distinct) (key : Text) (v : α) : (key, v) ∈ m.toList ↔ m.get? key = some v := by
  rw [get?, List.lookup_eq_some_iff]
  constructor
  · intro hmem
    obtain ⟨before, after, hes⟩ := List.append_of_mem hmem
    obtain ⟨es⟩ := m
    subst hes
    refine ⟨before, after, rfl, ?_⟩
    intro e he
    exact bne_iff_ne.2 ((distinct_append_iff.1 hm).2.2 e he _ (List.mem_cons_self ..)).symm
  · rintro ⟨before, after, hes, -⟩
    rw [hes]
    exact List.mem_append_right _ (List.mem_cons_self ..)

theorem describes (hm : m.Distinct) {find : Text → Option α} (hfind : ∀ k, m.get? k = find k) :
    Describes find m := by
  obtain rfl : m.get? = find := funext hfind
  exact ⟨rfl, listing_sortEntries hm hm.mem_iff⟩

theorem remove (hm : m.Distinct) (key : Text) : (m.remove key).2.Distinct :=
  hm.sublist (List.eraseP_sublist.map Prod.fst)

theorem get?_remove_self (hm : m.Distinct) (key : Text) : (m.remove key).2.get? key = none := by
  rw [get?_eq_none_iff]
  obtain ⟨es⟩ := m
  show ∀ e ∈ es.eraseP fun e => e.1 = key, e.1 ≠ key
  induction es with
  | nil => simp
  | cons e es ih =>
    have hsplit := distinct_append_iff.1 (show Distinct ⟨[e] ++ es⟩ from hm)
    by_cases he : e.1 = key
    · rw [List.eraseP_cons_of_pos (by simpa using he)]
      intro f hf
      rw [← he]
      exact (hsplit.2.2 e (List.mem_singleton_self e) f hf).symm
    · rw [List.eraseP_cons_of_neg (by simpa using he), List.forall_mem_cons]
      exact ⟨he, ih hsplit.2.1⟩

private theorem insert_remove (hm : m.Distinct) (key : Text) (v : α) :
    (m.insert key v).2 = ((m.remove key).2.insert key v).2 :=
  (insert_of_absent v (hm.get?_remove_self key)).symm

theorem insert (hm : m.Distinct) (key : Text) (v : α) : (m.insert key v).2.Distinct := by
  have hnew := hm.get?_remove_self key
  rw [insert_remove hm, insert_of_absent v hnew, distinct_append_iff]
  refine ⟨hm.remove key, List.nodup_singleton _, ?_⟩
  intro e he f hf
  rw [List.mem_singleton.1 hf]
  exact ne_of_get?_eq_none hnew e he

theorem get?_insert_self (hm : m.Distinct) (key : Text) (v : α) : (m.insert key v).2.get? key = some v := by
  rw [insert_remove hm, get?_insert_of_absent v (hm.get?_remove_self key)]

end Distinct

theorem distinct_of_describes {find : Text → Option α} (h : Describes find m) : m.Distinct :=
  ((sortEntries_perm m.toList).map Prod.fst).nodup_iff.1 h.listing.nodup_keys

theorem exact : Exact (EntryList α) := by
  intro find m op h
  have hm := distinct_of_describes h
  obtain ⟨rfl, -⟩ := h
  cases op with
  | insert key v =>
    apply (hm.insert key v).describes
    intro k
    rw [Mapping.Operation.update, Function.update_apply]
    split
    · rename_i hk
      rw [hk, hm.get?_insert_self]
    · exact get?_insert_of_ne v (by assumption)
  | get | containsKey => exact hm.describes fun _ => rfl
  | remove key =>
    apply (hm.remove key).describes
    intro k
    rw [Mapping.Operation.update, Function.update_apply]
    split
    · rename_i hk
      rw [hk, hm.get?_remove_self]
    · exact get?_remove_of_ne (by assumption)

/-- Entries with new keys are inserted at the end, in their order. -/
theorem insertAll_of_distinct {es : List (Text × α)} (hes : Distinct ⟨m.toList ++ es⟩) :
    Dictionary.insertAll m es = ⟨m.toList ++ es⟩ := by
  induction es generalizing m with
  | nil => rw [List.append_nil]; rfl
  | cons e es ih =>
    have hnew : m.get? e.1 = none :=
      get?_eq_none_iff.2 fun e' he' => (distinct_append_iff.1 hes).2.2 e' he' e (List.mem_cons_self ..)
    have hinsert : (Dictionary.insert m e.1 e.2).2 = ⟨m.toList ++ [e]⟩ := insert_of_absent e.2 hnew
    rw [List.append_cons] at hes ⊢
    rw [Dictionary.insertAll_cons, hinsert, ih hes]

end EntryList

/-! ### Stores -/

namespace Embeds

variable {ρ : Type} [Dictionary ρ α] [Dictionary σ α] {wrap : ρ → σ} {find : Text → Option α} {m : ρ}

theorem run_snd (hw : Embeds wrap) (op : Mapping.Operation α) (m : ρ) :
    (op.run (wrap m)).2 = wrap (op.run m).2 := by
  cases op with
  | insert key v => exact congrArg Prod.snd (hw.insert_eq m key v)
  | get | containsKey => rfl
  | remove key => exact congrArg Prod.snd (hw.remove_eq m key)

theorem insertAll_eq (hw : Embeds wrap) (m : ρ) (es : List (Text × α)) :
    Dictionary.insertAll (wrap m) es = wrap (Dictionary.insertAll m es) := by
  induction es generalizing m with
  | nil => rfl
  | cons e es ih =>
    have hinsert := hw.run_snd (.insert e.1 e.2) m
    exact (congrArg (Dictionary.insertAll · es) hinsert).trans (ih _)

theorem describes_iff (hw : Embeds wrap) : Describes find (wrap m) ↔ Describes find m := by
  have hget : Mapping.get? (wrap m) = Mapping.get? m := funext (hw.get?_eq m)
  constructor
  · rintro ⟨hfind, hlist⟩
    exact ⟨hget ▸ hfind, hw.entries_eq m ▸ hlist⟩
  · rintro ⟨hfind, hlist⟩
    exact ⟨hget.trans hfind, (hw.entries_eq m).symm ▸ hlist⟩

theorem describes_run (hw : Embeds wrap) (hρ : Exact ρ) (op : Mapping.Operation α) (h : Describes find (wrap m)) :
    Describes (op.update find) (op.run (wrap m)).2 := by
  rw [hw.run_snd, hw.describes_iff]
  exact hρ op (hw.describes_iff.1 h)

end Embeds

namespace Store

variable {s t : Store α} {b b' : Backend}

/-! ### The kind of a store -/

theorem backend_run (op : Mapping.Operation α) (s : Store α) : (op.run s).2.backend = s.backend := by
  cases op with
  | insert | remove => cases s <;> rfl
  | get | containsKey => rfl

theorem backend_stateAfter (ops : List (Mapping.Operation α)) (s : Store α) :
    (stateAfter Mapping.Operation.run s ops).backend = s.backend :=
  stateAfter_induction (P := fun t => t.backend = s.backend) ops (fun op _ t ht => (backend_run op t).trans ht) rfl

theorem backend_empty (b : Backend) : (empty b : Store α).backend = b := by
  cases b <;> rfl

theorem backend_insertAll (es : List (Text × α)) (s : Store α) :
    (Dictionary.insertAll s es).backend = s.backend := by
  induction es generalizing s with
  | nil => rfl
  | cons e es ih => exact (ih _).trans (backend_run (.insert e.1 e.2) s)

theorem backend_ofList (b : Backend) (es : List (Text × α)) : (ofList b es).backend = b := by
  cases b with
  | list => rfl
  | _ => exact backend_insertAll es _

/-! ### Stores with exact keys -/

theorem describes_run (hs : s.backend ≠ .caseInsensitive) {find : Text → Option α} (op : Mapping.Operation α)
    (h : Describes find s) : Describes (op.update find) (op.run s).2 := by
  cases s with
  | caseInsensitive m => exact absurd rfl hs
  | hash m => exact Embeds.describes_run {} storesUnder_hashMap.exact op h
  | hashPacked m => exact Embeds.describes_run {} storesUnder_hashMap.exact op h
  | tree m => exact Embeds.describes_run {} (storesUnder_treeMap listing_tree).exact op h
  | treePacked m => exact Embeds.describes_run {} (storesUnder_treeMap listing_treePacked).exact op h
  | list m => exact Embeds.describes_run {} EntryList.exact op h

theorem describes_empty (hb : b ≠ .caseInsensitive) : Describes (fun _ => none) (empty b : Store α) := by
  cases b with
  | caseInsensitive => exact absurd rfl hb
  | hash =>
    show Describes _ (hash ∅)
    exact (Embeds.describes_iff {}).2 (storesUnder_hashMap.describes (funext fun _ => Std.HashMap.getElem?_empty))
  | hashPacked =>
    show Describes _ (hashPacked ∅)
    exact (Embeds.describes_iff {}).2 (storesUnder_hashMap.describes (funext fun _ => Std.HashMap.getElem?_empty))
  | tree =>
    show Describes _ (tree ∅)
    exact (Embeds.describes_iff {}).2
      ((storesUnder_treeMap listing_tree).describes (funext fun _ => Std.TreeMap.getElem?_emptyc))
  | treePacked =>
    show Describes _ (treePacked ∅)
    exact (Embeds.describes_iff {}).2
      ((storesUnder_treeMap listing_treePacked).describes (funext fun _ => Std.TreeMap.getElem?_emptyc))
  | list =>
    have hnil : (⟨[]⟩ : EntryList α).Distinct := List.nodup_nil
    show Describes _ (list ⟨[]⟩)
    exact (Embeds.describes_iff {}).2 (hnil.describes fun _ => rfl)

/-- Two stores with exact keys in which the same is found and listed. -/
structure Alike (s t : Store α) : Prop where
  left_exact : s.backend ≠ .caseInsensitive
  right_exact : t.backend ≠ .caseInsensitive
  described : ∃ find, Describes find s ∧ Describes find t

namespace Alike

theorem run (h : Alike s t) (op : Mapping.Operation α) :
    (op.run s).1 = (op.run t).1 ∧ Alike (op.run s).2 (op.run t).2 := by
  obtain ⟨hs, ht, find, hfs, hft⟩ := h
  constructor
  · rw [s.keyLaws.run_fst, t.keyLaws.run_fst, hfs.get?_eq, hft.get?_eq]
  · refine ⟨?_, ?_, _, describes_run hs op hfs, describes_run ht op hft⟩
    · rwa [backend_run]
    · rwa [backend_run]

theorem insertAll (h : Alike s t) (es : List (Text × α)) :
    Alike (Dictionary.insertAll s es) (Dictionary.insertAll t es) := by
  induction es generalizing s t with
  | nil => exact h
  | cons e es ih => exact ih (h.run (.insert e.1 e.2)).2

theorem entries_eq (h : Alike s t) : Dictionary.entries s = Dictionary.entries t := by
  obtain ⟨-, -, find, hfs, hft⟩ := h
  exact hfs.listing.unique hft.listing

theorem transcript_eq (h : Alike s t) (ops : List (Mapping.Operation α)) :
    transcript Mapping.Operation.run Dictionary.entries s ops =
      transcript Mapping.Operation.run Dictionary.entries t ops := by
  rw [transcript_map (R := Alike) id (fun op _ _ h => h.run op) (fun _ _ h => h.entries_eq) h, List.map_id]

end Alike

/-- A list of entries with different keys is filled like a store of any other kind. -/
theorem ofList_eq_insertAll {es : List (Text × α)} (hes : b = .list → (es.map Prod.fst).Nodup) :
    ofList b es = Dictionary.insertAll (empty b) es := by
  cases b with
  | list =>
    have hfilled : Dictionary.insertAll (⟨[]⟩ : EntryList α) es = ⟨es⟩ :=
      EntryList.insertAll_of_distinct (m := ⟨[]⟩) (hes rfl)
    have hall : Dictionary.insertAll (list ⟨[]⟩) es = list (Dictionary.insertAll ⟨[]⟩ es) :=
      Embeds.insertAll_eq {} _ es
    exact (hall.trans (congrArg list hfilled)).symm
  | _ => rfl

/-- What can be seen of a run: the entries at its start, and the answer to each operation with the entries after
it. -/
def seen (b : Backend) (es : List (Text × α)) (ops : List (Mapping.Operation α)) :
    List (Text × α) × List (Mapping.Outcome α × List (Text × α)) :=
  (Dictionary.entries (ofList b es), transcript Mapping.Operation.run Dictionary.entries (ofList b es) ops)

/-- In every state of every run, the laws of keys hold, and in a map nothing is found under a key that was
removed.  The runs of dictionaries with exact keys look the same, if there is no list of entries among them, or
no key in the list twice at the start. -/
theorem run_laws (es : List (Text × α)) (ops : List (Mapping.Operation α)) :
    (∀ b : Backend,
      let s : Store α := stateAfter Mapping.Operation.run (ofList b es) ops
      Mapping.KeyLaws b.normal s ∧
        (b ≠ .list → ∀ key, Mapping.get? (Mapping.remove s key).2 key = none)) ∧
    ∀ b b' : Backend, b ≠ .caseInsensitive → b' ≠ .caseInsensitive →
      (b = .list ∨ b' = .list → (es.map Prod.fst).Nodup) → seen b es ops = seen b' es ops := by
  constructor
  · intro b s
    have hs : s.backend = b := by
      rw [backend_stateAfter, backend_ofList]
    refine ⟨hs ▸ s.keyLaws, ?_⟩
    intro hb
    exact get?_remove_self (hs.trans_ne hb)
  · intro b b' hb hb' hes
    have hempty : Alike (empty b : Store α) (empty b') := by
      refine ⟨?_, ?_, _, describes_empty hb, describes_empty hb'⟩
      · rwa [backend_empty]
      · rwa [backend_empty]
    have halike := hempty.insertAll es
    rw [← ofList_eq_insertAll fun h => hes (.inl h), ← ofList_eq_insertAll fun h => hes (.inr h)] at halike
    rw [seen, seen, halike.entries_eq, halike.transcript_eq]

/-- In a case-insensitive map, `x` is found under `X` also when `k` is removed, and nothing is left under `k`.
A list of entries and a search tree take `k` and `K` for two keys, of which the other is left. -/
theorem run_laws_cases :
    let s : Store Nat := stateAfter Mapping.Operation.run (ofList .caseInsensitive [(['k'], 1), (['K'], 2)])
      [.insert ['x'] 3]
    Mapping.get? (Mapping.remove s ['k']).2 ['X'] = some 3 ∧
      Mapping.get? (Mapping.remove s ['k']).2 ['k'] = none ∧
      seen .list [(['k'], 1), (['K'], 2)] [.remove ['k']] = seen .tree [(['k'], 1), (['K'], 2)] [.remove ['k']] ∧
      (seen .tree [(['k'], 1), (['K'], 2)] [.remove ['k']]).2.map Prod.snd = [[(['K'], 2)]] := by
  intro s
  obtain ⟨hlaws, hgone⟩ := (run_laws [(['k'], 1), (['K'], 2)] [.insert ['x'] 3]).1 .caseInsensitive
  have hseen := (run_laws [(['k'], 1), (['K'], 2)] [.remove ['k']]).2 .list .tree (by decide) (by decide)
    (fun _ => by decide)
  refine ⟨(hlaws.get?_remove_of_ne (by decide +kernel)).trans ?_, hgone (by decide) ['k'], hseen, ?_⟩
  · decide +kernel
  · rw [← hseen]
    decide +kernel

end Store

end TextTemplate
