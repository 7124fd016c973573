import TextTemplate.Proofs.CaseInsensitiveMap.Entries
import TextTemplate.Proofs.Mapping.Listing
import TextTemplate.Proofs.Text.Uppercase

/-!
# Reachable maps

Whatever is done to a map, the keys it stores are in upper case (`Reachable.folded`), since upper-casing twice
is upper-casing once.  So every entry can be found under the key it is listed with, and a map is determined by
what is found in it: two maps are equal if and only if the same is found in both (`Reachable.extensional`).
-/

namespace TextTemplate

namespace CaseInsensitiveMap

variable {α : Type} {m n : CaseInsensitiveMap α}

/-- The maps that come out of operations on maps, from the one without entries on. -/
inductive Reachable : CaseInsensitiveMap α → Prop
  | empty : Reachable empty
  | insert {m : CaseInsensitiveMap α} (h : Reachable m) (key : Text) (v : α) : Reachable (m.insert key v).2
  | modify {m : CaseInsensitiveMap α} (h : Reachable m) (key : Text) (f : α → α) : Reachable (m.modify key f).2
  | remove {m : CaseInsensitiveMap α} (h : Reachable m) (key : Text) : Reachable (m.remove key).2
  | extend {m : CaseInsensitiveMap α} (h : Reachable m) (es : List (Text × α)) : Reachable (m.extend es)

theorem reachable_ofList (es : List (Text × α)) : Reachable (ofList es) := .extend .empty es

/-! ### Stored keys -/

/-- All stored keys are in upper case. -/
def Folded (m : CaseInsensitiveMap α) : Prop := ∀ key ∈ m.stored, Text.upper key = key

theorem folded_empty : (empty : CaseInsensitiveMap α).Folded := by
  intro key hkey
  exact absurd hkey Std.TreeMap.not_mem_emptyc

theorem Folded.insert (h : m.Folded) (key : Text) (v : α) : (m.insert key v).2.Folded := by
  intro k hk
  rcases Std.TreeMap.mem_insert.1 hk with heq | hk
  · rw [← Std.compare_eq_iff_eq.1 heq, Text.upper_upper]
  · exact h k hk

theorem Folded.modify (h : m.Folded) (key : Text) (f : α → α) : (m.modify key f).2.Folded :=
  fun k hk => h k (Std.TreeMap.mem_modify.1 hk)

theorem Folded.remove (h : m.Folded) (key : Text) : (m.remove key).2.Folded :=
  fun k hk => h k (Std.TreeMap.mem_erase.1 hk).2

theorem Folded.extend (h : m.Folded) (es : List (Text × α)) : (m.extend es).Folded := by
  induction es generalizing m with
  | nil => exact h
  | cons e es ih => exact ih (h.insert e.1 e.2)

theorem Reachable.folded (h : Reachable m) : m.Folded := by
  induction h with
  | empty => exact folded_empty
  | insert _ key v ih => exact ih.insert key v
  | modify _ key f ih => exact ih.modify key f
  | remove _ key ih => exact ih.remove key
  | extend _ es ih => exact ih.extend es

/-! ### What is stored and what is found -/

theorem listing_entries (m : CaseInsensitiveMap α) : Listing (fun key => m.stored[key]?) m.entries where
  sorted := m.stored.ordered_keys_toList
  mem_iff _ _ := Std.TreeMap.mem_toList_iff_getElem?_eq_some

/-- Under a key in upper case stands what is found under it, and under no other key stands anything. -/
theorem Folded.getElem?_stored (h : m.Folded) (key : Text) :
    m.stored[key]? = if Text.upper key = key then m.get? key else none := by
  split
  · rename_i hkey
    rw [get?, hkey]
  · rename_i hkey
    exact Std.TreeMap.getElem?_eq_none fun hmem => hkey (h key hmem)

theorem Folded.mem_entries_iff (h : m.Folded) {key : Text} {v : α} :
    (key, v) ∈ m.entries ↔ Text.upper key = key ∧ m.get? key = some v := by
  rw [(listing_entries m).mem_iff, h.getElem?_stored]
  split
  · rename_i hkey
    exact (and_iff_right hkey).symm
  · rename_i hkey
    constructor
    · intro hv
      cases hv
    · intro hv
      exact absurd hv.1 hkey

/-- Maps are equal if they store the same. -/
theorem beq_iff_getElem?_stored [BEq α] [LawfulBEq α] :
    (m == n) = true ↔ ∀ key : Text, m.stored[key]? = n.stored[key]? := by
  show (m.stored == n.stored) = true ↔ _
  rw [Std.TreeMap.beq_iff_equiv]
  exact ⟨fun h _ => h.getElem?_eq, Std.TreeMap.Equiv.of_forall_constGet?_eq⟩

/-- Maps with keys in upper case are equal if the same is found in them. -/
theorem Folded.beq_iff [DecidableEq α] (hm : m.Folded) (hn : n.Folded) :
    (m == n) = true ↔ ∀ key, m.get? key = n.get? key := by
  rw [beq_iff_getElem?_stored]
  constructor
  · intro h key
    exact h (Text.upper key)
  · intro h key
    rw [hm.getElem?_stored, hn.getElem?_stored, h key]

/-! ### Entries with different keys -/

theorem lastValue?_eq_none_iff {es : List (Text × α)} {key : Text} :
    lastValue? es key = none ↔ ∀ e ∈ es, Text.upper e.1 ≠ Text.upper key := by
  rw [lastValue?, Option.map_eq_none_iff, List.find?_eq_none]
  simp only [List.mem_reverse, decide_eq_true_eq, ne_eq]

/-- Among entries whose keys differ in more than their case, the last with a key is the only one. -/
theorem lastValue?_eq_some_iff {es : List (Text × α)} (hkeys : (es.map fun e => Text.upper e.1).Nodup) {key : Text}
    {v : α} : lastValue? es key = some v ↔ ∃ e ∈ es, Text.upper e.1 = Text.upper key ∧ e.2 = v := by
  induction es with
  | nil => simp
  | cons e es ih =>
    rw [List.map_cons, List.nodup_cons] at hkeys
    rw [lastValue?_cons]
    by_cases he : Text.upper e.1 = Text.upper key
    · have hnone : lastValue? es key = none := by
        rw [lastValue?_eq_none_iff]
        intro f hf heq
        exact hkeys.1 (List.mem_map.2 ⟨f, hf, heq.trans he.symm⟩)
      rw [hnone, Option.none_or, if_pos he, Option.some.injEq]
      constructor
      · intro hv
        exact ⟨e, List.mem_cons_self, he, hv⟩
      · rintro ⟨f, hf, hkey, hv⟩
        rcases List.mem_cons.1 hf with rfl | hf
        · exact hv
        · exact absurd hkey (lastValue?_eq_none_iff.1 hnone f hf)
    · rw [if_neg he, Option.or_none, ih hkeys.2]
      constructor
      · rintro ⟨f, hf, h⟩
        exact ⟨f, List.mem_cons_of_mem _ hf, h⟩
      · rintro ⟨f, hf, hkey, hv⟩
        rcases List.mem_cons.1 hf with rfl | hf
        · exact absurd hkey he
        · exact ⟨f, hf, hkey, hv⟩

/-- The order of such entries does not matter. -/
theorem ofList_perm [DecidableEq α] {es fs : List (Text × α)} (hperm : es.Perm fs)
    (hkeys : (es.map fun e => Text.upper e.1).Nodup) : (ofList es == ofList fs) = true := by
  rw [(reachable_ofList es).folded.beq_iff (reachable_ofList fs).folded]
  intro key
  apply Option.ext
  intro v
  rw [get?_ofList, get?_ofList, lastValue?_eq_some_iff hkeys,
    lastValue?_eq_some_iff ((hperm.map _).nodup_iff.1 hkeys)]
  simp only [hperm.mem_iff]

theorem Folded.map_upper_entries (h : m.Folded) :
    (m.entries.map fun e => Text.upper e.1) = m.entries.map Prod.fst := by
  apply List.map_congr_left
  rintro ⟨key, v⟩ he
  exact (h.mem_entries_iff.1 he).1

/-- A map is the map of its entries, in whatever order they come. -/
theorem Folded.ofList_of_perm [DecidableEq α] (h : m.Folded) {es : List (Text × α)} (hperm : es.Perm m.entries) :
    (ofList es == m) = true := by
  have hkeys : (es.map fun e => Text.upper e.1).Nodup := by
    rw [(hperm.map _).nodup_iff, h.map_upper_entries]
    exact (listing_entries m).nodup_keys
  rw [(reachable_ofList _).folded.beq_iff h]
  intro key
  apply Option.ext
  intro v
  rw [get?_ofList, lastValue?_eq_some_iff hkeys]
  constructor
  · rintro ⟨⟨k, w⟩, he, hkey, rfl⟩
    rw [get?, ← hkey]
    exact (h.mem_entries_iff.1 (hperm.mem_iff.1 he)).2
  · intro hv
    refine ⟨(Text.upper key, v), hperm.mem_iff.2 ?_, Text.upper_upper key, rfl⟩
    rw [h.mem_entries_iff, Text.upper_upper, get?, Text.upper_upper]
    exact ⟨rfl, hv⟩

/-- A reachable map lists different keys, all in upper case, with what is found under them, and as many as its
size says.  Collecting the listed entries gives the map again, in whatever order they are listed.  Reachable
maps are equal if and only if the same is found in both, and entries whose keys differ in more than their case
make the same map in any order. -/
theorem Reachable.extensional [DecidableEq α] (hm : Reachable m) :
    (m.entries.map Prod.fst).Nodup ∧
      (∀ key v, (key, v) ∈ m.entries ↔ Text.upper key = key ∧ m.get? key = some v) ∧
      m.entries.length = m.size ∧
      (∀ es : List (Text × α), es.Perm m.entries → (ofList es == m) = true) ∧
      (∀ n, Reachable n → ((m == n) = true ↔ ∀ key, m.get? key = n.get? key)) ∧
      ∀ es fs : List (Text × α), es.Perm fs → (es.map fun e => Text.upper e.1).Nodup →
        (ofList es == ofList fs) = true := by
  have hfolded := hm.folded
  refine ⟨(listing_entries m).nodup_keys, fun _ _ => hfolded.mem_entries_iff, Std.TreeMap.length_toList, ?_, ?_, ?_⟩
  · intro es hperm
    exact hfolded.ofList_of_perm hperm
  · intro n hn
    exact hfolded.beq_iff hn.folded
  · intro es fs hperm hkeys
    exact ofList_perm hperm hkeys

/-- The map with an entry under `straße` and one under `k` is the one with them under `STRASSE` and `K`,
inserted the other way round.  It lists the first of them under `STRASSE`, and is made of its entries also if
they come from the last to the first. -/
theorem Reachable.extensional_sharpS :
    let m : CaseInsensitiveMap Nat :=
      ((CaseInsensitiveMap.empty.insert ['s', 't', 'r', 'a', 'ß', 'e'] 1).2.insert ['k'] 2).2
    let n : CaseInsensitiveMap Nat :=
      ((CaseInsensitiveMap.empty.insert ['K'] 2).2.insert ['S', 'T', 'R', 'A', 'S', 'S', 'E'] 1).2
    (['S', 'T', 'R', 'A', 'S', 'S', 'E'], 1) ∈ m.entries ∧ (ofList m.entries.reverse == m) = true ∧
      (m == n) = true ∧
      (ofList [(['s', 't', 'r', 'a', 'ß', 'e'], 1), (['k'], 2)] ==
        ofList [(['k'], 2), (['s', 't', 'r', 'a', 'ß', 'e'], 1)]) = true := by
  intro m n
  have hstrasse : Text.upper ['s', 't', 'r', 'a', 'ß', 'e'] = ['S', 'T', 'R', 'A', 'S', 'S', 'E'] := by
    decide +kernel
  have hstrasse' : Text.upper ['S', 'T', 'R', 'A', 'S', 'S', 'E'] = ['S', 'T', 'R', 'A', 'S', 'S', 'E'] := by
    decide +kernel
  have hk : Text.upper ['k'] = ['K'] := by
    decide +kernel
  have hk' : Text.upper ['K'] = ['K'] := by
    decide +kernel
  obtain ⟨-, hmem, -, hself, heq, hperm⟩ :=
    Reachable.extensional (m := m) (.insert (.insert .empty ['s', 't', 'r', 'a', 'ß', 'e'] 1) ['k'] 2)
  refine ⟨(hmem _ _).2 ⟨hstrasse', ?_⟩, hself _ (List.reverse_perm _), ?_, ?_⟩
  · rw [get?_insert, get?_insert, hstrasse, hstrasse', hk]
    rfl
  · refine (heq n (.insert (.insert .empty ['K'] 2) ['S', 'T', 'R', 'A', 'S', 'S', 'E'] 1)).2 ?_
    intro key
    rw [get?_insert, get?_insert, get?_insert, get?_insert, hstrasse, hstrasse', hk, hk']
    by_cases hkey : ['K'] = Text.upper key
    · rw [if_pos hkey, if_pos hkey, ← hkey]
      rfl
    · rw [if_neg hkey, if_neg hkey]
  · exact hperm _ _ (.swap _ _ _) (by decide +kernel)

end CaseInsensitiveMap

end TextTemplate
