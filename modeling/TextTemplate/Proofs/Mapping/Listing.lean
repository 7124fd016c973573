import Mathlib.Data.List.Nodup
import Mathlib.Data.String.Basic
import TextTemplate.Mapping.Exact

/-!
# Listings

The entries of a dictionary are listed in the order of their keys.  A listing is determined by what is found in
the dictionary (`Listing.unique`): two dictionaries in which the same is found have the same entries, however
they are built.
-/

namespace TextTemplate

variable {α : Type}

/-- A list has what can be found under keys, each key once, in the order of the keys. -/
structure Listing (find : Text → Option α) (es : List (Text × α)) : Prop where
  sorted : es.Pairwise fun a b => compare a.1 b.1 = .lt
  mem_iff : ∀ key v, (key, v) ∈ es ↔ find key = some v

namespace Listing

variable {find : Text → Option α} {es fs : List (Text × α)}

theorem nodup_keys (h : Listing find es) : (es.map Prod.fst).Nodup := by
  rw [List.nodup_iff_pairwise_ne, List.pairwise_map]
  apply h.sorted.imp
  intro a b hlt heq
  rw [heq, Std.compare_self] at hlt
  cases hlt

theorem unique (h : Listing find es) (h' : Listing find fs) : es = fs := by
  have hperm : es.Perm fs := by
    rw [List.perm_ext_iff_of_nodup (List.Nodup.of_map _ h.nodup_keys) (List.Nodup.of_map _ h'.nodup_keys)]
    rintro ⟨key, v⟩
    rw [h.mem_iff, h'.mem_iff]
  refine hperm.eq_of_pairwise ?_ h.sorted h'.sorted
  intro a b _ _ hab hba
  exact absurd hba (Std.OrientedCmp.not_lt_of_lt hab)

end Listing

/-! ### Sorting -/

theorem sortEntries_perm (es : List (Text × α)) : (sortEntries es).Perm es := List.mergeSort_perm es _

private theorem pairwise_sortEntries (es : List (Text × α)) :
    (sortEntries es).Pairwise fun a b => (compare a.1 b.1).isLE = true := by
  apply List.pairwise_mergeSort
  · intro a b c hab hbc
    exact Std.TransCmp.isLE_trans hab hbc
  · intro a b
    rw [Bool.or_eq_true]
    by_cases h : (compare a.1 b.1).isLE = true
    · exact .inl h
    · exact .inr (by rw [Std.OrientedCmp.lt_of_not_isLE h]; rfl)

/-- Entries with different keys, once they are sorted, list what can be found in them. -/
theorem listing_sortEntries {find : Text → Option α} {es : List (Text × α)} (hkeys : (es.map Prod.fst).Nodup)
    (hmem : ∀ key v, (key, v) ∈ es ↔ find key = some v) : Listing find (sortEntries es) where
  sorted := by
    have hperm := sortEntries_perm es
    have hne : (sortEntries es).Pairwise fun a b => a.1 ≠ b.1 := by
      rw [← List.pairwise_map, ← List.nodup_iff_pairwise_ne]
      exact (hperm.map Prod.fst).nodup_iff.2 hkeys
    refine (hne.and (pairwise_sortEntries es)).imp ?_
    rintro a b ⟨hne, hle⟩
    rcases hc : compare a.1 b.1 with _ | _ | _
    · rfl
    · exact absurd (Std.compare_eq_iff_eq.1 hc) hne
    · rw [hc] at hle
      cases hle
  mem_iff key v := by rw [(sortEntries_perm es).mem_iff, hmem]

/-! ### Maps with exact keys -/

/-- Comparing two texts is deciding which is less. -/
private theorem Text.compare_eq_lt_iff {a b : Text} : compare a b = .lt ↔ a < b := by
  induction a generalizing b with
  | nil => cases b <;> simp
  | cons c a ih =>
    cases b with
    | nil => simp
    | cons d b =>
      rw [List.compare_cons_cons, Ordering.then_eq_lt, List.cons_lt_cons_iff, ih, Std.LawfulLTCmp.eq_lt_iff_lt,
        Std.compare_eq_iff_eq]

section

variable {κ : Type} [KeyForm κ]

theorem KeyForm.ofText_inj {a b : Text} : (KeyForm.ofText a : κ) = KeyForm.ofText b ↔ a = b := by
  constructor
  · intro h
    rw [← KeyForm.toText_ofText (κ := κ) a, h, KeyForm.toText_ofText]
  · rintro rfl
    rfl

theorem KeyForm.toText_injective : Function.Injective (KeyForm.toText : κ → Text) := by
  intro a b h
  rw [← KeyForm.ofText_toText a, h, KeyForm.ofText_toText]

/-- Listing the bindings of stored keys is listing what can be found under texts. -/
private theorem mem_map_toText_iff {es : List (κ × α)} {find : κ → Option α}
    (hmem : ∀ k v, (k, v) ∈ es ↔ find k = some v) (key : Text) (v : α) :
    (key, v) ∈ es.map (fun e => (KeyForm.toText e.1, e.2)) ↔ find (KeyForm.ofText key) = some v := by
  rw [List.mem_map, ← hmem]
  constructor
  · rintro ⟨⟨k, w⟩, h, heq⟩
    cases heq
    rwa [KeyForm.ofText_toText]
  · intro h
    exact ⟨_, h, by rw [KeyForm.toText_ofText]⟩

theorem listing_hashMap [BEq κ] [LawfulBEq κ] [Hashable κ] (m : Std.HashMap κ α) :
    Listing (Mapping.get? m) (Dictionary.entries m) := by
  refine listing_sortEntries ?_ (mem_map_toText_iff fun _ _ => Std.HashMap.mem_toList_iff_getElem?_eq_some)
  rw [List.nodup_iff_pairwise_ne, List.pairwise_map, List.pairwise_map]
  apply m.distinct_keys_toList.imp
  intro a b hne heq
  rw [KeyForm.toText_injective heq, beq_self_eq_true] at hne
  cases hne

theorem length_entries_hashMap [BEq κ] [LawfulBEq κ] [Hashable κ] (m : Std.HashMap κ α) :
    (Dictionary.entries m).length = m.size := by
  show (sortEntries _).length = _
  rw [(sortEntries_perm _).length_eq, List.length_map, Std.HashMap.length_toList]

/-- A search tree lists its entries in the order of the texts, if stored keys are ordered as their texts are. -/
theorem listing_treeMap [Ord κ] [Std.TransOrd κ] [Std.LawfulEqOrd κ]
    (horder : ∀ a b : κ, compare a b = .lt → compare (KeyForm.toText a) (KeyForm.toText b) = .lt)
    (m : Std.TreeMap κ α) : Listing (Mapping.get? m) (Dictionary.entries m) where
  sorted := by
    apply List.pairwise_map.2
    exact m.ordered_keys_toList.imp fun hlt => horder _ _ hlt
  mem_iff := mem_map_toText_iff fun _ _ => Std.TreeMap.mem_toList_iff_getElem?_eq_some

end

theorem listing_tree (m : Std.TreeMap Text α) : Listing (Mapping.get? m) (Dictionary.entries m) :=
  listing_treeMap (fun _ _ h => h) m

theorem listing_treePacked (m : Std.TreeMap String α) : Listing (Mapping.get? m) (Dictionary.entries m) := by
  apply listing_treeMap
  intro a b hlt
  rw [Std.LawfulLTCmp.eq_lt_iff_lt, String.lt_iff_toList_lt] at hlt
  exact Text.compare_eq_lt_iff.2 hlt

end TextTemplate
