import TextTemplate.Proofs.Mapping.Runs
import TextTemplate.Resolver.Entries
import TextTemplate.Scanner.Scan

/-!
# Resolvers made of entries

A list, an array or a vector is searched from its start, so that of the entries of a name the first counts.  A
map keeps the one that was inserted last, and resolves as a list in the opposite order does
(`Container.resolver_eq`).  If no name has two entries, neither the container nor the order matters
(`scan_container`).
-/

namespace TextTemplate

variable {α : Type}

theorem EntryList.Distinct.lookup_perm {es fs : List (Text × α)} (hes : Distinct ⟨es⟩) (hperm : fs.Perm es)
    (key : Text) : fs.lookup key = es.lookup key := by
  have hfs : Distinct ⟨fs⟩ := (hperm.map Prod.fst).nodup_iff.2 hes
  ext v
  have hmem : (key, v) ∈ fs ↔ (key, v) ∈ es := hperm.mem_iff
  exact (hfs.mem_iff key v).symm.trans (hmem.trans (hes.mem_iff key v))

/-- Of the inserted entries of a key the last is found, and what was there before if there are none. -/
theorem StoresUnder.get?_insertAll {σ : Type} [Dictionary σ α] {stored : σ → Text → Option α}
    (h : StoresUnder id stored) (m : σ) (es : List (Text × α)) (key : Text) :
    Mapping.get? (Dictionary.insertAll m es) key = (es.reverse.lookup key).or (Mapping.get? m key) := by
  induction es generalizing m with
  | nil => rfl
  | cons e es ih =>
    have hinsert : Mapping.get? (Dictionary.insert m e.1 e.2).2 key = ([e].lookup key).or (Mapping.get? m key) := by
      rw [h.get?_eq, h.stored_insert, ← h.get?_eq, List.lookup_cons]
      by_cases hkey : e.1 = key
      · simp [hkey]
      · have hne : (key == e.1) = false := by simpa using Ne.symm hkey
        simp [hkey, hne]
    rw [Dictionary.insertAll_cons, ih, hinsert, ← Option.or_assoc, ← List.lookup_append, List.reverse_cons]

namespace Resolver

theorem ofList_eq_lookup (entries : List (Text × Text)) (name : Text) :
    ofList entries name = entries.lookup name := by
  unfold ofList
  induction entries with
  | nil => rfl
  | cons e entries ih =>
    rw [List.findSome?_cons, List.lookup_cons, ih, inEntry]
    by_cases he : e.1 = name
    · simp [he]
    · have hne : (name == e.1) = false := by simpa using Ne.symm he
      simp [he, hne]

theorem ofMapping_insertAll {σ : Type} [Dictionary σ Text] {stored : σ → Text → Option Text}
    (h : StoresUnder id stored) {m : σ} (hm : ∀ name, Mapping.get? m name = none) (entries : List (Text × Text)) :
    ofMapping (Dictionary.insertAll m entries) = ofList entries.reverse := by
  funext name
  rw [ofMapping, h.get?_insertAll, hm, Option.or_none, ofList_eq_lookup]

/-- The containers that entries can be held in, and references to them. -/
inductive Container
  | list
  | array
  | vector
  | reference (c : Container)
  | hash
  | hashPacked
  | tree
  | treePacked
  deriving DecidableEq

namespace Container

/-- The resolver of a container that is filled with entries.  A reference resolves as what it refers to. -/
def resolver : Container → List (Text × Text) → Resolver
  | list, entries => ofList entries
  | array, entries => ofArray entries.toArray
  | vector, entries => ofVector entries.toArray.toVector
  | reference c, entries => c.resolver entries
  | hash, entries => ofHashed entries
  | hashPacked, entries => ofMapping (Dictionary.insertAll (∅ : Std.HashMap String Text) entries)
  | tree, entries => ofTree entries
  | treePacked, entries => ofMapping (Dictionary.insertAll (∅ : Std.TreeMap String Text) entries)

/-- Whether the first of the entries of a name counts, and not the last. -/
def firstCounts : Container → Bool
  | list | array | vector => true
  | reference c => c.firstCounts
  | hash | hashPacked | tree | treePacked => false

/-- The entries in the order in which they count. -/
def ranked (c : Container) (entries : List (Text × Text)) : List (Text × Text) :=
  if c.firstCounts then entries else entries.reverse

theorem ranked_perm (c : Container) (entries : List (Text × Text)) : (c.ranked entries).Perm entries := by
  unfold ranked
  split
  · exact .refl _
  · exact List.reverse_perm entries

theorem resolver_eq (c : Container) (entries : List (Text × Text)) :
    c.resolver entries = ofList (c.ranked entries) := by
  induction c with
  | list => rfl
  | array =>
    funext name
    exact List.findSome?_toArray _ _
  | vector =>
    funext name
    exact (Vector.findSome?_mk _ _).trans (List.findSome?_toArray _ _)
  | reference c ih => exact ih
  | hash | hashPacked => exact ofMapping_insertAll storesUnder_hashMap (fun _ => Std.HashMap.getElem?_empty) entries
  | tree =>
    exact ofMapping_insertAll (storesUnder_treeMap listing_tree)
      (fun _ => Std.TreeMap.getElem?_emptyc) entries
  | treePacked =>
    exact ofMapping_insertAll (storesUnder_treeMap listing_treePacked)
      (fun _ => Std.TreeMap.getElem?_emptyc) entries

/-- Entries with different names resolve in every container and every order as they do in a list. -/
theorem resolver_eq_ofList (c : Container) {entries entries' : List (Text × Text)}
    (hnames : (entries.map Prod.fst).Nodup) (hperm : entries'.Perm entries) :
    c.resolver entries' = ofList entries := by
  rw [resolver_eq]
  funext name
  rw [ofList_eq_lookup, ofList_eq_lookup]
  exact EntryList.Distinct.lookup_perm hnames ((c.ranked_perm entries').trans hperm) name

end Container

/-- Two containers of entries, of which one lets the first entry of a name count and the other, filled in the
opposite order, the last, make for the same scans.  If no name has two entries, any two containers do, in
whatever order they are filled. -/
theorem scan_container (entries : List (Text × Text)) :
    (∀ c c' : Container, c.firstCounts = true → c'.firstCounts = false → ∀ δ document,
      scan δ (c.resolver entries) document = scan δ (c'.resolver entries.reverse) document) ∧
    ((entries.map Prod.fst).Nodup → ∀ (c c' : Container) (entries' : List (Text × Text)), entries'.Perm entries →
      ∀ δ document, scan δ (c.resolver entries) document = scan δ (c'.resolver entries') document) := by
  constructor
  · intro c c' hfirst hlast δ document
    have hranked : c'.ranked entries.reverse = entries := by
      rw [Container.ranked, hlast]
      exact List.reverse_reverse entries
    rw [c.resolver_eq, c'.resolver_eq, hranked, Container.ranked, hfirst]
    rfl
  · intro hnames c c' entries' hperm δ document
    rw [c.resolver_eq_ofList hnames (.refl _), c'.resolver_eq_ofList hnames hperm]

/-- The first of two entries of `a` behind a reference to a list is the last of them in a hash map, and a search
tree does not care about the order of two names. -/
theorem scan_container_repeated :
    Pull.blocks (scan .default (Container.hash.resolver [(['a'], ['x']), (['a'], ['#', '#'])])
        ['#', '#', 'a', '#', '#', 'b']) = [.value ['#', '#'], .text ['b']] ∧
      Pull.names (scan .default (Container.tree.resolver [(['b'], []), (['a'], ['x'])])
        ['#', '#', 'c', '#', '#', 'b', '#', '#']) = [['c'], ['b']] := by
  constructor
  · have hscan := (scan_container [(['a'], ['#', '#']), (['a'], ['x'])]).1 (.reference .list) .hash rfl rfl .default
      ['#', '#', 'a', '#', '#', 'b']
    rw [List.reverse_cons, List.reverse_singleton, List.singleton_append] at hscan
    rw [← hscan]
    decide +kernel
  · have hscan := (scan_container [(['a'], ['x']), (['b'], [])]).2 (by decide)
      .list .tree [(['b'], []), (['a'], ['x'])] (.swap _ _ _) .default ['#', '#', 'c', '#', '#', 'b', '#', '#']
    rw [← hscan]
    decide +kernel

end Resolver

end TextTemplate
