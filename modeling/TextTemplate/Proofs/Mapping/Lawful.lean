import TextTemplate.Mapping.Store
import TextTemplate.Proofs.CaseInsensitiveMap.Reachable

/-!
# The laws of dictionaries

In every kind of dictionary a key is contained if and only if something is found under it, and a key that is
inserted where nothing was found and then removed leaves no trace (`LawfulDictionary`).  The maps have these
laws because they store one value under a normal form of each key (`StoresUnder`), lists of entries because a
new entry goes to the end.
-/

namespace TextTemplate

variable {σ α : Type}

/-- A mapping that contains the keys under which something is found. -/
class LawfulMapping (σ : Type) {α : outParam Type} [Mapping σ α] : Prop where
  containsKey_eq (m : σ) (key : Text) : Mapping.containsKey m key = (Mapping.get? m key).isSome

/-- A dictionary from which a key that was new to it can be removed without a trace. -/
class LawfulDictionary (σ : Type) {α : outParam Type} [Dictionary σ α] : Prop extends LawfulMapping σ where
  get?_insert_self {m : σ} {key : Text} (v : α) (h : Mapping.get? m key = none) :
    Mapping.get? (Dictionary.insert m key v).2 key = some v
  get?_remove_insert {m : σ} {key : Text} (v : α) (h : Mapping.get? m key = none) (k : Text) :
    Mapping.get? (Mapping.remove (Dictionary.insert m key v).2 key).2 k = Mapping.get? m k
  entries_remove_insert {m : σ} {key : Text} (v : α) (h : Mapping.get? m key = none) :
    Dictionary.entries (Mapping.remove (Dictionary.insert m key v).2 key).2 = Dictionary.entries m

/-- The mapping made of a function that finds values and one that removes them. -/
@[reducible] def Mapping.ofFunctions (find : σ → Text → Option α) (take : σ → Text → Option α × σ) :
    Mapping σ α where
  get? := find
  remove := take

theorem lawfulMapping_ofFunctions (find : σ → Text → Option α) (take : σ → Text → Option α × σ) :
    @LawfulMapping σ α (.ofFunctions find take) :=
  letI := Mapping.ofFunctions find take
  ⟨fun _ _ => rfl⟩

/-! ### Maps -/

/-- A dictionary stores at most one value under the normal form of each key, and lists what it stores. -/
structure StoresUnder [Dictionary σ α] (normal : Text → Text) (stored : σ → Text → Option α) : Prop where
  get?_eq : ∀ m key, Mapping.get? m key = stored m (normal key)
  containsKey_eq : ∀ (m : σ) key, Mapping.containsKey m key = (stored m (normal key)).isSome
  stored_insert : ∀ m key v k,
    stored (Dictionary.insert m key v).2 k = if normal key = k then some v else stored m k
  stored_remove : ∀ m key k, stored (Mapping.remove m key).2 k = if normal key = k then none else stored m k
  listing : ∀ m, Listing (stored m) (Dictionary.entries m)

namespace StoresUnder

variable [Dictionary σ α] {normal : Text → Text} {stored : σ → Text → Option α}

/-- What was stored under a new key is gone when the key is removed. -/
theorem stored_remove_insert (h : StoresUnder normal stored) {m : σ} {key : Text} (v : α)
    (hnew : Mapping.get? m key = none) :
    stored (Mapping.remove (Dictionary.insert m key v).2 key).2 = stored m := by
  funext k
  rw [h.stored_remove, h.stored_insert]
  split
  · rename_i hk
    rw [← hk, ← h.get?_eq, hnew]
  · rfl

theorem lawful (h : StoresUnder normal stored) : LawfulDictionary σ where
  containsKey_eq m key := by rw [h.containsKey_eq, h.get?_eq]
  get?_insert_self v _ := by rw [h.get?_eq, h.stored_insert, if_pos rfl]
  get?_remove_insert v hnew k := by rw [h.get?_eq, h.get?_eq, h.stored_remove_insert v hnew]
  entries_remove_insert {m key} v hnew := by
    have hlist := h.listing (Mapping.remove (Dictionary.insert m key v).2 key).2
    rw [h.stored_remove_insert v hnew] at hlist
    exact hlist.unique (h.listing m)

end StoresUnder

theorem CaseInsensitiveMap.storesUnder :
    StoresUnder Text.upper fun (m : CaseInsensitiveMap α) key => m.stored[key]? where
  get?_eq _ _ := rfl
  containsKey_eq _ _ := Std.TreeMap.contains_eq_isSome_getElem?
  stored_insert m key v k := by
    show (m.stored.insert _ _)[k]? = _
    rw [Std.TreeMap.getElem?_insert]
    simp only [Std.compare_eq_iff_eq]
  stored_remove m key k := by
    show (m.stored.erase _)[k]? = _
    rw [Std.TreeMap.getElem?_erase]
    simp only [Std.compare_eq_iff_eq]
  listing := CaseInsensitiveMap.listing_entries

instance : LawfulDictionary (CaseInsensitiveMap α) := CaseInsensitiveMap.storesUnder.lawful

section

variable {κ : Type} [KeyForm κ]

theorem storesUnder_hashMap [BEq κ] [LawfulBEq κ] [Hashable κ] :
    StoresUnder id (Mapping.get? : Std.HashMap κ α → Text → Option α) where
  get?_eq _ _ := rfl
  containsKey_eq _ _ := Std.HashMap.contains_eq_isSome_getElem?
  stored_insert m key v k := by
    show (m.insert (KeyForm.ofText key) v)[(KeyForm.ofText k : κ)]? = _
    rw [Std.HashMap.getElem?_insert]
    simp only [beq_iff_eq, KeyForm.ofText_inj, id_eq]
    rfl
  stored_remove m key k := by
    show (m.erase (KeyForm.ofText key))[(KeyForm.ofText k : κ)]? = _
    rw [Std.HashMap.getElem?_erase]
    simp only [beq_iff_eq, KeyForm.ofText_inj, id_eq]
    rfl
  listing := listing_hashMap

theorem storesUnder_treeMap [Ord κ] [Std.TransOrd κ] [Std.LawfulEqOrd κ]
    (hlisting : ∀ m : Std.TreeMap κ α, Listing (Mapping.get? m) (Dictionary.entries m)) :
    StoresUnder id (Mapping.get? : Std.TreeMap κ α → Text → Option α) where
  get?_eq _ _ := rfl
  containsKey_eq _ _ := Std.TreeMap.contains_eq_isSome_getElem?
  stored_insert m key v k := by
    show (m.insert (KeyForm.ofText key) v)[(KeyForm.ofText k : κ)]? = _
    rw [Std.TreeMap.getElem?_insert]
    simp only [Std.compare_eq_iff_eq, KeyForm.ofText_inj, id_eq]
    rfl
  stored_remove m key k := by
    show (m.erase (KeyForm.ofText key))[(KeyForm.ofText k : κ)]? = _
    rw [Std.TreeMap.getElem?_erase]
    simp only [Std.compare_eq_iff_eq, KeyForm.ofText_inj, id_eq]
    rfl
  listing := hlisting

end

instance : LawfulDictionary (Std.HashMap Text α) := storesUnder_hashMap.lawful

instance : LawfulDictionary (Std.HashMap String α) := storesUnder_hashMap.lawful

instance : LawfulDictionary (Std.TreeMap Text α) := (storesUnder_treeMap listing_tree).lawful

instance : LawfulDictionary (Std.TreeMap String α) := (storesUnder_treeMap listing_treePacked).lawful

/-! ### Lists of entries -/

namespace EntryList

theorem ne_of_get?_eq_none {m : EntryList α} {key : Text} (h : m.get? key = none) : ∀ e ∈ m.toList, e.1 ≠ key := by
  intro e he heq
  exact absurd heq.symm (bne_iff_ne.1 (List.lookup_eq_none_iff.1 h e he))

theorem insert_of_absent {m : EntryList α} {key : Text} (v : α) (h : m.get? key = none) :
    (m.insert key v).2 = ⟨m.toList ++ [(key, v)]⟩ := by
  show EntryList.mk (m.toList.eraseP _ ++ _) = _
  rw [List.eraseP_of_forall_not]
  intro e he
  simpa using ne_of_get?_eq_none h e he

/-- A new key goes to the end of the list, from where it is removed. -/
theorem remove_insert_of_absent {m : EntryList α} {key : Text} (v : α) (h : m.get? key = none) :
    ((m.insert key v).2.remove key).2 = m := by
  rw [insert_of_absent v h]
  show EntryList.mk ((m.toList ++ [(key, v)]).eraseP _) = _
  rw [List.eraseP_append_right]
  · simp
  · intro e he
    simpa using ne_of_get?_eq_none h e he

theorem get?_insert_of_absent {m : EntryList α} {key : Text} (v : α) (h : m.get? key = none) :
    (m.insert key v).2.get? key = some v := by
  rw [insert_of_absent v h]
  show (m.toList ++ _).lookup key = _
  rw [List.lookup_append]
  show (m.get? key).or _ = _
  rw [h]
  simp

end EntryList

instance : LawfulDictionary (EntryList α) where
  containsKey_eq _ _ := rfl
  get?_insert_self v h := EntryList.get?_insert_of_absent v h
  get?_remove_insert v h k := congrArg (EntryList.get? · k) (EntryList.remove_insert_of_absent v h)
  entries_remove_insert v h :=
    congrArg (fun m : EntryList α => sortEntries m.toList) (EntryList.remove_insert_of_absent v h)

/-! ### Stores -/

/-- A dictionary of one type is used as one of another type. -/
structure Embeds {ρ : Type} [Dictionary ρ α] [Dictionary σ α] (wrap : ρ → σ) : Prop where
  get?_eq : ∀ m key, Mapping.get? (wrap m) key = Mapping.get? m key := by intros; rfl
  containsKey_eq : ∀ m key, Mapping.containsKey (wrap m) key = Mapping.containsKey m key := by intros; rfl
  insert_eq : ∀ m key v,
    Dictionary.insert (wrap m) key v = (Dictionary.insert m key v).map id wrap := by intros; rfl
  remove_eq : ∀ m key, Mapping.remove (wrap m) key = (Mapping.remove m key).map id wrap := by intros; rfl
  entries_eq : ∀ m, Dictionary.entries (wrap m) = Dictionary.entries m := by intros; rfl

namespace Store

/-- A store is a dictionary of one of the kinds. -/
theorem exists_embeds (s : Store α) :
    ∃ (ρ : Type) (_ : Dictionary ρ α) (_ : LawfulDictionary ρ) (wrap : ρ → Store α) (m : ρ),
      Embeds wrap ∧ wrap m = s := by
  cases s with
  | caseInsensitive m => exact ⟨_, _, inferInstance, caseInsensitive, m, {}, rfl⟩
  | hash m => exact ⟨_, _, inferInstance, hash, m, {}, rfl⟩
  | hashPacked m => exact ⟨_, _, inferInstance, hashPacked, m, {}, rfl⟩
  | tree m => exact ⟨_, _, inferInstance, tree, m, {}, rfl⟩
  | treePacked m => exact ⟨_, _, inferInstance, treePacked, m, {}, rfl⟩
  | list m => exact ⟨_, _, inferInstance, list, m, {}, rfl⟩

instance : LawfulDictionary (Store α) where
  containsKey_eq s key := by
    obtain ⟨_, _, _, wrap, m, hw, rfl⟩ := s.exists_embeds
    rw [hw.containsKey_eq, hw.get?_eq, LawfulMapping.containsKey_eq]
  get?_insert_self {s key} v h := by
    obtain ⟨_, _, _, wrap, m, hw, rfl⟩ := s.exists_embeds
    rw [hw.get?_eq] at h
    rw [hw.insert_eq, Prod.map_snd, hw.get?_eq, LawfulDictionary.get?_insert_self v h]
  get?_remove_insert {s key} v h k := by
    obtain ⟨_, _, _, wrap, m, hw, rfl⟩ := s.exists_embeds
    rw [hw.get?_eq] at h
    rw [hw.insert_eq, Prod.map_snd, hw.remove_eq, Prod.map_snd, hw.get?_eq, hw.get?_eq,
      LawfulDictionary.get?_remove_insert v h]
  entries_remove_insert {s key} v h := by
    obtain ⟨_, _, _, wrap, m, hw, rfl⟩ := s.exists_embeds
    rw [hw.get?_eq] at h
    rw [hw.insert_eq, Prod.map_snd, hw.remove_eq, Prod.map_snd, hw.entries_eq, hw.entries_eq,
      LawfulDictionary.entries_remove_insert v h]

end Store

end TextTemplate
