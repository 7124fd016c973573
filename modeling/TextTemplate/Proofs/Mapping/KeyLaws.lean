import TextTemplate.Proofs.Mapping.Lawful

/-!
# The laws of keys

Whatever the kind of a dictionary and whatever is in it, an operation answers by what is found under its key,
and leaves alone what is found under other keys (`Mapping.KeyLaws`).  In a map, nothing is found any more under
a key that was removed; in a list of entries there may be a further entry.
-/

namespace TextTemplate

variable {σ α : Type}

/-- Operations answer by what is found under their key, and leave alone what is found under keys with another
normal form. -/
structure Mapping.KeyLaws [Dictionary σ α] (normal : Text → Text) (m : σ) : Prop where
  containsKey_eq : ∀ key, Mapping.containsKey m key = (Mapping.get? m key).isSome
  insert_fst : ∀ key v, (Dictionary.insert m key v).1 = Mapping.get? m key
  remove_fst : ∀ key, (Mapping.remove m key).1 = Mapping.get? m key
  get?_insert_of_ne : ∀ {key k} v, normal k ≠ normal key →
    Mapping.get? (Dictionary.insert m key v).2 k = Mapping.get? m k
  get?_remove_of_ne : ∀ {key k}, normal k ≠ normal key → Mapping.get? (Mapping.remove m key).2 k = Mapping.get? m k

/-! ### Maps -/

/-- What was under a key is handed out when the key is written. -/
structure ReturnsOld (σ : Type) {α : outParam Type} [Dictionary σ α] : Prop where
  insert_fst : ∀ (m : σ) key v, (Dictionary.insert m key v).1 = Mapping.get? m key := by intros; rfl
  remove_fst : ∀ (m : σ) key, (Mapping.remove m key).1 = Mapping.get? m key := by intros; rfl

namespace StoresUnder

variable [Dictionary σ α] {normal : Text → Text} {stored : σ → Text → Option α}

theorem keyLaws (h : StoresUnder normal stored) (hold : ReturnsOld σ) (m : σ) : Mapping.KeyLaws normal m where
  containsKey_eq := h.lawful.containsKey_eq m
  insert_fst := hold.insert_fst m
  remove_fst := hold.remove_fst m
  get?_insert_of_ne v hne := by rw [h.get?_eq, h.get?_eq, h.stored_insert, if_neg (Ne.symm hne)]
  get?_remove_of_ne hne := by rw [h.get?_eq, h.get?_eq, h.stored_remove, if_neg (Ne.symm hne)]

theorem get?_remove_self (h : StoresUnder normal stored) (m : σ) (key : Text) :
    Mapping.get? (Mapping.remove m key).2 key = none := by
  rw [h.get?_eq, h.stored_remove, if_pos rfl]

end StoresUnder

/-! ### Lists of entries -/

namespace EntryList

variable {m : EntryList α} {key k : Text}

theorem get?_remove_of_ne (hne : k ≠ key) : (m.remove key).2.get? k = m.get? k := by
  obtain ⟨es⟩ := m
  show (es.eraseP fun e => e.1 = key).lookup k = es.lookup k
  induction es with
  | nil => rfl
  | cons e es ih =>
    by_cases he : e.1 = key
    · have hk : (k == e.1) = false := beq_false_of_ne (he ▸ hne)
      rw [List.eraseP_cons_of_pos (by simpa using he), List.lookup_cons, hk]
    · rw [List.eraseP_cons_of_neg (by simpa using he), List.lookup_cons, List.lookup_cons, ih]

theorem get?_insert_of_ne (v : α) (hne : k ≠ key) : (m.insert key v).2.get? k = m.get? k := by
  have hk : (k == key) = false := beq_false_of_ne hne
  rw [← get?_remove_of_ne (m := m) hne]
  show ((m.remove key).2.toList ++ [(key, v)]).lookup k = (m.remove key).2.toList.lookup k
  rw [List.lookup_append, List.lookup_cons, hk]
  exact Option.or_none

theorem keyLaws (m : EntryList α) : Mapping.KeyLaws id m where
  containsKey_eq _ := rfl
  insert_fst _ _ := rfl
  remove_fst _ := rfl
  get?_insert_of_ne v hne := get?_insert_of_ne v hne
  get?_remove_of_ne hne := get?_remove_of_ne hne

end EntryList

/-! ### Stores -/

theorem Embeds.keyLaws {ρ : Type} [Dictionary ρ α] [Dictionary σ α] {wrap : ρ → σ} (hw : Embeds wrap)
    {normal : Text → Text} {m : ρ} (h : Mapping.KeyLaws normal m) : Mapping.KeyLaws normal (wrap m) where
  containsKey_eq key := by rw [hw.containsKey_eq, hw.get?_eq, h.containsKey_eq]
  insert_fst key v := by rw [hw.insert_eq, hw.get?_eq, Prod.map_fst, id_eq, h.insert_fst]
  remove_fst key := by rw [hw.remove_eq, hw.get?_eq, Prod.map_fst, id_eq, h.remove_fst]
  get?_insert_of_ne v hne := by
    rw [hw.insert_eq, Prod.map_snd, hw.get?_eq, hw.get?_eq, h.get?_insert_of_ne v hne]
  get?_remove_of_ne hne := by rw [hw.remove_eq, Prod.map_snd, hw.get?_eq, hw.get?_eq, h.get?_remove_of_ne hne]

/-- The form in which a kind of dictionary compares keys. -/
def Backend.normal : Backend → Text → Text
  | .caseInsensitive => Text.upper
  | _ => id

namespace Store

theorem keyLaws (s : Store α) : Mapping.KeyLaws s.backend.normal s := by
  cases s with
  | caseInsensitive m => exact Embeds.keyLaws {} (CaseInsensitiveMap.storesUnder.keyLaws {} m)
  | hash m => exact Embeds.keyLaws {} (storesUnder_hashMap.keyLaws {} m)
  | hashPacked m => exact Embeds.keyLaws {} (storesUnder_hashMap.keyLaws {} m)
  | tree m => exact Embeds.keyLaws {} ((storesUnder_treeMap listing_tree).keyLaws {} m)
  | treePacked m => exact Embeds.keyLaws {} ((storesUnder_treeMap listing_treePacked).keyLaws {} m)
  | list m => exact Embeds.keyLaws {} m.keyLaws

theorem get?_remove_self {s : Store α} (hs : s.backend ≠ .list) (key : Text) :
    Mapping.get? (Mapping.remove s key).2 key = none := by
  cases s with
  | caseInsensitive m => exact CaseInsensitiveMap.storesUnder.get?_remove_self m key
  | hash m => exact storesUnder_hashMap.get?_remove_self m key
  | hashPacked m => exact storesUnder_hashMap.get?_remove_self m key
  | tree m => exact (storesUnder_treeMap listing_tree).get?_remove_self m key
  | treePacked m => exact (storesUnder_treeMap listing_treePacked).get?_remove_self m key
  | list m => exact absurd rfl hs

/-- In a list of entries, the second entry of a key is found when the first is removed. -/
example : Mapping.get? (Mapping.remove (list ⟨[(['a'], 1), (['a'], 2)]⟩) ['a']).2 ['a'] = some 2 := by decide

end Store

end TextTemplate
