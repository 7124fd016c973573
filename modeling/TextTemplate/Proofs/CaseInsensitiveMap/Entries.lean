import Mathlib.Data.List.Forall2
import TextTemplate.CaseInsensitiveMap.Basic

/-!
# Case-insensitive maps of entries

What a map made of a list of entries holds under a key is the value of the last entry that has the key in some
case (`get?_ofList`), so that it depends on the upper-case forms of the keys only.
-/

namespace TextTemplate

namespace CaseInsensitiveMap

variable {α β : Type}

/-- The value of the last entry whose key is `key` but for the case. -/
def lastValue? (es : List (Text × α)) (key : Text) : Option α :=
  (es.reverse.find? fun e => Text.upper e.1 = Text.upper key).map Prod.snd

@[simp] theorem lastValue?_nil (key : Text) : lastValue? ([] : List (Text × α)) key = none := rfl

theorem lastValue?_append (es fs : List (Text × α)) (key : Text) :
    lastValue? (es ++ fs) key = (lastValue? fs key).or (lastValue? es key) := by
  rw [lastValue?, List.reverse_append, List.find?_append, Option.map_or]
  rfl

theorem lastValue?_cons (e : Text × α) (es : List (Text × α)) (key : Text) :
    lastValue? (e :: es) key =
      (lastValue? es key).or (if Text.upper e.1 = Text.upper key then some e.2 else none) := by
  rw [← List.singleton_append, lastValue?_append]
  congr 1
  by_cases h : Text.upper e.1 = Text.upper key
  · simp [lastValue?, h]
  · simp [lastValue?, h]

theorem lastValue?_map (f : α → β) (es : List (Text × α)) (key : Text) :
    lastValue? (es.map fun e => (e.1, f e.2)) key = (lastValue? es key).map f := by
  induction es with
  | nil => rfl
  | cons e es ih =>
    rw [List.map_cons, lastValue?_cons, lastValue?_cons, ih, Option.map_or]
    split <;> rfl

/-- Entries that do not have the key in any case are of no consequence. -/
theorem lastValue?_filter {p : Text × α → Bool} {es : List (Text × α)} {key : Text}
    (hp : ∀ e ∈ es, Text.upper e.1 = Text.upper key → p e = true) :
    lastValue? (es.filter p) key = lastValue? es key := by
  induction es with
  | nil => rfl
  | cons e es ih =>
    rw [List.forall_mem_cons] at hp
    by_cases he : p e = true
    · rw [List.filter_cons_of_pos he, lastValue?_cons, lastValue?_cons, ih hp.2]
    · rw [List.filter_cons_of_neg he, lastValue?_cons, ih hp.2, if_neg (fun h => he (hp.1 h)), Option.or_none]

theorem lastValue?_congr {es fs : List (Text × α)} {key key' : Text}
    (h : List.Forall₂ (fun e f => Text.upper e.1 = Text.upper f.1 ∧ e.2 = f.2) es fs)
    (hkey : Text.upper key = Text.upper key') : lastValue? es key = lastValue? fs key' := by
  induction h with
  | nil => rfl
  | cons hef _ ih => rw [lastValue?_cons, lastValue?_cons, ih, hef.1, hef.2, hkey]

theorem get?_empty (key : Text) : (empty : CaseInsensitiveMap α).get? key = none := rfl

theorem get?_insert (m : CaseInsensitiveMap α) (key key' : Text) (v : α) :
    (m.insert key v).2.get? key' = if Text.upper key = Text.upper key' then some v else m.get? key' := by
  simp only [insert, get?, Std.TreeMap.getElem?_insert, Std.compare_eq_iff_eq]

theorem get?_modify (m : CaseInsensitiveMap α) (key key' : Text) (f : α → α) :
    (m.modify key f).2.get? key' =
      if Text.upper key = Text.upper key' then (m.get? key').map f else m.get? key' := by
  show (m.stored.modify _ _)[_]? = _
  rw [Std.TreeMap.getElem?_modify]
  simp only [Std.compare_eq_iff_eq]
  split
  · rename_i hkey
    rw [get?, ← hkey]
  · rfl

theorem get?_remove (m : CaseInsensitiveMap α) (key key' : Text) :
    (m.remove key).2.get? key' = if Text.upper key = Text.upper key' then none else m.get? key' := by
  simp only [remove, get?, Std.TreeMap.getElem?_erase, Std.compare_eq_iff_eq]

theorem get?_extend (m : CaseInsensitiveMap α) (es : List (Text × α)) (key : Text) :
    (m.extend es).get? key = (lastValue? es key).or (m.get? key) := by
  induction es generalizing m with
  | nil => rfl
  | cons e es ih =>
    have hcons : m.extend (e :: es) = (m.insert e.1 e.2).2.extend es := rfl
    rw [hcons, ih, get?_insert, lastValue?_cons, Option.or_assoc]
    split <;> rfl

/-- Of the entries with a key, in whatever case, the last counts. -/
theorem get?_ofList (es : List (Text × α)) (key : Text) : (ofList es).get? key = lastValue? es key := by
  rw [ofList, get?_extend, get?_empty, Option.or_none]

end CaseInsensitiveMap

end TextTemplate
