import TextTemplate.Mapping.Basic
import Std.Data.HashMap
import Std.Data.TreeMap

/-!
# Mappings with exact keys

Hash maps and search trees whose keys are compared character by character.  A key is stored either as the list
of its characters or packed into a `String`.
-/

namespace TextTemplate

/-- The forms in which a key can be stored, each as good as the text itself. -/
class KeyForm (κ : Type) where
  ofText : Text → κ
  toText : κ → Text
  toText_ofText : ∀ t, toText (ofText t) = t
  ofText_toText : ∀ k, ofText (toText k) = k

instance : KeyForm Text where
  ofText := id
  toText := id
  toText_ofText _ := rfl
  ofText_toText _ := rfl

instance : KeyForm String where
  ofText := String.ofList
  toText := String.toList
  toText_ofText _ := String.toList_ofList
  ofText_toText _ := String.ofList_toList

/-- A text is hashed in its packed form. -/
instance : Hashable Text := ⟨fun t => hash (String.ofList t)⟩

variable {κ α : Type} [KeyForm κ]

instance [BEq κ] [Hashable κ] : Dictionary (Std.HashMap κ α) α where
  get? m key := m[(KeyForm.ofText key : κ)]?
  containsKey m key := m.contains (KeyForm.ofText key)
  remove m key := (m[(KeyForm.ofText key : κ)]?, m.erase (KeyForm.ofText key))
  insert m key v := (m[(KeyForm.ofText key : κ)]?, m.insert (KeyForm.ofText key) v)
  entries m := sortEntries (m.toList.map fun e => (KeyForm.toText e.1, e.2))

instance [Ord κ] : Dictionary (Std.TreeMap κ α) α where
  get? m key := m[(KeyForm.ofText key : κ)]?
  containsKey m key := m.contains (KeyForm.ofText key)
  remove m key := (m[(KeyForm.ofText key : κ)]?, m.erase (KeyForm.ofText key))
  insert m key v := (m[(KeyForm.ofText key : κ)]?, m.insert (KeyForm.ofText key) v)
  entries m := m.toList.map fun e => (KeyForm.toText e.1, e.2)

end TextTemplate
