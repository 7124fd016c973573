import Mathlib.Data.Set.Card
import TextTemplate.CaseInsensitiveMap.Session
import TextTemplate.Proofs.Mapping.Lawful
import TextTemplate.Proofs.Transcript

/-!
# Sessions on maps with exact keys

A case-insensitive map is a map with exact keys that is given all keys in upper case: whatever is done in a
session, and whatever is looked at meanwhile, the two cannot be told apart (`transcript_exact`).  So keys that
differ in case stand for one entry, which is what was last written under any of them (`Session.refines_exact`).
-/

namespace TextTemplate

namespace CaseInsensitiveMap

variable {α : Type}

/-! ### Maps with exact keys -/

/-- Entries with their keys in upper case. -/
def upperKeys (es : List (Text × α)) : List (Text × α) := es.map fun e => (Text.upper e.1, e.2)

/-- A map with exact keys stores what a case-insensitive map stores. -/
def StoredAs (m : CaseInsensitiveMap α) (h : Std.HashMap Text α) : Prop :=
  ∀ key : Text, m.stored[key]? = Mapping.get? h key

namespace StoredAs

variable {m n : CaseInsensitiveMap α} {h k : Std.HashMap Text α}

theorem empty : StoredAs (empty : CaseInsensitiveMap α) ∅ := fun _ => Std.HashMap.getElem?_empty.symm

theorem get?_eq (hm : StoredAs m h) (key : Text) : m.get? key = Mapping.get? h (Text.upper key) := hm _

theorem containsKey_eq (hm : StoredAs m h) (key : Text) :
    m.containsKey key = Mapping.containsKey h (Text.upper key) := by
  rw [LawfulMapping.containsKey_eq, ← hm.get?_eq]
  exact LawfulMapping.containsKey_eq m key

theorem insert (hm : StoredAs m h) (key : Text) (v : α) :
    StoredAs (m.insert key v).2 (Dictionary.insert h (Text.upper key) v).2 := by
  intro k
  rw [storesUnder_hashMap.stored_insert, ← hm]
  exact storesUnder.stored_insert m key v k

theorem remove (hm : StoredAs m h) (key : Text) :
    StoredAs (m.remove key).2 (Mapping.remove h (Text.upper key)).2 := by
  intro k
  rw [storesUnder_hashMap.stored_remove, ← hm]
  exact storesUnder.stored_remove m key k

theorem modify (hm : StoredAs m h) (key : Text) (f : α → α) :
    StoredAs (m.modify key f).2 (h.modify (Text.upper key) f) := by
  intro k
  show (m.stored.modify _ _)[k]? = (h.modify _ _)[k]?
  rw [Std.TreeMap.getElem?_modify, Std.HashMap.getElem?_modify, hm, hm]
  simp only [Std.compare_eq_iff_eq, beq_iff_eq]
  rfl

theorem extend (hm : StoredAs m h) (es : List (Text × α)) :
    StoredAs (m.extend es) (Dictionary.insertAll h (upperKeys es)) := by
  induction es generalizing m h with
  | nil => exact hm
  | cons e es ih => exact ih (hm.insert e.1 e.2)

theorem ofList (es : List (Text × α)) :
    StoredAs (ofList es) (Dictionary.insertAll (∅ : Std.HashMap Text α) (upperKeys es)) := empty.extend es

theorem entries_eq (hm : StoredAs m h) : m.entries = Dictionary.entries h := by
  have hlist := listing_entries m
  rw [funext hm] at hlist
  exact hlist.unique (listing_hashMap h)

theorem size_eq (hm : StoredAs m h) : m.size = h.size := by
  have hentries := congrArg List.length hm.entries_eq
  rwa [entries, Std.TreeMap.length_toList, length_entries_hashMap] at hentries

theorem isEmpty_eq (hm : StoredAs m h) : m.isEmpty = h.isEmpty := by
  rw [isEmpty, Std.TreeMap.isEmpty_eq_size_eq_zero, Std.HashMap.isEmpty_eq_size_eq_zero]
  exact congrArg (· == 0) hm.size_eq

theorem beq_eq [BEq α] [LawfulBEq α] (hm : StoredAs m h) (hn : StoredAs n k) : (m == n) = (h == k) := by
  rw [Bool.eq_iff_iff, beq_iff_getElem?_stored, Std.HashMap.beq_iff_equiv]
  simp only [hm _, hn _]
  exact ⟨Std.HashMap.Equiv.of_forall_getElem?_eq, fun heq _ => heq.getElem?_eq⟩

end StoredAs

/-! ### Sessions with exact keys -/

/-- A session on maps whose keys are compared character by character. -/
structure ExactSession where
  current : Std.HashMap Text Text
  saved : Std.HashMap Text Text

/-- A session on a map without entries. -/
def ExactSession.start : ExactSession := ⟨∅, ∅⟩

/-- The answer to an operation in a session with exact keys, and the session after it. -/
def Operation.runExact (op : Operation) (s : ExactSession) : Outcome × ExactSession :=
  let m := s.current
  match op with
  | insert key v => let (old, m) := Dictionary.insert m key v; (.value old, { s with current := m })
  | get key => (.value (Mapping.get? m key), s)
  | append key suffix =>
    (.value ((Mapping.get? m key).map (· ++ suffix)), { s with current := m.modify key (· ++ suffix) })
  | containsKey key => (.holds (Mapping.containsKey m key), s)
  | remove key => let (old, m) := Mapping.remove m key; (.value old, { s with current := m })
  | size => (.count m.size, s)
  | isEmpty => (.holds m.isEmpty, s)
  | list => (.entries (Dictionary.entries m), s)
  | takeOne => (.ofTaken (Dictionary.entries m), s)
  | extend es => (.nothing, { s with current := Dictionary.insertAll m es })
  | replace es => (.nothing, { s with current := Dictionary.insertAll ∅ es })
  | equals es => (.holds (m == Dictionary.insertAll ∅ es), s)
  | save => (.nothing, { s with saved := m })
  | swap => (.nothing, ⟨s.saved, m⟩)
  | equalsSaved => (.holds (m == s.saved), s)

/-- An operation with its keys in upper case. -/
def Operation.upper : Operation → Operation
  | insert key v => .insert (Text.upper key) v
  | get key => .get (Text.upper key)
  | append key suffix => .append (Text.upper key) suffix
  | containsKey key => .containsKey (Text.upper key)
  | remove key => .remove (Text.upper key)
  | extend es => .extend (upperKeys es)
  | replace es => .replace (upperKeys es)
  | equals es => .equals (upperKeys es)
  | op => op

/-- Both maps of a session are stored in a session with exact keys. -/
structure Session.StoredAs (s : Session) (t : ExactSession) : Prop where
  current : CaseInsensitiveMap.StoredAs s.current t.current
  saved : CaseInsensitiveMap.StoredAs s.saved t.saved

theorem Session.StoredAs.start : Session.start.StoredAs ExactSession.start := ⟨.empty, .empty⟩

/-- An operation does to a session what the operation with its keys in upper case does to the exact one. -/
theorem Session.StoredAs.run {s : Session} {t : ExactSession} (h : s.StoredAs t) (op : Operation) :
    (op.run s).1 = (op.upper.runExact t).1 ∧ (op.run s).2.StoredAs (op.upper.runExact t).2 := by
  obtain ⟨hm, hs⟩ := h
  cases op with
  | insert key v => exact ⟨congrArg Outcome.value (hm.get?_eq key), hm.insert key v, hs⟩
  | get key => exact ⟨congrArg Outcome.value (hm.get?_eq key), hm, hs⟩
  | append key suffix =>
    refine ⟨?_, hm.modify key _, hs⟩
    show Outcome.value (Option.map _ (s.current.get? key)) = _
    rw [hm.get?_eq key]
    rfl
  | containsKey key => exact ⟨congrArg Outcome.holds (hm.containsKey_eq key), hm, hs⟩
  | remove key => exact ⟨congrArg Outcome.value (hm.get?_eq key), hm.remove key, hs⟩
  | size => exact ⟨congrArg Outcome.count hm.size_eq, hm, hs⟩
  | isEmpty => exact ⟨congrArg Outcome.holds hm.isEmpty_eq, hm, hs⟩
  | list => exact ⟨congrArg Outcome.entries hm.entries_eq, hm, hs⟩
  | takeOne => exact ⟨congrArg Outcome.ofTaken hm.entries_eq, hm, hs⟩
  | extend es => exact ⟨rfl, hm.extend es, hs⟩
  | replace es => exact ⟨rfl, .ofList es, hs⟩
  | equals es => exact ⟨congrArg Outcome.holds (hm.beq_eq (.ofList es)), hm, hs⟩
  | save => exact ⟨rfl, hm, hm⟩
  | swap => exact ⟨rfl, hs, hm⟩
  | equalsSaved => exact ⟨congrArg Outcome.holds (hm.beq_eq hs), hm, hs⟩

/-- A run of operations answers and shows what the run with all keys in upper case does on exact keys. -/
theorem transcript_exact (ops : List Operation) :
    transcript Operation.run (fun s => s.current.entries) Session.start ops =
      transcript Operation.runExact (fun t => Dictionary.entries t.current) ExactSession.start
        (ops.map Operation.upper) :=
  transcript_map (R := Session.StoredAs) Operation.upper (fun op _ _ h => h.run op)
    (fun _ _ h => h.current.entries_eq) Session.StoredAs.start ops

/-! ### What is left under a key -/

/-- What operations, the latest first, have left under a key: in the map at work, or in the saved one. -/
def written (key : Text) (saved : Bool) : List Operation → Option Text
  | [] => none
  | op :: earlier =>
    match op, saved with
    | .save, _ => written key false earlier
    | .swap, _ => written key (!saved) earlier
    | .insert k v, false => if Text.upper k = Text.upper key then some v else written key false earlier
    | .append k suffix, false =>
      if Text.upper k = Text.upper key then (written key false earlier).map (· ++ suffix)
      else written key false earlier
    | .remove k, false => if Text.upper k = Text.upper key then none else written key false earlier
    | .extend es, false => (lastValue? es key).or (written key false earlier)
    | .replace es, false => lastValue? es key
    | _, _ => written key saved earlier

/-- The map at work, or the saved one. -/
def Session.mapAt (s : Session) : Bool → CaseInsensitiveMap Text
  | false => s.current
  | true => s.saved

/-- In both maps of a session stands under a key what was last written there. -/
theorem get?_stateAfter (key : Text) (saved : Bool) (ops : List Operation) :
    ((stateAfter Operation.run Session.start ops.reverse).mapAt saved).get? key = written key saved ops := by
  induction ops generalizing saved with
  | nil => cases saved <;> rfl
  | cons op earlier ih =>
    rw [List.reverse_cons, stateAfter_append, stateAfter_cons, stateAfter_nil]
    generalize stateAfter Operation.run Session.start earlier.reverse = s at ih
    have hcurrent : s.current.get? key = written key false earlier := ih false
    have hsaved : s.saved.get? key = written key true earlier := ih true
    cases saved with
    | true =>
      cases op with
      | save => exact hcurrent
      | swap => exact hcurrent
      | _ => exact hsaved
    | false =>
      cases op with
      | insert k v =>
        show (s.current.insert k v).2.get? key = _
        rw [get?_insert, written, hcurrent]
      | append k suffix =>
        show (s.current.modify k _).2.get? key = _
        rw [get?_modify, written, hcurrent]
      | remove k =>
        show (s.current.remove k).2.get? key = _
        rw [get?_remove, written, hcurrent]
      | extend es =>
        show (s.current.extend es).get? key = _
        rw [get?_extend, written, hcurrent]
      | replace es => exact get?_ofList es key
      | swap => exact hsaved
      | _ => exact hcurrent

/-! ### Entries as a whole -/

/-- The key of an operation on a single entry. -/
def Operation.key? : Operation → Option Text
  | insert key _ => some key
  | get key => some key
  | append key _ => some key
  | containsKey key => some key
  | remove key => some key
  | _ => none

/-- An operation on one entry leaves the others as they are. -/
theorem Operation.get?_run {op : Operation} {k key : Text} (hop : op.key? = some k)
    (hkey : Text.upper k ≠ Text.upper key) (s : Session) :
    (op.run s).2.current.get? key = s.current.get? key := by
  cases op with
  | insert k' v =>
    cases hop
    show (s.current.insert k v).2.get? key = _
    rw [get?_insert, if_neg hkey]
  | append k' suffix =>
    cases hop
    show (s.current.modify k _).2.get? key = _
    rw [get?_modify, if_neg hkey]
  | remove k' =>
    cases hop
    show (s.current.remove k).2.get? key = _
    rw [get?_remove, if_neg hkey]
  | get k' => rfl
  | containsKey k' => rfl
  | _ => cases hop

theorem Session.reachable_stateAfter (ops : List Operation) :
    Reachable (stateAfter Operation.run start ops).current ∧
      Reachable (stateAfter Operation.run start ops).saved := by
  refine stateAfter_induction (P := fun s : Session => Reachable s.current ∧ Reachable s.saved)
    ops ?_ ⟨.empty, .empty⟩
  intro op _ s ⟨hc, hs⟩
  cases op with
  | insert key v => exact ⟨hc.insert key v, hs⟩
  | append key suffix => exact ⟨hc.modify key _, hs⟩
  | remove key => exact ⟨hc.remove key, hs⟩
  | extend es => exact ⟨hc.extend es, hs⟩
  | replace es => exact ⟨reachable_ofList es, hs⟩
  | save => exact ⟨hc, hc⟩
  | swap => exact ⟨hs, hc⟩
  | _ => exact ⟨hc, hs⟩

/-- There are as many entries as there are upper-case forms of keys with an entry. -/
theorem Folded.encard_upper {m : CaseInsensitiveMap α} (h : m.Folded) :
    {form : Text | ∃ key, Text.upper key = form ∧ m.containsKey key = true}.encard = m.size := by
  have hforms : {form : Text | ∃ key, Text.upper key = form ∧ m.containsKey key = true} =
      ((m.entries.map Prod.fst).toFinset : Set Text) := by
    ext form
    rw [Set.mem_ofPred_eq, List.coe_toFinset, Set.mem_ofPred_eq, entries, Std.TreeMap.map_fst_toList_eq_keys,
      Std.TreeMap.mem_keys]
    constructor
    · rintro ⟨key, rfl, hkey⟩
      exact Std.TreeMap.contains_iff_mem.1 hkey
    · intro hform
      refine ⟨form, h form hform, ?_⟩
      rw [containsKey, h form hform]
      exact Std.TreeMap.contains_iff_mem.2 hform
  rw [hforms, Set.encard_coe_eq_coe_finsetCard, List.toFinset_card_of_nodup (listing_entries m).nodup_keys,
    List.length_map]
  exact congrArg _ Std.TreeMap.length_toList

/-- A session cannot be told from one with exact keys in which all keys are in upper case.  After any run there
stands under a key what was last written under a key that differs from it in case at most; inserting and
removing answer what looking up would have answered; operations on one entry leave the others alone; and the
size is the number of keys with an entry, up to their case. -/
theorem Session.refines_exact (ops : List Operation) :
    transcript Operation.run (fun s => s.current.entries) start ops =
        transcript Operation.runExact (fun t => Dictionary.entries t.current) ExactSession.start
          (ops.map Operation.upper) ∧
      let s := stateAfter Operation.run start ops
      (∀ key, s.current.get? key = written key false ops.reverse) ∧
        (∀ key v, ((Operation.insert key v).run s).1 = ((Operation.get key).run s).1 ∧
          ((Operation.remove key).run s).1 = ((Operation.get key).run s).1) ∧
        (∀ op k key, Operation.key? op = some k → Text.upper k ≠ Text.upper key →
          (op.run s).2.current.get? key = s.current.get? key) ∧
        {form : Text | ∃ key, Text.upper key = form ∧ s.current.containsKey key = true}.encard =
          s.current.size := by
  refine ⟨transcript_exact ops, ?_, fun _ _ => ⟨rfl, rfl⟩, fun _ _ _ hop hkey => Operation.get?_run hop hkey _, ?_⟩
  · intro key
    have h := get?_stateAfter key false ops.reverse
    rwa [List.reverse_reverse] at h
  · exact (reachable_stateAfter ops).1.folded.encard_upper

/-- What is written under `straße` and lengthened under `STRASSE` is found under `Strasse`; removing it leaves
the entry of `k`, which came back from the saved map. -/
theorem Session.refines_exact_sharpS :
    let s := stateAfter Operation.run start [.insert ['k'] ['x'], .save, .replace [], .swap,
      .insert ['s', 't', 'r', 'a', 'ß', 'e'] ['1'], .append ['S', 'T', 'R', 'A', 'S', 'S', 'E'] ['0']]
    s.current.get? ['S', 't', 'r', 'a', 's', 's', 'e'] = some ['1', '0'] ∧
      ((Operation.remove ['S', 't', 'r', 'a', 'ß', 'e']).run s).2.current.get? ['K'] = some ['x'] := by
  intro s
  obtain ⟨-, hwritten, -, hother, -⟩ := Session.refines_exact [.insert ['k'] ['x'], .save, .replace [], .swap,
    .insert ['s', 't', 'r', 'a', 'ß', 'e'] ['1'], .append ['S', 'T', 'R', 'A', 'S', 'S', 'E'] ['0']]
  refine ⟨(hwritten _).trans (by decide +kernel), ?_⟩
  exact (hother _ _ ['K'] rfl (by decide +kernel)).trans ((hwritten _).trans (by decide +kernel))

end CaseInsensitiveMap

end TextTemplate
