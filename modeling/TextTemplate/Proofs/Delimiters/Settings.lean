import TextTemplate.Proofs.Delimiters.Json
import TextTemplate.Proofs.Json.Tree

/-!
# Settings and their forms

The same settings can be stored in many forms (`Settings.Form`): as an object, its members in any order and
among others with any other keys, or as an array.  Each form has many spellings.  From all of them the
delimiters are read that `make` makes of the two texts, with `##` for what is not given, or its refusal of an
empty one (`ofJson_form`).
-/

namespace TextTemplate

namespace Delimiters

open Json (Piece Tree Token ofPieces tokens)

/-! ### Forms -/

/-- The members that give a text for a side, or nothing. -/
inductive Gives (side : Side) : Option Text → List (List Piece × Tree) → Prop
  | nothing : Gives side none []
  | text {key ps : List Piece} {t : Text} (hkey : ofPieces key = some side.name) (ht : ofPieces ps = some t) :
      Gives side (some t) [(key, .string ps)]

/-- The key of a member is a text, and the name of neither side. -/
def IsOther (m : List Piece × Tree) : Prop := ∃ key, ofPieces m.1 = some key ∧ ∀ side : Side, key ≠ side.name

/-- The JSON values that settings are stored as. -/
inductive Settings.Form : Settings → Tree → Prop
  | object {o c : Option Text} {os cs others members : List (List Piece × Tree)} (ho : Gives .opening o os)
      (hc : Gives .closing c cs) (hothers : ∀ m ∈ others, IsOther m) (hperm : members.Perm (os ++ (cs ++ others))) :
      Form ⟨o, c⟩ (.object members)
  | emptyArray : Form ⟨none, none⟩ (.array [])
  | singleton {po : List Piece} {o : Text} (ho : ofPieces po = some o) : Form ⟨some o, none⟩ (.array [.string po])
  | pair {po pc : List Piece} {o c : Text} (ho : ofPieces po = some o) (hc : ofPieces pc = some c) :
      Form ⟨some o, some c⟩ (.array [.string po, .string pc])

/-! ### Members -/

theorem IsOther.ofName?_eq_none {m : List Piece × Tree} (h : IsOther m) :
    ∃ key, ofPieces m.1 = some key ∧ Side.ofName? key = none := by
  obtain ⟨key, hkey, hne⟩ := h
  refine ⟨key, hkey, ?_⟩
  rw [Side.ofName?, if_neg (hne .opening), if_neg (hne .closing)]

/-- A member that gives no side is skipped, whatever its value is. -/
theorem readMember_other {key : Text} (h : Side.ofName? key = none) (s : Settings) (v : Tree) (rest : List Token) :
    readMember s key (.colon :: (v.tokens ++ rest)) = .ok (s, rest) := by
  unfold readMember
  rw [h]
  simp only [Json.readTree_tokens]

/-- What one member makes of the settings. -/
inductive Settings.Takes (s : Settings) : List Piece × Tree → Settings → Prop
  | side {side : Side} {key ps : List Piece} {t : Text} (hkey : ofPieces key = some side.name)
      (ht : ofPieces ps = some t) (hnew : s.get side = none) : Takes s (key, .string ps) (s.set side t)
  | other {m : List Piece × Tree} (h : IsOther m) : Takes s m s

theorem Settings.Takes.readMember_eq {s s' : Settings} {m : List Piece × Tree} (h : s.Takes m s') :
    ∃ key, ofPieces m.1 = some key ∧ ∀ rest,
      readMember s key (.colon :: (m.2.tokens ++ rest)) = .ok (s', rest) := by
  cases h with
  | side hkey ht hnew => exact ⟨_, hkey, readMember_side hnew ht⟩
  | other h =>
    obtain ⟨key, hkey, hname⟩ := h.ofName?_eq_none
    exact ⟨key, hkey, readMember_other hname s m.2⟩

/-- What the members of an object make of the settings, one after the other. -/
inductive Settings.TakesAll : Settings → List (List Piece × Tree) → Settings → Prop
  | nil {s : Settings} : TakesAll s [] s
  | cons {s s' s'' : Settings} {m : List Piece × Tree} {ms : List (List Piece × Tree)} (h : s.Takes m s')
      (hs : TakesAll s' ms s'') : TakesAll s (m :: ms) s''

theorem Settings.TakesAll.readMembers_eq {s s' : Settings} {ms : List (List Piece × Tree)} (h : s.TakesAll ms s')
    (hne : ms ≠ []) (rest : List Token) :
    readMembers s (List.intercalate [.comma] (Tree.memberTokens ms) ++ ([.endObject] ++ rest)) =
      .ok (s', rest) := by
  induction h with
  | nil => exact absurd rfl hne
  | @cons s s' s'' m ms hm hms ih =>
    obtain ⟨key, hkey, hread⟩ := hm.readMember_eq
    cases ms with
    | nil =>
      cases hms
      rw [Tree.memberTokens, Tree.memberTokens, List.intercalate_singleton]
      exact readMembers_endObject hkey (hread _)
    | cons n ms =>
      have ih := ih (List.cons_ne_nil _ _)
      rw [Tree.memberTokens] at ih
      rw [Tree.memberTokens, Tree.memberTokens, List.intercalate_cons_cons, List.append_assoc,
        List.append_assoc, ← ih]
      exact readMembers_comma hkey (hread _)

/-- Whatever the order of the members, each side that is given is given once. -/
theorem Settings.takesAll_of_perm {members os cs others : List (List Piece × Tree)} {o c : Option Text}
    (ho : Gives .opening o os) (hc : Gives .closing c cs) (hothers : ∀ m ∈ others, IsOther m)
    (hperm : members.Perm (os ++ (cs ++ others))) {s : Settings} (hopening : o ≠ none → s.opening = none)
    (hclosing : c ≠ none → s.closing = none) : s.TakesAll members ⟨o.or s.opening, c.or s.closing⟩ := by
  induction members generalizing s o c os cs others with
  | nil =>
    have hnil := hperm.nil_eq.symm
    rw [List.append_eq_nil_iff, List.append_eq_nil_iff] at hnil
    obtain ⟨rfl, rfl, -⟩ := hnil
    cases ho
    cases hc
    exact .nil
  | cons m ms ih =>
    have hm : m ∈ os ++ (cs ++ others) := hperm.subset List.mem_cons_self
    rw [List.mem_append, List.mem_append] at hm
    rcases hm with hm | hm | hm
    · -- the opening delimiter: no other member gives it
      cases ho with
      | nothing => cases hm
      | text hkey ht =>
        obtain rfl := List.mem_singleton.1 hm
        have hnew : s.opening = none := hopening (Option.some_ne_none _)
        exact .cons (.side hkey ht hnew) (ih .nothing hc hothers hperm.cons_inv (fun h => absurd rfl h) hclosing)
    · -- the closing delimiter
      cases hc with
      | nothing => cases hm
      | text hkey ht =>
        obtain rfl := List.mem_singleton.1 hm
        have hnew : s.closing = none := hclosing (Option.some_ne_none _)
        have hrest : ms.Perm (os ++ ([] ++ others)) := (hperm.trans List.perm_middle).cons_inv
        exact .cons (.side hkey ht hnew) (ih ho .nothing hothers hrest hopening (fun h => absurd rfl h))
    · obtain ⟨before, after, rfl⟩ := List.append_of_mem hm
      have hrest : ms.Perm (os ++ (cs ++ (before ++ after))) := by
        rw [← List.append_assoc, ← List.append_assoc] at hperm ⊢
        exact (hperm.trans List.perm_middle).cons_inv
      have hothers' : ∀ n ∈ before ++ after, IsOther n := by
        intro n hn
        exact hothers n (List.perm_middle.mem_iff.2 (List.mem_cons_of_mem _ hn))
      exact .cons (.other (hothers m hm)) (ih ho hc hothers' hrest hopening hclosing)

/-! ### Reading the forms -/

/-- The tokens of every form are read as the settings. -/
theorem Settings.Form.readSettings_eq {s : Settings} {v : Tree} (h : s.Form v) :
    readSettings v.tokens = .ok (s, []) := by
  cases h with
  | @object o c os cs others members ho hc hothers hperm =>
    have htakes : Settings.empty.TakesAll members ⟨o.or none, c.or none⟩ :=
      takesAll_of_perm ho hc hothers hperm (fun _ => rfl) (fun _ => rfl)
    rw [Option.or_none, Option.or_none] at htakes
    rw [Tree.tokens]
    cases members with
    | nil =>
      cases htakes
      rfl
    | cons m ms =>
      have hread := htakes.readMembers_eq (List.cons_ne_nil _ _) []
      rw [List.append_nil] at hread
      rw [readSettings]
      · exact hread
      · -- the object does not end before its first member
        intro ts hts
        obtain ⟨more, hmore⟩ :=
          Json.exists_append_intercalate [.comma] (.string m.1 :: .colon :: m.2.tokens) (Tree.memberTokens ms)
        rw [Tree.memberTokens, hmore] at hts
        cases hts
  | emptyArray => rfl
  | @singleton po o ho =>
    show readItems [.string po, .endArray] = _
    rw [readItems, readText_string ho]
    · rfl
    · simp
  | @pair po pc o c ho hc =>
    show readItems [.string po, .comma, .string pc, .endArray] = _
    rw [readItems, readText_string ho]
    · show (readText [.string pc, .endArray] >>= _) = _
      rw [readText_string hc]
      rfl
    · simp

/-- Whatever form settings are stored in, and however that is written, the delimiters that are read are those
that `make` makes of the two texts, with `##` for what is not given, or its refusal.  So delimiters that are
read are never empty. -/
theorem ofJson_form :
    (∀ (o c : Option Text) (v : Tree) (t : Text), Settings.Form ⟨o, c⟩ v → Json.Spelling v.tokens t →
        ofJson t = (make (o.getD defaultText) (c.getD defaultText)).mapError fun e => .refused (.empty e)) ∧
      ∀ (t : Text) (δ : Delimiters), ofJson t = .ok δ → δ.opening ≠ [] ∧ δ.closing ≠ [] := by
  constructor
  · intro o c v t hv ht
    rw [ofJson, ht.tokens_eq, hv.readSettings_eq]
    show ((make (o.getD defaultText) (c.getD defaultText)).mapError _ >>= _) = _
    cases make (o.getD defaultText) (c.getD defaultText) with
    | ok δ => rfl
    | error e => rfl
  · intro t δ _
    exact ⟨δ.opening_ne_nil, δ.closing_ne_nil⟩

/-- Both texts are empty, and the opening one is refused although it comes last, with an escape in its key, and
behind a member that is skipped. -/
theorem ofJson_form_lastMember :
    ofJson
        [' ', '\x7b', '"', 'x', '"', ':', '[', '-', '0', '.', '5', 'e', '+', '1', ']', ',',
          '"', 'c', 'l', 'o', 's', 'e', '"', ':', '"', '"', ',',
          '"', '\\', 'u', '0', '0', '6', 'F', 'p', 'e', 'n', '"', ':', '"', '"', '\x7d'] =
      .error (.refused (.empty ⟨.opening⟩)) := by
  let skipped : List Piece × Tree :=
    ([.char 'x'], .array [.numeral ⟨true, ['0'], some ['5'], some (false, ['1'])⟩])
  let closing : List Piece × Tree := (['c', 'l', 'o', 's', 'e'].map .char, .string [])
  let opening : List Piece × Tree := (.unit 0x6F :: ['p', 'e', 'n'].map .char, .string [])
  have hform : Settings.Form ⟨some [], some []⟩ (.object [skipped, closing, opening]) := by
    refine @Settings.Form.object _ _ [opening] [closing] [skipped] _
      (.text (by decide) rfl) (.text (by decide) rfl) ?_ ?_
    · rw [List.forall_mem_singleton]
      refine ⟨['x'], rfl, ?_⟩
      intro side
      cases side with
      | opening => decide
      | closing => decide
    · exact List.reverse_perm [opening, closing, skipped]
  refine ofJson_form.1 _ _ _ _ hform ?_
  have hdigit : ∀ c : Char, c.isDigit = true → Json.Digits [c] := by
    intro c hc
    exact ⟨List.cons_ne_nil _ _, by rwa [List.forall_mem_singleton]⟩
  have hnumber : Json.Numeral.Spelling ⟨true, ['0'], some ['5'], some (false, ['1'])⟩
      ['-', '0', '.', '5', 'e', '+', '1'] :=
    .negative (.mk (hdigit _ rfl) (fun _ => rfl) (.point (hdigit _ rfl)) (.plus (.inl rfl) (hdigit _ rfl))) rfl
  have hempty : Token.Spelling (.string []) ['"', '"'] := .string .nil
  have hkey : Token.Spelling (.string opening.1) ['"', '\\', 'u', '0', '0', '6', 'F', 'p', 'e', 'n', '"'] :=
    .string (.cons (.unit rfl) (.cons (.raw (by decide) (by decide) (by decide))
      (.cons (.raw (by decide) (by decide) (by decide)) (.cons (.raw (by decide) (by decide) (by decide)) .nil))))
  refine .blank rfl (.token .beginObject trivial ?_)
  refine .token (.plain (List.forall_mem_singleton.2 (by decide))) trivial (.token .colon trivial ?_)
  refine .token .beginArray trivial (.token (.numeral hnumber) ?_
    (.token .endArray trivial (.token .comma trivial ?_)))
  · rintro c ⟨⟩
    exact ⟨rfl, by decide, by decide, by decide⟩
  refine .token (.plain (t := ['c', 'l', 'o', 's', 'e']) (by simp)) trivial (.token .colon trivial ?_)
  refine .token hempty trivial (.token .comma trivial ?_)
  exact .token hkey trivial (.token .colon trivial (.token hempty trivial (.token .endObject trivial .nil)))

end Delimiters

end TextTemplate
