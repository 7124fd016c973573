import TextTemplate.Proofs.Scanner.Place

/-!
# The places of the lookups

Where in a document the names stand that a scan looks up (`Pull.located`).  Each is a whole name between its
delimiters (`Lookup.Sound`), and each is behind the token before it, whose closing delimiter it may share only
if that token was not resolved.  So no byte belongs to two names, and there are no more lookups than the
document has room for (`located_scan`).
-/

namespace TextTemplate

/-- A name that is looked up, the byte at which it starts, and whether it has a replacement. -/
structure Lookup where
  name : Text
  offset : Nat
  resolved : Bool
  deriving DecidableEq

namespace Lookup

def nameStop (w : Lookup) : Nat := w.offset + w.name.byteLength

/-- The byte behind the token, of which the closing delimiter is a part only if the name has a replacement. -/
def stop (δ : Delimiters) (w : Lookup) : Nat := w.nameStop + if w.resolved then δ.closing.byteLength else 0

/-- A byte that belongs to the name. -/
def Covers (w : Lookup) (n : Nat) : Prop := w.offset ≤ n ∧ n < w.nameStop

/-- The lookup is of a whole name: an opening delimiter ends where it starts, the last one of a run, and where
it stops the first closing delimiter starts. -/
structure Sound (δ : Delimiters) (resolve : Resolver) (document : Text) (w : Lookup) : Prop where
  name_ne_nil : w.name ≠ []
  resolved_eq : w.resolved = (resolve w.name).isSome
  opening_ends : Text.EndsAt δ.opening document w.offset
  run_ends : ∀ c ∈ w.name.head?, ¬ Text.EndsAt δ.opening document (w.offset + c.utf8Size)
  name_starts : Text.StartsAt w.name document w.offset
  closing_starts : Text.StartsAt δ.closing document w.nameStop
  closing_first : ∀ n, w.offset ≤ n → n < w.nameStop → ¬ Text.StartsAt δ.closing document n

end Lookup

/-- The lookups of a call.  The call leaves the mark behind the token. -/
def Pull.located (δ : Delimiters) (p : Pull) : List Lookup :=
  p.lookups.map fun name =>
    let resolved := p.unresolved.isEmpty
    ⟨name, p.scanner.mark - (name.byteLength + if resolved then δ.closing.byteLength else 0), resolved⟩

namespace Scanner

variable {δ : Delimiters} {resolve : Resolver} {document : Text} {s : Scanner} {p : Pull} {w : Lookup}

/-! ### Lookups and moves -/

/-- The move from `s` looks up its span. -/
structure Looks (δ : Delimiters) (resolve : Resolver) (s : Scanner) (p : Pull) (w : Lookup) : Prop where
  phase_eq : s.phase = .token
  name_eq : w.name = s.span.toText
  offset_eq : w.offset = s.mark
  name_ne_nil : w.name ≠ []
  resolved_eq : w.resolved = (resolve w.name).isSome
  closing_ahead : δ.closing <+: s.rest
  phase_behind : p.scanner.phase = .literal
  mark_behind : p.scanner.mark = w.stop δ

theorem Move.looks (h : Move δ resolve s p) : ∀ w ∈ p.located δ, Looks δ resolve s p w := by
  have hpassed : (s.passed.join s.span).byteLength = s.mark + s.span.toText.byteLength := by
    rw [Trail.byteLength_join, ← s.span.byteLength_eq]
    rfl
  intro w hw
  cases h with
  | resolved hp hph hr hn hv =>
    have hmark : ((s.passed.join s.span).extend δ.closing).byteLength =
        s.mark + s.span.toText.byteLength + δ.closing.byteLength := by
      rw [← hpassed, Trail.byteLength_extend]
    have hoffset : ((s.passed.join s.span).extend δ.closing).byteLength -
        (s.span.toText.byteLength + δ.closing.byteLength) = s.mark := by
      omega
    have hw : w = ⟨s.span.toText, s.mark, true⟩ :=
      (List.mem_singleton.1 hw).trans (congrArg (Lookup.mk _ · _) hoffset)
    subst hw
    exact ⟨hph, rfl, rfl, hn, by rw [hv]; rfl, hr ▸ List.prefix_append _ _, rfl, hmark⟩
  | unresolved hp hph hr hn hv =>
    have hoffset : (s.passed.join s.span).byteLength - (s.span.toText.byteLength + 0) = s.mark := by
      omega
    have hw : w = ⟨s.span.toText, s.mark, false⟩ :=
      (List.mem_singleton.1 hw).trans (congrArg (Lookup.mk _ · _) hoffset)
    subst hw
    exact ⟨hph, rfl, rfl, hn, by rw [hv]; rfl, hr ▸ List.prefix_append _ _, rfl, hpassed⟩
  | _ => cases hw

/-- The lookups that fail are reported with their places. -/
theorem Move.unresolved_eq (h : Move δ resolve s p) :
    p.unresolved = ((p.located δ).filter fun w => !w.resolved).map fun w => ⟨w.name, w.offset⟩ := by
  have hlooks := h.looks
  cases h with
  | unresolved hp hph hr hn hv =>
    have hoffset := (hlooks _ (List.mem_singleton_self _)).offset_eq
    exact congrArg (fun o => [Unresolved.mk s.span.toText o]) hoffset.symm
  | _ => rfl

theorem Move.lookups_cases (h : Move δ resolve s p) : p.lookups = [] ∨ ∃ name, p.lookups = [name] := by
  cases h with
  | resolved | unresolved => exact .inr ⟨_, rfl⟩
  | _ => exact .inl rfl

/-! ### Soundness -/

theorem Looks.sound (h : Looks δ resolve s p w) (hs : s.Placed δ document) : w.Sound δ resolve document := by
  obtain ⟨after, hrest⟩ := h.closing_ahead
  have hdoc : document = s.passed.toText ++ (w.name ++ (δ.closing ++ after)) := by
    rw [hs.eq_append, h.name_eq, hrest]
  have hoffset : w.offset = s.passed.toText.byteLength := h.offset_eq.trans (Trail.byteLength_eq _)
  refine ⟨h.name_ne_nil, h.resolved_eq, ?_, ?_, ⟨_, _, hdoc, hoffset.symm⟩, ?_, ?_⟩
  · rw [h.offset_eq]
    exact hs.endsAt_mark h.phase_eq
  · intro c hc hends
    obtain ⟨name, hname⟩ := List.head?_eq_some_iff.1 hc
    -- that opening delimiter would end the text up to the first character of the name
    have hcut : document = s.passed.toText ++ [c] ++ (name ++ (δ.closing ++ after)) := by
      rw [hdoc, hname, List.append_assoc]
      rfl
    have hlen : w.offset + c.utf8Size = (s.passed.toText ++ [c]).byteLength := by
      rw [hoffset, Text.byteLength_append]
      rfl
    rw [hcut, hlen, Text.endsAt_append_iff] at hends
    refine hs.run_ends h.phase_eq c ?_ hends
    rw [← h.name_eq, hname]
    rfl
  · rw [Lookup.nameStop, hoffset, hdoc, ← List.append_assoc, ← Text.byteLength_append, Text.startsAt_append_iff]
    exact List.prefix_append _ _
  · rintro n hge hlt ⟨before, behind, hbefore, hlen⟩
    rw [Lookup.nameStop] at hlt
    obtain ⟨lead, rfl⟩ : s.passed.toText <+: before :=
      Text.isPrefix_of_byteLength_le ⟨_, hdoc.symm⟩ ⟨_, hbefore.symm⟩ (by omega)
    rw [Text.byteLength_append] at hlen
    have hspan : w.name ++ (δ.closing ++ after) = lead ++ (δ.closing ++ behind) := by
      rw [hdoc, List.append_assoc] at hbefore
      exact List.append_cancel_left hbefore
    -- the delimiter would start within the span, which is clear of it
    have hshort : lead.length < w.name.length := by
      by_contra hlong
      obtain ⟨more, rfl⟩ : w.name <+: lead :=
        List.prefix_of_prefix_length_le ⟨_, hspan⟩ (List.prefix_append _ _) (Nat.le_of_not_lt hlong)
      rw [Text.byteLength_append] at hlen
      omega
    apply hs.valid.clear lead.length (h.name_eq ▸ hshort)
    rw [h.phase_eq, ← h.name_eq, ← hrest, hspan, List.drop_left]
    exact List.prefix_append _ _

/-! ### Order -/

/-- The first byte at which a name can start that is still to be looked up. -/
def earliest (δ : Delimiters) (s : Scanner) : Nat :=
  match s.phase with
  | .literal => s.mark + δ.opening.byteLength
  | .token => s.mark

/-- What is behind a lookup is behind its token, and a further opening delimiter. -/
theorem Looks.earliest_eq (h : Looks δ resolve s p w) :
    s.earliest δ = w.offset ∧ p.scanner.earliest δ = w.stop δ + δ.opening.byteLength := by
  rw [earliest, earliest, h.phase_eq, h.phase_behind, h.offset_eq]
  exact ⟨rfl, congrArg (· + δ.opening.byteLength) h.mark_behind⟩

theorem Move.earliest_le (h : Move δ resolve s p) : s.earliest δ ≤ p.scanner.earliest δ := by
  have hpassed := s.passed.byteLength_join s.span
  cases h with
  | @opening after lead rest held hp hph hr hs hl =>
    have hheld : held.byteLength = lead.byteLength + δ.opening.byteLength := by
      rw [held.byteLength_eq, hl, Text.byteLength_append]
    have hjoin := s.passed.byteLength_join held
    simp only [earliest, hph, Pull.quiet, mark]
    omega
  | blank hp hph =>
    simp only [earliest, hph, Pull.quiet, mark]
    omega
  | resolved hp hph =>
    have hextend := (s.passed.join s.span).byteLength_extend δ.closing
    simp only [earliest, hph, mark]
    omega
  | unresolved hp hph =>
    simp only [earliest, hph, mark]
    omega
  | _ => exact Nat.le_refl _

/-- From a state on, the names are looked up in the order of their places. -/
theorem located_pulls (hv : s.Valid δ) :
    (∀ w ∈ (s.pulls δ resolve).flatMap (Pull.located δ), s.earliest δ ≤ w.offset) ∧
      ((s.pulls δ resolve).flatMap (Pull.located δ)).Pairwise fun w v =>
        w.stop δ + δ.opening.byteLength ≤ v.offset := by
  refine Valid.induction resolve (motive := fun s =>
    (∀ w ∈ (s.pulls δ resolve).flatMap (Pull.located δ), s.earliest δ ≤ w.offset) ∧
      ((s.pulls δ resolve).flatMap (Pull.located δ)).Pairwise fun w v =>
        w.stop δ + δ.opening.byteLength ≤ v.offset) ?_ ?_ hv
  · intro s hv hf hp
    rw [pulls_of_finished (hv.rest_of_finished hf) hf hp]
    constructor
    · intro w hw
      cases hw
    · exact .nil
  · intro s p hv hm ⟨hstart, horder⟩
    rw [flatMap_pulls_of_move (fun _ => rfl) hm]
    have hone : (p.located δ).Pairwise fun w v => w.stop δ + δ.opening.byteLength ≤ v.offset := by
      rw [Pull.located]
      obtain hnil | ⟨name, hname⟩ := hm.lookups_cases
      · rw [hnil]
        exact .nil
      · rw [hname]
        exact List.pairwise_singleton _ _
    constructor
    · intro w hw
      rcases List.mem_append.1 hw with hw | hw
      · exact Nat.le_of_eq (hm.looks w hw).earliest_eq.1
      · exact Nat.le_trans hm.earliest_le (hstart w hw)
    · refine List.pairwise_append.2 ⟨hone, horder, ?_⟩
      intro w hw v hv
      rw [← (hm.looks w hw).earliest_eq.2]
      exact hstart v hv

end Scanner

/-- Names that do not overlap, each behind an opening delimiter, and a closing delimiter behind them all. -/
private theorem Lookup.length_mul_le {a c start stop : Nat} {ws : List Lookup} (hne : ws ≠ [])
    (hname : ∀ w ∈ ws, w.name ≠ []) (hstart : ∀ w ∈ ws, start + a ≤ w.offset)
    (hstop : ∀ w ∈ ws, w.nameStop + c ≤ stop)
    (horder : ws.Pairwise fun w v => w.nameStop + a ≤ v.offset) : start + ws.length * (a + 1) + c ≤ stop := by
  induction ws generalizing start with
  | nil => exact absurd rfl hne
  | cons w ws ih =>
    rw [List.forall_mem_cons] at hname hstart hstop
    rw [List.pairwise_cons] at horder
    have hpos := Text.byteLength_pos hname.1
    have hfirst := hstart.1
    rw [List.length_cons, Nat.succ_mul]
    rw [nameStop] at hstop horder
    by_cases hws : ws = []
    · rw [hws, List.length_nil]
      omega
    · have hlater := ih hws hname.2 horder.1 hstop.2 horder.2
      omega

/-- Every lookup of a scan is of a whole name, and behind the token before it.  So no byte of the document
belongs to two names, and the document has room for them all, with an opening delimiter each and a closing one
behind the last. -/
theorem located_scan (δ : Delimiters) (resolve : Resolver) (document : Text) :
    let lookups := (scan δ resolve document).flatMap (Pull.located δ)
    lookups.map Lookup.name = Pull.names (scan δ resolve document) ∧
      Pull.leftovers (scan δ resolve document) =
        ((lookups.filter fun w => !w.resolved).map fun w => ⟨w.name, w.offset⟩) ∧
      (∀ w ∈ lookups, w.Sound δ resolve document) ∧
      (lookups.Pairwise fun w v => w.stop δ + δ.opening.byteLength ≤ v.offset) ∧
      (lookups.Pairwise fun w v => ∀ n, ¬ (w.Covers n ∧ v.Covers n)) ∧
      (lookups = [] ∨
        lookups.length * (δ.opening.byteLength + 1) + δ.closing.byteLength ≤ document.byteLength) := by
  intro lookups
  have hsound : ∀ w ∈ lookups, w.Sound δ resolve document := by
    intro w hw
    obtain ⟨p, hp, hw⟩ := List.mem_flatMap.1 hw
    obtain ⟨s, hs, hm, -⟩ := Scanner.exists_move_of_mem_pulls (Scanner.placed_start δ document) p hp
    exact (hm.looks w hw).sound hs
  obtain ⟨hstart, horder⟩ := @Scanner.located_pulls δ resolve _ (Scanner.valid_start δ document)
  have hnames : lookups.Pairwise fun w v => w.nameStop + δ.opening.byteLength ≤ v.offset := by
    refine horder.imp ?_
    intro w v hwv
    rw [Lookup.stop] at hwv
    omega
  refine ⟨?_, ?_, hsound, horder, ?_, ?_⟩
  · rw [List.map_flatMap, Pull.names]
    refine List.flatMap_congr ?_
    intro p _
    rw [Pull.located, List.map_map]
    exact List.map_id' _
  · rw [Pull.leftovers, List.filter_flatMap, List.map_flatMap]
    refine List.flatMap_congr ?_
    intro p hp
    obtain ⟨s, -, hm, -⟩ := Scanner.exists_move_of_mem_pulls (Scanner.placed_start δ document) p hp
    exact hm.unresolved_eq
  · refine hnames.imp ?_
    rintro w v hwv n ⟨⟨-, hw⟩, ⟨hv, -⟩⟩
    omega
  · rw [or_iff_not_imp_left]
    intro hne
    have hfits : ∀ w ∈ lookups, w.nameStop + δ.closing.byteLength ≤ document.byteLength := by
      intro w hw
      obtain ⟨before, after, rfl, hlen⟩ := (hsound w hw).closing_starts
      rw [Text.byteLength_append, Text.byteLength_append, hlen]
      omega
    have hroom := Lookup.length_mul_le hne (fun w hw => (hsound w hw).name_ne_nil) hstart hfits hnames
    rwa [show (Scanner.start document).mark = 0 from rfl, Nat.zero_add] at hroom

/-- The closing delimiter of a name without replacement opens the next token, and the document has room for
these two lookups exactly. -/
theorem located_scan_reopened :
    (⟨['b'], 5, true⟩ : Lookup).Sound .default (fun name => if name = ['b'] then some ['B'] else none)
        ['#', '#', 'a', '#', '#', 'b', '#', '#'] ∧
      2 * (2 + 1) + 2 ≤ Text.byteLength ['#', '#', 'a', '#', '#', 'b', '#', '#'] := by
  have hlookups : (scan .default (fun name => if name = ['b'] then some ['B'] else none)
      ['#', '#', 'a', '#', '#', 'b', '#', '#']).flatMap (Pull.located .default) =
        [⟨['a'], 2, false⟩, ⟨['b'], 5, true⟩] := by decide +kernel
  obtain ⟨-, -, hsound, -, -, hroom⟩ :=
    located_scan .default (fun name => if name = ['b'] then some ['B'] else none)
      ['#', '#', 'a', '#', '#', 'b', '#', '#']
  rw [hlookups] at hsound hroom
  exact ⟨hsound _ (by decide), hroom.resolve_left (by decide)⟩

end TextTemplate
