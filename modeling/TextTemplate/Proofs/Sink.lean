import Mathlib.Algebra.Order.Ring.Nat
import TextTemplate.Proofs.Scanner.Move
import TextTemplate.Sink

/-!
# Rendering into a sink with a limit

A sink stores what it is given up to its limit, in however many portions (`Sink.Stores`).  Storing one text
after the other is storing the two together, so that the portions of a call, the calls for a block and the
blocks of a document are all the same to it.  A rendering is delivered in full if it fits; otherwise its first
bytes are, and the scan goes no further than the first block that does not fit (`renderInto_new`).
-/

namespace TextTemplate

/-! ### Limits -/

/-- Whether `n` bytes are within a limit, if there is one. -/
def Fits (limit : Option Nat) (n : Nat) : Prop := ∀ l ∈ limit, n ≤ l

/-- How many of `n` bytes are within a limit, if there is one. -/
def capped : Option Nat → Nat → Nat
  | none, n => n
  | some l, n => min l n

theorem fits_none (n : Nat) : Fits none n := by
  intro l hl
  cases hl

theorem fits_some {l n : Nat} : Fits (some l) n ↔ n ≤ l := by
  rw [Fits]
  simp only [Option.mem_some_iff, forall_eq']

theorem Fits.mono {limit : Option Nat} {m n : Nat} (h : Fits limit n) (hle : m ≤ n) : Fits limit m :=
  fun l hl => Nat.le_trans hle (h l hl)

theorem capped_of_fits {limit : Option Nat} {n : Nat} (h : Fits limit n) : capped limit n = n := by
  cases limit with
  | none => rfl
  | some l => exact Nat.min_eq_right (fits_some.1 h)

theorem fits_of_le_capped {limit : Option Nat} {m n : Nat} (h : m ≤ capped limit n) : Fits limit m := by
  cases limit with
  | none => exact fits_none m
  | some l => exact fits_some.2 (Nat.le_trans h (Nat.min_le_left l n))

theorem capped_le (limit : Option Nat) (n : Nat) : capped limit n ≤ n := by
  cases limit with
  | none => exact Nat.le_refl n
  | some l => exact Nat.min_le_right l n

/-- What has been used of a limit counts towards what comes after it. -/
theorem fits_add {limit : Option Nat} {n m : Nat} (h : Fits limit n) :
    Fits limit (n + m) ↔ Fits (limit.map (· - n)) m := by
  cases limit with
  | none => exact iff_of_true (fits_none _) (fits_none _)
  | some l =>
    have hl := fits_some.1 h
    rw [Option.map_some, fits_some, fits_some]
    omega

theorem capped_add {limit : Option Nat} {n m : Nat} (h : Fits limit n) :
    capped limit (n + m) = n + capped (limit.map (· - n)) m := by
  cases limit with
  | none => rfl
  | some l =>
    have hl := fits_some.1 h
    simp only [capped, Option.map_some]
    omega

theorem not_fits_add {limit : Option Nat} {n : Nat} (h : ¬ Fits limit n) (m : Nat) :
    ¬ Fits limit (n + m) ∧ capped limit (n + m) = capped limit n ∧ capped limit n ≤ n := by
  cases limit with
  | none => exact absurd (fits_none n) h
  | some l =>
    rw [fits_some] at h ⊢
    simp only [capped]
    omega

/-- What a full sink answers in the end. -/
def WhenFull.error : WhenFull → WriteError
  | .acceptNothing => .nothingAccepted
  | .fail => .sinkFull

namespace Sink

/-- The most bytes that are ever accepted: none if no call accepts any. -/
def effectiveLimit (chunk limit : Option Nat) : Option Nat := if chunk = some 0 then some 0 else limit

/-- The most bytes that are still accepted. -/
def left (s : Sink) : Option Nat := (effectiveLimit s.chunk s.limit).map (· - s.accepted.size)

/-- A call accepts no more than is left, and nothing only if nothing is left. -/
theorem room_bounds (s : Sink) (n : Nat) :
    s.room n ≤ capped s.left n ∧ (s.room n = 0 ↔ capped s.left n = 0) := by
  obtain ⟨chunk, limit, _, _, accepted, _, _⟩ := s
  simp only [room, left, effectiveLimit]
  cases chunk with
  | none =>
    cases limit with
    | none => exact ⟨Nat.le_refl n, Iff.rfl⟩
    | some l =>
      simp only [reduceCtorEq, if_false, Option.map_some, capped]
      omega
  | some c =>
    by_cases hc : c = 0
    · subst hc
      cases limit <;> simp [capped]
    · simp only [Option.some.injEq, hc, if_false]
      cases limit with
      | none =>
        simp only [Option.map_none, capped]
        omega
      | some l =>
        simp only [Option.map_some, capped]
        omega

/-! ### Storing -/

/-- The counts of the calls that end in a failure: a call that accepts nothing is counted. -/
def lastCounts : Option WriteError → List Nat
  | some .nothingAccepted => [0]
  | _ => []

theorem lastCounts_none : lastCounts none = [] := rfl

theorem lastCounts_eq (failure : Option WriteError) :
    lastCounts failure = if failure = some .nothingAccepted then [0] else [] := by
  rcases failure with _ | _ | _ <;> rfl

/-- From `s` to `s'` a sink was given some bytes, and has stored as many of the first of them as are within its
limit, in portions that are not empty. -/
structure Stores (s s' : Sink) (bytes : List UInt8) (failure : Option WriteError) : Prop where
  chunk_eq : s'.chunk = s.chunk
  limit_eq : s'.limit = s.limit
  whenFull_eq : s'.whenFull = s.whenFull
  accepted_eq : s'.accepted.toList = s.accepted.toList ++ bytes.take (capped s.left bytes.length)
  exists_counts : ∃ counts : List Nat, (∀ n ∈ counts, 0 < n) ∧ counts.sum = capped s.left bytes.length ∧
    s'.writes.toList = s.writes.toList ++ (counts ++ lastCounts failure)
  fits_of_none : failure = none → Fits s.left bytes.length
  not_fits_of_some : ∀ e, failure = some e → ¬ Fits s.left bytes.length ∧ e = s.whenFull.error

variable {s s₁ s₂ : Sink} {bytes bytes₁ bytes₂ : List UInt8} {failure : Option WriteError}

theorem Stores.left_eq (h : Stores s s₁ bytes none) : s₁.left = s.left.map (· - bytes.length) := by
  have hsize : s₁.accepted.size = s.accepted.size + bytes.length := by
    rw [← Array.length_toList, h.accepted_eq, capped_of_fits (h.fits_of_none rfl), List.take_length,
      List.length_append, Array.length_toList]
  rw [left, left, h.chunk_eq, h.limit_eq, hsize, Option.map_map]
  congr 1
  funext l
  exact (Nat.sub_sub ..).symm

/-- Storing one text after the other is storing both together. -/
theorem Stores.append (h₁ : Stores s s₁ bytes₁ none) (h₂ : Stores s₁ s₂ bytes₂ failure) :
    Stores s s₂ (bytes₁ ++ bytes₂) failure := by
  have hfits := h₁.fits_of_none rfl
  have hadd : capped s.left (bytes₁ ++ bytes₂).length = bytes₁.length + capped s₁.left bytes₂.length := by
    rw [List.length_append, capped_add hfits, h₁.left_eq]
  have hiff : Fits s.left (bytes₁ ++ bytes₂).length ↔ Fits s₁.left bytes₂.length := by
    rw [List.length_append, fits_add hfits, h₁.left_eq]
  refine ⟨h₂.chunk_eq.trans h₁.chunk_eq, h₂.limit_eq.trans h₁.limit_eq, h₂.whenFull_eq.trans h₁.whenFull_eq,
    ?_, ?_, fun hf => hiff.2 (h₂.fits_of_none hf), ?_⟩
  · rw [h₂.accepted_eq, h₁.accepted_eq, hadd, List.take_length_add_append, capped_of_fits hfits, List.take_length,
      List.append_assoc]
  · obtain ⟨counts₁, hpos₁, hsum₁, hwrites₁⟩ := h₁.exists_counts
    obtain ⟨counts₂, hpos₂, hsum₂, hwrites₂⟩ := h₂.exists_counts
    refine ⟨counts₁ ++ counts₂, List.forall_mem_append.2 ⟨hpos₁, hpos₂⟩, ?_, ?_⟩
    · rw [List.sum_append, hsum₁, hsum₂, hadd, capped_of_fits hfits]
    · rw [hwrites₂, hwrites₁, lastCounts_none, List.append_nil, List.append_assoc, List.append_assoc]
  · intro e he
    obtain ⟨hno, he⟩ := h₂.not_fits_of_some e he
    exact ⟨fun h => hno (hiff.1 h), he.trans (congrArg _ h₁.whenFull_eq)⟩

/-- What comes after a failure is not stored. -/
theorem Stores.append_of_failure {e : WriteError} (h : Stores s s₁ bytes₁ (some e)) (bytes₂ : List UInt8) :
    Stores s s₁ (bytes₁ ++ bytes₂) (some e) := by
  obtain ⟨hno, he⟩ := h.not_fits_of_some e rfl
  obtain ⟨hno', hcap, hle⟩ := not_fits_add hno bytes₂.length
  rw [← List.length_append] at hno' hcap
  refine ⟨h.chunk_eq, h.limit_eq, h.whenFull_eq, ?_, ?_, ?_, ?_⟩
  · rw [h.accepted_eq, hcap, List.take_append_of_le_length hle]
  · rw [hcap]
    exact h.exists_counts
  · intro hf
    cases hf
  · intro e' he'
    cases he'
    exact ⟨hno', he⟩

/-! ### Calls and retries -/

theorem stores_nil (s : Sink) : Stores s s [] none where
  chunk_eq := rfl
  limit_eq := rfl
  whenFull_eq := rfl
  accepted_eq := by rw [List.take_nil, List.append_nil]
  exists_counts := ⟨[], by simp, (Nat.eq_zero_of_le_zero (capped_le _ _)).symm, by simp [lastCounts]⟩
  fits_of_none := fun _ l _ => Nat.zero_le l
  not_fits_of_some := by
    intro e he
    cases he

private theorem stores_of_interrupted (h : s.write bytes = (.error .interrupted, s₁)) : Stores s s₁ [] none := by
  unfold write at h
  dsimp only at h
  split at h
  · cases h
    exact ⟨rfl, rfl, rfl, (stores_nil s).accepted_eq, (stores_nil s).exists_counts, (stores_nil s).fits_of_none,
      (stores_nil s).not_fits_of_some⟩
  · split at h <;> simp at h

private theorem write_cases {r : Except Rejection Nat} (h : s.write bytes = (r, s₁))
    (hr : r ≠ .error .interrupted) :
    (r = .error .full ∧ s.room bytes.length = 0 ∧ s.whenFull = .fail ∧ s₁ = { s with calls := s.calls + 1 }) ∨
      (r = .ok (s.room bytes.length) ∧ ¬ (s.room bytes.length = 0 ∧ s.whenFull = .fail) ∧
        s₁ = { s with
          calls := s.calls + 1, accepted := s.accepted ++ bytes.take (s.room bytes.length),
          writes := s.writes.push (s.room bytes.length) }) := by
  unfold write at h
  dsimp only at h
  split at h
  · cases h
    exact absurd rfl hr
  · split at h
    · rename_i hfull
      cases h
      exact .inl ⟨rfl, hfull.1, hfull.2, rfl⟩
    · rename_i hroom
      cases h
      exact .inr ⟨rfl, hroom, rfl⟩

/-- A call that accepts none of some bytes shows that none are left to accept. -/
private theorem full_of_room_eq_zero (hb : bytes ≠ []) (hroom : s.room bytes.length = 0) :
    capped s.left bytes.length = 0 ∧ ¬ Fits s.left bytes.length := by
  have hcap := (s.room_bounds bytes.length).2.1 hroom
  refine ⟨hcap, ?_⟩
  intro hfits
  rw [capped_of_fits hfits, List.length_eq_zero_iff] at hcap
  exact hb hcap

private theorem stores_of_full (hb : bytes ≠ []) (h : s.write bytes = (.error .full, s₁)) :
    Stores s s₁ bytes (some .sinkFull) := by
  rcases write_cases h (by simp) with ⟨-, hroom, hwhen, rfl⟩ | ⟨hr, -⟩
  · obtain ⟨hcap, hno⟩ := full_of_room_eq_zero hb hroom
    refine ⟨rfl, rfl, rfl, ?_, ⟨[], by simp, hcap.symm, by simp [lastCounts]⟩, nofun, ?_⟩
    · rw [hcap, List.take_zero, List.append_nil]
    · intro e he
      cases he
      exact ⟨hno, by rw [hwhen]; rfl⟩
  · cases hr

private theorem stores_of_nothing (hb : bytes ≠ []) (h : s.write bytes = (.ok 0, s₁)) :
    Stores s s₁ bytes (some .nothingAccepted) := by
  rcases write_cases h (by simp) with ⟨hr, -⟩ | ⟨hr, hroom, rfl⟩
  · cases hr
  · have hzero : s.room bytes.length = 0 := (Except.ok.inj hr).symm
    obtain ⟨hcap, hno⟩ := full_of_room_eq_zero hb hzero
    refine ⟨rfl, rfl, rfl, ?_, ⟨[], by simp, hcap.symm, ?_⟩, nofun, ?_⟩
    · rw [hcap, hzero, List.take_zero, List.append_nil, Array.appendList_nil]
    · rw [hzero, Array.toList_push]
      rfl
    · intro e he
      cases he
      refine ⟨hno, ?_⟩
      cases hwhen : s.whenFull with
      | acceptNothing => rfl
      | fail => exact absurd ⟨hzero, hwhen⟩ hroom

private theorem stores_of_portion {n : Nat} (h : s.write bytes = (.ok (n + 1), s₁)) :
    Stores s s₁ (bytes.take (n + 1)) none := by
  rcases write_cases h (by simp) with ⟨hr, -⟩ | ⟨hr, -, rfl⟩
  · cases hr
  · have hroom : s.room bytes.length = n + 1 := (Except.ok.inj hr).symm
    have hle : n + 1 ≤ capped s.left bytes.length := hroom ▸ (s.room_bounds bytes.length).1
    have hlen : (bytes.take (n + 1)).length = n + 1 := by
      rw [List.length_take, Nat.min_eq_left (Nat.le_trans hle (capped_le _ _))]
    have hfits : Fits s.left (bytes.take (n + 1)).length := by
      rw [hlen]
      exact fits_of_le_capped hle
    refine ⟨rfl, rfl, rfl, ?_, ⟨[n + 1], by simp, ?_, ?_⟩, fun _ => hfits, nofun⟩
    · rw [capped_of_fits hfits, List.take_length, hroom, Array.toList_appendList]
    · rw [capped_of_fits hfits, hlen, List.sum_singleton]
    · rw [hroom, Array.toList_push, lastCounts_none, List.append_nil]

/-- The failure in the result of a call. -/
def failure? : Except WriteError Unit → Option WriteError
  | .ok () => none
  | .error e => some e

/-- A text is stored with however many calls that takes. -/
theorem stores_writeAll (s : Sink) (bytes : List UInt8) :
    Stores s (s.writeAll bytes).2 bytes (failure? (s.writeAll bytes).1) := by
  fun_induction writeAll s bytes with
  | case1 s => exact stores_nil s
  | case2 s bytes hb s₁ h ih => exact (stores_of_interrupted h).append ih
  | case3 s bytes hb s₁ h => exact stores_of_full hb h
  | case4 s bytes hb s₁ h => exact stores_of_nothing hb h
  | case5 s bytes hb n s₁ h ih =>
    have happ := (stores_of_portion h).append ih
    rwa [List.take_append_drop] at happ

end Sink

/-! ### Deliveries -/

namespace Pull

/-- `reached` are the calls up to and including the first whose block no longer fits into `limit` bytes: all of
them if every block fits. -/
inductive ReachedWithin (limit : Option Nat) (ps : List Pull) : List Pull → Prop
  | all (h : Fits limit (Text.byteLength (ps.flatMap output))) : ReachedWithin limit ps ps
  | stopped (before : List Pull) (p : Pull) {after : List Pull} (hps : ps = before ++ p :: after)
      (hfits : Fits limit (Text.byteLength (before.flatMap output)))
      (hno : ¬ Fits limit (Text.byteLength ((before ++ [p]).flatMap output))) :
      ReachedWithin limit ps (before ++ [p])

variable {limit : Option Nat} {p : Pull} {ps reached : List Pull}

theorem ReachedWithin.cons (hp : Fits limit (Text.byteLength p.output))
    (h : ReachedWithin (limit.map (· - Text.byteLength p.output)) ps reached) :
    ReachedWithin limit (p :: ps) (p :: reached) := by
  -- the bytes of the first call count towards the limit of the others
  have hadd : ∀ qs : List Pull, Fits limit (Text.byteLength ((p :: qs).flatMap output)) ↔
      Fits (limit.map (· - Text.byteLength p.output)) (Text.byteLength (qs.flatMap output)) := by
    intro qs
    rw [List.flatMap_cons, Text.byteLength_append, fits_add hp]
  cases h with
  | all h => exact .all ((hadd ps).2 h)
  | stopped before q hps hfits hno =>
    exact .stopped (p :: before) q (by rw [hps]; rfl) ((hadd before).2 hfits)
      (fun h => hno ((hadd _).1 h))

theorem ReachedWithin.head (hp : ¬ Fits limit (Text.byteLength p.output)) (ps : List Pull) :
    ReachedWithin limit (p :: ps) [p] := by
  refine .stopped [] p rfl ?_ ?_
  · intro l _
    exact Nat.zero_le l
  · rwa [List.nil_append, List.flatMap_singleton]

/-- If all blocks fit, no call is left out. -/
theorem ReachedWithin.eq_of_fits (h : ReachedWithin limit ps reached)
    (hfits : Fits limit (Text.byteLength (ps.flatMap output))) : reached = ps := by
  cases h with
  | all => rfl
  | @stopped before p after hps _ hno =>
    refine absurd (hfits.mono ?_) hno
    simp only [hps, List.flatMap_append, List.flatMap_cons, List.flatMap_nil, Text.byteLength_append,
      Text.byteLength_nil]
    omega

end Pull

section Deliver

open Sink

variable {s s₁ : Sink} {p : Pull} {ps : List Pull}

/-- A call without a block hands over as much as one with an empty block. -/
private theorem deliver_cons (s : Sink) (p : Pull) (ps : List Pull) :
    deliver s (p :: ps) =
      match s.writeAll (Text.utf8 p.output) with
      | (.ok (), s₁) =>
        { deliver s₁ ps with
          lookups := p.lookups ++ (deliver s₁ ps).lookups
          events := p.unresolved.map Event.unresolved ++ (deliver s₁ ps).events }
      | (.error e, s₁) => ⟨s₁, p.lookups, p.unresolved.map Event.unresolved, some e⟩ := by
  rw [deliver, Pull.output]
  cases p.block with
  | none =>
    have hw : s.writeAll (Text.utf8 ((Option.map Block.content none).getD [])) = (.ok (), s) := by
      rw [show Text.utf8 ((Option.map Block.content none).getD []) = [] from rfl, writeAll, if_pos rfl]
    rw [hw]
  | some b =>
    rw [show ((some b).map Block.content).getD [] = b.content from rfl]
    dsimp only
    rcases s.writeAll (Text.utf8 b.content) with ⟨e | _, s₁⟩
    · dsimp only
      rw [List.append_nil, List.append_nil]
    · rfl

/-- Handing over the blocks of some calls stores what they add to the output. -/
theorem stores_deliver (s : Sink) (ps : List Pull) :
    Stores s (deliver s ps).sink (Text.utf8 (ps.flatMap Pull.output)) (deliver s ps).failure := by
  induction ps generalizing s with
  | nil => exact stores_nil s
  | cons p ps ih =>
    have hw := stores_writeAll s (Text.utf8 p.output)
    rw [List.flatMap_cons, Text.utf8_append]
    rcases hr : s.writeAll (Text.utf8 p.output) with ⟨_ | _, s₁⟩
    · rw [hr] at hw
      rw [deliver_cons, hr]
      -- the blocks after a failure add to the output but not to what is stored
      exact hw.append_of_failure _
    · rw [hr] at hw
      rw [deliver_cons, hr]
      exact hw.append (ih s₁)

/-- The lookups and events are those of the calls up to the first with a block that does not fit. -/
theorem reachedWithin_deliver (s : Sink) (ps : List Pull) :
    ∃ reached, Pull.ReachedWithin s.left ps reached ∧ (deliver s ps).lookups = Pull.names reached ∧
      (deliver s ps).events = (Pull.leftovers reached).map Event.unresolved := by
  induction ps generalizing s with
  | nil => exact ⟨[], .all (fun l _ => Nat.zero_le l), rfl, rfl⟩
  | cons p ps ih =>
    have hw := stores_writeAll s (Text.utf8 p.output)
    rcases hr : s.writeAll (Text.utf8 p.output) with ⟨_ | _, s₁⟩
    · rw [hr] at hw
      rw [deliver_cons, hr]
      have hno := (hw.not_fits_of_some _ rfl).1
      rw [Text.length_utf8] at hno
      refine ⟨[p], .head hno ps, ?_, ?_⟩
      · rw [Pull.names, List.flatMap_singleton]
      · rw [Pull.leftovers, List.flatMap_singleton]
    · rw [hr] at hw
      -- the block is stored in full, and what is left for the other blocks is less by as much
      have hfits := hw.fits_of_none rfl
      have hleft : s₁.left = _ := hw.left_eq
      rw [Text.length_utf8] at hfits hleft
      obtain ⟨reached, hreached, hl, he⟩ := ih s₁
      rw [hleft] at hreached
      rw [deliver_cons, hr]
      refine ⟨p :: reached, .cons hfits hreached, ?_, ?_⟩
      · show p.lookups ++ (deliver s₁ ps).lookups = Pull.names (p :: reached)
        rw [hl]
        rfl
      · show p.unresolved.map Event.unresolved ++ (deliver s₁ ps).events = _
        rw [he, Pull.leftovers, Pull.leftovers, List.flatMap_cons, List.map_append]

end Deliver

/-- Rendering into a new sink succeeds if and only if the output fits, and delivers as much of the output as
does.  The counts of the calls add up to that; only after a failure may a last call have accepted nothing.  What
is looked up and reported is what the scan meets up to and including the first block that does not fit. -/
theorem renderInto_new (chunk limit : Option Nat) (whenFull : WhenFull) (interrupts : Bool) (δ : Delimiters)
    (resolve : Resolver) (document : Text) :
    let most := Sink.effectiveLimit chunk limit
    let out := Text.utf8 (render δ resolve document)
    let d := renderInto (.new chunk limit whenFull interrupts) δ resolve document
    (d.failure = none ↔ Fits most out.length) ∧
      (d.failure = none ∨ d.failure = some whenFull.error) ∧
      d.sink.accepted.toList = out.take (capped most out.length) ∧
      (∃ counts, (∀ n ∈ counts, 0 < n) ∧ counts.sum = capped most out.length ∧
        d.sink.writes.toList = counts ++ if d.failure = some .nothingAccepted then [0] else []) ∧
      ∃ reached, Pull.ReachedWithin most (scan δ resolve document) reached ∧
        (d.failure = none → reached = scan δ resolve document) ∧ d.lookups = Pull.names reached ∧
        d.events = .rendering (Text.byteLength document) δ.opening δ.closing ::
          (Pull.leftovers reached).map .unresolved := by
  intro most out d
  have hleft : (Sink.new chunk limit whenFull interrupts).left = most := by
    show most.map (· - 0) = most
    rw [Option.map_congr (fun l _ => Nat.sub_zero l), Option.map_id']
  have hs : Sink.Stores (.new chunk limit whenFull interrupts) d.sink out d.failure := by
    have hs := stores_deliver (.new chunk limit whenFull interrupts) (scan δ resolve document)
    rwa [← Pull.flatMap_content_blocks] at hs
  obtain ⟨reached, hreached, hl, he⟩ :=
    reachedWithin_deliver (.new chunk limit whenFull interrupts) (scan δ resolve document)
  obtain ⟨counts, hpos, hsum, hwrites⟩ := hs.exists_counts
  rw [hleft] at hreached hsum
  have hfits : d.failure = none → Fits most out.length := by
    intro hf
    rw [← hleft]
    exact hs.fits_of_none hf
  refine ⟨⟨hfits, ?_⟩, ?_, ?_, ⟨counts, hpos, hsum, ?_⟩, reached, hreached, ?_, hl, ?_⟩
  · intro hfits
    cases hf : d.failure with
    | none => rfl
    | some e => exact absurd (hleft ▸ hfits) (hs.not_fits_of_some e hf).1
  · cases hf : d.failure with
    | none => exact .inl rfl
    | some e => exact .inr (congrArg some (hs.not_fits_of_some e hf).2)
  · rw [hs.accepted_eq, hleft]
    rfl
  · rw [hwrites, Sink.lastCounts_eq]
    rfl
  · intro hf
    apply hreached.eq_of_fits
    rw [← Pull.flatMap_content_blocks, ← Text.length_utf8]
    exact hfits hf
  · rw [← he]
    rfl

end TextTemplate
