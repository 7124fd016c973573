import TextTemplate.Mapping.Basic

/-!
# Transcripts

A machine answers operations one after the other, each in the state that the last one left.  What can be
observed of a run is its transcript: the answers, and what each state shows.  Two machines have the same
transcript if their states stay related and related states answer alike (`transcript_map`).
-/

namespace TextTemplate

variable {ω ω' σ τ β γ : Type}

/-- The state that operations leave. -/
def stateAfter (step : ω → σ → β × σ) (s : σ) (ops : List ω) : σ := ops.foldl (fun s op => (step op s).2) s

/-- The answers to operations, each with what the state after it shows. -/
def transcript (step : ω → σ → β × σ) (view : σ → γ) (s : σ) : List ω → List (β × γ)
  | [] => []
  | op :: ops => ((step op s).1, view (step op s).2) :: transcript step view (step op s).2 ops

variable {step : ω → σ → β × σ} {step' : ω' → τ → β × τ} {view : σ → γ} {view' : τ → γ} {s : σ} {t : τ}

@[simp] theorem stateAfter_nil : stateAfter step s [] = s := rfl

@[simp] theorem stateAfter_cons (op : ω) (ops : List ω) :
    stateAfter step s (op :: ops) = stateAfter step (step op s).2 ops := rfl

@[simp] theorem stateAfter_append (ops ops' : List ω) :
    stateAfter step s (ops ++ ops') = stateAfter step (stateAfter step s ops) ops' := List.foldl_append

/-- What each operation keeps, all of them keep. -/
theorem stateAfter_induction {P : σ → Prop} (ops : List ω)
    (hstep : ∀ op ∈ ops, ∀ s, P s → P (step op s).2) (h : P s) : P (stateAfter step s ops) := by
  induction ops generalizing s with
  | nil => exact h
  | cons op ops ih =>
    rw [List.forall_mem_cons] at hstep
    exact ih hstep.2 (hstep.1 s h)

/-- Machines whose states stay related, and which answer alike in related states, have the same transcript. -/
theorem transcript_map {R : σ → τ → Prop} (f : ω → ω')
    (hstep : ∀ op s t, R s t → (step op s).1 = (step' (f op) t).1 ∧ R (step op s).2 (step' (f op) t).2)
    (hview : ∀ s t, R s t → view s = view' t) (h : R s t) (ops : List ω) :
    transcript step view s ops = transcript step' view' t (ops.map f) := by
  induction ops generalizing s t with
  | nil => rfl
  | cons op ops ih =>
    obtain ⟨hanswer, hrel⟩ := hstep op s t h
    rw [List.map_cons, transcript, transcript, ih hrel, hanswer, hview _ _ hrel]

end TextTemplate
