import Mathlib.Data.List.Basic

/-!
# Runs of a state machine, step by step

A machine is a step function on a state; a run is a list of events.  The results that matter here
are rarely "from every state": they hold *along* a run, or along the runs whose steps all meet some
condition.  `Along step P s es` says that `P` holds of every step of the run `es` from `s` — of the
event together with the state it is taken from — and the lemmas turn a fact about one step into a
fact about a whole run.
-/

namespace Runs

variable {σ ε : Type}

def exec (step : σ → ε → σ) (s : σ) (es : List ε) : σ := es.foldl step s

def steps (step : σ → ε → σ) : σ → List ε → List (σ × ε)
  | _, [] => []
  | s, e :: es => (s, e) :: steps step (step s e) es

/-- `P` holds of every step of the run. -/
def Along (step : σ → ε → σ) (P : σ → ε → Prop) (s : σ) (es : List ε) : Prop :=
  ∀ v ∈ steps step s es, P v.1 v.2

variable {step : σ → ε → σ} {P C : σ → ε → Prop} {I : σ → Prop}

@[simp] lemma exec_nil (s : σ) : exec step s [] = s := rfl

@[simp] lemma exec_cons (s : σ) (e : ε) (es : List ε) :
    exec step s (e :: es) = exec step (step s e) es := rfl

lemma exec_append (s : σ) (es es' : List ε) :
    exec step s (es ++ es') = exec step (exec step s es) es' := List.foldl_append

lemma along_append (s : σ) (es es' : List ε) :
    Along step P s (es ++ es') ↔ Along step P s es ∧ Along step P (exec step s es) es' := by
  induction es generalizing s with
  | nil => simp [Along, steps]
  | cons e es ih =>
    have ih' := ih (step s e)
    simp only [Along, steps, List.cons_append, List.mem_cons, exec_cons, forall_eq_or_imp] at ih' ⊢
    rw [ih', and_assoc]

@[simp] lemma along_nil (s : σ) : Along step P s [] := by simp [Along, steps]

@[simp] lemma along_cons (s : σ) (e : ε) (es : List ε) :
    Along step P s (e :: es) ↔ P s e ∧ Along step P (step s e) es := by
  simp [Along, steps]

lemma along_of_forall {s : σ} {es : List ε} (h : ∀ e ∈ es, ∀ s, P s e) : Along step P s es := by
  induction es generalizing s with
  | nil => exact along_nil s
  | cons e es ih =>
    rw [along_cons]
    exact ⟨h e List.mem_cons_self s, ih fun e' he' => h e' (List.mem_cons_of_mem e he')⟩

instance [∀ s e, Decidable (P s e)] (s : σ) (es : List ε) : Decidable (Along step P s es) :=
  inferInstanceAs (Decidable (∀ v ∈ steps step s es, P v.1 v.2))

/-- **Step to run.**  If a step that meets the condition keeps the invariant, a run whose steps all
meet it ends in the invariant. -/
theorem exec_inv (hstep : ∀ s e, I s → C s e → I (step s e)) :
    ∀ (es : List ε) (s : σ), I s → Along step C s es → I (exec step s es)
  | [], _, hs, _ => hs
  | e :: es, s, hs, hc => by
    rw [along_cons] at hc
    exact exec_inv hstep es _ (hstep s e hs hc.1) hc.2

theorem along_of_inv (hstep : ∀ s e, I s → C s e → I (step s e))
    (hP : ∀ s e, I s → C s e → P s e) :
    ∀ (es : List ε) (s : σ), I s → Along step C s es → Along step P s es
  | [], _, _, _ => along_nil _
  | e :: es, s, hs, hc => by
    rw [along_cons] at hc ⊢
    exact ⟨hP s e hs hc.1, along_of_inv hstep hP es _ (hstep s e hs hc.1) hc.2⟩

theorem along_iff_of_allowed {L : σ → ε → Prop} (hstep : ∀ s e, I s → L s e → C s e → I (step s e))
    (hP : ∀ s e, I s → L s e → (C s e ↔ P s e)) :
    ∀ (es : List ε) (s : σ), I s → Along step L s es → (Along step C s es ↔ Along step P s es)
  | [], _, _, _ => by simp
  | e :: es, s, hs, hl => by
    rw [along_cons] at hl
    rw [along_cons, along_cons, hP s e hs hl.1]
    refine and_congr_right fun hp => ?_
    exact along_iff_of_allowed hstep hP es _ (hstep s e hs hl.1 ((hP s e hs hl.1).mpr hp)) hl.2

theorem along_iff_of_inv (hstep : ∀ s e, I s → C s e → I (step s e))
    (hP : ∀ s e, I s → (C s e ↔ P s e)) (es : List ε) (s : σ) (hs : I s) :
    Along step C s es ↔ Along step P s es :=
  along_iff_of_allowed (L := fun _ _ => True) (fun s e h _ => hstep s e h) (fun s e h _ => hP s e h) es s hs
    fun _ _ => trivial

end Runs
