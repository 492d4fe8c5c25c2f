import RpcEmu.Debug.Parser

/-!
# What checking an expression says about evaluating it

`debugexpr_check` is the evaluator run without a machine: it reads every register, every flag and all
memory as zero.  So it also divides by the zeros it made up, and refuses `1/r0`, which evaluates
wherever `r0` is not zero.

**Agreement.**  What the check accepts fails only where a value makes it fail.  What evaluates is
accepted exactly when no divisor in it is zero on the machine of zeros (`predicts_iff`).
-/

namespace RpcEmu.DebugExpr

/-- **Checking predicts evaluating**: what evaluates is accepted, and what is accepted evaluates or
fails by its values. -/
def Predicts (text : Text) (env : DebugExprEnv) : Prop :=
  ((∃ v, debugexprEval (some text) (some env) = .ok v) → debugexprCheck (some text) = .ok ()) ∧
    (debugexprCheck (some text) = .ok () →
      (∃ v, debugexprEval (some text) (some env) = .ok v) ∨
        ∃ err : Error, debugexprEval (some text) (some env) = .error err ∧ err.OfValue)

section Check

variable {text : Text} {e : Expr}

lemma debugexprEval_tree (h : tree text = .ok e) (env : DebugExprEnv) :
    debugexprEval (some text) (some env) = e.eval (machineValues (some env)) :=
  (run_tree _ text).1 e h

lemma debugexprEval_of_no_tree {err : Error} (h : tree text = .error err) (env : DebugExprEnv) :
    ∃ err', debugexprEval (some text) (some env) = .error err' :=
  (run_tree _ text).2 err h

/-- Checking is evaluating on a machine of zeros. -/
lemma debugexprCheck_eq (text : Text) :
    debugexprCheck (some text) = (debugexprEval (some text) (some zeroEnv)).map fun _ => () := by
  rw [debugexprCheck, machineValues_none]
  rfl

lemma debugexprCheck_iff (h : tree text = .ok e) :
    debugexprCheck (some text) = .ok () ↔ ¬ e.Fails zeroEnv := by
  rw [debugexprCheck_eq, debugexprEval_tree h]
  constructor
  · intro hc hf
    obtain ⟨err, he, -⟩ := Expr.eval_of_fails hf
    rw [he] at hc
    cases hc
  · intro hn
    obtain ⟨v, hv, -⟩ := Expr.eval_of_not_fails hn
    rw [hv]
    rfl

lemma debugexprEval_iff (h : tree text = .ok e) (env : DebugExprEnv) :
    (∃ v, debugexprEval (some text) (some env) = .ok v) ↔ ¬ e.Fails env := by
  rw [debugexprEval_tree h]
  constructor
  · rintro ⟨v, hv⟩ hf
    obtain ⟨err, he, -⟩ := Expr.eval_of_fails hf
    rw [he] at hv
    cases hv
  · intro hn
    obtain ⟨v, hv, -⟩ := Expr.eval_of_not_fails hn
    exact ⟨v, hv⟩

end Check

/-- **Where checking predicts evaluating**: in every text that stands for a tree, the evaluation
fails anyway or no divisor is zero when everything is read as zero. -/
theorem predicts_iff (text : Text) (env : DebugExprEnv) :
    Predicts text env ↔ ∀ e, tree text = .ok e → e.Fails env ∨ ¬ e.Fails zeroEnv := by
  cases h : tree text with
  | error err =>
    -- no tree: both refuse
    obtain ⟨err', he⟩ := debugexprEval_of_no_tree h env
    obtain ⟨err'', hc⟩ := debugexprEval_of_no_tree h zeroEnv
    refine ⟨fun _ e ht => ?_, fun _ => ⟨?_, ?_⟩⟩
    · cases ht
    · rintro ⟨v, hv⟩
      rw [he] at hv
      cases hv
    · intro hcheck
      rw [debugexprCheck_eq, hc] at hcheck
      cases hcheck
  | ok e =>
    rw [Predicts, debugexprCheck_iff h, debugexprEval_iff h]
    constructor
    · rintro ⟨h1, -⟩ e' he'
      cases he'
      by_cases hf : e.Fails env
      · exact .inl hf
      · exact .inr (h1 hf)
    · intro hcond
      refine ⟨fun hn => ?_, fun _ => ?_⟩
      · rcases hcond e rfl with hf | hz
        · exact absurd hf hn
        · exact hz
      · by_cases hf : e.Fails env
        · right
          rw [debugexprEval_tree h]
          exact Expr.eval_of_fails hf
        · exact .inl hf

def onesEnv : DebugExprEnv where
  readReg _ := 1
  readCpsr := 0
  readMem _ _ := none

theorem division_by_register_refused : ¬ Predicts ['1', '/', 'r', '0'] onesEnv := by
  rintro ⟨h, -⟩
  have he : debugexprEval (some ['1', '/', 'r', '0']) (some onesEnv) = .ok 1 := by decide +kernel
  have hc : debugexprCheck (some ['1', '/', 'r', '0']) = .error .divisionByZero := by
    decide +kernel
  have hok := h ⟨1, he⟩
  rw [hc] at hok
  cases hok

end RpcEmu.DebugExpr
