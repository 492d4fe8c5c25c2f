import Mathlib.Logic.Basic

/-!
# Programs that ask, and what answers them

A device under emulation does not own the memory it works on: it *asks* for a byte, something
outside it replies, and it carries on with whatever the reply was.  `Prog ι ρ α` is that shape
and nothing else — a finite tree of questions `op : ι`, one branch for each reply `ρ op`, and a
result `α` at the leaves.  What the replies are is left to a `Handler`, which threads a state of
its own.

* **Invariants.**  `Prog.run_inv`: what every reply preserves holds after every program.
* **Facts for every reply.**  `Prog.Asks` is about the questions alone.  `Prog.Always` quantifies
  over all branches of the tree, so it speaks of a program before anything is known about what
  answers it.  `Respects` is its form for stateful programs and composes along `bind`.
-/

namespace Effects

/-- A program that asks operations `op : ι`, each replied to by a value of type `ρ op`. -/
inductive Prog (ι : Type) (ρ : ι → Type) (α : Type) : Type
  | done (a : α)
  | ask (op : ι) (k : ρ op → Prog ι ρ α)

abbrev Handler (ι : Type) (ρ : ι → Type) (σ : Type) := (op : ι) → σ → ρ op × σ

abbrev Asked (ι : Type) (ρ : ι → Type) := (op : ι) × ρ op

variable {ι : Type} {ρ : ι → Type} {α β γ σ τ : Type}

namespace Prog

/-- Sequencing: graft `f a` onto every leaf `a`. -/
protected def bind : Prog ι ρ α → (α → Prog ι ρ β) → Prog ι ρ β
  | done a, f => f a
  | ask op k, f => ask op fun r => (k r).bind f

instance : Monad (Prog ι ρ) where
  pure := done
  bind := Prog.bind

def perform (op : ι) : Prog ι ρ (ρ op) := ask op done

@[simp] lemma ask_bind (op : ι) (k : ρ op → Prog ι ρ α) (f : α → Prog ι ρ β) :
    (ask op k >>= f) = ask op fun r => k r >>= f := rfl

lemma bind_done : ∀ p : Prog ι ρ α, (p >>= done) = p
  | done _ => rfl
  | ask op k => by
    rw [ask_bind]
    exact congrArg _ (funext fun r => bind_done (k r))

lemma bind_bind : ∀ (p : Prog ι ρ α) (f : α → Prog ι ρ β) (g : β → Prog ι ρ γ),
    (p >>= f >>= g) = (p >>= fun a => f a >>= g)
  | done _, _, _ => rfl
  | ask op k, f, g => by
    simp only [ask_bind]
    exact congrArg _ (funext fun r => bind_bind (k r) f g)

instance : LawfulMonad (Prog ι ρ) := LawfulMonad.mk' _
  (fun p => bind_done p) (fun _ _ => rfl) (fun p f g => bind_bind p f g)

/-! ## Playing a program against a handler -/

def run (h : Handler ι ρ σ) : Prog ι ρ α → σ → α × σ
  | done a, s => (a, s)
  | ask op k, s => (k (h op s).1).run h (h op s).2

/-- The questions it asks, each with the handler's state at the time. -/
def visits (h : Handler ι ρ σ) : Prog ι ρ α → σ → List (σ × ι)
  | done _, _ => []
  | ask op k, s => (s, op) :: (k (h op s).1).visits h (h op s).2

def trace (h : Handler ι ρ σ) : Prog ι ρ α → σ → List (Asked ι ρ)
  | done _, _ => []
  | ask op k, s => ⟨op, (h op s).1⟩ :: (k (h op s).1).trace h (h op s).2

section Running

variable (h : Handler ι ρ σ)

@[simp] lemma run_done (a : α) (s : σ) : (done a : Prog ι ρ α).run h s = (a, s) := rfl

@[simp] lemma run_ask (op : ι) (k : ρ op → Prog ι ρ α) (s : σ) :
    (ask op k).run h s = (k (h op s).1).run h (h op s).2 := rfl

@[simp] lemma visits_done (a : α) (s : σ) : (done a : Prog ι ρ α).visits h s = [] := rfl

@[simp] lemma visits_ask (op : ι) (k : ρ op → Prog ι ρ α) (s : σ) :
    (ask op k).visits h s = (s, op) :: (k (h op s).1).visits h (h op s).2 := rfl

@[simp] lemma trace_done (a : α) (s : σ) : (done a : Prog ι ρ α).trace h s = [] := rfl

@[simp] lemma trace_ask (op : ι) (k : ρ op → Prog ι ρ α) (s : σ) :
    (ask op k).trace h s = ⟨op, (h op s).1⟩ :: (k (h op s).1).trace h (h op s).2 := rfl

@[simp] lemma run_bind : ∀ (p : Prog ι ρ α) (f : α → Prog ι ρ β) (s : σ),
    (p >>= f).run h s = (f (p.run h s).1).run h (p.run h s).2
  | done _, _, _ => rfl
  | ask op k, f, s => by simp only [ask_bind, run_ask, run_bind (k _) f]

lemma visits_bind : ∀ (p : Prog ι ρ α) (f : α → Prog ι ρ β) (s : σ),
    (p >>= f).visits h s = p.visits h s ++ (f (p.run h s).1).visits h (p.run h s).2
  | done _, _, _ => rfl
  | ask op k, f, s => by simp only [ask_bind, visits_ask, run_ask, visits_bind (k _) f, List.cons_append]

end Running

/-! ## Invariants -/

theorem run_inv {h : Handler ι ρ σ} {I : σ → Prop} (hI : ∀ op s, I s → I (h op s).2) :
    ∀ (p : Prog ι ρ α) (s : σ), I s → I (p.run h s).2
  | done _, _, hs => hs
  | ask op k, s, hs => run_inv hI (k _) _ (hI op s hs)

/-! ## Simulation -/

/-- **Two handlers that reply alike give the same result.**  `G` picks the questions on which
they have to agree; only those the first one is actually asked need to satisfy it. -/
theorem run_sim {h₁ : Handler ι ρ σ} {h₂ : Handler ι ρ τ} {R : σ → τ → Prop} {G : σ → ι → Prop}
    (hR : ∀ op s t, R s t → G s op → (h₁ op s).1 = (h₂ op t).1 ∧ R (h₁ op s).2 (h₂ op t).2) :
    ∀ (p : Prog ι ρ α) (s : σ) (t : τ), R s t → (∀ v ∈ p.visits h₁ s, G v.1 v.2) →
      (p.run h₁ s).1 = (p.run h₂ t).1 ∧ R (p.run h₁ s).2 (p.run h₂ t).2
  | done _, _, _, hst, _ => ⟨rfl, hst⟩
  | ask op k, s, t, hst, hv => by
    obtain ⟨hr, hn⟩ := hR op s t hst (hv (s, op) (by simp))
    simp only [run_ask, ← hr]
    exact run_sim hR (k _) _ _ hn fun v hm => hv v (by simp [hm])

/-! ## Facts for every reply -/

/-- `Q` holds of the trace and the result along every branch of the tree. -/
def Always (Q : List (Asked ι ρ) → α → Prop) : Prog ι ρ α → Prop
  | done a => Q [] a
  | ask op k => ∀ r, (k r).Always fun tr a => Q (⟨op, r⟩ :: tr) a

/-- Every question, along every branch, is one that `P` holds of. -/
def Asks (P : ι → Prop) : Prog ι ρ α → Prop
  | done _ => True
  | ask op k => P op ∧ ∀ r, (k r).Asks P

section Asks

variable {P : ι → Prop}

lemma asks_perform {op : ι} (h : P op) : (perform op : Prog ι ρ (ρ op)).Asks P := ⟨h, fun _ => trivial⟩

lemma Asks.bind : ∀ {p : Prog ι ρ α} {f : α → Prog ι ρ β}, p.Asks P → (∀ a, (f a).Asks P) → (p >>= f).Asks P
  | done a, _, _, hf => hf a
  | ask _ _, _, hp, hf => ⟨hp.1, fun r => Asks.bind (hp.2 r) hf⟩

theorem Asks.mono {Q : ι → Prop} (hQ : ∀ op, P op → Q op) : ∀ {p : Prog ι ρ α}, p.Asks P → p.Asks Q
  | done _, _ => trivial
  | ask op _, hp => ⟨hQ op hp.1, fun r => Asks.mono hQ (hp.2 r)⟩

end Asks

theorem Always.of_run {Q : List (Asked ι ρ) → α → Prop} (h : Handler ι ρ σ) :
    ∀ {p : Prog ι ρ α}, p.Always Q → ∀ s, Q (p.trace h s) (p.run h s).1
  | done _, hp, _ => hp
  | ask op _, hp, s => Always.of_run h (hp (h op s).1) (h op s).2

theorem Always.mono {Q Q' : List (Asked ι ρ) → α → Prop} (hQ : ∀ tr a, Q tr a → Q' tr a) :
    ∀ {p : Prog ι ρ α}, p.Always Q → p.Always Q'
  | done _, hp => hQ _ _ hp
  | ask _ _, hp => fun r => Always.mono (fun _ a => hQ _ a) (hp r)

lemma Always.and {Q Q' : List (Asked ι ρ) → α → Prop} :
    ∀ {p : Prog ι ρ α}, p.Always Q → p.Always Q' → p.Always fun tr a => Q tr a ∧ Q' tr a
  | done _, hp, hp' => ⟨hp, hp'⟩
  | ask _ _, hp, hp' => fun r => Always.and (hp r) (hp' r)

theorem Always.bind {Q : List (Asked ι ρ) → α → Prop} {Q' : List (Asked ι ρ) → β → Prop} :
    ∀ {p : Prog ι ρ α} {f : α → Prog ι ρ β}, p.Always Q →
      (∀ tr a, Q tr a → (f a).Always fun tr' b => Q' (tr ++ tr') b) → (p >>= f).Always Q'
  | done a, _, hp, hf => hf [] a hp
  | ask _ _, _, hp, hf => fun r => Always.bind (hp r) fun _ a hq => hf _ a hq

end Prog

/-! ## Stateful programs -/

/-- A relation between the states before and after, and what was asked on the way, that composes
along sequencing. -/
structure Composes (R : σ → List (Asked ι ρ) → σ → Prop) : Prop where
  refl : ∀ s, R s [] s
  trans : ∀ {s t u : σ} {tr tr' : List (Asked ι ρ)}, R s tr t → R t tr' u → R s (tr ++ tr') u

/-- **Every execution of `x` is related by `R`**, whatever the replies. -/
def Respects (R : σ → List (Asked ι ρ) → σ → Prop) (x : StateT σ (Prog ι ρ) α) : Prop :=
  ∀ s, (x.run s).Always fun tr out => R s tr out.2

namespace Respects

variable {R : σ → List (Asked ι ρ) → σ → Prop} (hR : Composes R)
include hR

lemma of_pure (a : α) : Respects R (pure a : StateT σ (Prog ι ρ) α) := fun s => hR.refl s

lemma of_bind {x : StateT σ (Prog ι ρ) α} {f : α → StateT σ (Prog ι ρ) β} (hx : Respects R x)
    (hf : ∀ a, Respects R (f a)) : Respects R (x >>= f) := fun s => by
  rw [StateT.run_bind]
  refine Prog.Always.bind (hx s) fun tr out hout => ?_
  exact Prog.Always.mono (fun tr' _ h => hR.trans hout h) (hf out.1 out.2)

lemma of_get : Respects R (get : StateT σ (Prog ι ρ) σ) := fun s => hR.refl s

omit hR in
lemma of_modify {f : σ → σ} (hf : ∀ s, R s [] (f s)) :
    Respects R (modify f : StateT σ (Prog ι ρ) PUnit) := fun s => hf s

omit hR in
lemma of_ite {c : Prop} [Decidable c] {x y : StateT σ (Prog ι ρ) α} (hx : Respects R x)
    (hy : Respects R y) : Respects R (if c then x else y) := by
  split
  · exact hx
  · exact hy

end Respects

/-! ## Playing a stateful program -/

def play (h : Handler ι ρ τ) (x : StateT σ (Prog ι ρ) α) (s : σ) (e : τ) : (α × σ) × τ :=
  (x.run s).run h e

section Playing

variable (h : Handler ι ρ τ) (s : σ) (e : τ)

@[simp] lemma play_pure (a : α) :
    play h (pure a : StateT σ (Prog ι ρ) α) s e = ((a, s), e) := rfl

@[simp] lemma play_bind (x : StateT σ (Prog ι ρ) α) (f : α → StateT σ (Prog ι ρ) β) :
    play h (x >>= f) s e
      = play h (f (play h x s e).1.1) (play h x s e).1.2 (play h x s e).2 := by
  simp only [play, StateT.run_bind, Prog.run_bind]

lemma play_get_bind (f : σ → StateT σ (Prog ι ρ) α) : play h (get >>= f) s e = play h (f s) s e := rfl

@[simp] lemma play_modify (f : σ → σ) :
    play h (modify f : StateT σ (Prog ι ρ) PUnit) s e = ((⟨⟩, f s), e) := rfl

@[simp] lemma play_lift (op : ι) :
    play h (StateT.lift (Prog.perform op) : StateT σ (Prog ι ρ) (ρ op)) s e
      = (((h op e).1, s), (h op e).2) := rfl

end Playing

end Effects
