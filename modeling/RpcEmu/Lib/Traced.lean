import RpcEmu.Lib.Runs

/-!
# Computations that leave a trace

A `Traced τ α` is a value of type `α` and the list of what was done on the way to it.  Threading the trace
through a program is the monad's business, so that a traced program reads as the program does, and its value
is the program's by `value_bind` and `value_ite`.

`Meets P Q x` says that every entry of the trace meets `P` and the value `Q`: a triple whose frame is the
trace, with a rule for each way a program is put together.  `Follows` is the same of a trace that is the run of a
machine: what an entry has to meet may depend on the entries before it.
-/

structure Traced (τ α : Type) where
  value : α
  trace : List τ

namespace Traced

variable {τ α β : Type}

instance : Monad (Traced τ) where
  pure a := ⟨a, []⟩
  bind x f := ⟨(f x.value).value, x.trace ++ (f x.value).trace⟩

instance : LawfulMonad (Traced τ) := LawfulMonad.mk' (Traced τ)
  (fun x => congrArg (mk x.value) (List.append_nil x.trace))
  (fun a f => congrArg (mk (f a).value) (List.nil_append (f a).trace))
  fun x f g => congrArg (mk (g (f x.value).value).value) (List.append_assoc x.trace _ _)

def note (t : τ) : Traced τ Unit := ⟨(), [t]⟩

@[simp] lemma value_pure (a : α) : (pure a : Traced τ α).value = a := rfl

@[simp] lemma trace_pure (a : α) : (pure a : Traced τ α).trace = [] := rfl

@[simp] lemma value_bind (x : Traced τ α) (f : α → Traced τ β) : (x >>= f).value = (f x.value).value := rfl

@[simp] lemma trace_bind (x : Traced τ α) (f : α → Traced τ β) :
    (x >>= f).trace = x.trace ++ (f x.value).trace := rfl

@[simp] lemma trace_note (t : τ) : (note t).trace = [t] := rfl

/-- Every entry of the trace meets `P`, and the value `Q`. -/
structure Meets (P : τ → Prop) (Q : α → Prop) (x : Traced τ α) : Prop where
  trace : ∀ t ∈ x.trace, P t
  value : Q x.value

variable {P : τ → Prop} {Q : α → Prop} {R : β → Prop}

lemma Meets.pure {a : α} (h : Q a) : Meets P Q (Pure.pure a) := ⟨List.forall_mem_nil _, h⟩

lemma Meets.note {t : τ} (h : P t) : Meets P (fun _ => True) (note t) := ⟨List.forall_mem_singleton.mpr h, trivial⟩

lemma Meets.bind {x : Traced τ α} {f : α → Traced τ β} (hx : Meets P Q x) (hf : ∀ a, Q a → Meets P R (f a)) :
    Meets P R (x >>= f) :=
  ⟨List.forall_mem_append.mpr ⟨hx.trace, (hf x.value hx.value).trace⟩, (hf x.value hx.value).value⟩

lemma Meets.ite {c : Prop} [Decidable c] {x y : Traced τ α} (hx : c → Meets P Q x) (hy : ¬c → Meets P Q y) :
    Meets P Q (if c then x else y) := by
  split
  next h => exact hx h
  next h => exact hy h

lemma Meets.mono {Q' : α → Prop} {x : Traced τ α} (hx : Meets P Q x) (h : ∀ a, Q a → Q' a) : Meets P Q' x :=
  ⟨hx.trace, h _ hx.value⟩

lemma Meets.foldlM {σ ε : Type} {I : σ → Prop} {f : σ → ε → Traced τ σ} {es : List ε}
    (hf : ∀ s, I s → ∀ e ∈ es, Meets P I (f s e)) {s : σ} (hs : I s) : Meets P I (es.foldlM f s) := by
  induction es generalizing s with
  | nil => exact .pure hs
  | cons e es ih =>
    rw [List.foldlM_cons]
    exact .bind (hf s hs e List.mem_cons_self) fun s' hs' =>
      ih (fun s hs e he => hf s hs e (List.mem_cons_of_mem _ he)) hs'

lemma Meets.foldlM_range {σ : Type} {I : Nat → σ → Prop} {f : σ → Nat → Traced τ σ} {n : Nat}
    (hf : ∀ i < n, ∀ s, I i s → Meets P (I (i + 1)) (f s i)) {s : σ} (hs : I 0 s) :
    Meets P (I n) ((List.range n).foldlM f s) := by
  induction n with
  | zero => exact .pure hs
  | succ n ih =>
    rw [List.range_succ, List.foldlM_append]
    refine .bind (ih fun i hi => hf i (Nat.lt_succ_of_lt hi)) fun s' hs' => ?_
    rw [List.foldlM_cons]
    exact .bind (hf n (Nat.lt_succ_self n) s' hs') fun s'' hs'' => .pure hs''

/-! ## Traces that are runs -/

section Follows

open Runs

variable {γ : Type} {δ : γ → τ → γ} {A : γ → τ → Prop}

/-- The trace is a run of the machine from `g` whose steps all meet `A`; of the value and of the state it ends in,
`Q` holds. -/
structure Follows (δ : γ → τ → γ) (A : γ → τ → Prop) (g : γ) (Q : α → γ → Prop) (x : Traced τ α) : Prop where
  along : Along δ A g x.trace
  value : Q x.value (exec δ g x.trace)

variable {g : γ} {Q : α → γ → Prop} {R : β → γ → Prop}

lemma Follows.pure {a : α} (h : Q a g) : Follows δ A g Q (Pure.pure a) := ⟨along_nil g, h⟩

lemma Follows.note {t : τ} (h : A g t) : Follows δ A g (fun _ g' => g' = δ g t) (Traced.note t) :=
  ⟨(along_cons g t []).mpr ⟨h, along_nil _⟩, rfl⟩

lemma Follows.bind {x : Traced τ α} {f : α → Traced τ β} (hx : Follows δ A g Q x)
    (hf : ∀ a g', Q a g' → Follows δ A g' R (f a)) : Follows δ A g R (x >>= f) := by
  have hrest := hf x.value _ hx.value
  refine ⟨(along_append g _ _).mpr ⟨hx.along, hrest.along⟩, ?_⟩
  rw [value_bind, trace_bind, exec_append]
  exact hrest.value

lemma Follows.note_bind {t : τ} {f : Unit → Traced τ β} (h : A g t) (hf : Follows δ A (δ g t) R (f ())) :
    Follows δ A g R (Traced.note t >>= f) :=
  .bind (.note h) fun _ _ hg => hg ▸ hf

lemma Follows.ite {c : Prop} [Decidable c] {x y : Traced τ α} (hx : c → Follows δ A g Q x)
    (hy : ¬c → Follows δ A g Q y) : Follows δ A g Q (if c then x else y) := by
  split
  next h => exact hx h
  next h => exact hy h

lemma Follows.mono {Q' : α → γ → Prop} {x : Traced τ α} (hx : Follows δ A g Q x) (h : ∀ a g', Q a g' → Q' a g') :
    Follows δ A g Q' x :=
  ⟨hx.along, h _ _ hx.value⟩

lemma Meets.follows {Q : α → Prop} {x : Traced τ α} (hx : Meets P Q x) (h : ∀ t, P t → A g t ∧ δ g t = g) :
    Follows δ A g (fun a g' => Q a ∧ g' = g) x := by
  have hrun : ∀ ts : List τ, (∀ t ∈ ts, P t) → Along δ A g ts ∧ exec δ g ts = g := by
    intro ts
    induction ts with
    | nil => exact fun _ => ⟨along_nil g, rfl⟩
    | cons t ts ih =>
      intro hts
      obtain ⟨ht, hts⟩ := List.forall_mem_cons.mp hts
      obtain ⟨hA, hδ⟩ := h t ht
      rw [along_cons, exec_cons, hδ]
      exact ⟨⟨hA, (ih hts).1⟩, (ih hts).2⟩
  exact ⟨(hrun _ hx.trace).1, hx.value, (hrun _ hx.trace).2⟩

/-! ## Loops -/

variable {σ ρ : Type}

def loop (step : σ → Traced τ (σ ⊕ ρ)) : Nat → σ → Traced τ (Option ρ)
  | 0, _ => Pure.pure none
  | fuel + 1, s => do
    match ← step s with
    | .inl s' => loop step fuel s'
    | .inr r => Pure.pure (some r)

/-- What a round gives, where another has to keep `I` and bring `μ` down. -/
def Round (I : σ → γ → Prop) (μ : σ → Nat) (R : ρ → γ → Prop) (s : σ) : σ ⊕ ρ → γ → Prop
  | .inl s', g => I s' g ∧ μ s' < μ s
  | .inr r, g => R r g

/-- A result is as `R` says, and there is one with fuel enough. -/
def Ended (fuel bound : Nat) (R : ρ → γ → Prop) (o : Option ρ) (g : γ) : Prop :=
  (∀ r, o = some r → R r g) ∧ (bound < fuel → o ≠ none)

variable {step : σ → Traced τ (σ ⊕ ρ)} {I : σ → γ → Prop} {μ : σ → Nat} {R : ρ → γ → Prop}

lemma Ended.some {fuel bound : Nat} {r : ρ} (h : R r g) : Ended fuel bound R (some r) g :=
  ⟨fun _ heq => Option.some.inj heq ▸ h, fun _ => Option.some_ne_none r⟩

lemma Ended.mono {R' : ρ → γ → Prop} {fuel bound bound' : Nat} {o : Option ρ} (h : Ended fuel bound R o g)
    (hbound : bound ≤ bound') (hR : ∀ r, R r g → R' r g) : Ended fuel bound' R' o g :=
  ⟨fun r hr => hR r (h.1 r hr), fun hfuel => h.2 (Nat.lt_of_le_of_lt hbound hfuel)⟩

lemma Follows.loop (hstep : ∀ s g, I s g → Follows δ A g (Round I μ R s) (step s)) (fuel : Nat) {s : σ} {g : γ}
    (hs : I s g) : Follows δ A g (Ended fuel (μ s) R) (Traced.loop step fuel s) := by
  induction fuel generalizing s g with
  | zero => exact .pure ⟨nofun, fun h => absurd h (Nat.not_lt_zero _)⟩
  | succ fuel ih =>
    refine .bind (hstep s g hs) fun x g' hx => ?_
    cases x with
    | inl s' => exact (ih hx.1).mono fun o _ ho => ⟨ho.1, fun hfuel => ho.2 (by have := hx.2; omega)⟩
    | inr r => exact .pure (.some hx)

end Follows

end Traced
