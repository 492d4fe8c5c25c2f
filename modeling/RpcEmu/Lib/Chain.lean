import Mathlib.Data.List.Basic

/-!
# Left-associative chains of operators

The loop at the heart of a recursive-descent parser: an operand, and then as many operators as there
are, each followed by another operand, combined to the left as they come.  What is parsed and what is
computed are parameters.

**Simulation.**  `Computes φ p q` says that `q` computes along the way what `φ` makes of the result
of `p`.  It is kept by `chainl` (`chainl_computes`), so a parser that evaluates as it goes is the
parser that builds a tree, followed by evaluating the tree.
-/

namespace Chains

/-- A parser over tokens `τ`: a result and what is left, or an error. -/
abbrev Parse (ε τ α : Type) := List τ → Except ε (α × List τ)

variable {ε τ α β ω : Type}

/-- The parser gives back no more than it got. -/
def Shrinks (p : Parse ε τ α) : Prop := ∀ s v r, p s = .ok (v, r) → r.length ≤ s.length

/-- The loop: while an operator is next, parse an operand and combine.  `op` says what it leaves if
there is none. -/
def chain (sub : Parse ε τ α) (op : List τ → Option ω × List τ) (apply : ω → α → α → Except ε α) :
    Nat → α → Parse ε τ α
  | 0, v, s => .ok (v, s)
  | n + 1, v, s =>
    match op s with
    | (none, s') => .ok (v, s')
    | (some o, s') => do
      let (r, s'') ← sub s'
      let v' ← apply o v r
      chain sub op apply n v' s''

def chainl (sub : Parse ε τ α) (op : List τ → Option ω × List τ)
    (apply : ω → α → α → Except ε α) : Parse ε τ α := fun s => do
  let (v, s') ← sub s
  chain sub op apply (s'.length + 1) v s'

def followed {γ : Type} (sub : Parse ε τ α) (mark : Parse ε τ γ) (apply : γ → α → Except ε α) :
    Parse ε τ α := fun s => do
  let (v, s') ← sub s
  let (c, s'') ← mark s'
  let v' ← apply c v
  .ok (v', s'')

/-- The operator takes something where there is one. -/
structure Consumes (op : List τ → Option ω × List τ) : Prop where
  some : ∀ s o s', op s = (Option.some o, s') → s'.length < s.length
  none : ∀ s s', op s = (Option.none, s') → s'.length ≤ s.length

section Loop

variable {sub : Parse ε τ α} {op : List τ → Option ω × List τ} {apply : ω → α → α → Except ε α}

lemma chain_none {n : Nat} {v : α} {s s' : List τ} (h : op s = (none, s')) :
    chain sub op apply (n + 1) v s = .ok (v, s') := by
  rw [chain, h]

lemma chain_some {n : Nat} {v r v' : α} {s s' s'' : List τ} {o : ω} (h : op s = (some o, s'))
    (hs : sub s' = .ok (r, s'')) (ha : apply o v r = .ok v') :
    chain sub op apply (n + 1) v s = chain sub op apply n v' s'' := by
  rw [chain, h]
  simp only [hs, ha, bind, Except.bind]

lemma chainl_ok {v : α} {s s' : List τ} (h : sub s = .ok (v, s')) :
    chainl sub op apply s = chain sub op apply (s'.length + 1) v s' := by
  rw [chainl, h]
  rfl

lemma chain_shrinks (hsub : Shrinks sub) (hop : Consumes op) :
    ∀ (n : Nat) (v : α), Shrinks (chain sub op apply n v)
  | 0, v, s, v', r, h => by
    rw [chain] at h
    obtain ⟨-, rfl⟩ := Prod.mk.inj (Except.ok.inj h)
    exact Nat.le_refl _
  | n + 1, v, s, v', r, h => by
    rw [chain] at h
    split at h
    · rename_i s' he
      obtain ⟨-, rfl⟩ := Prod.mk.inj (Except.ok.inj h)
      exact hop.none s _ he
    · rename_i o s' he
      cases hs : sub s' with
      | error e => simp [hs, bind, Except.bind] at h
      | ok out =>
        cases ha : apply o v out.1 with
        | error e => simp [hs, ha, bind, Except.bind] at h
        | ok v'' =>
          simp only [hs, ha, bind, Except.bind] at h
          have h1 := hop.some s o s' he
          have h2 := hsub s' out.1 out.2 hs
          have h3 := chain_shrinks hsub hop n v'' out.2 v' r h
          omega

lemma chainl_shrinks (hsub : Shrinks sub) (hop : Consumes op) :
    Shrinks (chainl sub op apply) := by
  intro s v r h
  rw [chainl] at h
  cases hs : sub s with
  | error e => simp [hs, bind, Except.bind] at h
  | ok out =>
    simp only [hs, bind, Except.bind] at h
    have h1 := hsub s out.1 out.2 hs
    have h2 := chain_shrinks hsub hop _ _ _ _ _ h
    omega

lemma followed_shrinks {γ : Type} {mark : Parse ε τ γ} {make : γ → α → Except ε α}
    (hsub : Shrinks sub) (hmark : Shrinks mark) : Shrinks (followed sub mark make) := by
  intro s v r h
  rw [followed] at h
  cases hs : sub s with
  | error e => simp [hs, bind, Except.bind] at h
  | ok out =>
    cases hm : mark out.2 with
    | error e => simp [hs, hm, bind, Except.bind] at h
    | ok out' =>
      cases ha : make out'.1 out.1 with
      | error e => simp [hs, hm, ha, bind, Except.bind] at h
      | ok v' =>
        simp only [hs, hm, ha, bind, Except.bind] at h
        obtain ⟨-, rfl⟩ := Prod.mk.inj (Except.ok.inj h)
        exact Nat.le_trans (hmark _ _ _ hm) (hsub _ _ _ hs)

lemma followed_ok {γ : Type} {mark : Parse ε τ γ} {make : γ → α → Except ε α} {s s' s'' : List τ}
    {v v' : α} {c : γ} (hs : sub s = .ok (v, s')) (hm : mark s' = .ok (c, s''))
    (ha : make c v = .ok v') : followed sub mark make s = .ok (v', s'') := by
  rw [followed, hs]
  simp only [hm, ha, bind, Except.bind]

/-- **The bound does not matter**, once it exceeds what is left to read. -/
lemma chain_fuel (hsub : Shrinks sub) (hop : Consumes op) :
    ∀ (n m : Nat) (v : α) (s : List τ), s.length < n → s.length < m →
      chain sub op apply n v s = chain sub op apply m v s
  | 0, _, _, _, h, _ => absurd h (Nat.not_lt_zero _)
  | _ + 1, 0, _, _, _, h => absurd h (Nat.not_lt_zero _)
  | n + 1, m + 1, v, s, hn, hm => by
    rw [chain, chain]
    split
    · rfl
    · rename_i o s' he
      have h1 := hop.some s o s' he
      cases hs : sub s' with
      | error e => rfl
      | ok out =>
        cases ha : apply o v out.1 with
        | error e => simp only [ha, bind, Except.bind]
        | ok v' =>
          have h2 := hsub s' out.1 out.2 hs
          simp only [ha, bind, Except.bind]
          exact chain_fuel hsub hop n m v' out.2 (by omega) (by omega)

end Loop

/-! ## Simulation -/

/-- `q` computes on the way what `φ` makes of the result of `p`, and fails where `p` does. -/
def Computes (φ : α → Except ε β) (p : Parse ε τ α) (q : Parse ε τ β) : Prop :=
  ∀ s, match p s with
    | .ok (a, r) => q s = (φ a).map fun b => (b, r)
    | .error _ => ∃ e, q s = .error e

section Computes

variable {φ : α → Except ε β} {p : Parse ε τ α} {q : Parse ε τ β}

lemma Computes.of_ok (h : Computes φ p q) {s r : List τ} {a : α} (hp : p s = .ok (a, r)) :
    q s = (φ a).map fun b => (b, r) := by
  have hs := h s
  rw [hp] at hs
  exact hs

lemma Computes.of_error (h : Computes φ p q) {s : List τ} {e : ε} (hp : p s = .error e) :
    ∃ e', q s = .error e' := by
  have hs := h s
  rw [hp] at hs
  exact hs

theorem followed_computes {γ : Type} {mark : Parse ε τ γ} {build : γ → α → α}
    {apply : γ → β → Except ε β} (hφ : ∀ c a, φ (build c a) = φ a >>= apply c)
    (hpq : Computes φ p q) :
    Computes φ (followed p mark fun c a => .ok (build c a)) (followed q mark apply) := by
  intro s
  rw [followed, followed]
  cases hs : p s with
  | error e =>
    obtain ⟨e', hq⟩ := hpq.of_error hs
    exact ⟨e', by rw [hq]; rfl⟩
  | ok out =>
    rw [hpq.of_ok hs]
    simp only [bind, Except.bind]
    cases hm : mark out.2 with
    | error e =>
      cases hv : φ out.1 with
      | error e' => exact ⟨e', rfl⟩
      | ok v => exact ⟨e, by simp only [Except.map, hm]⟩
    | ok out' =>
      show _ = (φ (build out'.1 out.1)).map _
      rw [hφ]
      cases hv : φ out.1 with
      | error e' => rfl
      | ok v =>
        simp only [Except.map, hm, bind, Except.bind]

variable {op : List τ → Option ω × List τ} {build : ω → α → α → α} {apply : ω → β → β → Except ε β}
  (hφ : ∀ o a b, φ (build o a b) = do
    let va ← φ a
    let vb ← φ b
    apply o va vb)
include hφ

lemma chain_stays_error {e : ε} :
    ∀ (n : Nat) (a : α) (s : List τ) (a' : α) (r : List τ), φ a = .error e →
      chain p op (fun o a b => .ok (build o a b)) n a s = .ok (a', r) → φ a' = .error e
  | 0, a, s, a', r, he, h => by
    rw [chain] at h
    obtain ⟨rfl, -⟩ := Prod.mk.inj (Except.ok.inj h)
    exact he
  | n + 1, a, s, a', r, he, h => by
    rw [chain] at h
    split at h
    · obtain ⟨rfl, -⟩ := Prod.mk.inj (Except.ok.inj h)
      exact he
    · rename_i o s' hop
      cases hs : p s' with
      | error e' => simp [hs, bind, Except.bind] at h
      | ok out =>
        simp only [hs, bind, Except.bind] at h
        refine chain_stays_error n _ out.2 a' r ?_ h
        rw [hφ, he]
        rfl

lemma chain_computes (hpq : Computes φ p q) :
    ∀ (n : Nat) (a : α) (v : β), φ a = .ok v →
      Computes φ (chain p op (fun o a b => .ok (build o a b)) n a) (chain q op apply n v)
  | 0, a, v, hv => by
    intro s
    rw [chain, chain]
    show Except.ok (v, s) = _
    rw [hv]
    rfl
  | n + 1, a, v, hv => by
    intro s
    rw [chain, chain]
    cases hop : op s with
    | mk o s' =>
      cases o with
      | none =>
        show Except.ok (v, s') = _
        rw [hv]
        rfl
      | some o =>
        simp only []
        cases hs : p s' with
        | error e =>
          obtain ⟨e', hq⟩ := hpq.of_error hs
          exact ⟨e', by rw [hq]; rfl⟩
        | ok out =>
          have hq := hpq.of_ok hs
          rw [hq]
          simp only [bind, Except.bind]
          have hb := hφ o a out.1
          rw [hv] at hb
          cases hr : φ out.1 with
          | error e =>
            -- the operand cannot be computed, and neither can the rest of the chain
            rw [hr] at hb
            cases hc : chain p op (fun o a b => .ok (build o a b)) n (build o a out.1)
                out.2 with
            | error e' => exact ⟨e, rfl⟩
            | ok out' =>
              have he := chain_stays_error hφ n _ _ out'.1 out'.2 hb hc
              show Except.error e = _
              rw [he]
              rfl
          | ok w =>
            rw [hr] at hb
            simp only [Except.map]
            cases ha : apply o v w with
            | error e =>
              have hb' : φ (build o a out.1) = .error e := hb.trans ha
              cases hc : chain p op (fun o a b => .ok (build o a b)) n
                  (build o a out.1) out.2 with
              | error e' => exact ⟨e, rfl⟩
              | ok out' =>
                have he := chain_stays_error hφ n _ _ out'.1 out'.2 hb' hc
                show Except.error e = _
                rw [he]
            | ok u => exact chain_computes hpq n _ u (hb.trans ha) out.2

/-- **A chain that builds and a chain that computes** stay together. -/
theorem chainl_computes (hpq : Computes φ p q) :
    Computes φ (chainl p op fun o a b => .ok (build o a b)) (chainl q op apply) := by
  intro s
  rw [chainl, chainl]
  cases hs : p s with
  | error e =>
    obtain ⟨e', hq⟩ := hpq.of_error hs
    exact ⟨e', by rw [hq]; rfl⟩
  | ok out =>
    rw [hpq.of_ok hs]
    simp only [bind, Except.bind]
    cases hv : φ out.1 with
    | error e =>
      cases hc : chain p op (fun o a b => .ok (build o a b)) (out.2.length + 1) out.1 out.2 with
      | error e' => exact ⟨e, rfl⟩
      | ok out' =>
        have he := chain_stays_error hφ _ _ _ out'.1 out'.2 hv hc
        show Except.error e = _
        rw [he]
        rfl
    | ok v => exact chain_computes hφ hpq _ _ v hv out.2

end Computes

end Chains
