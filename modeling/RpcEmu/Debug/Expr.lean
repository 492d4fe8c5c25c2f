import Mathlib.Tactic

/-!
# Breakpoint expressions

The values of `debugexpr.c`: what an expression can name, what its operators compute, and where it can
go wrong.

* **The code's side.**  `BinOp.apply`, `UnOp.apply` and `machineValues` are the arithmetic that the
  parser does on 32-bit words as it reads, with the zeros it puts in place of every read when there is
  no machine (`debugexpr_check`).
* **The meaning.**  The code builds no tree.  `Expr` is the tree a text stands for, `Expr.denote` its
  value in the natural numbers below `2 ^ 32`, and `Expr.Fails` says that some subtree divides by zero
  or reads memory that cannot be read.
-/

namespace RpcEmu.DebugExpr

/-- What the parser can complain of.  The code's "bad expression" stands for a failure without a
message, and there is none. -/
inductive Error
  | expectedNumber
  | expectedValue
  | unknownName
  | noSuchRegister
  | expectedBracket
  | accessSize
  | notReadable
  | endsEarly
  | expectedParen
  | tooDeep
  | divisionByZero
  | unexpectedText
  | noExpression
  | noEnvironment
  deriving DecidableEq, Repr

/-- Where an expression reads its values from.  `readMem` takes an address and a size, and gives
nothing where the address cannot be read. -/
structure DebugExprEnv where
  readReg : Fin 16 → UInt32
  readCpsr : UInt32
  readMem : UInt32 → UInt32 → Option UInt32

inductive Flag
  | n
  | z
  | c
  | v
  deriving DecidableEq, Repr

def Flag.bit : Flag → UInt32
  | n => 31
  | z => 30
  | c => 29
  | v => 28

/-- The unary operators `!`, `~` and `-`. -/
inductive UnOp
  | not
  | compl
  | neg
  deriving DecidableEq, Repr

inductive BinOp
  | mul
  | div
  | mod
  | add
  | sub
  | shl
  | shr
  | le
  | ge
  | lt
  | gt
  | eq
  | ne
  | bitAnd
  | bitXor
  | bitOr
  | and
  | or
  deriving DecidableEq, Repr

structure Values (α : Type) where
  number : UInt32 → α
  register : Fin 16 → α
  cpsr : α
  flag : Flag → α
  memory : α → UInt32 → Except Error α
  unary : UnOp → α → α
  binary : BinOp → α → α → Except Error α

/-! ## What the code computes -/

def truth (p : Prop) [Decidable p] : UInt32 := if p then 1 else 0

def UnOp.apply : UnOp → UInt32 → UInt32
  | not, v => if v ≠ 0 then 0 else 1
  | compl, v => ~~~v
  | neg, v => 0 - v

def BinOp.apply : BinOp → UInt32 → UInt32 → Except Error UInt32
  | mul, out, rhs => .ok (out * rhs)
  | div, out, rhs => if rhs = 0 then .error .divisionByZero else .ok (out / rhs)
  | mod, out, rhs => if rhs = 0 then .error .divisionByZero else .ok (out % rhs)
  | add, out, rhs => .ok (out + rhs)
  | sub, out, rhs => .ok (out - rhs)
  | shl, out, rhs => .ok (if 32 ≤ rhs then 0 else out <<< rhs)
  | shr, out, rhs => .ok (if 32 ≤ rhs then 0 else out >>> rhs)
  | le, out, rhs => .ok (truth (out ≤ rhs))
  | ge, out, rhs => .ok (truth (out ≥ rhs))
  | lt, out, rhs => .ok (truth (out < rhs))
  | gt, out, rhs => .ok (truth (out > rhs))
  | eq, out, rhs => .ok (truth (out = rhs))
  | ne, out, rhs => .ok (truth (out ≠ rhs))
  | bitAnd, out, rhs => .ok (out &&& rhs)
  | bitXor, out, rhs => .ok (out ^^^ rhs)
  | bitOr, out, rhs => .ok (out ||| rhs)
  | and, out, rhs => .ok (truth (out ≠ 0 ∧ rhs ≠ 0))
  | or, out, rhs => .ok (truth (out ≠ 0 ∨ rhs ≠ 0))

/-- `ps->env`: without an environment only the syntax is checked, and every read gives zero. -/
def machineValues (env : Option DebugExprEnv) : Values UInt32 where
  number v := v
  register reg := (env.map fun e => e.readReg reg).getD 0
  cpsr := (env.map DebugExprEnv.readCpsr).getD 0
  flag f := ((env.map DebugExprEnv.readCpsr).getD 0 >>> f.bit) &&& 1
  memory addr size :=
    match env with
    | none => .ok 0
    | some e =>
      match e.readMem addr size with
      | some v => .ok v
      | none => .error .notReadable
  unary := UnOp.apply
  binary := BinOp.apply

/-! ## What an expression means -/

inductive Expr
  | number (v : UInt32)
  | register (reg : Fin 16)
  | cpsr
  | flag (f : Flag)
  | memory (addr : Expr) (size : UInt32)
  | unary (o : UnOp) (e : Expr)
  | binary (o : BinOp) (l r : Expr)
  deriving DecidableEq, Repr

def treeValues : Values Expr where
  number := .number
  register := .register
  cpsr := .cpsr
  flag := .flag
  memory addr size := .ok (.memory addr size)
  unary := .unary
  binary o l r := .ok (.binary o l r)

/-- What a parser that computes with `V` makes of a tree. -/
def Expr.eval {α : Type} (V : Values α) : Expr → Except Error α
  | number v => .ok (V.number v)
  | register reg => .ok (V.register reg)
  | cpsr => .ok V.cpsr
  | flag f => .ok (V.flag f)
  | memory addr size => do
    let a ← addr.eval V
    V.memory a size
  | unary o e => do
    let v ← e.eval V
    .ok (V.unary o v)
  | binary o l r => do
    let a ← l.eval V
    let b ← r.eval V
    V.binary o a b

/-- The unary operators on the numbers below `2 ^ 32`. -/
def UnOp.denote : UnOp → Nat → Nat
  | not, v => if v = 0 then 1 else 0
  | compl, v => 2 ^ 32 - 1 - v
  | neg, v => (2 ^ 32 - v) % 2 ^ 32

/-- The binary operators on the numbers below `2 ^ 32`: arithmetic wraps, comparisons are of the
numbers themselves and give 0 or 1, and a shift of 32 or more gives 0. -/
def BinOp.denote : BinOp → Nat → Nat → Nat
  | mul, a, b => a * b % 2 ^ 32
  | div, a, b => a / b
  | mod, a, b => a % b
  | add, a, b => (a + b) % 2 ^ 32
  | sub, a, b => (a + (2 ^ 32 - b)) % 2 ^ 32
  | shl, a, b => if 32 ≤ b then 0 else a * 2 ^ b % 2 ^ 32
  | shr, a, b => if 32 ≤ b then 0 else a / 2 ^ b
  | le, a, b => if a ≤ b then 1 else 0
  | ge, a, b => if b ≤ a then 1 else 0
  | lt, a, b => if a < b then 1 else 0
  | gt, a, b => if b < a then 1 else 0
  | eq, a, b => if a = b then 1 else 0
  | ne, a, b => if a = b then 0 else 1
  | bitAnd, a, b => a &&& b
  | bitXor, a, b => a ^^^ b
  | bitOr, a, b => a ||| b
  | and, a, b => if a = 0 ∨ b = 0 then 0 else 1
  | or, a, b => if a = 0 ∧ b = 0 then 0 else 1

/-- **The value** of a tree.  Where a subtree fails it is of no interest. -/
def Expr.denote (env : DebugExprEnv) : Expr → Nat
  | number v => v.toNat
  | register reg => (env.readReg reg).toNat
  | cpsr => env.readCpsr.toNat
  | flag f => env.readCpsr.toNat / 2 ^ f.bit.toNat % 2
  | memory addr size => ((env.readMem (.ofNat (addr.denote env)) size).getD 0).toNat
  | unary o e => o.denote (e.denote env)
  | binary o l r => o.denote (l.denote env) (r.denote env)

def Expr.subtrees : Expr → List Expr
  | memory addr size => memory addr size :: addr.subtrees
  | unary o e => unary o e :: e.subtrees
  | binary o l r => binary o l r :: (l.subtrees ++ r.subtrees)
  | e => [e]

/-- This node divides by zero, or reads what cannot be read. -/
def Expr.Faults (env : DebugExprEnv) : Expr → Prop
  | memory addr size => env.readMem (.ofNat (addr.denote env)) size = none
  | binary .div _ r => r.denote env = 0
  | binary .mod _ r => r.denote env = 0
  | _ => False

/-- **Failing**: some subtree divides by zero, or reads memory that cannot be read. -/
def Expr.Fails (env : DebugExprEnv) (e : Expr) : Prop := ∃ t ∈ e.subtrees, t.Faults env

/-- An error of the values, not of the text. -/
def Error.OfValue (err : Error) : Prop := err = .divisionByZero ∨ err = .notReadable

def zeroEnv : DebugExprEnv where
  readReg _ := 0
  readCpsr := 0
  readMem _ _ := some 0

lemma machineValues_none : machineValues none = machineValues (some zeroEnv) := rfl

/-! ## The two sides agree -/

lemma truth_toNat (p : Prop) [Decidable p] : (truth p).toNat = if p then 1 else 0 := by
  rw [truth]
  split <;> rfl

lemma UnOp.apply_toNat (o : UnOp) (v : UInt32) : (o.apply v).toNat = o.denote v.toNat := by
  have hv := v.toNat_lt
  cases o with
  | not =>
    have h0 : (v = 0) ↔ v.toNat = 0 := by rw [← UInt32.toNat_inj]; rfl
    by_cases h : v.toNat = 0 <;> simp [apply, denote, h0, h]
  | compl => simp [apply, denote]
  | neg => simp [apply, denote]

lemma flag_toNat (f : Flag) (cpsr : UInt32) :
    ((cpsr >>> f.bit) &&& 1).toNat = cpsr.toNat / 2 ^ f.bit.toNat % 2 := by
  rw [UInt32.toNat_and, UInt32.toNat_shiftRight, Nat.shiftRight_eq_div_pow]
  cases f <;> simp [Flag.bit, Nat.and_one_is_mod]

lemma ofNat_eq_of_toNat {v : UInt32} {n : Nat} (h : v.toNat = n) : UInt32.ofNat n = v := by
  rw [← h]
  exact UInt32.ofNat_toNat

lemma BinOp.apply_cases (o : BinOp) (a b : UInt32) :
    (((o = .div ∨ o = .mod) ∧ b.toNat = 0) ∧ o.apply a b = .error .divisionByZero) ∨
      (¬ ((o = .div ∨ o = .mod) ∧ b.toNat = 0) ∧
        ∃ v, o.apply a b = .ok v ∧ v.toNat = o.denote a.toNat b.toNat) := by
  have hb := b.toNat_lt
  have ha := a.toNat_lt
  have h0 : (b = 0) ↔ b.toNat = 0 := by rw [← UInt32.toNat_inj]; rfl
  have h0a : (a = 0) ↔ a.toNat = 0 := by rw [← UInt32.toNat_inj]; rfl
  have h32 : (32 ≤ b) ↔ 32 ≤ b.toNat := UInt32.le_iff_toNat_le
  cases o with
  | div | mod =>
    by_cases h : b.toNat = 0
    · exact .inl ⟨⟨by simp, h⟩, by simp [apply, h0, h]⟩
    · exact .inr ⟨by simp [h], _, by rw [apply, if_neg (by rwa [h0])], by simp [denote]⟩
  | shl =>
    refine .inr ⟨by simp, _, rfl, ?_⟩
    by_cases h : 32 ≤ b.toNat
    · simp [denote, h32, h]
    · have hm : b.toNat % 32 = b.toNat := Nat.mod_eq_of_lt (by omega)
      rw [if_neg (by rwa [h32]), denote, if_neg h, UInt32.toNat_shiftLeft, hm, Nat.shiftLeft_eq]
  | shr =>
    refine .inr ⟨by simp, _, rfl, ?_⟩
    by_cases h : 32 ≤ b.toNat
    · simp [denote, h32, h]
    · have hm : b.toNat % 32 = b.toNat := Nat.mod_eq_of_lt (by omega)
      rw [if_neg (by rwa [h32]), denote, if_neg h, UInt32.toNat_shiftRight, hm,
        Nat.shiftRight_eq_div_pow]
  | mul | add => exact .inr ⟨by simp, _, rfl, by simp [denote]⟩
  | sub =>
    refine .inr ⟨by simp, _, rfl, ?_⟩
    rw [UInt32.toNat_sub, denote, Nat.add_comm]
  | le | ge | lt | gt | eq | ne =>
    refine .inr ⟨by simp, _, rfl, ?_⟩
    rw [truth_toNat, denote]
    simp [UInt32.le_iff_toNat_le, UInt32.lt_iff_toNat_lt, ← UInt32.toNat_inj]
  | bitAnd | bitXor | bitOr => exact .inr ⟨by simp, _, rfl, by simp [denote]⟩
  | and | or =>
    refine .inr ⟨by simp, _, rfl, ?_⟩
    rw [truth_toNat, denote]
    simp only [ne_eq, h0, h0a]
    split_ifs <;> first | rfl | omega

lemma Expr.Fails.memory {env : DebugExprEnv} {addr : Expr} {size : UInt32} :
    (Expr.memory addr size).Fails env ↔
      (Expr.memory addr size).Faults env ∨ addr.Fails env := by
  simp [Fails, subtrees]

lemma Expr.Fails.unary {env : DebugExprEnv} {o : UnOp} {e : Expr} :
    (Expr.unary o e).Fails env ↔ e.Fails env := by
  simp [Fails, subtrees, Faults]

lemma Expr.Fails.binary {env : DebugExprEnv} {o : BinOp} {l r : Expr} :
    (Expr.binary o l r).Fails env ↔
      ((o = .div ∨ o = .mod) ∧ r.denote env = 0) ∨ l.Fails env ∨ r.Fails env := by
  have hf : (Expr.binary o l r).Faults env ↔ (o = .div ∨ o = .mod) ∧ r.denote env = 0 := by
    cases o <;> simp [Faults]
  simp only [Fails, subtrees, List.mem_cons, List.mem_append, exists_eq_or_imp, hf]
  constructor
  · rintro (h | ⟨t, ht | ht, hft⟩)
    · exact .inl h
    · exact .inr (.inl ⟨t, ht, hft⟩)
    · exact .inr (.inr ⟨t, ht, hft⟩)
  · rintro (h | ⟨t, ht, hft⟩ | ⟨t, ht, hft⟩)
    · exact .inl h
    · exact .inr ⟨t, .inl ht, hft⟩
    · exact .inr ⟨t, .inr ht, hft⟩

/-- Evaluation gives what the tree denotes, or fails where it fails. -/
def Expr.Agrees (env : DebugExprEnv) (e : Expr) : Prop :=
  (¬ e.Fails env ∧ ∃ v, e.eval (machineValues (some env)) = .ok v ∧ v.toNat = e.denote env) ∨
    (e.Fails env ∧ ∃ err : Error, e.eval (machineValues (some env)) = .error err ∧ err.OfValue)

/-- **The code's arithmetic is the meaning**, in every tree and on every machine. -/
theorem Expr.agrees (env : DebugExprEnv) (e : Expr) : e.Agrees env := by
  induction e with
  | number v => exact .inl ⟨by simp [Fails, subtrees, Faults], v, rfl, rfl⟩
  | register reg => exact .inl ⟨by simp [Fails, subtrees, Faults], _, rfl, rfl⟩
  | cpsr => exact .inl ⟨by simp [Fails, subtrees, Faults], _, rfl, rfl⟩
  | flag f => exact .inl ⟨by simp [Fails, subtrees, Faults], _, rfl, flag_toNat f env.readCpsr⟩
  | memory addr size ih =>
    rcases ih with ⟨hn, a, ha, hv⟩ | ⟨hf, err, ha, he⟩
    · have hof : UInt32.ofNat (addr.denote env) = a := ofNat_eq_of_toNat hv
      cases hm : env.readMem a size with
      | none =>
        refine .inr ⟨Fails.memory.2 (.inl ?_), .notReadable, ?_, .inr rfl⟩
        · rw [Faults, hof, hm]
        · rw [eval, ha]
          simp [bind, Except.bind, machineValues, hm]
      | some v =>
        refine .inl ⟨fun h => ?_, v, ?_, ?_⟩
        · rcases Fails.memory.1 h with h | h
          · rw [Faults, hof, hm] at h
            cases h
          · exact hn h
        · rw [eval, ha]
          simp [bind, Except.bind, machineValues, hm]
        · rw [denote, hof, hm]
          rfl
    · exact .inr ⟨Fails.memory.2 (.inr hf), err, by rw [eval, ha]; rfl, he⟩
  | unary o e ih =>
    rcases ih with ⟨hn, v, ha, hv⟩ | ⟨hf, err, ha, he⟩
    · refine .inl ⟨fun h => hn (Fails.unary.1 h), o.apply v, by rw [eval, ha]; rfl, ?_⟩
      rw [denote, ← hv]
      exact o.apply_toNat v
    · exact .inr ⟨Fails.unary.2 hf, err, by rw [eval, ha]; rfl, he⟩
  | binary o l r ihl ihr =>
    rcases ihl with ⟨hnl, a, ha, hva⟩ | ⟨hf, err, ha, he⟩
    · rcases ihr with ⟨hnr, b, hb, hvb⟩ | ⟨hf, err, hb, he⟩
      · have hev : (Expr.binary o l r).eval (machineValues (some env)) = o.apply a b := by
          rw [eval, ha, hb]
          rfl
        rcases o.apply_cases a b with ⟨hz, hap⟩ | ⟨hz, v, hap, hv⟩
        · rw [hvb] at hz
          exact .inr ⟨Fails.binary.2 (.inl hz), _, hev.trans hap, .inl rfl⟩
        · rw [hvb] at hz
          refine .inl ⟨fun h => ?_, v, hev.trans hap, ?_⟩
          · rcases Fails.binary.1 h with h | h | h
            · exact hz h
            · exact hnl h
            · exact hnr h
          · rw [denote, ← hva, ← hvb]
            exact hv
      · exact .inr ⟨Fails.binary.2 (.inr (.inr hf)), err, by rw [eval, ha, hb]; rfl, he⟩
    · exact .inr ⟨Fails.binary.2 (.inr (.inl hf)), err, by rw [eval, ha]; rfl, he⟩

lemma Expr.eval_of_not_fails {env : DebugExprEnv} {e : Expr} (h : ¬ e.Fails env) :
    ∃ v, e.eval (machineValues (some env)) = .ok v ∧ v.toNat = e.denote env := by
  rcases e.agrees env with ⟨-, hv⟩ | ⟨hf, -⟩
  · exact hv
  · exact absurd hf h

lemma Expr.eval_of_fails {env : DebugExprEnv} {e : Expr} (h : e.Fails env) :
    ∃ err : Error, e.eval (machineValues (some env)) = .error err ∧ err.OfValue := by
  rcases e.agrees env with ⟨hn, -⟩ | ⟨-, he⟩
  · exact absurd h hn
  · exact he

end RpcEmu.DebugExpr
