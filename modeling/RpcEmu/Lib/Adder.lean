import Mathlib.Data.BitVec
import Mathlib.Tactic.Ring

/-!
# An adder with a carry

The sum of two words and a carry, with what a processor's status keeps of it: whether the sum of the unsigned
values and that of the signed ones fit the word.

* `carry_eq_msb`, `overflow_eq_msb` — both from the top bits of the operands and of the value.
* `carry_add`, `carry_sub` — without a carry the value is below an operand, and with one it is not above the word
  that is subtracted from.
-/

namespace Adder

variable {w : Nat}

structure Sum (w : Nat) where
  value : BitVec w
  /-- Of the unsigned values. -/
  carry : Bool
  /-- Of the signed values. -/
  overflow : Bool
  deriving DecidableEq

def addWithCarry (x y : BitVec w) (c : Bool) : Sum w :=
  let value := x + y + BitVec.ofNat w c.toNat
  ⟨value, decide (2 ^ w ≤ x.toNat + y.toNat + c.toNat), decide (x.toInt + y.toInt + c.toNat ≠ value.toInt)⟩

variable (x y : BitVec w) (c : Bool)

lemma toNat_value : (addWithCarry x y c).value.toNat = (x.toNat + y.toNat + c.toNat) % 2 ^ w := by
  simp [addWithCarry, BitVec.toNat_add]

lemma value_false : (addWithCarry x y false).value = x + y := BitVec.add_zero _

lemma value_not_true : (addWithCarry x (~~~y) true).value = x - y := by
  rw [BitVec.sub_eq_add_neg, BitVec.neg_eq_not_add, ← BitVec.add_assoc]
  rfl

lemma value_not : (addWithCarry x (~~~y) c).value = x - y - BitVec.ofNat w (!c).toNat := by
  cases c with
  | true =>
    rw [value_not_true]
    exact (BitVec.sub_zero _).symm
  | false =>
    rw [value_false, BitVec.sub_eq_add_neg x, BitVec.neg_eq_not_add, ← BitVec.add_assoc]
    exact (BitVec.add_sub_cancel _ _).symm

lemma toNat_value_cases :
    x.toNat + y.toNat + c.toNat < 2 ^ w ∧ (addWithCarry x y c).value.toNat = x.toNat + y.toNat + c.toNat ∨
      2 ^ w ≤ x.toNat + y.toNat + c.toNat ∧
        (addWithCarry x y c).value.toNat + 2 ^ w = x.toNat + y.toNat + c.toNat := by
  have hx := x.isLt
  have hy := y.isLt
  have hc := c.toNat_le
  rw [toNat_value]
  rcases Nat.lt_or_ge (x.toNat + y.toNat + c.toNat) (2 ^ w) with hfits | hover
  · exact .inl ⟨hfits, Nat.mod_eq_of_lt hfits⟩
  · refine .inr ⟨hover, ?_⟩
    rw [Nat.mod_eq_sub_mod hover, Nat.mod_eq_of_lt (by omega)]
    omega

theorem carry_add : (addWithCarry x y false).carry = decide ((addWithCarry x y false).value < x) := by
  have hvalue := toNat_value_cases x y false
  rw [Bool.toNat_false] at hvalue
  refine decide_eq_decide.mpr ?_
  rw [BitVec.lt_def, Bool.toNat_false]
  have hy := y.isLt
  omega

theorem carry_sub : (addWithCarry x (~~~y) true).carry = decide ((addWithCarry x (~~~y) true).value ≤ x) := by
  have hvalue := toNat_value_cases x (~~~y) true
  rw [Bool.toNat_true] at hvalue
  refine decide_eq_decide.mpr ?_
  rw [BitVec.le_def, Bool.toNat_true]
  have hy := (~~~y).isLt
  omega

section TopBits

variable (hw : 0 < w)
include hw

lemma half : ∃ half, 2 ^ w = 2 * half ∧ ∀ z : BitVec w,
    z.msb = true ∧ half ≤ z.toNat ∧ z.toInt = z.toNat - 2 * half ∨
      z.msb = false ∧ z.toNat < half ∧ z.toInt = z.toNat := by
  obtain ⟨n, rfl⟩ : ∃ n, w = n + 1 := ⟨w - 1, by omega⟩
  refine ⟨2 ^ n, by ring, fun z => ?_⟩
  have hpow : (2 : Int) ^ (n + 1) = 2 * 2 ^ n := by ring
  have hmsb : z.msb = decide (2 ^ n ≤ z.toNat) := BitVec.msb_eq_decide z
  rw [hmsb, BitVec.toInt_eq_msb_cond, hmsb]
  rcases Nat.lt_or_ge z.toNat (2 ^ n) with hlt | hge
  · exact .inr (by simp [hlt])
  · exact .inl (by simp [hge, hpow])

theorem carry_eq_msb : (addWithCarry x y c).carry =
    (x.msb && y.msb || (x.msb || y.msb) && !(addWithCarry x y c).value.msb) := by
  obtain ⟨m, hm, hhalf⟩ := half hw
  have hc := c.toNat_le
  have hvalue := toNat_value_cases x y c
  have hcarry : (addWithCarry x y c).carry = decide (2 ^ w ≤ x.toNat + y.toNat + c.toNat) := rfl
  rw [hm] at hvalue hcarry
  have hlt := (addWithCarry x y c).value.isLt
  rw [hcarry]
  rcases hhalf x with ⟨hx, hx', -⟩ | ⟨hx, hx', -⟩ <;> rcases hhalf y with ⟨hy, hy', -⟩ | ⟨hy, hy', -⟩ <;>
    rcases hhalf (addWithCarry x y c).value with ⟨hv, hv', -⟩ | ⟨hv, hv', -⟩ <;>
    · rw [hx, hy, hv]
      simp only [Bool.and_true, Bool.and_false, Bool.or_true, Bool.or_false, Bool.not_true, Bool.not_false,
        decide_eq_true_eq, decide_eq_false_iff_not]
      omega

theorem overflow_eq_msb : (addWithCarry x y c).overflow =
    ((x.msb ^^ (addWithCarry x y c).value.msb) && (y.msb ^^ (addWithCarry x y c).value.msb)) := by
  obtain ⟨m, hm, hhalf⟩ := half hw
  have hc := c.toNat_le
  have hvalue := toNat_value_cases x y c
  have hoverflow : (addWithCarry x y c).overflow =
      decide (x.toInt + y.toInt + c.toNat ≠ (addWithCarry x y c).value.toInt) := rfl
  rw [hm] at hvalue
  rw [hoverflow]
  rcases hhalf x with ⟨hx, hx', hxi⟩ | ⟨hx, hx', hxi⟩ <;> rcases hhalf y with ⟨hy, hy', hyi⟩ | ⟨hy, hy', hyi⟩ <;>
    rcases hhalf (addWithCarry x y c).value with ⟨hv, hv', hvi⟩ | ⟨hv, hv', hvi⟩ <;>
    · rw [hx, hy, hv, hxi, hyi, hvi]
      simp only [Bool.xor_true, Bool.xor_false, Bool.not_true, Bool.not_false, Bool.and_true, Bool.and_false,
        decide_eq_true_eq, decide_eq_false_iff_not]
      omega

end TopBits

end Adder
