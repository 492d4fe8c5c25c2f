import RpcEmu.Lib.Pages
import Mathlib.Algebra.Ring.Nat

/-!
# Fields of a word

A mask picks a field of a 32-bit word.  `put m x y` is `x` with the field of `m` taken from `y`, which C
writes as `(x & ~m) | (y & m)`; a field inside the mask is then that of `y`, a field beside it that of
`x`.
-/

namespace Masks

open Pages

/-- `x`, with the field of `m` from `y`. -/
def put (m x y : UInt32) : UInt32 := (x &&& ~~~m) ||| (y &&& m)

/-! ## Bits -/

lemma bit_not (a : UInt32) {i : Nat} (hi : i < 32) : bit (~~~a) i = !bit a i := by
  simp [bit, hi]

lemma and_single {m : UInt32} {i : Nat} (hm : ∀ j : Fin 32, bit m j = decide (j.val = i))
    (x : UInt32) : x &&& m = if bit x i then m else 0 := by
  apply ext_bit
  intro j hj
  have hmj : bit m j = decide (j = i) := hm ⟨j, hj⟩
  by_cases hji : j = i
  · subst hji
    cases h : bit x j <;> simp [h]
  · cases h : bit x i <;> simp [hmj, hji]

lemma or_and (x y m : UInt32) : (x ||| y) &&& m = (x &&& m) ||| (y &&& m) := by
  apply ext_bit
  intro i _
  simp [Bool.and_or_distrib_right]

lemma and_and {x m n k : UInt32} (h : m &&& n = k) : x &&& m &&& n = x &&& k := by
  rw [UInt32.and_assoc, h]

/-! ## Fields of `put` -/

lemma put_and_inside {m n : UInt32} (h : m &&& n = n) (x y : UInt32) :
    put m x y &&& n = y &&& n := by
  have hout : ~~~m &&& n = 0 := by
    apply ext_bit
    intro i hi
    have hi' := congrArg (fun w => bit w i) h
    simp only [bit_and] at hi'
    rw [bit_and, bit_not m hi, bit_zero]
    cases hm : bit m i <;> cases hn : bit n i <;> simp_all
  rw [put, or_and, and_and hout, and_and h, UInt32.and_zero, UInt32.zero_or]

lemma put_and_outside {m n : UInt32} (h : m &&& n = 0) (x y : UInt32) :
    put m x y &&& n = x &&& n := by
  have hin : ~~~m &&& n = n := by
    apply ext_bit
    intro i hi
    have hi' := congrArg (fun w => bit w i) h
    simp only [bit_and, bit_zero] at hi'
    rw [bit_and, bit_not m hi]
    cases hm : bit m i <;> cases hn : bit n i <;> simp_all
  rw [put, or_and, and_and hin, and_and h, UInt32.and_zero, UInt32.or_zero]

/-! ## Fields as numbers -/

lemma toNat_and_field {m : UInt32} (lo k : Nat) (hm : m.toNat = 2 ^ lo * (2 ^ k - 1)) (x : UInt32) :
    (x &&& m).toNat = 2 ^ lo * (x.toNat / 2 ^ lo % 2 ^ k) := by
  have hhigh : m.toNat / 2 ^ lo = 2 ^ k - 1 := by
    rw [hm, Nat.mul_div_cancel_left _ (Nat.two_pow_pos lo)]
  have hlow : m.toNat % 2 ^ lo = 0 := by rw [hm, Nat.mul_mod_right]
  have hdiv : (x.toNat &&& m.toNat) / 2 ^ lo = x.toNat / 2 ^ lo % 2 ^ k := by
    rw [Nat.and_div_two_pow, hhigh, Nat.and_two_pow_sub_one_eq_mod]
  have hmod : (x.toNat &&& m.toNat) % 2 ^ lo = 0 := by
    rw [Nat.and_mod_two_pow, hlow, Nat.and_zero]
  rw [UInt32.toNat_and, ← hdiv]
  have := Nat.div_add_mod (x.toNat &&& m.toNat) (2 ^ lo)
  omega

end Masks
