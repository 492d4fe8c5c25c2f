import Mathlib.Data.UInt
import Mathlib.Tactic.Common
import Mathlib.Tactic.IntervalCases

/-!
# Masks of a byte

What a mask shows of a byte that bits have been set in, or cleared, and the two nibbles of a byte.
-/

namespace ByteMasks

/-! ## Bits set and cleared -/

lemma and_not_and {m n : UInt8} (h : ~~~m &&& n = n) (x : UInt8) : x &&& ~~~m &&& n = x &&& n := by
  rw [UInt8.and_assoc, h]

lemma and_not_and_self (x m : UInt8) : x &&& ~~~m &&& m = 0 := by
  have hself : ~~~m &&& m = 0 := by
    apply UInt8.toBitVec_inj.mp
    ext i _
    simp
  rw [UInt8.and_assoc, hself, UInt8.and_zero]

lemma or_and_mask (x y m : UInt8) : (x ||| y) &&& m = x &&& m ||| y &&& m := by
  apply UInt8.toBitVec_inj.mp
  ext i _
  simp only [UInt8.toBitVec_and, UInt8.toBitVec_or, BitVec.getElem_and, BitVec.getElem_or, Bool.and_or_distrib_right]

lemma or_and_of_disjoint {m n : UInt8} (h : m &&& n = 0) (x : UInt8) : (x ||| m) &&& n = x &&& n := by
  rw [or_and_mask, h, UInt8.or_zero]

lemma or_mask_and (x m : UInt8) : (x ||| m) &&& m = m := by
  apply UInt8.toBitVec_inj.mp
  ext i _
  simp only [UInt8.toBitVec_and, UInt8.toBitVec_or, BitVec.getElem_and, BitVec.getElem_or]
  grind

/-! ## Nibbles -/

lemma toBitVec_highNibble (x : UInt8) : (x >>> 4).toBitVec = x.toBitVec >>> 4 := rfl

lemma highNibble_xor (x y : UInt8) : (x ^^^ y) >>> 4 = x >>> 4 ^^^ y >>> 4 := by
  simp only [← UInt8.toBitVec_inj, UInt8.toBitVec_xor, toBitVec_highNibble, BitVec.ushiftRight_xor_distrib]

lemma highNibble_and_high (x : UInt8) : x >>> 4 &&& 0xF0 = 0 := by
  have hhigh : (0xF0 : UInt8).toBitVec = 0xF0#8 := rfl
  simp only [← UInt8.toBitVec_inj, UInt8.toBitVec_and, toBitVec_highNibble, hhigh]
  ext i hi
  simp only [BitVec.getElem_and, BitVec.getElem_ushiftRight]
  interval_cases i <;> simp

lemma nibbles (x : UInt8) : (x &&& 0xF0) ||| (x &&& 0x0F) = x := by
  have hlow : (0x0F : UInt8).toBitVec = 0x0F#8 := rfl
  have hhigh : (0xF0 : UInt8).toBitVec = 0xF0#8 := rfl
  simp only [← UInt8.toBitVec_inj, UInt8.toBitVec_and, UInt8.toBitVec_or, hlow, hhigh]
  ext i hi
  simp only [BitVec.getElem_or, BitVec.getElem_and]
  interval_cases i <;> simp

lemma or_eq_or_iff (c x y : UInt8) : c ||| x = c ||| y ↔ (x ^^^ y) &&& ~~~c = 0 := by
  simp only [← UInt8.toBitVec_inj, UInt8.toBitVec_or, UInt8.toBitVec_and, UInt8.toBitVec_xor, UInt8.toBitVec_not,
    BitVec.eq_of_getElem_eq_iff]
  refine forall₂_congr fun i hi => ?_
  have hzero : (0 : UInt8).toBitVec[i] = false := BitVec.getElem_zero hi
  simp only [BitVec.getElem_or, BitVec.getElem_and, BitVec.getElem_xor, BitVec.getElem_not, hzero]
  cases c.toBitVec[i] <;> cases x.toBitVec[i] <;> cases y.toBitVec[i] <;> decide

lemma eq_nibbles_iff {x l c : UInt8} (hc : c &&& 0xF0 = 0) :
    x = (l &&& 0xF0) ||| c ↔ x &&& 0xF0 = l &&& 0xF0 ∧ x &&& 0x0F = c := by
  have hlow : c &&& 0x0F = c := by
    have h := nibbles c
    rw [hc, UInt8.zero_or] at h
    exact h
  constructor
  · intro h
    have hnone : (0xF0 : UInt8) &&& 0x0F = 0 := by decide
    rw [h, or_and_mask, or_and_mask, hc, hlow, UInt8.and_assoc, UInt8.and_assoc, UInt8.and_self, hnone,
      UInt8.and_zero, UInt8.or_zero, UInt8.zero_or]
    exact ⟨rfl, rfl⟩
  · rintro ⟨hhigh, hx⟩
    rw [← hhigh, ← hx, nibbles]

end ByteMasks
