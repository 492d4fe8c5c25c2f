import Mathlib.Tactic.Common

/-!
# Addresses as a page and a place in it

A 32-bit address is a 4KB page and an offset.  `page` is the page's number, `frame` the address of
its first byte and `low` the offset; an address is its frame together with its offset, and masks that
keep the offset bits act on the frame alone.
-/

namespace Pages

/-- Bit `i` of a word. -/
def bit (a : UInt32) (i : Nat) : Bool := a.toBitVec.getLsbD i

def page (a : UInt32) : UInt32 := a >>> 12

def frame (a : UInt32) : UInt32 := a &&& 0xfffff000

def low (a : UInt32) : UInt32 := a &&& 0xfff

/-! ## Bits -/

lemma ext_bit {a b : UInt32} (h : ∀ i < 32, bit a i = bit b i) : a = b := by
  apply UInt32.eq_of_toBitVec_eq
  apply BitVec.eq_of_getLsbD_eq
  intro i hi
  exact h i hi

lemma bit_of_le {a : UInt32} {i : Nat} (h : 32 ≤ i) : bit a i = false :=
  BitVec.getLsbD_of_ge _ _ h

@[simp] lemma bit_and (a b : UInt32) (i : Nat) : bit (a &&& b) i = (bit a i && bit b i) := by
  simp [bit]

@[simp] lemma bit_or (a b : UInt32) (i : Nat) : bit (a ||| b) i = (bit a i || bit b i) := by
  simp [bit]

@[simp] lemma bit_xor (a b : UInt32) (i : Nat) : bit (a ^^^ b) i = (bit a i ^^ bit b i) := by
  simp [bit]

@[simp] lemma bit_zero (i : Nat) : bit 0 i = false := by simp [bit]

lemma bit_ones {c : UInt32} {lo hi : Nat}
    (h : ∀ i : Fin 32, bit c i = decide (lo ≤ i.val ∧ i.val < hi)) {i : Nat} (hi' : i < 32) :
    bit c i = decide (lo ≤ i ∧ i < hi) := h ⟨i, hi'⟩

lemma bit_frameMask {i : Nat} (hi : i < 32) : bit 0xfffff000 i = decide (12 ≤ i ∧ i < 32) :=
  bit_ones (by decide) hi

lemma bit_lowMask {i : Nat} (hi : i < 32) : bit 0xfff i = decide (0 ≤ i ∧ i < 12) :=
  bit_ones (by decide) hi

lemma bit_frame (a : UInt32) (i : Nat) : bit (frame a) i = (decide (12 ≤ i) && bit a i) := by
  by_cases hi : i < 32
  · simp [frame, bit_frameMask hi, hi, Bool.and_comm]
  · rw [bit_of_le (by omega), bit_of_le (by omega), Bool.and_false]

lemma bit_low (a : UInt32) (i : Nat) : bit (low a) i = (!decide (12 ≤ i) && bit a i) := by
  by_cases hi : i < 32
  · by_cases h : 12 ≤ i
    · simp [low, bit_lowMask hi, h, Nat.not_lt.mpr h]
    · simp [low, bit_lowMask hi, h, Nat.not_le.mp h]
  · rw [bit_of_le (by omega), bit_of_le (by omega), Bool.and_false]

lemma bit_shiftRight (a : UInt32) {k : UInt32} (hk : k.toNat < 32) (i : Nat) :
    bit (a >>> k) i = bit a (i + k.toNat) := by
  rw [bit, bit, UInt32.toBitVec_shiftRight, BitVec.ushiftRight_eq', BitVec.getLsbD_ushiftRight,
    Nat.add_comm i]
  congr 2
  rw [BitVec.toNat_umod, UInt32.toNat_toBitVec]
  exact Nat.mod_eq_of_lt hk

lemma bit_page (a : UInt32) (i : Nat) : bit (page a) i = bit a (i + 12) :=
  bit_shiftRight a (by decide) i

lemma bit_eq_of_page {a b : UInt32} (h : page a = page b) {i : Nat} (hi : 12 ≤ i) :
    bit a i = bit b i := by
  have hp := congrArg (fun p => bit p (i - 12)) h
  simpa only [bit_page, Nat.sub_add_cancel hi] using hp

/-! ## Frames and offsets -/

@[simp] lemma frame_or_low (a : UInt32) : frame a ||| low a = a := by
  apply ext_bit
  intro i _
  by_cases h : 12 ≤ i <;> simp [bit_frame, bit_low, h]

@[simp] lemma frame_frame_or (a b : UInt32) : frame (frame a ||| low b) = frame a := by
  apply ext_bit
  intro i _
  by_cases h : 12 ≤ i <;> simp [bit_frame, bit_low, h]

@[simp] lemma low_frame_or (a b : UInt32) : low (frame a ||| low b) = low b := by
  apply ext_bit
  intro i _
  by_cases h : 12 ≤ i <;> simp [bit_frame, bit_low, h]

@[simp] lemma frame_frame (a : UInt32) : frame (frame a) = frame a := by
  apply ext_bit
  intro i _
  by_cases h : 12 ≤ i <;> simp [bit_frame, h]

lemma frame_and (a b : UInt32) : frame (a &&& b) = frame a &&& b := by
  apply ext_bit
  intro i _
  by_cases h : 12 ≤ i <;> simp [bit_frame, h]

lemma frame_add_low (a b : UInt32) : frame a + low b = frame a ||| low b := by
  apply UInt32.eq_of_toBitVec_eq
  rw [UInt32.toBitVec_add, UInt32.toBitVec_or]
  apply BitVec.add_eq_or_of_and_eq_zero
  apply BitVec.eq_of_getLsbD_eq
  intro i _
  have hf := bit_frame a i
  have hl := bit_low b i
  simp only [bit] at hf hl
  rw [BitVec.getLsbD_and, hf, hl]
  by_cases h : 12 ≤ i <;> simp [h]

lemma page_eq_iff (a b : UInt32) : page a = page b ↔ frame a = frame b := by
  constructor
  · intro h
    apply ext_bit
    intro i _
    by_cases hi : 12 ≤ i
    · simp [bit_frame, bit_eq_of_page h hi]
    · simp [bit_frame, hi]
  · intro h
    apply ext_bit
    intro i _
    have hp := congrArg (fun p => bit p (i + 12)) h
    simp only [bit_frame] at hp
    simpa [bit_page] using hp

@[simp] lemma page_frame_or (a b : UInt32) : page (frame a ||| low b) = page a := by
  rw [page_eq_iff, frame_frame_or]

lemma toNat_low (a : UInt32) : (low a).toNat = a.toNat % 4096 := by
  have h : (0xfff : UInt32).toNat = 2 ^ 12 - 1 := rfl
  rw [low, UInt32.toNat_and, h, Nat.and_two_pow_sub_one_eq_mod]

lemma toNat_frame (a : UInt32) : (frame a).toNat = a.toNat - a.toNat % 4096 := by
  have h : (frame a + low a).toNat = a.toNat := by rw [frame_add_low, frame_or_low]
  have hle : frame a ≤ a := by
    rw [UInt32.le_iff_toNat_le, frame, UInt32.toNat_and]
    exact Nat.and_le_left
  rw [UInt32.toNat_add, toNat_low] at h
  rw [UInt32.le_iff_toNat_le] at hle
  have hlt := a.toNat_lt
  omega

lemma mul_four_and_three (i : UInt32) : i * 4 &&& 3 = 0 := by
  apply UInt32.toNat_inj.mp
  have h3 : (3 : UInt32).toNat = 2 ^ 2 - 1 := rfl
  have h4 : (4 : UInt32).toNat = 4 := rfl
  rw [UInt32.toNat_and, h3, Nat.and_two_pow_sub_one_eq_mod, UInt32.toNat_mul, h4, UInt32.toNat_zero]
  omega

lemma and_not_three {a : UInt32} (h : a &&& 3 = 0) : a &&& ~~~3 = a := by
  apply ext_bit
  intro i hi
  have hmask : bit (~~~3) i = decide (2 ≤ i ∧ i < 32) := bit_ones (by decide) hi
  have hthree : bit 3 i = decide (0 ≤ i ∧ i < 2) := bit_ones (by decide) hi
  by_cases h2 : 2 ≤ i
  · simp [hmask, h2, hi]
  · have hai := congrArg (fun w => bit w i) h
    have h2' : i < 2 := by omega
    simp only [bit_and, hthree, h2', Nat.zero_le, and_self, decide_true, Bool.and_true,
      bit_zero] at hai
    simp [hai]

lemma add_low_and_of_aligned {base a : UInt32} (hb : frame base = base) (ha : a &&& 3 = 0) :
    (base + low a) &&& ~~~3 = base + low a := by
  have hsum : base + low a = base ||| low a := by rw [← hb, frame_add_low]
  have hthree : (0xfffff000 : UInt32) &&& 3 = 0 := by decide
  have hbase : base &&& 3 = 0 := by
    rw [← hb, frame, UInt32.and_assoc, hthree, UInt32.and_zero]
  have hlow : low a &&& 3 = 0 := by
    rw [low, UInt32.and_assoc, UInt32.and_comm 0xfff, ← UInt32.and_assoc, ha, UInt32.zero_and]
  rw [hsum]
  apply and_not_three
  apply ext_bit
  intro i _
  have h1 := congrArg (fun w => bit w i) hbase
  have h2 := congrArg (fun w => bit w i) hlow
  simp only [bit_and, bit_zero] at h1 h2
  simp [Bool.and_or_distrib_right, h1, h2]

/-! ## Masks -/

lemma frame_or_and {m : UInt32} (hm : m &&& 0xfff = 0xfff) (a b : UInt32) :
    (frame a ||| low b) &&& m = (frame a &&& m) + low b := by
  have hbit : ∀ i < 12, bit m i = true := by
    intro i hi
    have h := congrArg (fun w => bit w i) hm
    simpa [bit_lowMask (show i < 32 by omega), hi] using h
  have hframe : frame (frame a &&& m) = frame a &&& m := by rw [frame_and, frame_frame]
  have hlow : low b &&& m = low b := by
    apply ext_bit
    intro i _
    by_cases h : 12 ≤ i
    · simp [bit_low, h]
    · simp [bit_low, h, hbit i (by omega)]
  rw [← hframe, frame_add_low, hframe]
  conv_rhs => rw [← hlow]
  apply ext_bit
  intro i _
  simp [Bool.and_or_distrib_right]

lemma frame_or_and_high {m : UInt32} (hm : m &&& 0xfff = 0) (a b : UInt32) :
    (frame a ||| low b) &&& m = frame a &&& m := by
  have hbit : ∀ i < 12, bit m i = false := by
    intro i hi
    have h := congrArg (fun w => bit w i) hm
    simpa [bit_lowMask (show i < 32 by omega), hi] using h
  apply ext_bit
  intro i _
  by_cases h : 12 ≤ i
  · simp [bit_low, h]
  · simp [bit_low, h, hbit i (by omega)]

lemma and_eq_of_and_eq {a b m n : UInt32} (h : a &&& m = b &&& m) (hn : m &&& n = n) :
    a &&& n = b &&& n := by
  rw [← hn, ← UInt32.and_assoc, ← UInt32.and_assoc, h]

lemma and_eq_of_xor_and {a b m : UInt32} (h : (a ^^^ b) &&& m = 0) : b &&& m = a &&& m := by
  apply ext_bit
  intro i _
  have hb := congrArg (fun w => bit w i) h
  simp only [bit_and, bit_xor, bit_zero] at hb
  cases hm : bit m i with
  | false => simp [hm]
  | true => cases ha : bit a i <;> cases hb' : bit b i <;> simp [ha, hb', hm] at hb ⊢

lemma shiftRight_and_eq_of_page {a b : UInt32} (h : page a = page b) {k m : UInt32}
    (hk : k.toNat < 32) (hm : ∀ i : Fin 32, bit m i = true → 12 ≤ i.val + k.toNat) :
    (a >>> k) &&& m = (b >>> k) &&& m := by
  apply ext_bit
  intro i hi
  cases hb : bit m i with
  | false => simp [hb]
  | true => simp [hb, bit_shiftRight _ hk, bit_eq_of_page h (hm ⟨i, hi⟩ hb)]

lemma base_or_eq_of_page {a b : UInt32} (h : page a = page b) {m c : UInt32}
    (hm : m &&& 0xfff = 0xfff) (hc : c &&& 0xfff = 0) (y : UInt32) :
    (y &&& c) ||| (b &&& m) = frame ((y &&& c) ||| (a &&& m)) ||| low b := by
  apply ext_bit
  intro i hi
  by_cases h12 : 12 ≤ i
  · simp [bit_frame, bit_low, h12, bit_eq_of_page h h12]
  · have hmi := congrArg (fun w => bit w i) hm
    have hci := congrArg (fun w => bit w i) hc
    simp only [bit_and, bit_lowMask hi, Nat.zero_le, Nat.not_le.mp h12, and_self, decide_true,
      Bool.and_true, bit_zero] at hmi hci
    simp [bit_frame, bit_low, h12, hmi, hci]

end Pages
