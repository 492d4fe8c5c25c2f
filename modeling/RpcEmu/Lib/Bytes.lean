import Mathlib.Tactic.IntervalCases

/-!
# Blocks of bytes and little-endian words

Memory as a total function on 32-bit indexes.  An allocation is a block together with a size kept
elsewhere: the block itself has a byte at every index, so an access past the end of the allocation
has a meaning here (whatever lies there), and whether one happens is a separate question about
the indexes used.
-/

namespace Bytes

abbrev Block := UInt32 → UInt8

def Block.set (m : Block) (i : UInt32) (v : UInt8) : Block := fun j => if j = i then v else m j

@[simp] lemma Block.set_self (m : Block) (i : UInt32) (v : UInt8) : m.set i v i = v := by
  simp [Block.set]

def word (b0 b1 b2 b3 : UInt8) : UInt32 :=
  b0.toUInt32 ||| (b1.toUInt32 <<< 8) ||| (b2.toUInt32 <<< 16) ||| (b3.toUInt32 <<< 24)

/-- The word at index `i`. -/
def Block.word (m : Block) (i : UInt32) : UInt32 :=
  Bytes.word (m i) (m (i + 1)) (m (i + 2)) (m (i + 3))

/-- The block with the four bytes of a word stored from index `i` up. -/
def Block.setWord (m : Block) (i w : UInt32) : Block :=
  (((m.set i w.toUInt8).set (i + 1) (w >>> 8).toUInt8).set (i + 2) (w >>> 16).toUInt8).set
    (i + 3) (w >>> 24).toUInt8

lemma word_bytes (w : UInt32) :
    word w.toUInt8 (w >>> 8).toUInt8 (w >>> 16).toUInt8 (w >>> 24).toUInt8 = w := by
  apply UInt32.eq_of_toBitVec_eq
  apply BitVec.eq_of_getLsbD_eq
  intro i hi
  simp only [word, UInt32.toBitVec_or, UInt8.toBitVec_toUInt32, UInt32.toBitVec_toUInt8,
    UInt32.toBitVec_shiftLeft, UInt32.toBitVec_shiftRight]
  interval_cases i <;> simp

private lemma add_one_ne (i : UInt32) : i ≠ i + 1 ∧ i ≠ i + 2 ∧ i ≠ i + 3 ∧
    i + 1 ≠ i + 2 ∧ i + 1 ≠ i + 3 ∧ i + 2 ≠ i + 3 := by
  have hi := i.toNat_lt
  simp only [ne_eq, ← UInt32.toNat_inj, UInt32.toNat_add, UInt32.reduceToNat]
  omega

def Block.fill (w : UInt32) : Block := fun i =>
  if i &&& 3 = 0 then w.toUInt8 else if i &&& 3 = 1 then (w >>> 8).toUInt8
  else if i &&& 3 = 2 then (w >>> 16).toUInt8 else (w >>> 24).toUInt8

lemma Block.word_fill (w : UInt32) {i : UInt32} (hi : i &&& 3 = 0) : (Block.fill w).word i = w := by
  have hmod : ∀ j : UInt32, (j &&& 3).toNat = j.toNat % 4 := by
    intro j
    have h3 : (3 : UInt32).toNat = 2 ^ 2 - 1 := rfl
    rw [UInt32.toNat_and, h3, Nat.and_two_pow_sub_one_eq_mod]
  have hi4 : i.toNat % 4 = 0 := by rw [← hmod, hi]; rfl
  have hlow : ∀ k : UInt32, k.toNat < 4 → i + k &&& 3 = k := by
    intro k hk
    apply UInt32.toNat_inj.mp
    rw [hmod, UInt32.toNat_add]
    omega
  simp only [Block.word, Block.fill, hi, hlow 1 (by decide), hlow 2 (by decide),
    hlow 3 (by decide)]
  exact word_bytes w

@[simp] lemma Block.word_setWord (m : Block) (i w : UInt32) : (m.setWord i w).word i = w := by
  obtain ⟨h1, h2, h3, h4, h5, h6⟩ := add_one_ne i
  simp only [Block.word, Block.setWord, Block.set, h1, h2, h3, h4, h5, h6, if_true, if_false]
  exact word_bytes w

lemma Block.setWord_of_ne (m : Block) {i j : UInt32} (w : UInt32) (h0 : j ≠ i) (h1 : j ≠ i + 1)
    (h2 : j ≠ i + 2) (h3 : j ≠ i + 3) : m.setWord i w j = m j := by
  simp [Block.setWord, Block.set, h0, h1, h2, h3]

lemma Block.setWord_of_outside (m : Block) {i j : UInt32} (w : UInt32)
    (hi : i.toNat + 4 ≤ 2 ^ 32) (hj : j.toNat < i.toNat ∨ i.toNat + 4 ≤ j.toNat) :
    m.setWord i w j = m j := by
  have hlt := j.toNat_lt
  have hne : ∀ k : UInt32, k.toNat < 4 → j ≠ i + k := by
    intro k hk
    rw [ne_eq, ← UInt32.toNat_inj, UInt32.toNat_add]
    omega
  apply m.setWord_of_ne w (by simpa using hne 0 (by decide))
  all_goals exact hne _ (by decide)

lemma Block.word_congr {m m' : Block} {i : UInt32} (h0 : m i = m' i) (h1 : m (i + 1) = m' (i + 1))
    (h2 : m (i + 2) = m' (i + 2)) (h3 : m (i + 3) = m' (i + 3)) : m.word i = m'.word i := by
  rw [Block.word, Block.word, h0, h1, h2, h3]

lemma Block.word_setWord_of_apart (m : Block) {i j : UInt32} (w : UInt32)
    (hi : i.toNat + 4 ≤ 2 ^ 32) (hj : j.toNat + 4 ≤ 2 ^ 32)
    (hij : j.toNat + 4 ≤ i.toNat ∨ i.toNat + 4 ≤ j.toNat) : (m.setWord i w).word j = m.word j := by
  have hout : ∀ k : UInt32, k.toNat < 4 → m.setWord i w (j + k) = m (j + k) := by
    intro k hk
    apply m.setWord_of_outside w hi
    rw [UInt32.toNat_add]
    omega
  apply Block.word_congr (by simpa using hout 0 (by decide))
  all_goals exact hout _ (by decide)

end Bytes
