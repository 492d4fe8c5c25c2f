import RpcEmu.Cpu.Rv32i
import RpcEmu.Lib.RiscV

/-!
# The fields and the arithmetic of the RV32IM core

`cpu_rv32i.c` takes a word to pieces with shifts and masks and does its arithmetic on `uint32_t`.  Here each
piece is the field of the architecture and each function its operation: the five immediates, with
`sign_extend`, then `alu`, `muldiv` and `branch_taken`.
-/

namespace RpcEmu

open RiscV

/-! ## Fields -/

lemma field_toBitVec (x : UInt32) {n m : UInt32} {k : Nat} (hn : n < 32)
    (hm : m.toBitVec = (BitVec.allOnes k).setWidth 32) :
    ((x >>> n) &&& m).toBitVec = (x.toBitVec.extractLsb' n.toNat k).setWidth 32 := by
  have hshift : n.toNat % 32 = n.toNat := Nat.mod_eq_of_lt (UInt32.lt_iff_toNat_lt.mp hn)
  ext i hi
  by_cases hk : i < k <;> simp [hm, hk, hshift]

lemma setWidth_eq_iff {k : Nat} (hk : k ≤ 32) {x : UInt32} {f g : BitVec k}
    (h : x.toBitVec = f.setWidth 32) {y : UInt32} (hy : y.toBitVec = g.setWidth 32) : x = y ↔ f = g := by
  rw [← UInt32.toBitVec_inj, h, hy]
  constructor
  · intro heq
    have hback := congrArg (BitVec.setWidth k) heq
    rwa [BitVec.setWidth_setWidth_of_le _ hk, BitVec.setWidth_setWidth_of_le _ hk, BitVec.setWidth_eq,
      BitVec.setWidth_eq] at hback
  · rintro rfl
    rfl

lemma signExtend_toBitVec (x : UInt32) {bits : UInt32} {k : Nat} (hbits : bits = UInt32.ofNat k) (hk : 0 < k)
    (hk' : k < 32) : (signExtend x bits).toBitVec = (x.toBitVec.setWidth k).signExtend 32 := by
  subst hbits
  have hmask : (((1 : UInt32) <<< UInt32.ofNat k) - 1).toBitVec = (BitVec.allOnes k).setWidth 32 := by
    interval_cases k <;> rfl
  have htop : ((1 : UInt32) <<< (UInt32.ofNat k - 1)).toBitVec = BitVec.twoPow 32 (k - 1) := by
    interval_cases k <;> rfl
  have hmsb : (x.toBitVec &&& (BitVec.allOnes k).setWidth 32).getLsbD (k - 1) = (x.toBitVec.setWidth k).msb := by
    rw [BitVec.msb_eq_getLsbD_last]
    simp [show k - 1 < 32 by omega, show k - 1 < k by omega]
  have hcond : (x &&& (((1 : UInt32) <<< UInt32.ofNat k) - 1)) &&& ((1 : UInt32) <<< (UInt32.ofNat k - 1)) ≠ 0 ↔
      (x.toBitVec.setWidth k).msb = true := by
    rw [← not_iff_not, not_not, ← UInt32.toBitVec_inj]
    simp only [UInt32.toBitVec_and, hmask, htop, BitVec.and_twoPow, hmsb]
    split_ifs with h
    · have hne : BitVec.twoPow 32 (k - 1) ≠ 0#32 := by
        intro hzero
        have hbit := congrArg (fun v => v.getLsbD (k - 1)) hzero
        simp [show k - 1 < 32 by omega] at hbit
      simp [h, hne]
    · simp [h]
  unfold signExtend
  by_cases h : (x.toBitVec.setWidth k).msb = true
  · simp only [if_pos (hcond.mpr h)]
    apply BitVec.eq_of_getLsbD_eq
    intro i hi
    rw [BitVec.getLsbD_signExtend]
    by_cases hik : i < k <;> simp [hmask, h, hik, hi]
  · simp only [if_neg (fun hne => h (hcond.mp hne))]
    apply BitVec.eq_of_getLsbD_eq
    intro i hi
    rw [BitVec.getLsbD_signExtend]
    by_cases hik : i < k <;> simp [hmask, h, hik, hi]

/-! ## Immediates -/

section Immediates

variable (insn : UInt32)

lemma immI_toBitVec : (signExtend (insn >>> 20) 12).toBitVec = immI insn.toBitVec := by
  have hfield : (insn >>> 20).toBitVec.setWidth 12 = insn.toBitVec.extractLsb' 20 12 := by
    apply BitVec.eq_of_getLsbD_eq
    intro i hi
    interval_cases i <;> simp
  rw [signExtend_toBitVec _ (show (12 : UInt32) = UInt32.ofNat 12 from rfl) (by omega) (by omega), hfield, immI]

lemma immS_toBitVec :
    (signExtend (((insn >>> 25) <<< 5) ||| ((insn >>> 7) &&& 0x1f)) 12).toBitVec = immS insn.toBitVec := by
  have hfield : (((insn >>> 25) <<< 5) ||| ((insn >>> 7) &&& 0x1f)).toBitVec.setWidth 12 =
      insn.toBitVec.extractLsb' 25 7 ++ insn.toBitVec.extractLsb' 7 5 := by
    apply BitVec.eq_of_getLsbD_eq
    intro i hi
    rw [BitVec.getLsbD_append]
    interval_cases i <;> simp
  rw [signExtend_toBitVec _ (show (12 : UInt32) = UInt32.ofNat 12 from rfl) (by omega) (by omega), hfield, immS]

lemma branchOffset_toBitVec : (branchOffset insn).toBitVec = immB insn.toBitVec := by
  have hfield : ((((insn >>> 31) &&& 1) <<< 12) ||| (((insn >>> 25) &&& 0x3f) <<< 5) |||
      (((insn >>> 8) &&& 0xf) <<< 1) ||| (((insn >>> 7) &&& 1) <<< 11)).toBitVec.setWidth 13 =
      insn.toBitVec.extractLsb' 31 1 ++ insn.toBitVec.extractLsb' 7 1 ++ insn.toBitVec.extractLsb' 25 6 ++
        insn.toBitVec.extractLsb' 8 4 ++ 0#1 := by
    apply BitVec.eq_of_getLsbD_eq
    intro i hi
    simp only [BitVec.getLsbD_append]
    interval_cases i <;> simp
  rw [branchOffset, signExtend_toBitVec _ (show (13 : UInt32) = UInt32.ofNat 13 from rfl) (by omega) (by omega),
    hfield, immB]

lemma jalOffset_toBitVec : (jalOffset insn).toBitVec = immJ insn.toBitVec := by
  have hfield : ((((insn >>> 31) &&& 1) <<< 20) ||| (((insn >>> 21) &&& 0x3ff) <<< 1) |||
      (((insn >>> 20) &&& 1) <<< 11) ||| (((insn >>> 12) &&& 0xff) <<< 12)).toBitVec.setWidth 21 =
      insn.toBitVec.extractLsb' 31 1 ++ insn.toBitVec.extractLsb' 12 8 ++ insn.toBitVec.extractLsb' 20 1 ++
        insn.toBitVec.extractLsb' 21 10 ++ 0#1 := by
    apply BitVec.eq_of_getLsbD_eq
    intro i hi
    simp only [BitVec.getLsbD_append]
    interval_cases i <;> simp
  rw [jalOffset, signExtend_toBitVec _ (show (21 : UInt32) = UInt32.ofNat 21 from rfl) (by omega) (by omega),
    hfield, immJ]

lemma immU_toBitVec : (insn &&& 0xfffff000).toBitVec = immU insn.toBitVec := by
  apply BitVec.eq_of_getLsbD_eq
  intro i hi
  rw [immU, BitVec.getLsbD_append]
  interval_cases i <;> simp

lemma shamt_toBitVec : ((insn >>> 20) &&& 0x1f).toBitVec = shamt insn.toBitVec :=
  field_toBitVec insn (by decide) rfl

end Immediates

/-! ## Arithmetic -/

lemma count_toBitVec (b : UInt32) : ((b &&& 31).toBitVec % 32).toNat = (b.toBitVec.extractLsb' 0 5).toNat := by
  have hmask : b.toNat &&& 31 = b.toNat % 2 ^ 5 := Nat.and_two_pow_sub_one_eq_mod b.toNat 5
  simp [hmask]

lemma sra32_toBitVec (a b : UInt32) :
    (sra32 a (b &&& 31)).toBitVec = a.toBitVec.sshiftRight (b.toBitVec.extractLsb' 0 5).toNat := by
  have hcount : (((b &&& 31) &&& 31).toBitVec % 32).toNat = (b.toBitVec.extractLsb' 0 5).toNat := by
    rw [UInt32.and_assoc]
    exact count_toBitVec b
  generalize (b.toBitVec.extractLsb' 0 5).toNat = n at hcount ⊢
  have hshift (x : UInt32) : (x >>> ((b &&& 31) &&& 31)).toBitVec = x.toBitVec >>> n := by
    rw [UInt32.toBitVec_shiftRight, BitVec.ushiftRight_eq', hcount]
  have hmsb : a &&& 0x80000000 ≠ 0 ↔ a.toBitVec.msb = true := by
    have htop : (0x80000000 : UInt32).toBitVec = BitVec.twoPow 32 31 := rfl
    have hne : BitVec.twoPow 32 31 ≠ 0#32 := by decide
    rw [← not_iff_not, not_not, ← UInt32.toBitVec_inj, UInt32.toBitVec_and, htop, BitVec.and_twoPow,
      BitVec.msb_eq_getLsbD_last]
    split_ifs with h
    · exact iff_of_false hne (by simp [h])
    · exact iff_of_true rfl h
  unfold sra32
  by_cases h : a.toBitVec.msb = true
  · have hones : (0xffffffff : UInt32).toBitVec = BitVec.allOnes 32 := rfl
    simp only [if_pos (hmsb.mpr h), UInt32.toBitVec_or, UInt32.toBitVec_not, hshift, hones]
    apply BitVec.eq_of_getLsbD_eq
    intro i hi
    rw [BitVec.getLsbD_sshiftRight]
    simp only [BitVec.getLsbD_or, BitVec.getLsbD_not, BitVec.getLsbD_ushiftRight, BitVec.getLsbD_allOnes]
    have hge (hin : ¬n + i < 32) : a.toBitVec.getLsbD (n + i) = false := BitVec.getLsbD_of_ge _ _ (by omega)
    by_cases hin : n + i < 32
    · simp [hin, hi]
    · simp [h, hin, hi, hge]
  · simp only [if_neg (fun hne => h (hmsb.mp hne)), hshift]
    apply BitVec.eq_of_getLsbD_eq
    intro i hi
    rw [BitVec.getLsbD_sshiftRight]
    by_cases hin : n + i < 32
    · simp [hin, hi]
    · simp [h, hin, hi, BitVec.getLsbD_of_ge _ _ (show 32 ≤ n + i by omega)]

lemma bitVec3_cases (f : BitVec 3) :
    f = 0#3 ∨ f = 1#3 ∨ f = 2#3 ∨ f = 3#3 ∨ f = 4#3 ∨ f = 5#3 ∨ f = 6#3 ∨ f = 7#3 := by
  revert f
  decide

lemma alu_toBitVec (a b : UInt32) (isImm : Bool) {f : BitVec 3} {funct3 : UInt32}
    (hf : funct3.toBitVec = f.setWidth 32) :
    (alu funct3 a b isImm false).toBitVec = (aluOp f).eval a.toBitVec b.toBitVec := by
  rcases bitVec3_cases f with rfl | rfl | rfl | rfl | rfl | rfl | rfl | rfl
  · obtain rfl : funct3 = 0 := UInt32.toBitVec_inj.mp hf
    simp [alu, aluOp, AluOp.eval]
  · obtain rfl : funct3 = 1 := UInt32.toBitVec_inj.mp hf
    simp only [alu, aluOp, AluOp.eval, UInt32.toBitVec_shiftLeft, BitVec.shiftLeft_eq', count_toBitVec]
  · obtain rfl : funct3 = 2 := UInt32.toBitVec_inj.mp hf
    simp only [alu, aluOp, AluOp.eval, Int32.lt_iff_toBitVec_slt]
    split_ifs <;> first | rfl | contradiction
  · obtain rfl : funct3 = 3 := UInt32.toBitVec_inj.mp hf
    simp only [alu, aluOp, AluOp.eval, UInt32.lt_iff_toBitVec_lt, BitVec.ult_iff_lt]
    split_ifs <;> rfl
  · obtain rfl : funct3 = 4 := UInt32.toBitVec_inj.mp hf
    simp [alu, aluOp, AluOp.eval]
  · obtain rfl : funct3 = 5 := UInt32.toBitVec_inj.mp hf
    simp only [alu, aluOp, AluOp.eval, UInt32.toBitVec_shiftRight, BitVec.ushiftRight_eq', count_toBitVec,
      Bool.false_eq_true, if_false]
  · obtain rfl : funct3 = 6 := UInt32.toBitVec_inj.mp hf
    simp [alu, aluOp, AluOp.eval]
  · obtain rfl : funct3 = 7 := UInt32.toBitVec_inj.mp hf
    simp [alu, aluOp, AluOp.eval]

lemma alu_alt_toBitVec (a b : UInt32) {f : BitVec 3} {funct3 : UInt32} (hf : funct3.toBitVec = f.setWidth 32)
    {op : AluOp} (hop : altOp f = some op) :
    (alu funct3 a b false true).toBitVec = op.eval a.toBitVec b.toBitVec := by
  rcases bitVec3_cases f with rfl | rfl | rfl | rfl | rfl | rfl | rfl | rfl <;> cases hop
  · obtain rfl : funct3 = 0 := UInt32.toBitVec_inj.mp hf
    simp [alu, AluOp.eval]
  · obtain rfl : funct3 = 5 := UInt32.toBitVec_inj.mp hf
    simp only [alu, AluOp.eval, sra32_toBitVec, if_true]

lemma upper_toBitVec (p : UInt64) : (p >>> 32).toUInt32.toBitVec = upper p.toBitVec := by
  rw [UInt64.toBitVec_toUInt32, UInt64.toBitVec_shiftRight, upper]
  generalize p.toBitVec = q
  ext i hi
  simp

section Division

variable (a b : UInt32)

lemma div_toBitVec :
    (a.toInt32 / b.toInt32).toUInt32.toBitVec = BitVec.ofInt 32 (a.toBitVec.toInt.tdiv b.toBitVec.toInt) := by
  have hdiv : (a.toInt32 / b.toInt32).toUInt32.toBitVec = a.toBitVec.sdiv b.toBitVec := Int32.toBitVec_div
  rw [hdiv]
  apply BitVec.eq_of_toInt_eq
  rw [BitVec.toInt_sdiv, BitVec.toInt_ofInt]

lemma rem_toBitVec :
    (a.toInt32 % b.toInt32).toUInt32.toBitVec = BitVec.ofInt 32 (a.toBitVec.toInt.tmod b.toBitVec.toInt) := by
  have hrem : (a.toInt32 % b.toInt32).toUInt32.toBitVec = a.toBitVec.srem b.toBitVec := Int32.toBitVec_mod
  rw [hrem, ← BitVec.toInt_srem, BitVec.ofInt_toInt]

lemma zero_iff : b.toBitVec = 0 ↔ b = 0 := UInt32.toBitVec_inj (b := 0)

lemma overflows_iff :
    (a.toBitVec = BitVec.intMin 32 ∧ b.toBitVec = BitVec.allOnes 32) ↔ (a = 0x80000000 ∧ b = 0xffffffff) := by
  rw [← UInt32.toBitVec_inj, ← UInt32.toBitVec_inj]
  rfl

lemma muldiv_toBitVec {f : BitVec 3} {funct3 : UInt32} (hf : funct3.toBitVec = f.setWidth 32) :
    (muldiv funct3 a b).toBitVec = (mulOp f).eval a.toBitVec b.toBitVec := by
  rcases bitVec3_cases f with rfl | rfl | rfl | rfl | rfl | rfl | rfl | rfl
  · obtain rfl : funct3 = 0 := UInt32.toBitVec_inj.mp hf
    simp [muldiv, mulOp, MulOp.eval]
  · obtain rfl : funct3 = 1 := UInt32.toBitVec_inj.mp hf
    have hmul : (a.toInt32.toInt64 * b.toInt32.toInt64).toUInt64.toBitVec =
        a.toBitVec.signExtend 64 * b.toBitVec.signExtend 64 := by
      show (a.toInt32.toInt64 * b.toInt32.toInt64).toBitVec = _
      rw [Int64.toBitVec_mul, Int32.toBitVec_toInt64, Int32.toBitVec_toInt64]
      rfl
    simp only [muldiv, mulOp, MulOp.eval, upper_toBitVec, hmul]
  · obtain rfl : funct3 = 2 := UInt32.toBitVec_inj.mp hf
    have hmul : (a.toInt32.toInt64 * b.toUInt64.toInt64).toUInt64.toBitVec =
        a.toBitVec.signExtend 64 * b.toBitVec.setWidth 64 := by
      show (a.toInt32.toInt64 * b.toUInt64.toInt64).toBitVec = _
      rw [Int64.toBitVec_mul, Int32.toBitVec_toInt64, ← UInt32.toBitVec_toUInt64]
      rfl
    simp only [muldiv, mulOp, MulOp.eval, upper_toBitVec, hmul]
  · obtain rfl : funct3 = 3 := UInt32.toBitVec_inj.mp hf
    simp only [muldiv, mulOp, MulOp.eval, upper_toBitVec, UInt64.toBitVec_mul, UInt32.toBitVec_toUInt64]
  · obtain rfl : funct3 = 4 := UInt32.toBitVec_inj.mp hf
    simp only [muldiv, mulOp, MulOp.eval, zero_iff, overflows_iff]
    split_ifs with hzero hover
    · rfl
    · rw [hover.1]
    · exact div_toBitVec a b
  · obtain rfl : funct3 = 5 := UInt32.toBitVec_inj.mp hf
    simp only [muldiv, mulOp, MulOp.eval, zero_iff]
    split_ifs
    · rfl
    · exact UInt32.toBitVec_div
  · obtain rfl : funct3 = 6 := UInt32.toBitVec_inj.mp hf
    simp only [muldiv, mulOp, MulOp.eval, zero_iff, overflows_iff]
    split_ifs with hzero hover
    · rfl
    · rfl
    · exact rem_toBitVec a b
  · obtain rfl : funct3 = 7 := UInt32.toBitVec_inj.mp hf
    show (if b = 0 then a else a % b).toBitVec = if b.toBitVec = 0 then a.toBitVec else a.toBitVec % b.toBitVec
    simp only [zero_iff]
    split_ifs
    · rfl
    · exact UInt32.toBitVec_mod

end Division

lemma branchTaken_eq (a b : UInt32) {f : BitVec 3} {funct3 : UInt32} (hf : funct3.toBitVec = f.setWidth 32) :
    branchTaken funct3 a b = (branchOp f).map fun op => op.taken a.toBitVec b.toBitVec := by
  rcases bitVec3_cases f with rfl | rfl | rfl | rfl | rfl | rfl | rfl | rfl
  · obtain rfl : funct3 = 0 := UInt32.toBitVec_inj.mp hf
    simp [branchTaken, branchOp, BranchOp.taken, UInt32.toBitVec_inj]
  · obtain rfl : funct3 = 1 := UInt32.toBitVec_inj.mp hf
    simp [branchTaken, branchOp, BranchOp.taken, UInt32.toBitVec_inj]
  · obtain rfl : funct3 = 2 := UInt32.toBitVec_inj.mp hf
    rfl
  · obtain rfl : funct3 = 3 := UInt32.toBitVec_inj.mp hf
    rfl
  · obtain rfl : funct3 = 4 := UInt32.toBitVec_inj.mp hf
    simp [branchTaken, branchOp, BranchOp.taken, Int32.lt_iff_toBitVec_slt]
  · obtain rfl : funct3 = 5 := UInt32.toBitVec_inj.mp hf
    simp [branchTaken, branchOp, BranchOp.taken, Int32.le_iff_toBitVec_sle]
  · obtain rfl : funct3 = 6 := UInt32.toBitVec_inj.mp hf
    simp [branchTaken, branchOp, BranchOp.taken, UInt32.lt_iff_toNat_lt, BitVec.ult]
  · obtain rfl : funct3 = 7 := UInt32.toBitVec_inj.mp hf
    simp [branchTaken, branchOp, BranchOp.taken, UInt32.le_iff_toNat_le, BitVec.ule]

end RpcEmu
