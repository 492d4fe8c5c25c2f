import RpcEmu.Arm.Banks
import RpcEmu.Arm.Shifter

/-!
# The interpreter's data processing is the architecture's

With the shifters what they should be, there remain the formulas for the flags, one for each kind of operation, and
the sixteen operations in their four forms.
-/

namespace RpcEmu.Arm

open Adder Masks Pages

variable {σ : Type}

/-! ## The second operand -/

/-- The operand form reads as the architecture's shifter. -/
structure Operand.IsShifter (o : Operand σ) (op : UInt32) : Prop where
  value : ∀ a, o.value op a = ⟨(shifterOperand op a).1⟩
  withCarry : ∀ a, o.withCarry op a = (⟨(shifterOperand op a).1⟩, putC a (shifterOperand op a).2)

lemma isShifter_reg {op : UInt32} (h : isImmediate op = false) : (Operand.reg : Operand σ).IsShifter op where
  value a := by
    rw [shifterOperand, if_neg (Bool.eq_false_iff.mp h)]
    exact shift2_eq op a
  withCarry a := by
    rw [shifterOperand, if_neg (Bool.eq_false_iff.mp h)]
    exact shift_eq op a

lemma isShifter_imm {op : UInt32} (h : isImmediate op = true) : (Operand.imm : Operand σ).IsShifter op where
  value a := by
    rw [shifterOperand, if_pos h]
    exact armImm_eq op _
  withCarry a := by
    rw [shifterOperand, if_pos h]
    exact armImmCflag_eq op a

/-! ## The flags -/

section Flags

variable (a : ArmState σ) (x y : UInt32)

def putFlags (r : AluResult) : ArmState σ := a.setReg a.cpsr (withFlags a.psr r)

lemma flagsNZ_eq (z : BitVec 32) : flagsNZ ⟨z⟩ = flagBit nflag z.msb ||| flagBit zflag (z == 0) := by
  have hn : (⟨z⟩ : UInt32) &&& nflag = flagBit nflag z.msb := by
    rw [and_single (m := nflag) (i := 31) (by decide), bit, BitVec.msb_eq_getLsbD_last]
    rfl
  have hz : ((⟨z⟩ : UInt32) = 0) ↔ (z == 0) = true := by
    rw [beq_iff_eq, ← UInt32.toBitVec_inj]
    rfl
  rw [flagsNZ, hn, UInt32.or_comm, if_congr hz rfl rfl]
  rfl

lemma flagBit_ite {p : Prop} [Decidable p] {b : Bool} {f : UInt32} (h : p ↔ b = true) :
    (if p then f else 0) = flagBit f b := by
  rw [flagBit, if_congr h rfl rfl]

lemma setFlags_eq (s : Sum 32) {p q : Prop} [Decidable p] [Decidable q] (hc : p ↔ s.carry = true)
    (hv : q ↔ s.overflow = true) :
    setFlags a 0x0fffffff (flagsNZ ⟨s.value⟩ ||| (if p then cflag else 0) ||| (if q then vflag else 0)) =
      putFlags a (ofSum s) := by
  rw [flagBit_ite hc, flagBit_ite hv, flagsNZ_eq]
  rfl

lemma overflow_add {s : Sum 32}
    (hs : s.overflow = ((x.toBitVec.msb ^^ s.value.msb) && (y.toBitVec.msb ^^ s.value.msb))) :
    (x ^^^ ⟨s.value⟩) &&& (y ^^^ ⟨s.value⟩) &&& 0x80000000 ≠ 0 ↔ s.overflow = true := by
  rw [and_top_ne_zero, hs]
  simp only [UInt32.toBitVec_and, UInt32.toBitVec_xor, BitVec.msb_and, BitVec.msb_xor]

lemma overflow_sub {s : Sum 32}
    (hs : s.overflow = ((x.toBitVec.msb ^^ s.value.msb) && ((~~~y.toBitVec).msb ^^ s.value.msb))) :
    (x ^^^ y) &&& (x ^^^ ⟨s.value⟩) &&& 0x80000000 ≠ 0 ↔ s.overflow = true := by
  rw [and_top_ne_zero, hs]
  simp only [UInt32.toBitVec_and, UInt32.toBitVec_xor, BitVec.msb_and, BitVec.msb_xor, BitVec.msb_not]
  cases x.toBitVec.msb <;> cases y.toBitVec.msb <;> cases s.value.msb <;> decide

lemma armFlagsAdd_eq :
    armFlagsAdd a x y ⟨(addWithCarry x.toBitVec y.toBitVec false).value⟩ =
      putFlags a (ofSum (addWithCarry x.toBitVec y.toBitVec false)) := by
  have hc := carry_add x.toBitVec y.toBitVec
  have hv := overflow_eq_msb x.toBitVec y.toBitVec false (by decide)
  generalize addWithCarry x.toBitVec y.toBitVec false = s at hc hv ⊢
  refine setFlags_eq a s ?_ (overflow_add x y hv)
  rw [hc, decide_eq_true_iff, UInt32.lt_iff_toBitVec_lt]

lemma armFlagsSub_eq :
    armFlagsSub a x y ⟨(addWithCarry x.toBitVec (~~~y.toBitVec) true).value⟩ =
      putFlags a (ofSum (addWithCarry x.toBitVec (~~~y.toBitVec) true)) := by
  have hc := carry_sub x.toBitVec y.toBitVec
  have hv := overflow_eq_msb x.toBitVec (~~~y.toBitVec) true (by decide)
  generalize addWithCarry x.toBitVec (~~~y.toBitVec) true = s at hc hv ⊢
  refine setFlags_eq a s ?_ (overflow_sub x y hv)
  rw [hc, decide_eq_true_iff, UInt32.le_iff_toBitVec_le]

lemma armFlagsAdc_eq (c : Bool) :
    armFlagsAdc a x y ⟨(addWithCarry x.toBitVec y.toBitVec c).value⟩ =
      putFlags a (ofSum (addWithCarry x.toBitVec y.toBitVec c)) := by
  have hc := carry_eq_msb x.toBitVec y.toBitVec c (by decide)
  have hv := overflow_eq_msb x.toBitVec y.toBitVec c (by decide)
  generalize addWithCarry x.toBitVec y.toBitVec c = s at hc hv ⊢
  refine setFlags_eq a s ?_ (overflow_add x y hv)
  rw [and_top_ne_zero, hc, UInt32.toBitVec_or, UInt32.toBitVec_and, UInt32.toBitVec_and, UInt32.toBitVec_or,
    UInt32.toBitVec_not, BitVec.msb_or, BitVec.msb_and, BitVec.msb_and, BitVec.msb_or, BitVec.msb_not,
    decide_eq_true (by decide : 0 < 32), Bool.true_and]

lemma armFlagsSbc_eq (c : Bool) :
    armFlagsSbc a x y ⟨(addWithCarry x.toBitVec (~~~y.toBitVec) c).value⟩ =
      putFlags a (ofSum (addWithCarry x.toBitVec (~~~y.toBitVec) c)) := by
  have hc := carry_eq_msb x.toBitVec (~~~y.toBitVec) c (by decide)
  have hv := overflow_eq_msb x.toBitVec (~~~y.toBitVec) c (by decide)
  generalize addWithCarry x.toBitVec (~~~y.toBitVec) c = s at hc hv ⊢
  refine setFlags_eq a s ?_ (overflow_sub x y hv)
  have hlost : (~~~(⟨s.value⟩ : UInt32).toBitVec).msb = !s.value.msb := by
    rw [BitVec.msb_not, decide_eq_true (by decide : 0 < 32), Bool.true_and]
  rw [and_top_ne_zero, hc, UInt32.toBitVec_or, UInt32.toBitVec_and, UInt32.toBitVec_and, UInt32.toBitVec_or,
    UInt32.toBitVec_not, UInt32.toBitVec_not, BitVec.msb_or, BitVec.msb_and, BitVec.msb_and, BitVec.msb_or, hlost]

lemma armFlagsLogical_putC (z : BitVec 32) (c : Bool) :
    armFlagsLogical (putC a c) ⟨z⟩ = putFlags a ⟨z, c, flag a vflag⟩ := by
  have hkeep : ((a.psr &&& ~~~cflag) ||| flagBit cflag c) &&& 0x3fffffff =
      (a.psr &&& 0x0fffffff) ||| (a.psr &&& vflag) ||| flagBit cflag c := by
    have hbit : flagBit cflag c &&& 0x3fffffff = flagBit cflag c := by cases c <;> decide
    have hsplit : ~~~cflag &&& 0x3fffffff = 0x0fffffff ||| vflag := by decide
    rw [or_and, hbit, and_and hsplit, UInt32.and_comm a.psr, or_and, UInt32.and_comm _ a.psr, UInt32.and_comm vflag]
  have hpsr : withFlags a.psr ⟨z, c, flag a vflag⟩ =
      (a.psr &&& 0x0fffffff) ||| (a.psr &&& vflag) ||| flagBit cflag c |||
        (flagBit nflag z.msb ||| flagBit zflag (z == 0)) := by
    rw [withFlags, flagBit_flag a (i := 28) (by decide) (by decide)]
    ac_rfl
  rw [armFlagsLogical, setFlags, putC_psr, hkeep, flagsNZ_eq, putFlags, hpsr]
  exact setReg_setReg a a.cpsr _ _

end Flags

/-! ## The forms of an instruction -/

section Performed

variable (o : Operand σ) (op : UInt32) (a : ArmState σ)

def logicalForm (f : UInt32 → UInt32 → UInt32) : ArmState σ :=
  if setsFlags op then logicalOpS o op a f else dataOp o op a fun l r _ => f l r

def arithForm (f : UInt32 → UInt32 → UInt32 → UInt32)
    (flags : ArmState σ → UInt32 → UInt32 → UInt32 → ArmState σ) : ArmState σ :=
  if setsFlags op then arithOpS o op a f flags else dataOp o op a f

def performed : Alu → ArmState σ
  | .and => logicalForm o op a (· &&& ·)
  | .eor => logicalForm o op a (· ^^^ ·)
  | .sub => arithForm o op a (fun l r _ => l - r) armFlagsSub
  | .rsb => arithForm o op a (fun l r _ => r - l) armFlagsRsb
  | .add => arithForm o op a (fun l r _ => l + r) armFlagsAdd
  | .adc => arithForm o op a (fun l r c => l + r + c) armFlagsAdc
  | .sbc => arithForm o op a (fun l r c => l - r - borrow c) armFlagsSbc
  | .rsc => arithForm o op a (fun l r c => r - l - borrow c) armFlagsRsc
  | .tst => testOp o op a (· &&& ·)
  | .teq => testOp o op a (· ^^^ ·)
  | .cmp => compareOp o op a (· - ·) armFlagsSub
  | .cmn => compareOp o op a (· + ·) armFlagsAdd
  | .orr => logicalForm o op a (· ||| ·)
  | .mov => logicalForm o op a fun _ r => r
  | .bic => logicalForm o op a fun l r => l &&& ~~~r
  | .mvn => logicalForm o op a fun _ r => ~~~r

end Performed

section Forms

variable {o : Operand σ} {op : UInt32} {a : ArmState σ}

lemma putFlags_setReg {r : Nat} (hr : r ≠ a.cpsr) (v : UInt32) (res : AluResult) :
    putFlags (a.setReg r v) res = (putFlags a res).setReg r v := by
  have hpsr : (a.setReg r v).psr = a.psr := setReg_of_ne a hr.symm v
  rw [putFlags, hpsr]
  exact setReg_comm a hr v _

lemma putC_setReg {r : Nat} (hr : r ≠ a.cpsr) (v : UInt32) (c : Bool) :
    (putC a c).setReg r v = putC (a.setReg r v) c := by
  have hpsr : (a.setReg r v).psr = a.psr := setReg_of_ne a hr.symm v
  rw [putC, putC, hpsr]
  exact (setReg_comm a hr v _).symm

lemma dataOp_correct {f : UInt32 → UInt32 → UInt32 → UInt32} (ho : o.IsShifter op) (h : IsDataProcessing op)
    (hdest : (aluOf op).compares = false) (hs : setsFlags op = false)
    (hf : f (getaddr a (rn op)) ⟨(shifterOperand op a).1⟩ a.cfset = ⟨(aluResult op a).value⟩) :
    dataOp o op a f = dataProcessing op a := by
  rw [dataOp, armWriteDest, if_neg h.noRd, ho.value, hf, dataProcessing, hdest, hs]
  rfl

lemma logicalForm_correct {f : UInt32 → UInt32 → UInt32} {z : BitVec 32} (ho : o.IsShifter op)
    (h : IsDataProcessing op) (hplace : rd op ≠ a.cpsr) (hdest : (aluOf op).compares = false)
    (hr : aluResult op a = ⟨z, (shifterOperand op a).2, flag a vflag⟩)
    (hf : f (getaddr a (rn op)) ⟨(shifterOperand op a).1⟩ = ⟨z⟩) :
    logicalForm o op a f = dataProcessing op a := by
  unfold logicalForm
  cases hs : setsFlags op with
  | false =>
    rw [if_neg Bool.false_ne_true]
    exact dataOp_correct ho h hdest hs (by rw [hf, hr])
  | true =>
    have hflag : flag (a.setReg (rd op) ⟨z⟩) vflag = flag a vflag := by
      rw [flag, ArmState.psr]
      exact congrArg (· &&& vflag != 0) (setReg_of_ne a hplace.symm ⟨z⟩)
    rw [if_pos rfl, logicalOpS, if_neg h.noRd, ho.withCarry, dataProcessing, hdest, hs, hr]
    dsimp only
    rw [hf, putC_setReg hplace, armFlagsLogical_putC, hflag, putFlags_setReg hplace]
    exact setReg_comm a hplace.symm _ _

lemma arithForm_correct {f : UInt32 → UInt32 → UInt32 → UInt32}
    {flags : ArmState σ → UInt32 → UInt32 → UInt32 → ArmState σ} {s : Sum 32} (ho : o.IsShifter op)
    (h : IsDataProcessing op) (hplace : rd op ≠ a.cpsr) (hdest : (aluOf op).compares = false)
    (hr : aluResult op a = ofSum s)
    (hf : f (getaddr a (rn op)) ⟨(shifterOperand op a).1⟩ a.cfset = ⟨s.value⟩)
    (hflags : flags a (getaddr a (rn op)) ⟨(shifterOperand op a).1⟩ ⟨s.value⟩ = putFlags a (ofSum s)) :
    arithForm o op a f flags = dataProcessing op a := by
  unfold arithForm
  cases hs : setsFlags op with
  | false =>
    rw [if_neg Bool.false_ne_true]
    exact dataOp_correct ho h hdest hs (by rw [hf, hr]; rfl)
  | true =>
    rw [if_pos rfl, arithOpS, ho.value, dataProcessing, hdest, hs, hr, if_neg h.noRd, hf, hflags]
    exact setReg_comm a hplace.symm _ _

lemma testOp_correct {f : UInt32 → UInt32 → UInt32} {z : BitVec 32} (ho : o.IsShifter op) (h : IsDataProcessing op)
    (hcompares : (aluOf op).compares = true) (hr : aluResult op a = ⟨z, (shifterOperand op a).2, flag a vflag⟩)
    (hf : f (getaddr a (rn op)) ⟨(shifterOperand op a).1⟩ = ⟨z⟩) :
    testOp o op a f = dataProcessing op a := by
  rw [testOp, if_neg h.noRd, ho.withCarry, dataProcessing, hcompares, h.comparesFlags hcompares, hr]
  dsimp only
  rw [hf, armFlagsLogical_putC]
  rfl

lemma compareOp_correct {f : UInt32 → UInt32 → UInt32}
    {flags : ArmState σ → UInt32 → UInt32 → UInt32 → ArmState σ} {s : Sum 32} (ho : o.IsShifter op)
    (h : IsDataProcessing op) (hcompares : (aluOf op).compares = true) (hr : aluResult op a = ofSum s)
    (hf : f (getaddr a (rn op)) ⟨(shifterOperand op a).1⟩ = ⟨s.value⟩)
    (hflags : flags a (getaddr a (rn op)) ⟨(shifterOperand op a).1⟩ ⟨s.value⟩ = putFlags a (ofSum s)) :
    compareOp o op a f flags = dataProcessing op a := by
  rw [compareOp, ho.value, dataProcessing, hcompares, h.comparesFlags hcompares, hr, if_neg h.noRd, hf, hflags]
  rfl

lemma subsImm_eq (hrd : rd op ≠ 15) (hplace : rd op ≠ a.cpsr) :
    subsImm op a = arithOpS .imm op a (fun l r _ => l - r) armFlagsSub := by
  have hpsr : ∀ v, (a.setReg (rd op) v).psr = a.psr := setReg_of_ne a hplace.symm
  rw [subsImm, arithOpS, if_neg hrd, if_neg hrd, armFlagsSub, armFlagsSub, setFlags, setFlags, hpsr]
  exact setReg_comm a hplace _ _

end Forms

/-! ## The instructions -/

section Instructions

variable {o : Operand σ} {op : UInt32} {a : ArmState σ}

lemma borrow_cfset : borrow a.cfset = ⟨BitVec.ofNat 32 (!flag a cflag).toNat⟩ := by
  rw [cfset_eq]
  cases flag a cflag <;> rfl

lemma cfset_toBitVec : a.cfset = ⟨BitVec.ofNat 32 (flag a cflag).toNat⟩ := by
  rw [cfset_eq]
  cases flag a cflag <;> rfl

lemma and_eq (x : UInt32) (y : BitVec 32) : x &&& ⟨y⟩ = ⟨x.toBitVec &&& y⟩ := rfl

lemma eor_eq (x : UInt32) (y : BitVec 32) : x ^^^ ⟨y⟩ = ⟨x.toBitVec ^^^ y⟩ := rfl

lemma orr_eq (x : UInt32) (y : BitVec 32) : x ||| ⟨y⟩ = ⟨x.toBitVec ||| y⟩ := rfl

lemma bic_eq (x : UInt32) (y : BitVec 32) : x &&& ~~~⟨y⟩ = ⟨x.toBitVec &&& ~~~y⟩ := rfl

lemma mvn_eq (y : BitVec 32) : ~~~(⟨y⟩ : UInt32) = ⟨~~~y⟩ := rfl

lemma sub_eq (x : UInt32) (y : BitVec 32) : x - ⟨y⟩ = ⟨(addWithCarry x.toBitVec (~~~y) true).value⟩ := by
  rw [value_not_true]
  rfl

lemma rsb_eq (x : UInt32) (y : BitVec 32) : ⟨y⟩ - x = (⟨(addWithCarry y (~~~x.toBitVec) true).value⟩ : UInt32) := by
  rw [value_not_true]
  rfl

lemma add_eq (x : UInt32) (y : BitVec 32) : x + ⟨y⟩ = ⟨(addWithCarry x.toBitVec y false).value⟩ := by
  rw [value_false]
  rfl

lemma adc_eq (x : UInt32) (y : BitVec 32) :
    x + ⟨y⟩ + a.cfset = ⟨(addWithCarry x.toBitVec y (flag a cflag)).value⟩ := by
  rw [cfset_toBitVec]
  rfl

lemma sbc_eq (x : UInt32) (y : BitVec 32) :
    x - ⟨y⟩ - borrow a.cfset = ⟨(addWithCarry x.toBitVec (~~~y) (flag a cflag)).value⟩ := by
  rw [value_not, borrow_cfset]
  rfl

lemma rsc_eq (x : UInt32) (y : BitVec 32) :
    ⟨y⟩ - x - borrow a.cfset = (⟨(addWithCarry y (~~~x.toBitVec) (flag a cflag)).value⟩ : UInt32) := by
  rw [value_not, borrow_cfset]
  rfl

/-- An operation with either kind of operand. -/
theorem performed_correct (h : IsDataProcessing op) (hplace : rd op ≠ a.cpsr) (ho : o.IsShifter op) :
    performed o op a (aluOf op) = dataProcessing op a := by
  have hlhs : (aluOf op).moves = false → getaddr a (rn op) = a.reg (rn op) := fun hm => if_neg (h.noRn hm)
  have hresult : aluResult op a =
      (aluOf op).compute (a.reg (rn op)).toBitVec (shifterOperand op a) (flag a cflag) (flag a vflag) := rfl
  cases halu : aluOf op with
  | and =>
    rw [halu] at hlhs hresult
    have hlogical : aluResult op a =
        ⟨(a.reg (rn op)).toBitVec &&& (shifterOperand op a).1, (shifterOperand op a).2, flag a vflag⟩ := hresult
    rw [performed]
    exact logicalForm_correct ho h hplace (by rw [halu]; rfl) hlogical (by rw [hlhs rfl]; exact and_eq _ _)
  | eor =>
    rw [halu] at hlhs hresult
    have hlogical : aluResult op a =
        ⟨(a.reg (rn op)).toBitVec ^^^ (shifterOperand op a).1, (shifterOperand op a).2, flag a vflag⟩ := hresult
    rw [performed]
    exact logicalForm_correct ho h hplace (by rw [halu]; rfl) hlogical (by rw [hlhs rfl]; exact eor_eq _ _)
  | sub =>
    rw [halu] at hlhs hresult
    have hsum : aluResult op a =
        ofSum (addWithCarry (a.reg (rn op)).toBitVec (~~~(shifterOperand op a).1) true) := hresult
    rw [performed]
    exact arithForm_correct ho h hplace (by rw [halu]; rfl) hsum (by rw [hlhs rfl]; exact sub_eq _ _)
      (by rw [hlhs rfl]; exact armFlagsSub_eq a _ _)
  | rsb =>
    rw [halu] at hlhs hresult
    have hsum : aluResult op a =
        ofSum (addWithCarry (shifterOperand op a).1 (~~~(a.reg (rn op)).toBitVec) true) := hresult
    rw [performed]
    exact arithForm_correct ho h hplace (by rw [halu]; rfl) hsum (by rw [hlhs rfl]; exact rsb_eq _ _)
      (by rw [hlhs rfl]; exact armFlagsSub_eq a _ _)
  | add =>
    rw [halu] at hlhs hresult
    have hsum : aluResult op a =
        ofSum (addWithCarry (a.reg (rn op)).toBitVec (shifterOperand op a).1 false) := hresult
    rw [performed]
    exact arithForm_correct ho h hplace (by rw [halu]; rfl) hsum (by rw [hlhs rfl]; exact add_eq _ _)
      (by rw [hlhs rfl]; exact armFlagsAdd_eq a _ _)
  | adc =>
    rw [halu] at hlhs hresult
    have hsum : aluResult op a =
        ofSum (addWithCarry (a.reg (rn op)).toBitVec (shifterOperand op a).1 (flag a cflag)) := hresult
    rw [performed]
    exact arithForm_correct ho h hplace (by rw [halu]; rfl) hsum (by rw [hlhs rfl]; exact adc_eq _ _)
      (by rw [hlhs rfl]; exact armFlagsAdc_eq a _ _ _)
  | sbc =>
    rw [halu] at hlhs hresult
    have hsum : aluResult op a =
        ofSum (addWithCarry (a.reg (rn op)).toBitVec (~~~(shifterOperand op a).1) (flag a cflag)) := hresult
    rw [performed]
    exact arithForm_correct ho h hplace (by rw [halu]; rfl) hsum (by rw [hlhs rfl]; exact sbc_eq _ _)
      (by rw [hlhs rfl]; exact armFlagsSbc_eq a _ _ _)
  | rsc =>
    rw [halu] at hlhs hresult
    have hsum : aluResult op a =
        ofSum (addWithCarry (shifterOperand op a).1 (~~~(a.reg (rn op)).toBitVec) (flag a cflag)) := hresult
    rw [performed]
    exact arithForm_correct ho h hplace (by rw [halu]; rfl) hsum (by rw [hlhs rfl]; exact rsc_eq _ _)
      (by rw [hlhs rfl]; exact armFlagsSbc_eq a _ _ _)
  | tst =>
    rw [halu] at hlhs hresult
    have hlogical : aluResult op a =
        ⟨(a.reg (rn op)).toBitVec &&& (shifterOperand op a).1, (shifterOperand op a).2, flag a vflag⟩ := hresult
    rw [performed]
    exact testOp_correct ho h (by rw [halu]; rfl) hlogical (by rw [hlhs rfl]; exact and_eq _ _)
  | teq =>
    rw [halu] at hlhs hresult
    have hlogical : aluResult op a =
        ⟨(a.reg (rn op)).toBitVec ^^^ (shifterOperand op a).1, (shifterOperand op a).2, flag a vflag⟩ := hresult
    rw [performed]
    exact testOp_correct ho h (by rw [halu]; rfl) hlogical (by rw [hlhs rfl]; exact eor_eq _ _)
  | cmp =>
    rw [halu] at hlhs hresult
    have hsum : aluResult op a =
        ofSum (addWithCarry (a.reg (rn op)).toBitVec (~~~(shifterOperand op a).1) true) := hresult
    rw [performed]
    exact compareOp_correct ho h (by rw [halu]; rfl) hsum (by rw [hlhs rfl]; exact sub_eq _ _)
      (by rw [hlhs rfl]; exact armFlagsSub_eq a _ _)
  | cmn =>
    rw [halu] at hlhs hresult
    have hsum : aluResult op a =
        ofSum (addWithCarry (a.reg (rn op)).toBitVec (shifterOperand op a).1 false) := hresult
    rw [performed]
    exact compareOp_correct ho h (by rw [halu]; rfl) hsum (by rw [hlhs rfl]; exact add_eq _ _)
      (by rw [hlhs rfl]; exact armFlagsAdd_eq a _ _)
  | orr =>
    rw [halu] at hlhs hresult
    have hlogical : aluResult op a =
        ⟨(a.reg (rn op)).toBitVec ||| (shifterOperand op a).1, (shifterOperand op a).2, flag a vflag⟩ := hresult
    rw [performed]
    exact logicalForm_correct ho h hplace (by rw [halu]; rfl) hlogical (by rw [hlhs rfl]; exact orr_eq _ _)
  | mov =>
    rw [halu] at hlhs hresult
    have hlogical : aluResult op a =
        ⟨(shifterOperand op a).1, (shifterOperand op a).2, flag a vflag⟩ := hresult
    rw [performed]
    exact logicalForm_correct ho h hplace (by rw [halu]; rfl) hlogical rfl
  | bic =>
    rw [halu] at hlhs hresult
    have hlogical : aluResult op a =
        ⟨(a.reg (rn op)).toBitVec &&& ~~~(shifterOperand op a).1, (shifterOperand op a).2, flag a vflag⟩ := hresult
    rw [performed]
    exact logicalForm_correct ho h hplace (by rw [halu]; rfl) hlogical (by rw [hlhs rfl]; exact bic_eq _ _)
  | mvn =>
    rw [halu] at hlhs hresult
    have hlogical : aluResult op a =
        ⟨~~~(shifterOperand op a).1, (shifterOperand op a).2, flag a vflag⟩ := hresult
    rw [performed]
    exact logicalForm_correct ho h hplace (by rw [halu]; rfl) hlogical (mvn_eq _)

end Instructions

/-! ## The switch -/

section Decoding

variable (bus : Bus σ) {op : UInt32} {a : ArmState σ}

def Alu.code : Alu → Nat
  | .and => 0 | .eor => 1 | .sub => 2 | .rsb => 3 | .add => 4 | .adc => 5 | .sbc => 6 | .rsc => 7
  | .tst => 8 | .teq => 9 | .cmp => 10 | .cmn => 11 | .orr => 12 | .mov => 13 | .bic => 14 | .mvn => 15

def Alu.case (imm s : Bool) : Alu → Case
  | .and => if imm then if s then .andsImm else .andImm else if s then .andsReg else .andReg
  | .eor => if imm then if s then .eorsImm else .eorImm else if s then .eorsReg else .eorReg
  | .sub => if imm then if s then .subsImm else .subImm else if s then .subsReg else .subReg
  | .rsb => if imm then if s then .rsbsImm else .rsbImm else if s then .rsbsReg else .rsbReg
  | .add => if imm then if s then .addsImm else .addImm else if s then .addsReg else .addReg
  | .adc => if imm then if s then .adcsImm else .adcImm else if s then .adcsReg else .adcReg
  | .sbc => if imm then if s then .sbcsImm else .sbcImm else if s then .sbcsReg else .sbcReg
  | .rsc => if imm then if s then .rscsImm else .rscImm else if s then .rscsReg else .rscReg
  | .tst => if imm then .tstImm else .tstReg
  | .teq => if imm then .teqImm else .teqReg
  | .cmp => if imm then .cmpImm else .cmpReg
  | .cmn => if imm then .cmnImm else .cmnReg
  | .orr => if imm then if s then .orrsImm else .orrImm else if s then .orrsReg else .orrReg
  | .mov => if imm then if s then .movsImm else .movImm else if s then .movsReg else .movReg
  | .bic => if imm then if s then .bicsImm else .bicImm else if s then .bicsReg else .bicReg
  | .mvn => if imm then if s then .mvnsImm else .mvnImm else if s then .mvnsReg else .mvnReg

lemma code_aluOf (op : UInt32) : (aluOf op).code = op.toNat / 2 ^ 21 % 2 ^ 4 := by
  have hfield : ((op >>> 21) &&& 0xf).toNat = op.toNat / 2 ^ 21 % 2 ^ 4 := by
    rw [UInt32.toNat_and, UInt32.toNat_shiftRight]
    refine (Nat.and_two_pow_sub_one_eq_mod _ 4).trans ?_
    rw [Nat.shiftRight_eq_div_pow]
    rfl
  have hlt : op.toNat / 2 ^ 21 % 2 ^ 4 < 16 := Nat.mod_lt _ (by decide)
  rw [aluOf, hfield]
  generalize op.toNat / 2 ^ 21 % 2 ^ 4 = k at hlt
  interval_cases k <;> rfl

lemma toNat_testBit {m : UInt32} (i : Nat) (hm : m.toNat = 2 ^ i) (op : UInt32) :
    (op &&& m != 0).toNat = op.toNat / 2 ^ i % 2 := by
  have hfield : (op &&& m).toNat = 2 ^ i * (op.toNat / 2 ^ i % 2) := toNat_and_field i 1 (by rw [hm]; omega) op
  have hne : (op &&& m != 0) = decide (op.toNat / 2 ^ i % 2 ≠ 0) := by
    rw [Bool.eq_iff_iff, bne_iff_ne, decide_eq_true_iff, ne_eq, ne_eq, ← UInt32.toNat_inj, hfield]
    have hpos : 2 ^ i ≠ 0 := Nat.pos_iff_ne_zero.mp (Nat.two_pow_pos i)
    rw [UInt32.toNat_zero, Nat.mul_eq_zero, or_iff_right hpos]
  rw [hne]
  rcases Nat.mod_two_eq_zero_or_one (op.toNat / 2 ^ i) with h | h <;> rw [h] <;> rfl

lemma opIndex_eq (hspace : op &&& 0x0c000000 = 0) :
    opIndex op = 32 * (isImmediate op).toNat + 2 * (aluOf op).code + (setsFlags op).toNat := by
  have hzero : (op &&& 0x0c000000).toNat = 2 ^ 26 * (op.toNat / 2 ^ 26 % 2 ^ 2) := toNat_and_field 26 2 rfl op
  have hindex : opIndex op = op.toNat / 2 ^ 20 % 2 ^ 8 := by
    rw [opIndex, UInt32.toNat_and, UInt32.toNat_shiftRight]
    refine (Nat.and_two_pow_sub_one_eq_mod _ 8).trans ?_
    rw [Nat.shiftRight_eq_div_pow]
    rfl
  have himm : (isImmediate op).toNat = op.toNat / 2 ^ 25 % 2 := toNat_testBit 25 rfl op
  have hs : (setsFlags op).toNat = op.toNat / 2 ^ 20 % 2 := toNat_testBit 20 rfl op
  rw [hspace, UInt32.toNat_zero] at hzero
  rw [hindex, himm, hs, code_aluOf]
  omega

lemma switchCase_eq (alu : Alu) (imm s : Bool) (h : alu.compares = true → s = true) :
    switchCase (32 * imm.toNat + 2 * alu.code + s.toNat) = alu.case imm s := by
  cases s with
  | true => cases alu <;> cases imm <;> rfl
  | false =>
    have hdest : alu.compares = false := by
      rw [← Bool.not_eq_true]
      exact fun hc => Bool.false_ne_true (h hc)
    cases alu <;> first | (cases imm <;> rfl) | cases hdest

lemma body_reg (hmul : isMul op = false) (alu : Alu) :
    (alu.case false (setsFlags op)).body bus op a = performed .reg op a alu := by
  have hlong : isMulLong op a = false := by rw [isMulLong, hmul, Bool.and_false]
  cases alu <;> cases hs : setsFlags op <;>
    simp [Alu.case, Case.body, performed, logicalForm, arithForm, hs, hmul, hlong]

lemma body_imm (hrd : rd op ≠ 15) (hplace : rd op ≠ a.cpsr) (alu : Alu) :
    (alu.case true (setsFlags op)).body bus op a = performed .imm op a alu := by
  cases alu <;> cases hs : setsFlags op <;>
    simp [Alu.case, Case.body, performed, logicalForm, arithForm, hs, subsImm_eq hrd hplace]

lemma not_extension (h : IsDataProcessing op) : isHalf op = false ∧ isSigned op = false := by
  have hfield : ∀ m v : UInt32, m &&& 0x90 = 0x90 → v &&& 0x90 = 0x90 → m &&& 0x02000000 = 0x02000000 →
      v &&& 0x02000000 = 0 → op &&& m ≠ v := by
    intro m v hm hv hmI hvI heq
    have himm : isImmediate op = false := by
      rw [isImmediate, ← hmI, ← UInt32.and_assoc, heq, hvI]
      rfl
    have hwhole : op &&& m &&& 0x90 = op &&& 0x90 := by rw [UInt32.and_assoc, hm]
    refine h.noMultiply himm (hwhole.symm.trans ?_)
    rw [heq, hv]
  exact ⟨beq_eq_false_iff_ne.mpr (hfield _ _ (by decide) (by decide) (by decide) (by decide)),
    beq_eq_false_iff_ne.mpr (hfield _ _ (by decide) (by decide) (by decide) (by decide))⟩

/-- **Data processing is the architecture's**: for every such opcode that R15 is no part of, and whatever the
registers and the flags, what `arm_exec` does is the architecture's instruction, its destination, its four flags and
nothing else.  The status is where one of the two kinds of modes has it. -/
theorem dataProcessing_correct (bus : Bus σ) (op : UInt32) (a : ArmState σ) (hcpsr : a.cpsr = 15 ∨ a.cpsr = 16)
    (h : IsDataProcessing op) : armOpcode bus op a = dataProcessing op a := by
  have hplace : rd op ≠ a.cpsr := by
    have hlt : rd op < 16 := by
      rw [rd, UInt32.toNat_and]
      exact Nat.lt_succ_of_le Nat.and_le_right
    have hne := h.noRd
    omega
  obtain ⟨hhalf, hsigned⟩ := not_extension h
  rw [armOpcode, hhalf, hsigned, Bool.and_false, if_neg Bool.false_ne_true, if_neg Bool.false_ne_true,
    opIndex_eq h.space, switchCase_eq _ _ _ h.comparesFlags]
  cases himm : isImmediate op with
  | true => exact (body_imm bus h.noRd hplace _).trans (performed_correct h hplace (isShifter_imm himm))
  | false =>
    have hmul : isMul op = false := by
      have hwhole : op &&& 0xf0 &&& 0x90 = op &&& 0x90 := by rw [UInt32.and_assoc]; rfl
      refine beq_eq_false_iff_ne.mpr fun heq => h.noMultiply himm (hwhole.symm.trans ?_)
      rw [heq]
      decide
    exact (body_reg bus hmul _).trans (performed_correct h hplace (isShifter_reg himm))

end Decoding

def negativeWords : ArmState Unit := ((armReset .sa110 false ⟨0, ()⟩).setReg 1 0xffffffff).setReg 3 0x80000000

theorem dataProcessing_correct_adds :
    (armOpcode emptyBus 0xe0912003 negativeWords).reg 2 = 0x7fffffff ∧
      (armOpcode emptyBus 0xe0912003 negativeWords).psr &&& 0xf0000000 = cflag ||| vflag := by
  rw [dataProcessing_correct emptyBus 0xe0912003 negativeWords (.inl rfl)
    ⟨by decide, by decide, by decide, by decide, by decide, by decide, by decide⟩]
  decide +kernel

end RpcEmu.Arm
