import RpcEmu.Arm.State

/-!
# Data processing

The operands of the data-processing instructions and what the instructions do with them, from `arm.c`
and `arm_common.h`.  `Operand` is the second operand, from a register or an immediate: its value, and
its value with the carry that the logical instructions take from the shifter.

The sixteen operations come in few shapes, and each shape is one definition here: `dataOp` without
flags, `logicalOpS` and `arithOpS` with them, `testOp` and `compareOp` without a destination.
-/

namespace RpcEmu.Arm

variable {σ : Type}

/-- `rotate_right32`. -/
def rotateRight32 (x n : UInt32) : UInt32 := (x >>> (n &&& 31)) ||| (x <<< ((32 - n) &&& 31))

def asr (x n : UInt32) : UInt32 := (x.toInt32 >>> n.toInt32).toUInt32

/-! ## The second operand -/

section Operand

variable (op : UInt32) (a : ArmState σ)

/-- `arm_imm`. -/
def armImm : UInt32 := rotateRight32 (op &&& (0xff : UInt32)) (((op >>> 8) &&& 0xf) <<< 1)

def setC : ArmState σ := a.setReg a.cpsr (a.psr ||| cflag)

def clearC : ArmState σ := a.setReg a.cpsr (a.psr &&& ~~~cflag)

def raiseC (c : Bool) : ArmState σ := if c then setC a else a

def writeC (c : Bool) : ArmState σ := if c then setC a else clearC a

/-- `arm_imm_cflag`. -/
def armImmCflag : UInt32 × ArmState σ :=
  (armImm op, if op &&& 0xf00 ≠ 0 then writeC a (armImm op &&& 0x80000000 != 0) else a)

def shiftAmount : UInt32 :=
  if op &&& 0x10 ≠ 0 then a.reg ((op >>> 8) &&& 0xf).toNat &&& 0xff else (op >>> 7) &&& 0x1f

/-- LSL of `shift3`. -/
def shiftLsl (temp amount : UInt32) : UInt32 × ArmState σ :=
  if amount = 0 then (temp, a)
  else if amount = 32 then (0, raiseC a (temp &&& 1 != 0))
  else if 32 < amount then (0, a)
  else (temp <<< amount, raiseC a ((temp <<< (amount - 1)) &&& (0x80000000 : UInt32) != 0))

/-- LSR of `shift3`. -/
def shiftLsr (temp amount : UInt32) : UInt32 × ArmState σ :=
  let amount := if amount = 0 ∧ op &&& 0x10 = 0 then 32 else amount
  if amount = 0 then (temp, a)
  else if amount = 32 then (0, writeC a (temp &&& 0x80000000 != 0))
  else if 32 < amount then (0, a)
  else (temp >>> amount, raiseC a ((temp >>> (amount - 1)) &&& (1 : UInt32) != 0))

/-- ASR of `shift3`. -/
def shiftAsr (temp amount : UInt32) : UInt32 × ArmState σ :=
  if amount = 0 ∧ op &&& 0x10 ≠ 0 then (temp, a)
  else if 32 ≤ amount ∨ amount = 0 then
    (if temp &&& 0x80000000 ≠ 0 then 0xffffffff else 0, writeC a (temp &&& 0x80000000 != 0))
  else (asr temp amount, raiseC a (asr temp (amount - 1) &&& 1 != 0))

/-- ROR and RRX of `shift3`; `carry` is C before the shift. -/
def shiftRor (carry temp amount : UInt32) : UInt32 × ArmState σ :=
  let a := clearC a
  if amount = 0 ∧ op &&& 0x10 = 0 then
    ((carry <<< 31) ||| (temp >>> 1), raiseC a (temp &&& 1 != 0))
  else if amount = 0 then (temp, a.setReg a.cpsr (a.psr ||| (carry <<< 29)))
  else if amount &&& 0x1f = 0 then (temp, raiseC a (temp &&& 0x80000000 != 0))
  else
    let r := rotateRight32 temp (amount &&& 0x1f)
    (r, raiseC a (r &&& 0x80000000 != 0))

/-- `shift3`: a shifted register, and its carry. -/
def shift3 : UInt32 × ArmState σ :=
  let carry := a.cfset
  let amount := shiftAmount op a
  let temp := a.reg (rm op)
  let a := if amount ≠ 0 then clearC a else a
  if op &&& 0x60 = 0 then shiftLsl a temp amount
  else if op &&& 0x60 = 0x20 then shiftLsr op a temp amount
  else if op &&& 0x60 = 0x40 then shiftAsr op a temp amount
  else shiftRor op a carry temp amount

/-- The macro `shift`. -/
def shift : UInt32 × ArmState σ := if op &&& 0xff0 ≠ 0 then shift3 op a else (a.reg (rm op), a)

/-- `shift5`: the amounts that `shift4` does not take. -/
def shift5 (amount rm : UInt32) : UInt32 :=
  if op &&& 0x60 = 0 then if amount = 0 then rm else 0
  else if op &&& 0x60 = 0x20 then if amount = 0 ∧ op &&& 0x10 ≠ 0 then rm else 0
  else if op &&& 0x60 = 0x40 then
    let amount := if amount = 0 ∧ op &&& 0x10 = 0 then 32 else amount
    if 32 ≤ amount then if rm &&& 0x80000000 ≠ 0 then 0xffffffff else 0 else asr rm amount
  else if op &&& 0x10 = 0 then (a.cfset <<< 31) ||| (rm >>> 1)
  else rotateRight32 rm (amount &&& 0x1f)

/-- `shift4`: a shifted register. -/
def shift4 : UInt32 :=
  let amount := shiftAmount op a
  let rm := a.reg (rm op)
  if 31 ≤ amount - 1 then shift5 op a amount rm
  else if op &&& 0x60 = 0 then rm <<< amount
  else if op &&& 0x60 = 0x20 then rm >>> amount
  else if op &&& 0x60 = 0x40 then asr rm amount
  else rotateRight32 rm amount

/-- The macro `shift2`, which is `shift_ldrstr` too. -/
def shift2 : UInt32 := if op &&& 0xff0 ≠ 0 then shift4 op a else a.reg (rm op)

end Operand

structure Operand (σ : Type) where
  value : UInt32 → ArmState σ → UInt32
  withCarry : UInt32 → ArmState σ → UInt32 × ArmState σ

/-- The `reg` forms. -/
def Operand.reg : Operand σ := ⟨shift2, shift⟩

/-- The `imm` forms. -/
def Operand.imm : Operand σ := ⟨fun op _ => armImm op, armImmCflag⟩

/-! ## The operations -/

section Ops

variable (o : Operand σ) (op : UInt32) (a : ArmState σ)

/-- Without flags; `f` is of the operands and C. -/
def dataOp (f : UInt32 → UInt32 → UInt32 → UInt32) : ArmState σ :=
  armWriteDest a op (f (getaddr a (rn op)) (o.value op a) a.cfset)

def logicalOpS (f : UInt32 → UInt32 → UInt32) : ArmState σ :=
  let lhs := getaddr a (rn op)
  if rd op = 15 then armWriteR15 a (f lhs (o.value op a))
  else
    let rhs := o.withCarry op a
    let dest := f lhs rhs.1
    armFlagsLogical (rhs.2.setReg (rd op) dest) dest

/-- With the flags of an addition or a subtraction; `flags` is of the two operands and the result. -/
def arithOpS (f : UInt32 → UInt32 → UInt32 → UInt32)
    (flags : ArmState σ → UInt32 → UInt32 → UInt32 → ArmState σ) : ArmState σ :=
  let lhs := getaddr a (rn op)
  let rhs := o.value op a
  let dest := f lhs rhs a.cfset
  if rd op = 15 then armWriteR15 a dest else (flags a lhs rhs dest).setReg (rd op) dest

def subsImm : ArmState σ :=
  let lhs := getaddr a (rn op)
  let rhs := armImm op
  let dest := lhs - rhs
  if rd op = 15 then armWriteR15 a dest else armFlagsSub (a.setReg (rd op) dest) lhs rhs dest

def testOp (f : UInt32 → UInt32 → UInt32) : ArmState σ :=
  let lhs := getaddr a (rn op)
  if rd op = 15 then armCompareRd15 a (f lhs (o.value op a))
  else
    let rhs := o.withCarry op a
    armFlagsLogical rhs.2 (f lhs rhs.1)

def compareOp (f : UInt32 → UInt32 → UInt32)
    (flags : ArmState σ → UInt32 → UInt32 → UInt32 → ArmState σ) : ArmState σ :=
  let lhs := getaddr a (rn op)
  let rhs := o.value op a
  let dest := f lhs rhs
  if rd op = 15 then armCompareRd15 a dest else flags a lhs rhs dest

end Ops

/-- `CFSET ? 0 : 1`. -/
def borrow (c : UInt32) : UInt32 := if c ≠ 0 then 0 else 1

/-- `arm_flags_sub(rhs, lhs, dest)` of the reversed subtractions. -/
def armFlagsRsb (a : ArmState σ) (lhs rhs dest : UInt32) : ArmState σ := armFlagsSub a rhs lhs dest

/-- `arm_flags_sbc(rhs, lhs, dest)`. -/
def armFlagsRsc (a : ArmState σ) (lhs rhs dest : UInt32) : ArmState σ := armFlagsSbc a rhs lhs dest

/-! ## Multiplication -/

section Multiply

variable (op : UInt32) (a : ArmState σ)

def isMul : Bool := op &&& 0xf0 == 0x90

def mulOp (acc : UInt32) : ArmState σ :=
  a.setReg (mulRd op) (if mulRd op = mulRm op then 0 else a.reg (mulRm op) * a.reg (mulRs op) + acc)

def mulOpS (acc : UInt32) : ArmState σ :=
  let a := mulOp op a acc
  armFlagsLogical a (a.reg (mulRd op))

/-- `current` of the accumulating long multiplications. -/
def mulCurrent : UInt64 := ((a.reg (mulRd op)).toUInt64 <<< 32) ||| (a.reg (mulRn op)).toUInt64

/-- `mula * mulb` of UMULL and UMLAL. -/
def umul : UInt64 := (a.reg (mulRs op)).toUInt64 * (a.reg (mulRm op)).toUInt64

/-- `mula * mulb` of SMULL and SMLAL. -/
def smul : UInt64 :=
  ((a.reg (mulRs op)).toInt32.toInt64 * (a.reg (mulRm op)).toInt32.toInt64).toUInt64

def mulLong (mulres : UInt64) : ArmState σ :=
  (a.setReg (mulRn op) mulres.toUInt32).setReg (mulRd op) (mulres >>> 32).toUInt32

def mulLongS (mulres : UInt64) : ArmState σ := armFlagsLongMultiply (mulLong op a mulres) mulres

def isMulLong : Bool := a.archV4 && isMul op

end Multiply

/-! ## Status transfers -/

section Status

variable (op : UInt32) (a : ArmState σ)

def unallocated : ArmState σ := if a.archV4 then armExceptionUndefined a else a

def mrsCpsr : ArmState σ :=
  let a := if armMode32 a.mode then a
    else
      let a := a.setReg 16 ((a.reg 15 &&& 0xf0000000) ||| (a.reg 15 &&& 3))
      a.setReg 16 (a.reg 16 ||| ((a.reg 15 &&& (0xc000000 : UInt32)) >>> 20))
  a.setReg (rd op) (a.reg 16)

def mrsSpsr : ArmState σ := a.setReg (rd op) (armReadSpsr a)

def isMrs : Bool := op &&& 0xf0fff == 0xf0000

def isMsrReg : Bool := op &&& 0xf010 == 0xf000

end Status

end RpcEmu.Arm
