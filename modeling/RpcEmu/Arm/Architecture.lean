import RpcEmu.Arm.Exec
import RpcEmu.Arm.Modes
import RpcEmu.Lib.Adder

/-!
# What data processing computes

The architecture's side of the data-processing instructions, in its own terms: a barrel shifter with a carry-out, an
adder with a carry, and what is kept of them in the status.  Nothing here is taken from `arm.c`.
-/

namespace RpcEmu.Arm

open Adder

/-! ## The shifter -/

inductive ShiftType
  | lsl | lsr | asr | ror
  deriving DecidableEq, Repr

/-- A word shifted by an amount, with the last bit that is shifted out.  Shifted by 0 it is the word, and the carry
that was. -/
def shifted (t : ShiftType) (n : Nat) (x : BitVec 32) (c : Bool) : BitVec 32 × Bool :=
  if n = 0 then (x, c)
  else
    match t with
    | .lsl => (x <<< n, decide (n ≤ 32) && x.getLsbD (32 - n))
    | .lsr => (x >>> n, x.getLsbD (n - 1))
    | .asr => (x.sshiftRight n, (x.sshiftRight (n - 1)).getLsbD 0)
    | .ror => (x.rotateRight n, (x.rotateRight n).msb)

lemma shifted_of_ne (t : ShiftType) {n : Nat} {x : BitVec 32} {c : Bool} (hn : n ≠ 0) : shifted t n x c =
    match t with
    | .lsl => (x <<< n, decide (n ≤ 32) && x.getLsbD (32 - n))
    | .lsr => (x >>> n, x.getLsbD (n - 1))
    | .asr => (x.sshiftRight n, (x.sshiftRight (n - 1)).getLsbD 0)
    | .ror => (x.rotateRight n, (x.rotateRight n).msb) := if_neg hn

def rrx (x : BitVec 32) (c : Bool) : BitVec 32 × Bool := (BitVec.cons c (x.extractLsb' 1 31), x.getLsbD 0)

def immediateShift (t : ShiftType) (n : Nat) (x : BitVec 32) (c : Bool) : BitVec 32 × Bool :=
  if n = 0 then
    match t with
    | .lsl => (x, c)
    | .lsr => shifted .lsr 32 x c
    | .asr => shifted .asr 32 x c
    | .ror => rrx x c
  else shifted t n x c

def rotatedImmediate (n : Nat) (x : BitVec 8) (c : Bool) : BitVec 32 × Bool := shifted .ror n (x.setWidth 32) c

/-! ## The operations -/

inductive Alu
  | and | eor | sub | rsb | add | adc | sbc | rsc | tst | teq | cmp | cmn | orr | mov | bic | mvn
  deriving DecidableEq, Repr

structure AluResult where
  value : BitVec 32
  carry : Bool
  overflow : Bool

def ofSum (s : Sum 32) : AluResult := ⟨s.value, s.carry, s.overflow⟩

/-- The sixteen operations. -/
def Alu.compute (x : BitVec 32) (y : BitVec 32 × Bool) (c v : Bool) : Alu → AluResult
  | and | tst => ⟨x &&& y.1, y.2, v⟩
  | eor | teq => ⟨x ^^^ y.1, y.2, v⟩
  | sub | cmp => ofSum (addWithCarry x (~~~y.1) true)
  | rsb => ofSum (addWithCarry y.1 (~~~x) true)
  | add | cmn => ofSum (addWithCarry x y.1 false)
  | adc => ofSum (addWithCarry x y.1 c)
  | sbc => ofSum (addWithCarry x (~~~y.1) c)
  | rsc => ofSum (addWithCarry y.1 (~~~x) c)
  | orr => ⟨x ||| y.1, y.2, v⟩
  | mov => ⟨y.1, y.2, v⟩
  | bic => ⟨x &&& ~~~y.1, y.2, v⟩
  | mvn => ⟨~~~y.1, y.2, v⟩

def Alu.compares : Alu → Bool
  | tst | teq | cmp | cmn => true
  | _ => false

def Alu.moves : Alu → Bool
  | mov | mvn => true
  | _ => false

/-! ## The encoding -/

def aluOf (op : UInt32) : Alu :=
  match ((op >>> 21) &&& 0xf).toNat with
  | 0 => .and | 1 => .eor | 2 => .sub | 3 => .rsb | 4 => .add | 5 => .adc | 6 => .sbc | 7 => .rsc
  | 8 => .tst | 9 => .teq | 10 => .cmp | 11 => .cmn | 12 => .orr | 13 => .mov | 14 => .bic | _ => .mvn

def shiftTypeOf (op : UInt32) : ShiftType :=
  match ((op >>> 5) &&& 3).toNat with
  | 0 => .lsl | 1 => .lsr | 2 => .asr | _ => .ror

def rs (op : UInt32) : Nat := ((op >>> 8) &&& 0xf).toNat

def isImmediate (op : UInt32) : Bool := op &&& 0x02000000 != 0

def setsFlags (op : UInt32) : Bool := op &&& 0x00100000 != 0

def shiftsByRegister (op : UInt32) : Bool := op &&& 0x10 != 0

section Instruction

variable {σ : Type} (op : UInt32) (a : ArmState σ)

def flag (f : UInt32) : Bool := a.psr &&& f != 0

def shiftedRegister : BitVec 32 × Bool :=
  let x := (a.reg (rm op)).toBitVec
  let c := flag a cflag
  if shiftsByRegister op then shifted (shiftTypeOf op) ((a.reg (rs op)).toNat % 256) x c
  else immediateShift (shiftTypeOf op) ((op >>> 7) &&& 0x1f).toNat x c

def shifterOperand : BitVec 32 × Bool :=
  if isImmediate op then
    rotatedImmediate (2 * ((op >>> 8) &&& 0xf).toNat) (op.toBitVec.setWidth 8) (flag a cflag)
  else shiftedRegister op a

def aluResult : AluResult :=
  (aluOf op).compute (a.reg (rn op)).toBitVec (shifterOperand op a) (flag a cflag) (flag a vflag)

def flagBit (f : UInt32) (b : Bool) : UInt32 := if b then f else 0

def withFlags (psr : UInt32) (r : AluResult) : UInt32 :=
  (psr &&& 0x0fffffff) |||
    (flagBit nflag r.value.msb ||| flagBit zflag (r.value == 0) ||| flagBit cflag r.carry |||
      flagBit vflag r.overflow)

/-- **A data-processing instruction**: the destination and the flags. -/
def dataProcessing : ArmState σ :=
  let r := aluResult op a
  let t := if (aluOf op).compares then a else a.setReg (rd op) ⟨r.value⟩
  if setsFlags op then t.setReg a.cpsr (withFlags a.psr r) else t

/-- A data-processing instruction that leaves R15 alone. -/
structure IsDataProcessing : Prop where
  /-- Bits 26 and 27. -/
  space : op &&& 0x0c000000 = 0
  /-- With bits 4 and 7 a register form is a multiplication or a transfer. -/
  noMultiply : isImmediate op = false → op &&& 0x90 ≠ 0x90
  /-- Without S a comparison is a transfer of the status. -/
  comparesFlags : (aluOf op).compares = true → setsFlags op = true
  noRd : rd op ≠ 15
  noRn : (aluOf op).moves = false → rn op ≠ 15
  noRm : isImmediate op = false → rm op ≠ 15
  noRs : isImmediate op = false → shiftsByRegister op = true → rs op ≠ 15

end Instruction

end RpcEmu.Arm
