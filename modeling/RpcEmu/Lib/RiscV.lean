import Mathlib.Data.BitVec
import Mathlib.Logic.Function.Basic

/-!
# The RV32IM instructions

The unprivileged architecture, of a hart that has its memory to itself: what a word of 32 bits says (`decode`),
and what it does to the registers, the program counter and the memory (`step`).  The formats are concatenations
of the fields of the word, as the manual draws them, and an encoding that the manual does not have is `none`.

What the manual leaves to the platform is as follows.  Loads and stores are of naturally aligned addresses, and
one that is neither aligned nor there is misaligned first; ECALL and EBREAK are for the environment, which goes
on after them; the memory is the bytes from zero up to a size.
-/

namespace RiscV

abbrev Word := BitVec 32

/-- `x0` to `x31`. -/
abbrev Reg := Fin 32

/-! ## The instructions -/

inductive AluOp where
  | add | sub | sll | slt | sltu | xor | srl | sra | or | and
  deriving DecidableEq, Repr

inductive MulOp where
  | mul | mulh | mulhsu | mulhu | div | divu | rem | remu
  deriving DecidableEq, Repr

inductive BranchOp where
  | beq | bne | blt | bge | bltu | bgeu
  deriving DecidableEq, Repr

inductive Width where
  | byte | half | word
  deriving DecidableEq, Repr

def Width.bytes : Width → Nat
  | byte => 1
  | half => 2
  | word => 4

inductive Instr where
  | lui (rd : Reg) (imm : Word)
  | auipc (rd : Reg) (imm : Word)
  | jal (rd : Reg) (offset : Word)
  | jalr (rd rs1 : Reg) (offset : Word)
  | branch (op : BranchOp) (rs1 rs2 : Reg) (offset : Word)
  | load (width : Width) (signed : Bool) (rd rs1 : Reg) (offset : Word)
  | store (width : Width) (rs1 rs2 : Reg) (offset : Word)
  | opImm (op : AluOp) (rd rs1 : Reg) (imm : Word)
  | op (op : AluOp) (rd rs1 rs2 : Reg)
  | mulDiv (op : MulOp) (rd rs1 rs2 : Reg)
  | fence
  | fenceI
  | ecall
  | ebreak
  deriving DecidableEq, Repr

/-! ## The formats -/

section Fields

variable (w : Word)

def opcode : BitVec 7 := w.extractLsb' 0 7
def rd : Reg := (w.extractLsb' 7 5).toFin
def funct3 : BitVec 3 := w.extractLsb' 12 3
def rs1 : Reg := (w.extractLsb' 15 5).toFin
def rs2 : Reg := (w.extractLsb' 20 5).toFin
def funct7 : BitVec 7 := w.extractLsb' 25 7

def immI : Word := (w.extractLsb' 20 12).signExtend 32

def immS : Word := (w.extractLsb' 25 7 ++ w.extractLsb' 7 5).signExtend 32

def immB : Word :=
  (w.extractLsb' 31 1 ++ w.extractLsb' 7 1 ++ w.extractLsb' 25 6 ++ w.extractLsb' 8 4 ++ 0#1).signExtend 32

def immU : Word := w.extractLsb' 12 20 ++ 0#12

def immJ : Word :=
  (w.extractLsb' 31 1 ++ w.extractLsb' 12 8 ++ w.extractLsb' 20 1 ++ w.extractLsb' 21 10 ++ 0#1).signExtend 32

def shamt : Word := (w.extractLsb' 20 5).setWidth 32

end Fields

/-! ## The encodings -/

/-- OP, and OP-IMM but for its shifts, by `funct3` where `funct7` is zero. -/
def aluOp (funct3 : BitVec 3) : AluOp :=
  match funct3 with
  | 0b000#3 => .add
  | 0b001#3 => .sll
  | 0b010#3 => .slt
  | 0b011#3 => .sltu
  | 0b100#3 => .xor
  | 0b101#3 => .srl
  | 0b110#3 => .or
  | _ => .and

def altOp (funct3 : BitVec 3) : Option AluOp :=
  match funct3 with
  | 0b000#3 => some .sub
  | 0b101#3 => some .sra
  | _ => none

def mulOp (funct3 : BitVec 3) : MulOp :=
  match funct3 with
  | 0b000#3 => .mul
  | 0b001#3 => .mulh
  | 0b010#3 => .mulhsu
  | 0b011#3 => .mulhu
  | 0b100#3 => .div
  | 0b101#3 => .divu
  | 0b110#3 => .rem
  | _ => .remu

def branchOp (funct3 : BitVec 3) : Option BranchOp :=
  match funct3 with
  | 0b000#3 => some .beq
  | 0b001#3 => some .bne
  | 0b100#3 => some .blt
  | 0b101#3 => some .bge
  | 0b110#3 => some .bltu
  | 0b111#3 => some .bgeu
  | _ => none

def loadOp (funct3 : BitVec 3) : Option (Width × Bool) :=
  match funct3 with
  | 0b000#3 => some (.byte, true)
  | 0b001#3 => some (.half, true)
  | 0b010#3 => some (.word, true)
  | 0b100#3 => some (.byte, false)
  | 0b101#3 => some (.half, false)
  | _ => none

def storeOp (funct3 : BitVec 3) : Option Width :=
  match funct3 with
  | 0b000#3 => some .byte
  | 0b001#3 => some .half
  | 0b010#3 => some .word
  | _ => none

def decodeOpImm (w : Word) : Option Instr :=
  match funct3 w with
  | 0b001#3 => if funct7 w = 0b0000000#7 then some (.opImm .sll (rd w) (rs1 w) (shamt w)) else none
  | 0b101#3 =>
    if funct7 w = 0b0000000#7 then some (.opImm .srl (rd w) (rs1 w) (shamt w))
    else if funct7 w = 0b0100000#7 then some (.opImm .sra (rd w) (rs1 w) (shamt w))
    else none
  | f => some (.opImm (aluOp f) (rd w) (rs1 w) (immI w))

def decodeOp (w : Word) : Option Instr :=
  if funct7 w = 0b0000000#7 then some (.op (aluOp (funct3 w)) (rd w) (rs1 w) (rs2 w))
  else if funct7 w = 0b0100000#7 then (altOp (funct3 w)).map fun op => .op op (rd w) (rs1 w) (rs2 w)
  else if funct7 w = 0b0000001#7 then some (.mulDiv (mulOp (funct3 w)) (rd w) (rs1 w) (rs2 w))
  else none

def decodeMiscMem (w : Word) : Option Instr :=
  if funct3 w = 0b000#3 then some .fence else if funct3 w = 0b001#3 then some .fenceI else none

def decodeSystem (w : Word) : Option Instr :=
  if w = 0x00000073#32 then some .ecall else if w = 0x00100073#32 then some .ebreak else none

/-- **What a word says.** -/
def decode (w : Word) : Option Instr :=
  match opcode w with
  | 0b0110111#7 => some (.lui (rd w) (immU w))
  | 0b0010111#7 => some (.auipc (rd w) (immU w))
  | 0b1101111#7 => some (.jal (rd w) (immJ w))
  | 0b1100111#7 => if funct3 w = 0b000#3 then some (.jalr (rd w) (rs1 w) (immI w)) else none
  | 0b1100011#7 => (branchOp (funct3 w)).map fun op => .branch op (rs1 w) (rs2 w) (immB w)
  | 0b0000011#7 => (loadOp (funct3 w)).map fun op => .load op.1 op.2 (rd w) (rs1 w) (immI w)
  | 0b0100011#7 => (storeOp (funct3 w)).map fun width => .store width (rs1 w) (rs2 w) (immS w)
  | 0b0010011#7 => decodeOpImm w
  | 0b0110011#7 => decodeOp w
  | 0b0001111#7 => decodeMiscMem w
  | 0b1110011#7 => decodeSystem w
  | _ => none

/-! ## The arithmetic -/

def AluOp.eval (op : AluOp) (a b : Word) : Word :=
  let count := (b.extractLsb' 0 5).toNat
  match op with
  | add => a + b
  | sub => a - b
  | sll => a <<< count
  | slt => if a.slt b then 1 else 0
  | sltu => if a.ult b then 1 else 0
  | xor => a ^^^ b
  | srl => a >>> count
  | sra => a.sshiftRight count
  | or => a ||| b
  | and => a &&& b

def upper (p : BitVec 64) : Word := p.extractLsb' 32 32

def MulOp.eval (op : MulOp) (a b : Word) : Word :=
  let overflows := a = BitVec.intMin 32 ∧ b = BitVec.allOnes 32
  match op with
  | mul => a * b
  | mulh => upper (a.signExtend 64 * b.signExtend 64)
  | mulhsu => upper (a.signExtend 64 * b.setWidth 64)
  | mulhu => upper (a.setWidth 64 * b.setWidth 64)
  | div =>
    if b = 0 then BitVec.allOnes 32
    else if overflows then a
    else BitVec.ofInt 32 (a.toInt.tdiv b.toInt)
  | divu => if b = 0 then BitVec.allOnes 32 else a / b
  | rem =>
    if b = 0 then a
    else if overflows then 0
    else BitVec.ofInt 32 (a.toInt.tmod b.toInt)
  | remu => if b = 0 then a else a % b

def BranchOp.taken (op : BranchOp) (a b : Word) : Bool :=
  match op with
  | beq => a = b
  | bne => a ≠ b
  | blt => a.slt b
  | bge => b.sle a
  | bltu => a.ult b
  | bgeu => b.ule a

/-! ## The hart -/

/-- What the registers and the memory hold.  `x 0` is there and is nothing. -/
structure Hart where
  x : Reg → Word
  pc : Word
  mem : Word → BitVec 8

local instance registers_ne_zero : NeZero 32 := ⟨by decide⟩

namespace Hart

def get (h : Hart) (r : Reg) : Word := if r = 0 then 0 else h.x r

def set (h : Hart) (r : Reg) (v : Word) : Hart :=
  if r = 0 then h else { h with x := Function.update h.x r v }

def read (h : Hart) (addr : Word) : Width → Word
  | .byte => (h.mem addr).setWidth 32
  | .half => (h.mem (addr + 1) ++ h.mem addr).setWidth 32
  | .word => h.mem (addr + 3) ++ h.mem (addr + 2) ++ h.mem (addr + 1) ++ h.mem addr

def extend (width : Width) (signed : Bool) (v : Word) : Word :=
  match width, signed with
  | .byte, true => (v.extractLsb' 0 8).signExtend 32
  | .half, true => (v.extractLsb' 0 16).signExtend 32
  | _, _ => v

def store (h : Hart) (addr v : Word) (width : Width) : Hart :=
  let b0 := Function.update h.mem addr (v.extractLsb' 0 8)
  let b1 := Function.update b0 (addr + 1) (v.extractLsb' 8 8)
  match width with
  | .byte => { h with mem := b0 }
  | .half => { h with mem := b1 }
  | .word =>
    { h with mem :=
        Function.update (Function.update b1 (addr + 2) (v.extractLsb' 16 8)) (addr + 3) (v.extractLsb' 24 8) }

end Hart

inductive Cause where
  | insnMisaligned | illegal | loadMisaligned | loadAccess | storeMisaligned | storeAccess
  deriving DecidableEq, Repr

def Cause.number : Cause → Word
  | insnMisaligned => 0
  | illegal => 2
  | loadMisaligned => 4
  | loadAccess => 5
  | storeMisaligned => 6
  | storeAccess => 7

inductive Event where
  | retired
  | ecall
  | ebreak
  | trap (cause value : Word)
  deriving DecidableEq, Repr

/-- The address is a multiple of the width. -/
def aligned (addr : Word) (width : Width) : Prop := addr.toNat % width.bytes = 0

instance (addr : Word) (width : Width) : Decidable (aligned addr width) := inferInstanceAs (Decidable (_ = _))

/-- The access is inside the memory. -/
def inside (size : Nat) (addr : Word) (width : Width) : Prop := addr.toNat + width.bytes ≤ size

instance (size : Nat) (addr : Word) (width : Width) : Decidable (inside size addr width) :=
  inferInstanceAs (Decidable (_ ≤ _))

def target (h : Hart) : Instr → Option Word
  | .jal _ offset => some (h.pc + offset)
  | .jalr _ rs1 offset => some ((h.get rs1 + offset) &&& ~~~1)
  | .branch op rs1 rs2 offset => if op.taken (h.get rs1) (h.get rs2) then some (h.pc + offset) else none
  | _ => none

theorem opcode_of_target {h : Hart} {w : Word} {i : Instr} {t : Word} (hi : decode w = some i)
    (ht : target h i = some t) :
    opcode w = 0b1101111#7 ∨ opcode w = 0b1100111#7 ∨ opcode w = 0b1100011#7 := by
  unfold decode at hi
  split at hi
  case h_3 ho => exact Or.inl ho
  case h_4 ho => exact Or.inr (Or.inl ho)
  case h_5 ho => exact Or.inr (Or.inr ho)
  case h_1 | h_2 =>
    cases hi
    cases ht
  case h_6 | h_7 =>
    obtain ⟨op, -, rfl⟩ := Option.map_eq_some_iff.mp hi
    cases ht
  case h_8 =>
    unfold decodeOpImm at hi
    split at hi <;> (try split_ifs at hi) <;> cases hi <;> cases ht
  case h_9 =>
    unfold decodeOp at hi
    split_ifs at hi
    · cases hi
      cases ht
    · obtain ⟨op, -, rfl⟩ := Option.map_eq_some_iff.mp hi
      cases ht
    · cases hi
      cases ht
  case h_10 =>
    unfold decodeMiscMem at hi
    split_ifs at hi <;> cases hi <;> cases ht
  case h_11 =>
    unfold decodeSystem at hi
    split_ifs at hi <;> cases hi <;> cases ht
  case h_12 => cases hi

def retire (h : Hart) (pc : Word) : Hart × Event := ({ h with pc }, .retired)

def raise (h : Hart) (cause : Cause) (value : Word) : Hart × Event := (h, .trap cause.number value)

def jump (h : Hart) (rd : Reg) (dest : Word) : Hart × Event :=
  if aligned dest .word then retire (h.set rd (h.pc + 4)) dest else raise h .insnMisaligned dest

def execute (size : Nat) (h : Hart) (i : Instr) : Hart × Event :=
  match i with
  | .lui rd imm => retire (h.set rd imm) (h.pc + 4)
  | .auipc rd imm => retire (h.set rd (h.pc + imm)) (h.pc + 4)
  | .jal rd offset => jump h rd (h.pc + offset)
  | .jalr rd rs1 offset => jump h rd ((h.get rs1 + offset) &&& ~~~1)
  | .branch op rs1 rs2 offset =>
    if op.taken (h.get rs1) (h.get rs2) then jump h 0 (h.pc + offset) else retire h (h.pc + 4)
  | .load width signed rd rs1 offset =>
    let addr := h.get rs1 + offset
    if ¬aligned addr width then raise h .loadMisaligned addr
    else if ¬inside size addr width then raise h .loadAccess addr
    else retire (h.set rd (Hart.extend width signed (h.read addr width))) (h.pc + 4)
  | .store width rs1 rs2 offset =>
    let addr := h.get rs1 + offset
    if ¬aligned addr width then raise h .storeMisaligned addr
    else if ¬inside size addr width then raise h .storeAccess addr
    else retire (h.store addr (h.get rs2) width) (h.pc + 4)
  | .opImm op rd rs1 imm => retire (h.set rd (op.eval (h.get rs1) imm)) (h.pc + 4)
  | .op op rd rs1 rs2 => retire (h.set rd (op.eval (h.get rs1) (h.get rs2))) (h.pc + 4)
  | .mulDiv op rd rs1 rs2 => retire (h.set rd (op.eval (h.get rs1) (h.get rs2))) (h.pc + 4)
  | .fence | .fenceI => retire h (h.pc + 4)
  | .ecall => ({ h with pc := h.pc + 4 }, .ecall)
  | .ebreak => ({ h with pc := h.pc + 4 }, .ebreak)

/-- **What a word does.** -/
def step (size : Nat) (h : Hart) (w : Word) : Hart × Event :=
  match decode w with
  | some i => execute size h i
  | none => raise h .illegal w

end RiscV
