import RpcEmu.Copro.Card

/-!
# The 6502 core

`cpu_6502.c`: the documented NMOS instruction set, and the 65C02's additions behind a flag.  The
`switch` of the source is one line for each opcode, an operation and an addressing mode; here those
lines are two tables, `opcodes` and `cmosOpcodes`, in the source's order, and what a line does is
`perform`.

The core does not stop at an access that stalls: it goes on with a zero in place of the byte it did
not get, and the end of the instruction puts the registers back.  So an addressing mode, an operation
and the stack helpers are all programs that cannot fail, as they are in the source.

The two fields that record where a stall happened are left out: nothing reads them.
-/

namespace RpcEmu

open Effects

namespace Cpu6502

/-! ## State -/

structure Regs where
  a : UInt8
  x : UInt8
  y : UInt8
  sp : UInt8
  p : UInt8
  pc : UInt16
  deriving DecidableEq, Repr

/-- `cpu6502_state`. -/
structure State extends Regs where
  ramPresent : Bool
  ramSize : UInt32
  halted : Bool
  haltReason : UInt32
  exitCode : UInt32
  faulted : Bool
  faultCause : UInt32
  faultAddr : UInt32
  cycles : UInt64
  /-- is a hook set? -/
  hooked : Bool
  canStall : Bool
  cmos : Bool
  pageCrossed : Bool
  branchTaken : Bool
  stalled : Bool
  saved : Regs
  deriving DecidableEq, Repr

/-- `CPU6502_FLAG_C`, carry. -/
def flagC : UInt8 := 0x01

/-- `CPU6502_FLAG_Z`, zero. -/
def flagZ : UInt8 := 0x02

/-- `CPU6502_FLAG_I`, interrupt disable. -/
def flagI : UInt8 := 0x04

/-- `CPU6502_FLAG_D`, decimal mode. -/
def flagD : UInt8 := 0x08

/-- `CPU6502_FLAG_B`, break. -/
def flagB : UInt8 := 0x10

/-- `CPU6502_FLAG_U`, unused. -/
def flagU : UInt8 := 0x20

/-- `CPU6502_FLAG_V`, overflow. -/
def flagV : UInt8 := 0x40

/-- `CPU6502_FLAG_N`, negative. -/
def flagN : UInt8 := 0x80

/-- `CPU6502_FAULT_ILLEGAL`. -/
def faultIllegal : UInt32 := 1

/-- `CPU6502_FAULT_ACCESS`. -/
def faultAccess : UInt32 := 2

/-- `CPU6502_HALT_BRK`. -/
def haltBrk : UInt32 := 1

/-- `fault`. -/
def State.fault (s : State) (cause addr : UInt32) : State :=
  { s with faulted := true, faultCause := cause, faultAddr := addr }

def modifyRegs (f : Regs → Regs) : Exec State Unit :=
  modify fun s => { s with toRegs := f s.toRegs }

/-! ## Memory -/

/-- `rd8`. -/
def rd8 (addr : UInt16) : Exec State UInt8 := do
  let s ← get
  if s.hooked then
    match ← access (.memRead addr.toUInt32) with
    | (.ok, val) => pure val
    | (.stall, _) =>
      modify fun s => { s with stalled := true }
      pure 0
    | (.busError, _) =>
      modify fun s => s.fault faultAccess addr.toUInt32
      pure 0
  else if !s.ramPresent || s.ramSize ≤ addr.toUInt32 then
    modify fun s => s.fault faultAccess addr.toUInt32
    pure 0
  else access (.ramRead addr.toUInt32)

/-- `wr8`. -/
def wr8 (addr : UInt16) (val : UInt8) : Exec State Unit := do
  let s ← get
  if s.hooked then
    match ← access (.memWrite addr.toUInt32 val s.cycles) with
    | .ok => pure ()
    | .stall => modify fun s => { s with stalled := true }
    | .busError => modify fun s => s.fault faultAccess addr.toUInt32
  else if !s.ramPresent || s.ramSize ≤ addr.toUInt32 then
    modify fun s => s.fault faultAccess addr.toUInt32
  else access (.ramWrite addr.toUInt32 val)

def addr16 (lo hi : UInt8) : UInt16 := lo.toUInt16 ||| (hi.toUInt16 <<< 8)

/-- `fetch8`. -/
def fetch8 : Exec State UInt8 := do
  let s ← get
  let val ← rd8 s.pc
  modifyRegs fun r => { r with pc := r.pc + 1 }
  pure val

/-- `fetch16`. -/
def fetch16 : Exec State UInt16 := do
  let lo ← fetch8
  let hi ← fetch8
  pure (addr16 lo hi)

def rd16 (lo hi : UInt16) : Exec State UInt16 := do
  let l ← rd8 lo
  let h ← rd8 hi
  pure (addr16 l h)

/-- `rd16_zp`: the high byte of a pointer at 0xff comes from 0. -/
def rd16Zp (zp : UInt8) : Exec State UInt16 := rd16 zp.toUInt16 (zp + 1).toUInt16

/-- `rd16_jmp_bug`: only the low byte of the address is stepped on. -/
def rd16JmpBug (addr : UInt16) : Exec State UInt16 :=
  rd16 addr ((addr &&& 0xff00) ||| ((addr + 1) &&& 0x00ff))

/-- `push8`. -/
def push8 (val : UInt8) : Exec State Unit := do
  let s ← get
  wr8 (0x0100 + s.sp.toUInt16) val
  modifyRegs fun r => { r with sp := r.sp - 1 }

/-- `pop8`. -/
def pop8 : Exec State UInt8 := do
  modifyRegs fun r => { r with sp := r.sp + 1 }
  let s ← get
  rd8 (0x0100 + s.sp.toUInt16)

/-! ## Addressing modes -/

/-- `am_imm`. -/
def amImm : Exec State UInt16 := do
  let s ← get
  modifyRegs fun r => { r with pc := r.pc + 1 }
  pure s.pc

/-- `am_zp`. -/
def amZp : Exec State UInt16 := do
  let zp ← fetch8
  pure zp.toUInt16

def zpIndexed (index : Regs → UInt8) : Exec State UInt8 := do
  let zp ← fetch8
  let s ← get
  pure (zp + index s.toRegs)

/-- `am_zpx`. -/
def amZpx : Exec State UInt16 := do
  let zp ← zpIndexed Regs.x
  pure zp.toUInt16

/-- `am_zpy`. -/
def amZpy : Exec State UInt16 := do
  let zp ← zpIndexed Regs.y
  pure zp.toUInt16

/-- `am_abs`. -/
def amAbs : Exec State UInt16 := fetch16

def indexed (base : UInt16) (index : Regs → UInt8) : Exec State UInt16 := do
  let s ← get
  let addr := base + (index s.toRegs).toUInt16
  modify fun s => { s with pageCrossed := (base ^^^ addr) &&& 0xff00 ≠ 0 }
  pure addr

/-- `am_absx`. -/
def amAbsx : Exec State UInt16 := do
  let base ← fetch16
  indexed base Regs.x

/-- `am_absy`. -/
def amAbsy : Exec State UInt16 := do
  let base ← fetch16
  indexed base Regs.y

/-- `am_indx`. -/
def amIndx : Exec State UInt16 := do
  let zp ← zpIndexed Regs.x
  rd16Zp zp

/-- `am_indy`. -/
def amIndy : Exec State UInt16 := do
  let zp ← fetch8
  let base ← rd16Zp zp
  indexed base Regs.y

/-- `am_ind`, on the 65C02 only. -/
def amInd : Exec State UInt16 := do
  let zp ← fetch8
  rd16Zp zp

inductive Mode
  | imm | zp | zpx | zpy | abs | absx | absy | indx | indy | ind
  deriving DecidableEq, Repr

def Mode.addr : Mode → Exec State UInt16
  | imm => amImm
  | zp => amZp
  | zpx => amZpx
  | zpy => amZpy
  | abs => amAbs
  | absx => amAbsx
  | absy => amAbsy
  | indx => amIndx
  | indy => amIndy
  | ind => amInd

/-! ## Operations on registers -/

def Regs.flag (r : Regs) (flag : UInt8) : Bool := r.p &&& flag ≠ 0

/-- `set_flag`. -/
def setFlag (r : Regs) (flag : UInt8) (on : Bool) : Regs :=
  { r with p := if on then r.p ||| flag else r.p &&& ~~~flag }

/-- `set_nz`. -/
def setNz (r : Regs) (val : UInt8) : Regs :=
  setFlag (setFlag r flagZ (val = 0)) flagN (val &&& 0x80 ≠ 0)

/-- `op_adc`. -/
def opAdc (cmos : Bool) (r : Regs) (m : UInt8) : Regs :=
  let a := r.a.toUInt32
  let m := m.toUInt32
  let c : UInt32 := if r.flag flagC then 1 else 0
  let bin := a + m + c
  if r.flag flagD then
    let lo := (a &&& 0x0f) + (m &&& 0x0f) + c
    let hi := (a >>> 4) + (m >>> 4)
    let (lo, hi) := if lo > 9 then (lo + 6, hi + 1) else (lo, hi)
    let r := setFlag r flagZ (bin &&& 0xff = 0)
    let r := setFlag r flagN (hi &&& 0x08 ≠ 0)
    let r := setFlag r flagV ((a ^^^ m) &&& 0x80 = 0 ∧ (a ^^^ (hi <<< 4)) &&& 0x80 ≠ 0)
    let hi := if hi > 9 then hi + 6 else hi
    let r := setFlag r flagC (hi > 15)
    let r := { r with a := ((hi <<< 4) ||| (lo &&& 0x0f)).toUInt8 }
    if cmos then setNz r r.a else r
  else
    let r := setFlag r flagC (bin > 0xff)
    let r := setFlag r flagV ((a ^^^ m) &&& 0x80 = 0 ∧ (a ^^^ bin) &&& 0x80 ≠ 0)
    let r := { r with a := bin.toUInt8 }
    setNz r r.a

/-- `op_sbc`. -/
def opSbc (cmos : Bool) (r : Regs) (m : UInt8) : Regs :=
  let a := r.a.toUInt32
  let m := m.toUInt32
  let borrow : UInt32 := if r.flag flagC then 0 else 1
  let bin := (a - m - borrow) &&& 0x1ff
  let r := setFlag r flagC (m + borrow ≤ a)
  let r := setFlag r flagV ((a ^^^ m) &&& 0x80 ≠ 0 ∧ (a ^^^ bin) &&& 0x80 ≠ 0)
  let r := setNz r bin.toUInt8
  if r.flag flagD then
    let lo := (a &&& 0x0f) - (m &&& 0x0f) - borrow
    let hi := (a >>> 4) - (m >>> 4)
    let (lo, hi) := if lo &&& 0x10 ≠ 0 then (lo - 6, hi - 1) else (lo, hi)
    let hi := if hi &&& 0x10 ≠ 0 then hi - 6 else hi
    let r := { r with a := ((hi <<< 4) ||| (lo &&& 0x0f)).toUInt8 }
    if cmos then setNz r r.a else r
  else { r with a := bin.toUInt8 }

/-- `op_cmp`. -/
def opCmp (r : Regs) (reg m : UInt8) : Regs :=
  setNz (setFlag r flagC (m ≤ reg)) (reg - m)

/-- `op_bit`. -/
def opBit (r : Regs) (m : UInt8) : Regs :=
  let r := setFlag r flagZ (r.a &&& m = 0)
  let r := setFlag r flagN (m &&& 0x80 ≠ 0)
  setFlag r flagV (m &&& 0x40 ≠ 0)

/-- `op_asl`. -/
def opAsl (r : Regs) (v : UInt8) : Regs × UInt8 :=
  let r := setFlag r flagC (v &&& 0x80 ≠ 0)
  let v := v <<< 1
  (setNz r v, v)

/-- `op_lsr`. -/
def opLsr (r : Regs) (v : UInt8) : Regs × UInt8 :=
  let r := setFlag r flagC (v &&& 0x01 ≠ 0)
  let v := v >>> 1
  (setNz r v, v)

/-- `op_rol`. -/
def opRol (r : Regs) (v : UInt8) : Regs × UInt8 :=
  let carryIn : UInt8 := if r.flag flagC then 1 else 0
  let r := setFlag r flagC (v &&& 0x80 ≠ 0)
  let v := (v <<< 1) ||| carryIn
  (setNz r v, v)

/-- `op_ror`. -/
def opRor (r : Regs) (v : UInt8) : Regs × UInt8 :=
  let carryIn : UInt8 := if r.flag flagC then 0x80 else 0
  let r := setFlag r flagC (v &&& 0x01 ≠ 0)
  let v := (v >>> 1) ||| carryIn
  (setNz r v, v)

/-- `op_inc`. -/
def opInc (r : Regs) (v : UInt8) : Regs × UInt8 := (setNz r (v + 1), v + 1)

/-- `op_dec`. -/
def opDec (r : Regs) (v : UInt8) : Regs × UInt8 := (setNz r (v - 1), v - 1)

/-- What `op_tsb` does between its read and its write. -/
def tsbByte (r : Regs) (m : UInt8) : Regs × UInt8 :=
  (setFlag r flagZ (m &&& r.a = 0), m ||| r.a)

/-- What `op_trb` does between its read and its write. -/
def trbByte (r : Regs) (m : UInt8) : Regs × UInt8 :=
  (setFlag r flagZ (m &&& r.a = 0), m &&& ~~~r.a)

/-! ## Instructions -/

inductive Reg
  | a | x | y
  deriving DecidableEq, Repr

def Regs.get (r : Regs) : Reg → UInt8
  | .a => r.a
  | .x => r.x
  | .y => r.y

def Regs.load (r : Regs) (reg : Reg) (val : UInt8) : Regs :=
  match reg with
  | .a => setNz { r with a := val } val
  | .x => setNz { r with x := val } val
  | .y => setNz { r with y := val } val

inductive ReadOp
  | adc | and | bit | bitImm | eor | ora | sbc
  | cmp (reg : Reg)
  | ld (reg : Reg)
  deriving DecidableEq, Repr

def ReadOp.apply (cmos : Bool) (r : Regs) (m : UInt8) : ReadOp → Regs
  | adc => opAdc cmos r m
  | and => r.load .a (r.a &&& m)
  | bit => opBit r m
  | bitImm => setFlag r flagZ (r.a &&& m = 0)
  | eor => r.load .a (r.a ^^^ m)
  | ora => r.load .a (r.a ||| m)
  | sbc => opSbc cmos r m
  | cmp reg => opCmp r (r.get reg) m
  | ld reg => r.load reg m

inductive ModifyOp
  | asl | lsr | rol | ror | inc | dec | tsb | trb
  deriving DecidableEq, Repr

def ModifyOp.apply (r : Regs) (v : UInt8) : ModifyOp → Regs × UInt8
  | asl => opAsl r v
  | lsr => opLsr r v
  | rol => opRol r v
  | ror => opRor r v
  | inc => opInc r v
  | dec => opDec r v
  | tsb => tsbByte r v
  | trb => trbByte r v

/-- `op_rmw`, and `op_tsb` and `op_trb`, which have the same shape. -/
def opRmw (addr : UInt16) (op : ModifyOp) : Exec State Unit := do
  let v ← rd8 addr
  let s ← get
  modifyRegs fun r => (op.apply r v).1
  wr8 addr (op.apply s.toRegs v).2

/-- `op_branch`. -/
def opBranch (take : Bool) : Exec State Unit := do
  let off ← fetch8
  if take then
    modify fun s =>
      let dest := s.pc + off.toInt8.toInt16.toUInt16
      { s with pc := dest, branchTaken := true, pageCrossed := (s.pc ^^^ dest) &&& 0xff00 ≠ 0 }
  else pure ()

def jmpTarget (cmos : Bool) (addr : UInt16) : Exec State UInt16 :=
  if cmos then rd16 addr (addr + 1) else rd16JmpBug addr

inductive Insn
  /-- `op(rd8(mode))` -/
  | read (op : ReadOp) (mode : Mode)
  /-- a read-modify-write of memory -/
  | rmw (op : ModifyOp) (mode : Mode)
  /-- the same on the accumulator -/
  | accumulator (op : ModifyOp)
  /-- `wr8(mode, reg)` -/
  | store (reg : Reg) (mode : Mode)
  /-- `wr8(mode, 0)` -/
  | stz (mode : Mode)
  /-- a branch taken if a flag is set (or clear) -/
  | branch (flag : UInt8) (on : Bool)
  | bra
  /-- set or clear a flag -/
  | flag (flag : UInt8) (on : Bool)
  /-- copy a register, N and Z from it -/
  | transfer (dst src : Reg)
  | tsx
  | txs
  /-- INX, INY -/
  | increment (reg : Reg)
  /-- DEX, DEY -/
  | decrement (reg : Reg)
  | push (reg : Reg)
  | pull (reg : Reg)
  | php
  | plp
  | jmp
  | jmpInd
  | jmpIndX
  | jsr
  | rti
  | rts
  | nop
  | brk
  | stp
  | illegal
  deriving DecidableEq, Repr

def opcodes : List (UInt8 × Insn) :=
  [ -- ADC
    (0x69, .read .adc .imm), (0x65, .read .adc .zp), (0x75, .read .adc .zpx),
    (0x6d, .read .adc .abs), (0x7d, .read .adc .absx), (0x79, .read .adc .absy),
    (0x61, .read .adc .indx), (0x71, .read .adc .indy),
    -- AND
    (0x29, .read .and .imm), (0x25, .read .and .zp), (0x35, .read .and .zpx),
    (0x2d, .read .and .abs), (0x3d, .read .and .absx), (0x39, .read .and .absy),
    (0x21, .read .and .indx), (0x31, .read .and .indy),
    -- ASL
    (0x0a, .accumulator .asl), (0x06, .rmw .asl .zp), (0x16, .rmw .asl .zpx),
    (0x0e, .rmw .asl .abs), (0x1e, .rmw .asl .absx),
    -- branches
    (0x90, .branch flagC false), (0xb0, .branch flagC true), (0xf0, .branch flagZ true),
    (0x30, .branch flagN true), (0xd0, .branch flagZ false), (0x10, .branch flagN false),
    (0x50, .branch flagV false), (0x70, .branch flagV true),
    -- BIT
    (0x24, .read .bit .zp), (0x2c, .read .bit .abs),
    -- BRK
    (0x00, .brk),
    -- flag clears
    (0x18, .flag flagC false), (0xd8, .flag flagD false), (0x58, .flag flagI false),
    (0xb8, .flag flagV false), (0x38, .flag flagC true), (0xf8, .flag flagD true),
    (0x78, .flag flagI true),
    -- CMP / CPX / CPY
    (0xc9, .read (.cmp .a) .imm), (0xc5, .read (.cmp .a) .zp), (0xd5, .read (.cmp .a) .zpx),
    (0xcd, .read (.cmp .a) .abs), (0xdd, .read (.cmp .a) .absx), (0xd9, .read (.cmp .a) .absy),
    (0xc1, .read (.cmp .a) .indx), (0xd1, .read (.cmp .a) .indy),
    (0xe0, .read (.cmp .x) .imm), (0xe4, .read (.cmp .x) .zp), (0xec, .read (.cmp .x) .abs),
    (0xc0, .read (.cmp .y) .imm), (0xc4, .read (.cmp .y) .zp), (0xcc, .read (.cmp .y) .abs),
    -- DEC / DEX / DEY
    (0xc6, .rmw .dec .zp), (0xd6, .rmw .dec .zpx), (0xce, .rmw .dec .abs), (0xde, .rmw .dec .absx),
    (0xca, .decrement .x), (0x88, .decrement .y),
    -- EOR
    (0x49, .read .eor .imm), (0x45, .read .eor .zp), (0x55, .read .eor .zpx),
    (0x4d, .read .eor .abs), (0x5d, .read .eor .absx), (0x59, .read .eor .absy),
    (0x41, .read .eor .indx), (0x51, .read .eor .indy),
    -- INC / INX / INY
    (0xe6, .rmw .inc .zp), (0xf6, .rmw .inc .zpx), (0xee, .rmw .inc .abs), (0xfe, .rmw .inc .absx),
    (0xe8, .increment .x), (0xc8, .increment .y),
    -- JMP / JSR
    (0x4c, .jmp), (0x6c, .jmpInd), (0x20, .jsr),
    -- LDA / LDX / LDY
    (0xa9, .read (.ld .a) .imm), (0xa5, .read (.ld .a) .zp), (0xb5, .read (.ld .a) .zpx),
    (0xad, .read (.ld .a) .abs), (0xbd, .read (.ld .a) .absx), (0xb9, .read (.ld .a) .absy),
    (0xa1, .read (.ld .a) .indx), (0xb1, .read (.ld .a) .indy),
    (0xa2, .read (.ld .x) .imm), (0xa6, .read (.ld .x) .zp), (0xb6, .read (.ld .x) .zpy),
    (0xae, .read (.ld .x) .abs), (0xbe, .read (.ld .x) .absy),
    (0xa0, .read (.ld .y) .imm), (0xa4, .read (.ld .y) .zp), (0xb4, .read (.ld .y) .zpx),
    (0xac, .read (.ld .y) .abs), (0xbc, .read (.ld .y) .absx),
    -- LSR
    (0x4a, .accumulator .lsr), (0x46, .rmw .lsr .zp), (0x56, .rmw .lsr .zpx),
    (0x4e, .rmw .lsr .abs), (0x5e, .rmw .lsr .absx),
    -- NOP
    (0xea, .nop),
    -- ORA
    (0x09, .read .ora .imm), (0x05, .read .ora .zp), (0x15, .read .ora .zpx),
    (0x0d, .read .ora .abs), (0x1d, .read .ora .absx), (0x19, .read .ora .absy),
    (0x01, .read .ora .indx), (0x11, .read .ora .indy),
    -- stack
    (0x48, .push .a), (0x08, .php), (0x68, .pull .a), (0x28, .plp),
    -- ROL / ROR
    (0x2a, .accumulator .rol), (0x26, .rmw .rol .zp), (0x36, .rmw .rol .zpx),
    (0x2e, .rmw .rol .abs), (0x3e, .rmw .rol .absx),
    (0x6a, .accumulator .ror), (0x66, .rmw .ror .zp), (0x76, .rmw .ror .zpx),
    (0x6e, .rmw .ror .abs), (0x7e, .rmw .ror .absx),
    -- RTI / RTS
    (0x40, .rti), (0x60, .rts),
    -- SBC
    (0xe9, .read .sbc .imm), (0xe5, .read .sbc .zp), (0xf5, .read .sbc .zpx),
    (0xed, .read .sbc .abs), (0xfd, .read .sbc .absx), (0xf9, .read .sbc .absy),
    (0xe1, .read .sbc .indx), (0xf1, .read .sbc .indy),
    -- STA / STX / STY
    (0x85, .store .a .zp), (0x95, .store .a .zpx), (0x8d, .store .a .abs), (0x9d, .store .a .absx),
    (0x99, .store .a .absy), (0x81, .store .a .indx), (0x91, .store .a .indy),
    (0x86, .store .x .zp), (0x96, .store .x .zpy), (0x8e, .store .x .abs),
    (0x84, .store .y .zp), (0x94, .store .y .zpx), (0x8c, .store .y .abs),
    -- transfers
    (0xaa, .transfer .x .a), (0xa8, .transfer .y .a), (0xba, .tsx), (0x8a, .transfer .a .x),
    (0x98, .transfer .a .y), (0x9a, .txs) ]

def cmosOpcodes : List (UInt8 × Insn) :=
  [ (0x80, .bra), (0x1a, .accumulator .inc), (0x3a, .accumulator .dec),
    (0x5a, .push .y), (0x7a, .pull .y), (0xda, .push .x), (0xfa, .pull .x),
    (0x64, .stz .zp), (0x74, .stz .zpx), (0x9c, .stz .abs), (0x9e, .stz .absx),
    (0x04, .rmw .tsb .zp), (0x0c, .rmw .tsb .abs), (0x14, .rmw .trb .zp), (0x1c, .rmw .trb .abs),
    (0x89, .read .bitImm .imm), (0x34, .read .bit .zpx), (0x3c, .read .bit .absx),
    (0x12, .read .ora .ind), (0x32, .read .and .ind), (0x52, .read .eor .ind),
    (0x72, .read .adc .ind), (0x92, .store .a .ind), (0xb2, .read (.ld .a) .ind),
    (0xd2, .read (.cmp .a) .ind), (0xf2, .read .sbc .ind),
    (0x7c, .jmpIndX), (0xdb, .stp) ]

/-- The `switch`: an opcode neither table has is illegal, and so is a CMOS one on an NMOS part. -/
def decode (cmos : Bool) (op : UInt8) : Insn :=
  match opcodes.lookup op with
  | some insn => insn
  | none => if cmos then (cmosOpcodes.lookup op).getD .illegal else .illegal

/-- Do what an opcode asks for, for all those that fall out of the `switch` at its end. -/
def perform : Insn → Exec State Unit
  | .read op mode => do
    let addr ← mode.addr
    let m ← rd8 addr
    let s ← get
    modifyRegs fun r => op.apply s.cmos r m
  | .rmw op mode => do
    let addr ← mode.addr
    opRmw addr op
  | .accumulator op => modifyRegs fun r => { (op.apply r r.a).1 with a := (op.apply r r.a).2 }
  | .store reg mode => do
    let addr ← mode.addr
    let s ← get
    wr8 addr (s.get reg)
  | .stz mode => do
    let addr ← mode.addr
    wr8 addr 0
  | .branch flag on => do
    let s ← get
    opBranch (s.toRegs.flag flag == on)
  | .bra => opBranch true
  | .flag flag on => modifyRegs fun r => setFlag r flag on
  | .transfer dst src => modifyRegs fun r => r.load dst (r.get src)
  | .tsx => modifyRegs fun r => r.load .x r.sp
  | .txs => modifyRegs fun r => { r with sp := r.x }
  | .increment reg => modifyRegs fun r => r.load reg (r.get reg + 1)
  | .decrement reg => modifyRegs fun r => r.load reg (r.get reg - 1)
  | .push reg => do
    let s ← get
    push8 (s.get reg)
  | .pull reg => do
    let val ← pop8
    modifyRegs fun r => r.load reg val
  | .php => do
    let s ← get
    push8 (s.p ||| flagB ||| flagU)
  | .plp => do
    let val ← pop8
    modifyRegs fun r => { r with p := val ||| flagU ||| flagB }
  | .jmp => do
    let addr ← amAbs
    modifyRegs fun r => { r with pc := addr }
  | .jmpInd => do
    let s ← get
    let addr ← amAbs
    let dest ← jmpTarget s.cmos addr
    modifyRegs fun r => { r with pc := dest }
  | .jmpIndX => do
    let base ← fetch16
    let s ← get
    let addr := base + s.x.toUInt16
    let dest ← rd16 addr (addr + 1)
    modifyRegs fun r => { r with pc := dest }
  | .jsr => do
    let target ← amAbs
    let s ← get
    let ret := s.pc - 1
    push8 (ret >>> 8).toUInt8
    push8 ret.toUInt8
    modifyRegs fun r => { r with pc := target }
  | .rti => do
    let p ← pop8
    modifyRegs fun r => { r with p := p ||| flagU ||| flagB }
    let lo ← pop8
    let hi ← pop8
    modifyRegs fun r => { r with pc := addr16 lo hi }
  | .rts => do
    let lo ← pop8
    let hi ← pop8
    modifyRegs fun r => { r with pc := addr16 lo hi + 1 }
  | .nop | .brk | .stp | .illegal => pure ()

/-! ## Timing -/

/-- `cycles_base`. -/
def cyclesBase : List Nat :=
  [ 7, 6, 0, 0, 0, 3, 5, 0, 3, 2, 2, 0, 0, 4, 6, 0,
    2, 5, 0, 0, 0, 4, 6, 0, 2, 4, 0, 0, 0, 4, 7, 0,
    6, 6, 0, 0, 3, 3, 5, 0, 4, 2, 2, 0, 4, 4, 6, 0,
    2, 5, 0, 0, 0, 4, 6, 0, 2, 4, 0, 0, 0, 4, 7, 0,
    6, 6, 0, 0, 0, 3, 5, 0, 3, 2, 2, 0, 3, 4, 6, 0,
    2, 5, 0, 0, 0, 4, 6, 0, 2, 4, 0, 0, 0, 4, 7, 0,
    6, 6, 0, 0, 0, 3, 5, 0, 4, 2, 2, 0, 5, 4, 6, 0,
    2, 5, 0, 0, 0, 4, 6, 0, 2, 4, 0, 0, 0, 4, 7, 0,
    0, 6, 0, 0, 3, 3, 3, 0, 2, 0, 2, 0, 4, 4, 4, 0,
    2, 6, 0, 0, 4, 4, 4, 0, 2, 5, 2, 0, 0, 5, 0, 0,
    2, 6, 2, 0, 3, 3, 3, 0, 2, 2, 2, 0, 4, 4, 4, 0,
    2, 5, 0, 0, 4, 4, 4, 0, 2, 4, 2, 0, 4, 4, 4, 0,
    2, 6, 0, 0, 3, 3, 5, 0, 2, 2, 2, 0, 4, 4, 6, 0,
    2, 5, 0, 0, 0, 4, 6, 0, 2, 4, 0, 0, 0, 4, 7, 0,
    2, 6, 0, 0, 3, 3, 5, 0, 2, 2, 2, 0, 4, 4, 6, 0,
    2, 5, 0, 0, 0, 4, 6, 0, 2, 4, 0, 0, 0, 4, 7, 0 ]

/-- `cycles_page_penalty`: the opcodes for which it is 1. -/
def cyclesPagePenalty : List UInt8 :=
  [ 0x11, 0x19, 0x1d, 0x31, 0x39, 0x3d, 0x51, 0x59, 0x5d, 0x71, 0x79, 0x7d, 0xb1, 0xb9, 0xbc, 0xbd,
    0xbe, 0xd1, 0xd9, 0xdd, 0xf1, 0xf9, 0xfd ]

/-- `cycles_cmos`: the opcodes for which it is not 0. -/
def cyclesCmos : List (UInt8 × Nat) :=
  [ (0x04, 5), (0x0c, 6), (0x12, 5), (0x14, 5), (0x1a, 2), (0x1c, 6), (0x32, 5), (0x34, 4),
    (0x3a, 2), (0x3c, 4), (0x52, 5), (0x5a, 3), (0x64, 3), (0x6c, 6), (0x72, 5), (0x74, 4),
    (0x7a, 4), (0x7c, 6), (0x80, 2), (0x89, 2), (0x92, 5), (0x9c, 4), (0x9e, 5), (0xb2, 5),
    (0xd2, 5), (0xda, 3), (0xdb, 3), (0xf2, 5), (0xfa, 4) ]

def decimalOpcodes : List UInt8 :=
  [ 0x69, 0x65, 0x75, 0x6d, 0x7d, 0x79, 0x61, 0x71, 0x72,
    0xe9, 0xe5, 0xf5, 0xed, 0xfd, 0xf9, 0xe1, 0xf1, 0xf2 ]

def cost (s : State) (op : UInt8) : Nat :=
  let base := cyclesBase.getD op.toNat 0
  let n := if s.cmos then (cyclesCmos.lookup op).getD base else base
  let n := if s.cmos && s.toRegs.flag flagD && decimalOpcodes.contains op then n + 1 else n
  if s.branchTaken then n + 1 + (if s.pageCrossed then 1 else 0)
  else if cyclesPagePenalty.contains op && s.pageCrossed then n + 1
  else n

/-! ## One instruction -/

/-- `cpu6502_abandon`. -/
def abandon : Exec State Nat := do
  modify fun s => { s with toRegs := s.saved }
  pure 0

def finish (op : UInt8) : Exec State Nat := do
  let s ← get
  if s.faulted then pure 0
  else if s.stalled then abandon
  else do
    modify fun s => { s with cycles := s.cycles + UInt64.ofNat (cost s op) }
    pure (cost s op)

def halt (n : Nat) : Exec State Nat := do
  modify fun s => { s with halted := true, haltReason := haltBrk, exitCode := s.a.toUInt32,
                           cycles := s.cycles + UInt64.ofNat n }
  pure n

def execute (op : UInt8) (insn : Insn) : Exec State Nat :=
  match insn with
  | .brk => do
    let _ ← fetch8
    halt (cyclesBase.getD 0x00 0)
  | .stp => halt ((cyclesCmos.lookup 0xdb).getD 0)
  | .illegal => do
    modify fun s => s.fault faultIllegal op.toUInt32
    pure 0
  | insn => do
    perform insn
    finish op

def State.prepare (s : State) : State :=
  { s with pageCrossed := false, branchTaken := false,
           saved := if s.canStall then s.toRegs else s.saved }

/-- `cpu6502_step`. -/
def step : Exec State Nat := do
  let s ← get
  if s.halted || s.faulted || s.stalled then pure 0
  else do
    modify State.prepare
    let op ← fetch8
    let s ← get
    if s.faulted then pure 0
    else if s.stalled then abandon
    else execute op (decode s.cmos op)

/-- `cpu6502_run`. -/
def run (cycles : Nat) : Exec State Nat := coreRun step cycles

/-! ## The core on a card -/

/-- `take_interrupt`. -/
def takeInterrupt (vector : UInt16) : Exec State Unit := do
  let s ← get
  push8 (s.pc >>> 8).toUInt8
  push8 s.pc.toUInt8
  push8 ((s.p ||| flagU) &&& ~~~flagB)
  modifyRegs fun r => { r with p := r.p ||| flagI }
  let dest ← rd16 vector (vector + 1)
  modifyRegs fun r => { r with pc := dest }

/-- `cpu6502_irq`. -/
def irq : Exec State Unit := do
  let s ← get
  if s.halted || s.faulted || s.toRegs.flag flagI then pure () else takeInterrupt 0xfffe

/-- `cpu6502_nmi`. -/
def nmi : Exec State Unit := do
  let s ← get
  if s.halted || s.faulted then pure () else takeInterrupt 0xfffa

/-- `cpu6502_reset`: memory, the hook, the saved registers and which part this is survive. -/
def reset (s : State) (entry : UInt16) : State :=
  { s with a := 0, x := 0, y := 0, sp := 0xfd, p := flagU ||| flagI, pc := entry,
           halted := false, haltReason := 0, exitCode := 0, faulted := false, faultCause := 0,
           faultAddr := 0, cycles := 0, stalled := false, pageCrossed := false,
           branchTaken := false }

/-- `cpu6502_init` on zeroed memory, and `cpu6502_set_cmos`. -/
def init (ramPresent : Bool) (ramSize : UInt32) (cmos : Bool) : State :=
  reset
    { a := 0, x := 0, y := 0, sp := 0, p := 0, pc := 0, ramPresent := ramPresent,
      ramSize := ramSize, halted := false, haltReason := 0, exitCode := 0, faulted := false,
      faultCause := 0, faultAddr := 0, cycles := 0, hooked := false, canStall := false,
      cmos := cmos, pageCrossed := false, branchTaken := false, stalled := false,
      saved := ⟨0, 0, 0, 0, 0, 0⟩ } 0

/-- `cpu6502_set_mem_hook`, with a hook. -/
def setMemHook (s : State) (canStall : Bool) : State :=
  { s with hooked := true, canStall := canStall, stalled := false }

def cpu6502Ops (id : UInt32) : CoreOps State where
  id := id
  reset s entry := reset s entry.toUInt16
  run := run
  step := do
    let _ ← step
    pure ()
  halted s := s.halted
  faulted s := s.faulted
  stalled s := s.stalled
  clearStall s := { s with stalled := false }
  pc s := s.pc.toUInt32
  cycles s := s.cycles.toUInt32
  faultCause s := s.faultCause
  faultAddr s := s.faultAddr
  exitCode s := s.exitCode
  setHook := setMemHook
  regRead s sel :=
    match sel with
    | 0 => s.a.toUInt32
    | 1 => s.x.toUInt32
    | 2 => s.y.toUInt32
    | 3 => s.sp.toUInt32
    | 4 => s.p.toUInt32
    | 5 => s.pc.toUInt32
    | _ => 0xffffffff
  regWrite s sel val :=
    match sel with
    | 0 => { s with a := val.toUInt8 }
    | 1 => { s with x := val.toUInt8 }
    | 2 => { s with y := val.toUInt8 }
    | 3 => { s with sp := val.toUInt8 }
    | 4 => { s with p := val.toUInt8 }
    | 5 => { s with pc := val.toUInt16 }
    | _ => s
  interrupt ctrl :=
    if ctrl &&& irqNmi ≠ 0 then nmi else if ctrl &&& 0x01 ≠ 0 then irq else pure ()

end Cpu6502

end RpcEmu
