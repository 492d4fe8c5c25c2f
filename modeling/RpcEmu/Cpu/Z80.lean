import RpcEmu.Copro.Card

/-!
# The Z80 core

`cpu_z80.c`: the documented Z80 instruction set, and the 8080's behind a flag.  The source decodes an
opcode by the fields it is made of — `x`, `y` and `z`, and `y`'s halves `p` and `q` — and so does this
model: a page is a `switch` on `x`, then on `z`, then on `y`.

* **Every page runs to its end.**  A read that stalls gives a zero and sets a flag, and nothing looks at
  the flag before the end of the step, except after the prefixes and the first opcode byte.
* **Prefixes.**  A run of DD and FD bytes is consumed in a loop that has no bound of its own, so the loop
  here takes fuel, and `step` gives `none` if it runs out.
* **`pfx`.**  The prefix byte is an argument, as it is in the source; the displacement, fetched at most
  once for each instruction, is kept in the state.
-/

namespace RpcEmu

open Effects

namespace CpuZ80

/-! ## State -/

structure Regs where
  a : UInt8
  f : UInt8
  b : UInt8
  c : UInt8
  d : UInt8
  e : UInt8
  h : UInt8
  l : UInt8
  a2 : UInt8
  f2 : UInt8
  b2 : UInt8
  c2 : UInt8
  d2 : UInt8
  e2 : UInt8
  h2 : UInt8
  l2 : UInt8
  ix : UInt16
  iy : UInt16
  sp : UInt16
  pc : UInt16
  i : UInt8
  r : UInt8
  iff1 : UInt8
  iff2 : UInt8
  im : UInt8
  deriving DecidableEq, Repr

/-- `cpu_z80_state`. -/
structure State extends Regs where
  ramPresent : Bool
  ramSize : UInt32
  /-- is a hook set? -/
  hooked : Bool
  canStall : Bool
  i8080 : Bool
  lastCycles : UInt8
  branchTaken : Bool
  /-- `disp_fetched` of the step's `pfx` -/
  dispFetched : Bool
  /-- `disp` of the step's `pfx` -/
  disp : UInt8
  stalled : Bool
  stallAddr : UInt32
  stallIsWrite : Bool
  saved : Regs
  halted : Bool
  haltReason : UInt32
  exitCode : UInt32
  faulted : Bool
  faultCause : UInt32
  faultAddr : UInt32
  cycles : UInt64
  deriving DecidableEq, Repr

/-- `CPU_Z80_FLAG_C`, carry. -/
def flagC : UInt8 := 0x01

/-- `CPU_Z80_FLAG_N`, add/subtract. -/
def flagN : UInt8 := 0x02

/-- `CPU_Z80_FLAG_PV`, parity or overflow. -/
def flagPV : UInt8 := 0x04

/-- `CPU_Z80_FLAG_X`, undocumented. -/
def flagX : UInt8 := 0x08

/-- `CPU_Z80_FLAG_H`, half carry. -/
def flagH : UInt8 := 0x10

/-- `CPU_Z80_FLAG_Y`, undocumented. -/
def flagY : UInt8 := 0x20

/-- `CPU_Z80_FLAG_Z`, zero. -/
def flagZ : UInt8 := 0x40

/-- `CPU_Z80_FLAG_S`, sign. -/
def flagS : UInt8 := 0x80

/-- `FLAG_XY`. -/
def flagXY : UInt8 := flagX ||| flagY

/-- `CPU_Z80_FAULT_ILLEGAL`. -/
def faultIllegal : UInt32 := 1

/-- `CPU_Z80_FAULT_ACCESS`. -/
def faultAccess : UInt32 := 2

/-- `CPU_Z80_HALT_HALT`. -/
def haltHalt : UInt32 := 1

/-- `fault`. -/
def State.fault (s : State) (cause addr : UInt32) : State :=
  { s with faulted := true, faultCause := cause, faultAddr := addr }

def modifyRegs (f : Regs → Regs) : Exec State Unit :=
  modify fun s => { s with toRegs := f s.toRegs }

/-- `fault` with the opcode it refuses. -/
def illegal (op : UInt8) : Exec State Unit := modify fun s => s.fault faultIllegal op.toUInt32

/-! ## Memory -/

/-- `hooked_read`: the address carries `CPU_MEM_PORT` when it is a port. -/
def hookedRead (addr : UInt32) : Exec State UInt8 := do
  match ← access (.memRead addr) with
  | (.ok, val) => pure val
  | (.stall, _) =>
    modify fun s => { s with stalled := true, stallAddr := addr, stallIsWrite := false }
    pure 0
  | (.busError, _) =>
    modify fun s => s.fault faultAccess (addr &&& 0xffff)
    pure 0

/-- `hooked_write`. -/
def hookedWrite (addr : UInt32) (val : UInt8) : Exec State Unit := do
  let s ← get
  match ← access (.memWrite addr val s.cycles) with
  | .ok => pure ()
  | .stall => modify fun s => { s with stalled := true, stallAddr := addr, stallIsWrite := true }
  | .busError => modify fun s => s.fault faultAccess (addr &&& 0xffff)

/-- `rd8`. -/
def rd8 (addr : UInt16) : Exec State UInt8 := do
  let s ← get
  if s.hooked then hookedRead addr.toUInt32
  else if !s.ramPresent || s.ramSize ≤ addr.toUInt32 then
    modify fun s => s.fault faultAccess addr.toUInt32
    pure 0
  else access (.ramRead addr.toUInt32)

/-- `wr8`. -/
def wr8 (addr : UInt16) (val : UInt8) : Exec State Unit := do
  let s ← get
  if s.hooked then hookedWrite addr.toUInt32 val
  else if !s.ramPresent || s.ramSize ≤ addr.toUInt32 then
    modify fun s => s.fault faultAccess addr.toUInt32
  else access (.ramWrite addr.toUInt32 val)

/-- `io_read`. -/
def ioRead (port : UInt8) : Exec State UInt8 := do
  let s ← get
  if s.hooked then hookedRead (port.toUInt32 ||| cpuMemPort) else access (.ioIn port)

/-- `io_write`. -/
def ioWrite (port val : UInt8) : Exec State Unit := do
  let s ← get
  if s.hooked then hookedWrite (port.toUInt32 ||| cpuMemPort) val else access (.ioOut port val)

def pair (hi lo : UInt8) : UInt16 := (hi.toUInt16 <<< 8) ||| lo.toUInt16

/-- `fetch8`. -/
def fetch8 : Exec State UInt8 := do
  let s ← get
  let val ← rd8 s.pc
  modifyRegs fun r => { r with pc := r.pc + 1 }
  pure val

/-- `fetch16`. -/
def fetch16 : Exec State UInt16 := do
  let lo ← fetch8
  let hi ← fetch8
  pure (pair hi lo)

/-- `rd16`. -/
def rd16 (addr : UInt16) : Exec State UInt16 := do
  let lo ← rd8 addr
  let hi ← rd8 (addr + 1)
  pure (pair hi lo)

/-- `wr16`. -/
def wr16 (addr val : UInt16) : Exec State Unit := do
  wr8 addr val.toUInt8
  wr8 (addr + 1) (val >>> 8).toUInt8

/-- `push16`. -/
def push16 (val : UInt16) : Exec State Unit := do
  modifyRegs fun r => { r with sp := r.sp - 2 }
  let s ← get
  wr16 s.sp val

/-- `pop16`. -/
def pop16 : Exec State UInt16 := do
  let s ← get
  let val ← rd16 s.sp
  modifyRegs fun r => { r with sp := r.sp + 2 }
  pure val

/-! ## Registers -/

namespace Regs

/-- `get_bc`. -/
def bc (r : Regs) : UInt16 := pair r.b r.c

/-- `get_de`. -/
def de (r : Regs) : UInt16 := pair r.d r.e

/-- `get_hl`. -/
def hl (r : Regs) : UInt16 := pair r.h r.l

/-- `set_bc`. -/
def setBc (r : Regs) (v : UInt16) : Regs := { r with b := (v >>> 8).toUInt8, c := v.toUInt8 }

/-- `set_de`. -/
def setDe (r : Regs) (v : UInt16) : Regs := { r with d := (v >>> 8).toUInt8, e := v.toUInt8 }

/-- `set_hl`. -/
def setHl (r : Regs) (v : UInt16) : Regs := { r with h := (v >>> 8).toUInt8, l := v.toUInt8 }

/-- `get_index`: HL, or an index register under a prefix. -/
def index (r : Regs) (pfx : UInt8) : UInt16 :=
  match pfx with
  | 0xdd => r.ix
  | 0xfd => r.iy
  | _ => r.hl

/-- `set_index`. -/
def setIndex (r : Regs) (pfx : UInt8) (v : UInt16) : Regs :=
  match pfx with
  | 0xdd => { r with ix := v }
  | 0xfd => { r with iy := v }
  | _ => r.setHl v

/-- `rp_read`. -/
def rpRead (r : Regs) (pfx : UInt8) : Nat → UInt16
  | 0 => r.bc
  | 1 => r.de
  | 2 => r.index pfx
  | _ => r.sp

/-- `rp_write`. -/
def rpWrite (r : Regs) (pfx : UInt8) (idx : Nat) (val : UInt16) : Regs :=
  match idx with
  | 0 => r.setBc val
  | 1 => r.setDe val
  | 2 => r.setIndex pfx val
  | _ => { r with sp := val }

/-- `rp2_read`: the fourth pair is AF. -/
def rp2Read (r : Regs) (pfx : UInt8) (idx : Nat) : UInt16 :=
  if idx = 3 then pair r.a r.f else r.rpRead pfx idx

/-- `rp2_write`. -/
def rp2Write (r : Regs) (pfx : UInt8) (idx : Nat) (val : UInt16) : Regs :=
  if idx = 3 then { r with a := (val >>> 8).toUInt8, f := val.toUInt8 }
  else r.rpWrite pfx idx val

def get8 (r : Regs) : Nat → UInt8
  | 0 => r.b
  | 1 => r.c
  | 2 => r.d
  | 3 => r.e
  | 4 => r.h
  | 5 => r.l
  | _ => r.a

def set8 (r : Regs) (idx : Nat) (val : UInt8) : Regs :=
  match idx with
  | 0 => { r with b := val }
  | 1 => { r with c := val }
  | 2 => { r with d := val }
  | 3 => { r with e := val }
  | 4 => { r with h := val }
  | 5 => { r with l := val }
  | _ => { r with a := val }

def flag (r : Regs) (flag : UInt8) : Bool := r.f &&& flag ≠ 0

end Regs

/-- `(uint16_t) (v + d)` for a signed byte `d`. -/
def offset16 (v : UInt16) (d : UInt8) : UInt16 := v + d.toInt8.toInt16.toUInt16

def fetchDisp : Exec State Unit := do
  let d ← fetch8
  modify fun s => { s with disp := d, dispFetched := true }

def State.dispAddr (s : State) (pfx : UInt8) : UInt16 := offset16 (s.index pfx) s.disp

/-- `idx_addr`: what register index 6 means, (HL) or (IX+d). -/
def idxAddr (pfx : UInt8) : Exec State UInt16 := do
  let s ← get
  if pfx = 0 then pure s.hl
  else if s.dispFetched then pure (s.dispAddr pfx)
  else do
    fetchDisp
    let s ← get
    pure (s.dispAddr pfx)

def indexHalf (pfx : UInt8) (idx : Nat) (idx6 : Bool) : Bool :=
  (idx = 4 || idx = 5) && pfx ≠ 0 && !idx6

/-- `reg_read`. -/
def regRead (pfx : UInt8) (idx : Nat) (idx6 : Bool) (op : UInt8) : Exec State UInt8 :=
  if idx = 6 then do
    let addr ← idxAddr pfx
    rd8 addr
  else if indexHalf pfx idx idx6 then do
    illegal op
    pure 0
  else do
    let s ← get
    pure (s.get8 idx)

/-- `reg_write`. -/
def regWrite (pfx : UInt8) (idx : Nat) (idx6 : Bool) (op val : UInt8) : Exec State Unit :=
  if idx = 6 then do
    let addr ← idxAddr pfx
    wr8 addr val
  else if indexHalf pfx idx idx6 then illegal op
  else modifyRegs fun r => r.set8 idx val

/-! ## Flags and arithmetic -/

def flagIf (b : Bool) (flag : UInt8) : UInt8 := if b then flag else 0

def flagsSZ (v : UInt8) : UInt8 := flagIf (v &&& 0x80 ≠ 0) flagS ||| flagIf (v = 0) flagZ

/-- `parity_even`. -/
def parityEven (v : UInt8) : Bool :=
  let v := v ^^^ (v >>> 4)
  let v := v ^^^ (v >>> 2)
  let v := v ^^^ (v >>> 1)
  v &&& 1 = 0

def flagsSZP (v : UInt8) : UInt8 := flagsSZ v ||| (v &&& flagXY) ||| flagIf (parityEven v) flagPV

/-- `store_flags`: on an 8080 the parity bit is always parity, and three bits are fixed. -/
def storeFlags (i8080 : Bool) (r : Regs) (f res : UInt8) (arithmetic : Bool) : Regs :=
  if i8080 then
    let f := if arithmetic then (f &&& ~~~flagPV) ||| flagIf (parityEven res) flagPV else f
    { r with f := (f &&& ~~~flagXY) ||| 0x02 }
  else { r with f := f }

/-- `alu_add`. -/
def aluAdd (i8080 : Bool) (r : Regs) (v : UInt8) (carryIn : UInt32) : Regs :=
  let a := r.a.toUInt32
  let v := v.toUInt32
  let res := a + v + carryIn
  let r8 := res.toUInt8
  let f := flagsSZ r8 ||| (r8 &&& flagXY) |||
    flagIf (((a &&& 0x0f) + (v &&& 0x0f) + carryIn) &&& 0x10 ≠ 0) flagH |||
    flagIf (~~~(a ^^^ v) &&& (a ^^^ res) &&& 0x80 ≠ 0) flagPV |||
    flagIf (res &&& 0x100 ≠ 0) flagC
  storeFlags i8080 { r with a := r8 } f r8 true

/-- `alu_sub`: SUB, SBC and, not storing, CP. -/
def aluSub (i8080 : Bool) (r : Regs) (v : UInt8) (borrow : UInt32) (store : Bool) : Regs :=
  let a := r.a.toUInt32
  let w := v.toUInt32
  let res := (a - w - borrow) &&& 0x1ff
  let r8 := res.toUInt8
  let f := flagN ||| flagsSZ r8 ||| ((if store then r8 else v) &&& flagXY) |||
    flagIf (((a &&& 0x0f) - (w &&& 0x0f) - borrow) &&& 0x10 ≠ 0) flagH |||
    flagIf ((a ^^^ w) &&& (a ^^^ res) &&& 0x80 ≠ 0) flagPV |||
    flagIf (res &&& 0x100 ≠ 0) flagC
  storeFlags i8080 (if store then { r with a := r8 } else r) f r8 true

/-- `alu_logic`. -/
def aluLogic (i8080 : Bool) (r : Regs) (res : UInt8) (halfCarry : Bool) : Regs :=
  storeFlags i8080 { r with a := res } (flagsSZP res ||| flagIf halfCarry flagH) res false

/-- `alu_inc`. -/
def aluInc (i8080 : Bool) (r : Regs) (v : UInt8) : Regs × UInt8 :=
  let res := v + 1
  let f := (r.f &&& flagC) ||| flagsSZ res ||| (res &&& flagXY) |||
    flagIf (v &&& 0x0f = 0x0f) flagH ||| flagIf (v = 0x7f) flagPV
  (storeFlags i8080 r f res true, res)

/-- `alu_dec`. -/
def aluDec (i8080 : Bool) (r : Regs) (v : UInt8) : Regs × UInt8 :=
  let res := v - 1
  let f := (r.f &&& flagC) ||| flagN ||| flagsSZ res ||| (res &&& flagXY) |||
    flagIf (v &&& 0x0f = 0) flagH ||| flagIf (v = 0x80) flagPV
  (storeFlags i8080 r f res true, res)

def Regs.carry (r : Regs) : UInt32 := if r.flag flagC then 1 else 0

/-- `alu_op`. -/
def aluOp (i8080 : Bool) (r : Regs) (y : Nat) (v : UInt8) : Regs :=
  match y with
  | 0 => aluAdd i8080 r v 0
  | 1 => aluAdd i8080 r v r.carry
  | 2 => aluSub i8080 r v 0 true
  | 3 => aluSub i8080 r v r.carry true
  | 4 => aluLogic i8080 r (r.a &&& v) true
  | 5 => aluLogic i8080 r (r.a ^^^ v) false
  | 6 => aluLogic i8080 r (r.a ||| v) false
  | _ => aluSub i8080 r v 0 false

/-- `alu_add16`. -/
def aluAdd16 (r : Regs) (a b : UInt16) : Regs × UInt16 :=
  let a := a.toUInt32
  let b := b.toUInt32
  let res := a + b
  let f := (r.f &&& (flagS ||| flagZ ||| flagPV)) |||
    flagIf (((a &&& 0x0fff) + (b &&& 0x0fff)) &&& 0x1000 ≠ 0) flagH |||
    flagIf (res &&& 0x10000 ≠ 0) flagC ||| ((res >>> 8).toUInt8 &&& flagXY)
  ({ r with f := f }, res.toUInt16)

/-- `alu_adc16`. -/
def aluAdc16 (r : Regs) (v : UInt16) (subtract : Bool) : Regs :=
  let hl := r.hl.toUInt32
  let v := v.toUInt32
  let res := if subtract then (hl - v - r.carry) &&& 0x1ffff else hl + v + r.carry
  let f :=
    if subtract then
      flagN ||| flagIf (((hl &&& 0x0fff) - (v &&& 0x0fff) - r.carry) &&& 0x1000 ≠ 0) flagH |||
        flagIf ((hl ^^^ v) &&& (hl ^^^ res) &&& 0x8000 ≠ 0) flagPV
    else
      flagIf (((hl &&& 0x0fff) + (v &&& 0x0fff) + r.carry) &&& 0x1000 ≠ 0) flagH |||
        flagIf (~~~(hl ^^^ v) &&& (hl ^^^ res) &&& 0x8000 ≠ 0) flagPV
  let f := f ||| flagIf (res &&& 0x10000 ≠ 0) flagC ||| flagIf (res.toUInt16 = 0) flagZ |||
    flagIf (res &&& 0x8000 ≠ 0) flagS ||| ((res >>> 8).toUInt8 &&& flagXY)
  { r.setHl res.toUInt16 with f := f }

/-- `alu_daa`. -/
def aluDaa (i8080 : Bool) (r : Regs) : Regs :=
  let a := r.a
  let subtract := !i8080 && r.flag flagN
  let low := r.flag flagH || a &&& 0x0f > 9
  let high := r.flag flagC || a > 0x99
  let adjust := flagIf low 0x06 ||| flagIf high 0x60
  let res := if subtract then a - adjust else a + adjust
  let half := if subtract then r.flag flagH && a &&& 0x0f < 6 else a &&& 0x0f > 9
  let f := flagIf subtract flagN ||| flagIf high flagC ||| flagIf half flagH ||| flagsSZP res
  storeFlags i8080 { r with a := res } f res false

def rotate (r : Regs) (y : Nat) (v : UInt8) : Bool × UInt8 :=
  match y with
  | 0 => (v &&& 0x80 ≠ 0, (v <<< 1) ||| ((v >>> 7) &&& 1))
  | 1 => (v &&& 1 ≠ 0, (v >>> 1) ||| ((v &&& 1) <<< 7))
  | 2 => (v &&& 0x80 ≠ 0, (v <<< 1) ||| flagIf (r.flag flagC) 1)
  | 3 => (v &&& 1 ≠ 0, (v >>> 1) ||| flagIf (r.flag flagC) 0x80)
  | 4 => (v &&& 0x80 ≠ 0, v <<< 1)
  | 5 => (v &&& 1 ≠ 0, (v >>> 1) ||| (v &&& 0x80))
  | _ => (v &&& 1 ≠ 0, v >>> 1)

/-- `cb_shift`: SLL is undocumented, and gives its operand back. -/
def cbShift (y : Nat) (v op : UInt8) : Exec State UInt8 :=
  if y = 6 then do
    illegal op
    pure v
  else do
    let s ← get
    let (out, res) := rotate s.toRegs y v
    modifyRegs fun r => { r with f := flagsSZP res ||| flagIf out flagC }
    pure res

def bitMask (bit : Nat) : UInt8 := 1 <<< UInt8.ofNat bit

/-- `cb_bit`. -/
def cbBit (r : Regs) (bit : Nat) (v : UInt8) : Regs :=
  let on : Bool := v &&& bitMask bit ≠ 0
  let f := (r.f &&& flagC) ||| flagH ||| flagIf (!on) (flagZ ||| flagPV) |||
    flagIf (bit = 7 && on) flagS ||| (v &&& flagXY)
  { r with f := f }

/-- `rot_a`: the rotates of the main page leave S, Z and P alone. -/
def rotA (r : Regs) (y : Nat) : Regs :=
  let (out, res) := rotate r y r.a
  let f := (r.f &&& (flagS ||| flagZ ||| flagPV)) ||| flagIf out flagC ||| (res &&& flagXY)
  { r with a := res, f := f }

/-- `condition`. -/
def condition (r : Regs) : Nat → Bool
  | 0 => !r.flag flagZ
  | 1 => r.flag flagZ
  | 2 => !r.flag flagC
  | 3 => r.flag flagC
  | 4 => !r.flag flagPV
  | 5 => r.flag flagPV
  | 6 => !r.flag flagS
  | _ => r.flag flagS

/-! ## The fields of an opcode -/

/-- `x`, the quadrant. -/
def fieldX (op : UInt8) : Nat := (op >>> 6).toNat

/-- `y`, the row. -/
def fieldY (op : UInt8) : Nat := ((op >>> 3) &&& 7).toNat

/-- `z`, the operand or group. -/
def fieldZ (op : UInt8) : Nat := (op &&& 7).toNat

/-- `p` (the source's `rp`), the register pair of a row. -/
def fieldP (y : Nat) : Nat := y / 2

/-- `q`, the direction of a row. -/
def fieldQ (y : Nat) : Nat := y % 2

/-! ## The ED page -/

def again : Exec State Unit := modify fun s => { s with pc := s.pc - 2, lastCycles := 21 }

def blockLoad (step : UInt16) (repeats : Bool) : Exec State Unit := do
  let s ← get
  let v ← rd8 s.hl
  let bc := s.bc - 1
  let n := v + s.a
  wr8 s.de v
  let f := (s.f &&& (flagS ||| flagZ ||| flagC)) ||| flagIf (bc ≠ 0) flagPV |||
    flagIf (n &&& 0x08 ≠ 0) flagX ||| flagIf (n &&& 0x02 ≠ 0) flagY
  modifyRegs fun r =>
    { ((r.setHl (s.hl + step)).setDe (s.de + step)).setBc bc with f := f }
  if repeats && bc ≠ 0 then again else pure ()

def blockCompare (step : UInt16) (repeats : Bool) : Exec State Unit := do
  let s ← get
  let v ← rd8 s.hl
  let bc := s.bc - 1
  let res := s.a - v
  let half : Bool := ((s.a &&& 0x0f).toUInt32 - (v &&& 0x0f).toUInt32) &&& 0x10 ≠ 0
  let n := res - (if half then 1 else 0)
  let f := (s.f &&& flagC) ||| flagN ||| flagsSZ res ||| flagIf half flagH |||
    flagIf (bc ≠ 0) flagPV ||| flagIf (n &&& 0x08 ≠ 0) flagX ||| flagIf (n &&& 0x02 ≠ 0) flagY
  modifyRegs fun r => { (r.setHl (s.hl + step)).setBc bc with f := f }
  if repeats && bc ≠ 0 && res ≠ 0 then again else pure ()

def blockCount (step : UInt16) (repeats : Bool) : Exec State Unit := do
  let s ← get
  let b := s.b - 1
  modifyRegs fun r =>
    { r.setHl (s.hl + step) with b := b, f := (r.f &&& flagC) ||| flagN ||| flagsSZ b }
  if repeats && b ≠ 0 then again else pure ()

def blockIn (step : UInt16) (repeats : Bool) : Exec State Unit := do
  let s ← get
  let v ← ioRead s.c
  wr8 s.hl v
  blockCount step repeats

def blockOut (step : UInt16) (repeats : Bool) : Exec State Unit := do
  let s ← get
  let v ← rd8 s.hl
  ioWrite s.c v
  blockCount step repeats

/-- `ed_block`: an odd row goes down, and rows 6 and 7 repeat. -/
def edBlock (y z : Nat) : Exec State Unit :=
  let step : UInt16 := if y % 2 = 1 then 0xffff else 1
  let repeats : Bool := 6 ≤ y
  match z with
  | 0 => blockLoad step repeats
  | 1 => blockCompare step repeats
  | 2 => blockIn step repeats
  | _ => blockOut step repeats

/-- RLD (`left`) and RRD: what (HL) and the accumulator become. -/
def nibbleRotate (left : Bool) (a m : UInt8) : UInt8 × UInt8 :=
  let low : UInt8 := 0x0f
  if left then ((m <<< 4) ||| (a &&& low), (a &&& ~~~low) ||| (m >>> 4))
  else ((a <<< 4) ||| (m >>> 4), (a &&& ~~~low) ||| (m &&& low))

/-- `ed_nibble_rotate`. -/
def edNibbleRotate (left : Bool) : Exec State Unit := do
  let s ← get
  let m ← rd8 s.hl
  let (res, a) := nibbleRotate left s.a m
  wr8 s.hl res
  modifyRegs fun r => { r with a := a, f := (r.f &&& flagC) ||| flagsSZP a }

/-- `ed_page_charge`. -/
def edPageCharge (op : UInt8) : UInt8 :=
  match fieldX op, fieldZ op with
  | 2, _ => 16
  | 1, 0 => 12
  | 1, 1 => 12
  | 1, 2 => 15
  | 1, 3 => 20
  | 1, 4 => 8
  | 1, 5 => 14
  | 1, 6 => 8
  | 1, _ => if 4 ≤ fieldY op then 18 else 9
  | _, _ => 8

def edIn (pfx op : UInt8) : Exec State Unit := do
  let s ← get
  let v ← ioRead s.c
  modifyRegs fun r => { r with f := (r.f &&& flagC) ||| flagsSZP v }
  if fieldY op ≠ 6 then regWrite pfx (fieldY op) false op v else pure ()

def edOut (pfx op : UInt8) : Exec State Unit := do
  let v ← regRead pfx (fieldY op) false op
  let s ← get
  ioWrite s.c v

def edLoad16 (pfx : UInt8) (y : Nat) : Exec State Unit := do
  let addr ← fetch16
  if fieldQ y = 0 then do
    let s ← get
    wr16 addr (s.rpRead pfx (fieldP y))
  else do
    let v ← rd16 addr
    modifyRegs fun r => r.rpWrite pfx (fieldP y) v

def loadSpecial (r : Regs) (v : UInt8) : Regs :=
  { r with a := v, f := (r.f &&& flagC) ||| flagsSZ v ||| flagIf (r.iff2 ≠ 0) flagPV |||
      (v &&& flagXY) }

def interruptMode : Nat → UInt8
  | 0 | 1 | 4 | 5 => 0
  | 2 | 6 => 1
  | _ => 2

def edSpecial (op : UInt8) : Exec State Unit :=
  match fieldY op with
  | 0 => modifyRegs fun r => { r with i := r.a }
  | 1 => modifyRegs fun r => { r with r := r.a }
  | 2 => modifyRegs fun r => loadSpecial r r.i
  | 3 => modifyRegs fun r => loadSpecial r r.r
  | 4 => edNibbleRotate false
  | 5 => edNibbleRotate true
  | _ => illegal op

/-- `ed_page`, once its opcode is fetched. -/
def edBody (pfx op : UInt8) : Exec State Unit :=
  let y := fieldY op
  if pfx ≠ 0 then illegal op
  else
    match fieldX op with
    | 2 => if 4 ≤ y && fieldZ op ≤ 3 then edBlock y (fieldZ op) else illegal op
    | 1 =>
      match fieldZ op with
      | 0 => edIn pfx op
      | 1 => if y = 6 then illegal op else edOut pfx op
      | 2 => modifyRegs fun r => aluAdc16 r (r.rpRead pfx (fieldP y)) (fieldQ y = 0)
      | 3 => edLoad16 pfx y
      | 4 => modify fun s => { s with toRegs := aluSub s.i8080 { s.toRegs with a := 0 } s.a 0 true }
      | 5 => do
        modifyRegs fun r => { r with iff1 := r.iff2 }
        let dest ← pop16
        modifyRegs fun r => { r with pc := dest }
      | 6 => modifyRegs fun r => { r with im := interruptMode y }
      | _ => edSpecial op
    | _ => illegal op

/-- `ed_page`. -/
def edPage (pfx : UInt8) : Exec State Unit := do
  let op ← fetch8
  modify fun s => { s with lastCycles := edPageCharge op }
  edBody pfx op

/-! ## The CB page -/

/-- What an opcode of the CB page costs: `Z80_CB_*` and `Z80_DDCB_*`. -/
def cbCycles (pfx op : UInt8) : UInt8 :=
  if pfx ≠ 0 then if fieldX op = 1 then 20 else 23
  else if fieldZ op = 6 then if fieldX op = 1 then 12 else 15
  else 8

def cbModify (op v : UInt8) : Exec State UInt8 :=
  match fieldX op with
  | 0 => cbShift (fieldY op) v op
  | 2 => pure (v &&& ~~~bitMask (fieldY op))
  | _ => pure (v ||| bitMask (fieldY op))

def cbOperand (pfx op : UInt8) (addr : UInt16) : Exec State UInt8 :=
  if fieldZ op = 6 then rd8 addr else regRead pfx (fieldZ op) false op

/-- `cb_page`, once its opcode is fetched. -/
def cbBody (pfx op : UInt8) : Exec State Unit :=
  if pfx ≠ 0 && fieldZ op ≠ 6 then illegal op
  else do
    let s ← get
    let addr := if pfx ≠ 0 then s.dispAddr pfx else s.hl
    let v ← cbOperand pfx op addr
    let s ← get
    if s.faulted then pure ()
    else if fieldX op = 1 then modifyRegs fun r => cbBit r (fieldY op) v
    else do
      let v ← cbModify op v
      let s ← get
      if s.faulted then pure ()
      else if fieldZ op = 6 then wr8 addr v
      else regWrite pfx (fieldZ op) false op v

def cbOpcode (pfx : UInt8) : Exec State Unit := do
  let op ← fetch8
  modify fun s => { s with lastCycles := cbCycles pfx op }
  cbBody pfx op

/-- `cb_page`: under a prefix the displacement comes before the opcode. -/
def cbPage (pfx : UInt8) : Exec State Unit :=
  if pfx ≠ 0 then do
    fetchDisp
    cbOpcode pfx
  else cbOpcode pfx

/-! ## The main page -/

def jumpRelative (d : UInt8) : Exec State Unit := modifyRegs fun r => { r with pc := offset16 r.pc d }

/-- `branch_taken = 1`. -/
def branch : Exec State Unit := modify fun s => { s with branchTaken := true }

def mainJump (y : Nat) : Exec State Unit :=
  match y with
  | 0 => pure ()
  | 1 => modifyRegs fun r => { r with a := r.a2, a2 := r.a, f := r.f2, f2 := r.f }
  | 2 => do
    let d ← fetch8
    modifyRegs fun r => { r with b := r.b - 1 }
    let s ← get
    if s.b ≠ 0 then do
      jumpRelative d
      branch
    else pure ()
  | 3 => do
    let d ← fetch8
    jumpRelative d
  | _ => do
    let d ← fetch8
    let s ← get
    if condition s.toRegs (y - 4) then do
      jumpRelative d
      branch
    else pure ()

def mainPair (pfx : UInt8) (y : Nat) : Exec State Unit :=
  if fieldQ y = 0 then do
    let nn ← fetch16
    modifyRegs fun r => r.rpWrite pfx (fieldP y) nn
  else
    modifyRegs fun r =>
      let (r', sum) := aluAdd16 r (r.index pfx) (r.rpRead pfx (fieldP y))
      r'.setIndex pfx sum

def mainIndirect (pfx : UInt8) (y : Nat) : Exec State Unit := do
  match y with
  | 0 => do
    let s ← get
    wr8 s.bc s.a
  | 1 => do
    let s ← get
    let v ← rd8 s.bc
    modifyRegs fun r => { r with a := v }
  | 2 => do
    let s ← get
    wr8 s.de s.a
  | 3 => do
    let s ← get
    let v ← rd8 s.de
    modifyRegs fun r => { r with a := v }
  | 4 => do
    let addr ← fetch16
    let s ← get
    wr16 addr (s.index pfx)
  | 5 => do
    let addr ← fetch16
    let v ← rd16 addr
    modifyRegs fun r => r.setIndex pfx v
  | 6 => do
    let addr ← fetch16
    let s ← get
    wr8 addr s.a
  | _ => do
    let addr ← fetch16
    let v ← rd8 addr
    modifyRegs fun r => { r with a := v }

/-- INC r and DEC r: `false` for the `return 0` of an operand that faulted. -/
def mainStep (alu : Bool → Regs → UInt8 → Regs × UInt8) (pfx op : UInt8) : Exec State Bool := do
  let y := fieldY op
  let v ← regRead pfx y (y = 6) op
  let s ← get
  if s.faulted then pure false
  else do
    let (r, res) := alu s.i8080 s.toRegs v
    modifyRegs fun _ => r
    regWrite pfx y (y = 6) op res
    pure true

def mainLoadImmediate (pfx op : UInt8) : Exec State Unit := do
  let y := fieldY op
  if y = 6 && pfx ≠ 0 then do
    let addr ← idxAddr pfx
    let n ← fetch8
    wr8 addr n
  else do
    let n ← fetch8
    regWrite pfx y (y = 6) op n

def mainAccumulator (i8080 : Bool) (r : Regs) (y : Nat) : Regs :=
  match y with
  | 0 | 1 | 2 | 3 => rotA r y
  | 4 => aluDaa i8080 r
  | 5 =>
    let a := ~~~r.a
    let f := (r.f &&& (flagS ||| flagZ ||| flagPV ||| flagC)) ||| flagH ||| flagN ||| (a &&& flagXY)
    { r with a := a, f := f }
  | 6 => { r with f := (r.f &&& (flagS ||| flagZ ||| flagPV)) ||| flagC ||| (r.a &&& flagXY) }
  | _ =>
    let f := (r.f &&& (flagS ||| flagZ ||| flagPV)) |||
      (if r.flag flagC then flagH else flagC) ||| (r.a &&& flagXY)
    { r with f := f }

/-- An instruction that falls out of the `switch`. -/
def fallsOut (x : Exec State Unit) : Exec State Bool := do
  x
  pure true

/-- Quadrant 0 of `main_page`. -/
def mainQuadrant0 (pfx op : UInt8) : Exec State Bool :=
  let y := fieldY op
  match fieldZ op with
  | 0 => fallsOut (mainJump y)
  | 1 => fallsOut (mainPair pfx y)
  | 2 => fallsOut (mainIndirect pfx y)
  | 3 => fallsOut (modifyRegs fun r =>
    r.rpWrite pfx (fieldP y) (r.rpRead pfx (fieldP y) + (if fieldQ y = 0 then 1 else 0xffff)))
  | 4 => mainStep aluInc pfx op
  | 5 => mainStep aluDec pfx op
  | 6 => fallsOut (mainLoadImmediate pfx op)
  | _ => fallsOut (modify fun s => { s with toRegs := mainAccumulator s.i8080 s.toRegs y })

def mainQuadrant1 (pfx op : UInt8) : Exec State Bool :=
  let y := fieldY op
  let z := fieldZ op
  if y = 6 && z = 6 then
    fallsOut (modify fun s =>
      { s with halted := true, haltReason := haltHalt, exitCode := s.a.toUInt32 })
  else do
    let idx6 : Bool := y = 6 || z = 6
    let v ← regRead pfx z idx6 op
    let s ← get
    if s.faulted then pure false
    else fallsOut (regWrite pfx y idx6 op v)

def mainQuadrant2 (pfx op : UInt8) : Exec State Bool := do
  let z := fieldZ op
  let v ← regRead pfx z (z = 6) op
  let s ← get
  if s.faulted then pure false
  else fallsOut (modify fun s => { s with toRegs := aluOp s.i8080 s.toRegs (fieldY op) v })

def mainReturn (pfx : UInt8) (y : Nat) : Exec State Unit :=
  match fieldP y with
  | 0 => do
    let dest ← pop16
    modifyRegs fun r => { r with pc := dest }
  | 1 => modifyRegs fun r =>
    { r with b := r.b2, c := r.c2, b2 := r.b, c2 := r.c, d := r.d2, e := r.e2, d2 := r.d, e2 := r.e,
             h := r.h2, l := r.l2, h2 := r.h, l2 := r.l }
  | 2 => modifyRegs fun r => { r with pc := r.index pfx }
  | _ => modifyRegs fun r => { r with sp := r.index pfx }

def mainExchange (pfx : UInt8) (y : Nat) : Exec State Unit :=
  match y with
  | 0 => do
    let dest ← fetch16
    modifyRegs fun r => { r with pc := dest }
  | 1 => cbPage pfx
  | 2 => do
    let port ← fetch8
    let s ← get
    ioWrite port s.a
  | 3 => do
    let port ← fetch8
    let v ← ioRead port
    modifyRegs fun r => { r with a := v }
  | 4 => do
    let s ← get
    let v ← rd16 s.sp
    wr16 s.sp (s.index pfx)
    modifyRegs fun r => r.setIndex pfx v
  | 5 => modifyRegs fun r => (r.setDe r.hl).setHl r.de
  | 6 => modifyRegs fun r => { r with iff1 := 0, iff2 := 0 }
  | _ => modifyRegs fun r => { r with iff1 := 1, iff2 := 1 }

def call (dest : UInt16) : Exec State Unit := do
  let s ← get
  push16 s.pc
  modifyRegs fun r => { r with pc := dest }

def mainPush (pfx op : UInt8) : Exec State Unit :=
  let y := fieldY op
  if fieldQ y = 0 then do
    let s ← get
    push16 (s.rp2Read pfx (fieldP y))
  else if fieldP y = 0 then do
    let dest ← fetch16
    call dest
  else illegal op

/-- Quadrant 3 of `main_page`. -/
def mainQuadrant3 (pfx op : UInt8) : Exec State Unit :=
  let y := fieldY op
  match fieldZ op with
  | 0 => do
    let s ← get
    if condition s.toRegs y then do
      let dest ← pop16
      modifyRegs fun r => { r with pc := dest }
      branch
    else pure ()
  | 1 =>
    if fieldQ y = 0 then do
      let v ← pop16
      modifyRegs fun r => r.rp2Write pfx (fieldP y) v
    else mainReturn pfx y
  | 2 => do
    let dest ← fetch16
    let s ← get
    if condition s.toRegs y then do
      modifyRegs fun r => { r with pc := dest }
      branch
    else pure ()
  | 3 => mainExchange pfx y
  | 4 => do
    let dest ← fetch16
    let s ← get
    if condition s.toRegs y then do
      call dest
      branch
    else pure ()
  | 5 => mainPush pfx op
  | 6 => do
    let v ← fetch8
    modify fun s => { s with toRegs := aluOp s.i8080 s.toRegs y v }
  | _ => call (UInt16.ofNat (y * 8))

/-! ## Timing -/

/-- `cycles_main`. -/
def cyclesMain : List UInt8 :=
  [ 4, 10, 7, 6, 4, 4, 7, 4, 4, 11, 7, 6, 4, 4, 7, 4,
    8, 10, 7, 6, 4, 4, 7, 4, 12, 11, 7, 6, 4, 4, 7, 4,
    7, 10, 16, 6, 4, 4, 7, 4, 7, 11, 16, 6, 4, 4, 7, 4,
    7, 10, 13, 6, 11, 11, 10, 4, 7, 11, 13, 6, 4, 4, 7, 4,
    4, 4, 4, 4, 4, 4, 7, 4, 4, 4, 4, 4, 4, 4, 7, 4,
    4, 4, 4, 4, 4, 4, 7, 4, 4, 4, 4, 4, 4, 4, 7, 4,
    4, 4, 4, 4, 4, 4, 7, 4, 4, 4, 4, 4, 4, 4, 7, 4,
    7, 7, 7, 7, 7, 7, 4, 7, 4, 4, 4, 4, 4, 4, 7, 4,
    4, 4, 4, 4, 4, 4, 7, 4, 4, 4, 4, 4, 4, 4, 7, 4,
    4, 4, 4, 4, 4, 4, 7, 4, 4, 4, 4, 4, 4, 4, 7, 4,
    4, 4, 4, 4, 4, 4, 7, 4, 4, 4, 4, 4, 4, 4, 7, 4,
    4, 4, 4, 4, 4, 4, 7, 4, 4, 4, 4, 4, 4, 4, 7, 4,
    5, 10, 10, 10, 10, 11, 7, 11, 5, 10, 10, 7, 10, 17, 7, 11,
    5, 10, 10, 11, 10, 11, 7, 11, 5, 4, 10, 11, 10, 7, 7, 11,
    5, 10, 10, 19, 10, 11, 7, 11, 5, 4, 10, 4, 10, 4, 7, 11,
    5, 10, 10, 4, 10, 11, 7, 11, 5, 6, 10, 4, 10, 7, 7, 11 ]

/-- `cycles_8080`: 0 where the Z80's figure holds. -/
def cycles8080 : List UInt8 :=
  [ 0, 0, 0, 5, 5, 5, 0, 0, 0, 10, 0, 5, 5, 5, 0, 0,
    0, 0, 0, 5, 5, 5, 0, 0, 0, 10, 0, 5, 5, 5, 0, 0,
    0, 0, 0, 5, 5, 5, 0, 0, 0, 10, 0, 5, 5, 5, 0, 0,
    0, 0, 0, 5, 10, 10, 0, 0, 0, 10, 0, 5, 5, 5, 0, 0,
    5, 5, 5, 5, 5, 5, 0, 5, 5, 5, 5, 5, 5, 5, 0, 5,
    5, 5, 5, 5, 5, 5, 0, 5, 5, 5, 5, 5, 5, 5, 0, 5,
    5, 5, 5, 5, 5, 5, 0, 5, 5, 5, 5, 5, 5, 5, 0, 5,
    0, 0, 0, 0, 0, 0, 7, 0, 5, 5, 5, 5, 5, 5, 0, 5,
    0, 0, 0, 0, 0, 0, 0, 0, 0, 0, 0, 0, 0, 0, 0, 0,
    0, 0, 0, 0, 0, 0, 0, 0, 0, 0, 0, 0, 0, 0, 0, 0,
    0, 0, 0, 0, 0, 0, 0, 0, 0, 0, 0, 0, 0, 0, 0, 0,
    0, 0, 0, 0, 0, 0, 0, 0, 0, 0, 0, 0, 0, 0, 0, 0,
    0, 0, 0, 0, 11, 0, 0, 0, 0, 0, 0, 0, 11, 0, 0, 0,
    0, 0, 0, 10, 11, 0, 0, 0, 0, 0, 0, 10, 11, 0, 0, 0,
    0, 0, 0, 18, 11, 0, 0, 0, 0, 5, 0, 0, 11, 0, 0, 0,
    0, 0, 0, 0, 11, 0, 0, 0, 0, 5, 0, 0, 11, 0, 0, 0 ]

/-- `cycles_taken`: the opcodes for which it is not 0. -/
def cyclesTaken : List (UInt8 × UInt8) :=
  [ (0x10, 5), (0x20, 5), (0x28, 5), (0x30, 5), (0x38, 5), (0xc0, 6), (0xc4, 7), (0xc8, 6),
    (0xcc, 7), (0xd0, 6), (0xd4, 7), (0xd8, 6), (0xdc, 7), (0xe0, 6), (0xe4, 7), (0xe8, 6),
    (0xec, 7), (0xf0, 6), (0xf4, 7), (0xf8, 6), (0xfc, 7) ]

/-- What an instruction of the main page cost: `Z80_PREFIX_COST` and a displacement on top. -/
def mainCost (s : State) (pfx op : UInt8) : UInt8 :=
  let other := cycles8080.getD op.toNat 0
  let base := if s.i8080 && other ≠ 0 then other else cyclesMain.getD op.toNat 0
  let n := if s.branchTaken then base + (cyclesTaken.lookup op).getD 0 else base
  if pfx ≠ 0 then
    if s.dispFetched then n + 4 + (if op = 0x36 then 5 else 8) else n + 4
  else n

/-! ## One instruction -/

/-- The four quadrants of `main_page`: `false` for an early return. -/
def mainBody (pfx op : UInt8) : Exec State Bool :=
  match fieldX op with
  | 0 => mainQuadrant0 pfx op
  | 1 => mainQuadrant1 pfx op
  | 2 => mainQuadrant2 pfx op
  | _ => fallsOut (mainQuadrant3 pfx op)

/-- `main_page`, once its opcode is fetched.  CB has charged itself. -/
def mainOpcode (pfx op : UInt8) : Exec State Unit := do
  let s ← get
  if s.faulted then pure ()
  else do
    let fell ← mainBody pfx op
    if fell && op ≠ 0xcb then modify fun s => { s with lastCycles := mainCost s pfx op } else pure ()

/-- `main_page`.  What it returns is whether the core has faulted, which `finish` looks at. -/
def mainPage (pfx : UInt8) : Exec State Unit := do
  let op ← fetch8
  mainOpcode pfx op

/-- `cpu_z80_abandon`. -/
def abandon : Exec State Nat := do
  modify fun s => { s with toRegs := s.saved }
  pure 0

def finish : Exec State Nat := do
  let s ← get
  if s.faulted then pure 0
  else if s.stalled then abandon
  else do
    modify fun s => { s with cycles := s.cycles + s.lastCycles.toUInt64 }
    pure s.lastCycles.toNat

/-- What an instruction clears and keeps before it starts: `cpu_z80_save`, and a fresh `pfx`. -/
def State.prepare (s : State) : State :=
  { s with branchTaken := false, dispFetched := false, disp := 0,
           saved := if s.canStall then s.toRegs else s.saved }

def isPrefixByte (b : UInt8) : Bool := b = 0xdd || b = 0xfd

/-- The loop that consumes index prefixes, only the last of which counts: the prefix, and the byte that
is not one.  `none` when the fuel runs out. -/
def prefixLoop : Nat → UInt8 → Exec State (Option (UInt8 × UInt8))
  | 0, _ => pure none
  | fuel + 1, pfx => do
    let s ← get
    let next ← rd8 s.pc
    let s ← get
    if s.faulted || !isPrefixByte next then pure (some (pfx, next))
    else do
      modifyRegs fun r => { r with pc := r.pc + 1 }
      prefixLoop fuel next

def notOn8080 (next : UInt8) : Bool :=
  [0x08, 0x10, 0x18, 0x20, 0x28, 0x30, 0x38, 0xcb, 0xd9, 0xdd, 0xfd, 0xed].contains next

/-- `cpu_z80_step`, once the prefixes are consumed. -/
def executeFrom (pfx next : UInt8) : Exec State Nat := do
  let s ← get
  if s.faulted then pure 0
  else if s.stalled then abandon
  else if s.i8080 && pfx ≠ 0 then do
    illegal pfx
    pure 0
  else if s.i8080 && notOn8080 next then do
    illegal next
    pure 0
  else if next = 0xed then do
    modifyRegs fun r => { r with pc := r.pc + 1 }
    edPage pfx
    finish
  else do
    mainPage pfx
    finish

/-- `cpu_z80_step`: `none` if it is still consuming prefixes when the fuel runs out. -/
def step (fuel : Nat) : Exec State (Option Nat) := do
  let s ← get
  if s.halted || s.faulted || s.stalled then pure (some 0)
  else do
    modify State.prepare
    match ← prefixLoop fuel 0 with
    | none => pure none
    | some (pfx, next) => do
      let n ← executeFrom pfx next
      pure (some n)

/-! ## The core on a card -/

/-- `cpu_z80_reset`: memory, the hook, the saved registers and which part this is survive. -/
def reset (s : State) (entry : UInt16) : State :=
  { s with a := 0xff, f := 0xff, b := 0, c := 0, d := 0, e := 0, h := 0, l := 0, a2 := 0, f2 := 0,
           b2 := 0, c2 := 0, d2 := 0, e2 := 0, h2 := 0, l2 := 0, ix := 0, iy := 0, sp := 0xffff,
           pc := entry, i := 0, r := 0, iff1 := 0, iff2 := 0, im := 0, halted := false,
           haltReason := 0, exitCode := 0, faulted := false, faultCause := 0, faultAddr := 0,
           cycles := 0, lastCycles := 0, branchTaken := false, stalled := false, stallAddr := 0,
           stallIsWrite := false }

def Regs.zero : Regs :=
  ⟨0, 0, 0, 0, 0, 0, 0, 0, 0, 0, 0, 0, 0, 0, 0, 0, 0, 0, 0, 0, 0, 0, 0, 0, 0⟩

/-- `cpu_z80_init` on zeroed memory, and `cpu_z80_set_8080`. -/
def init (ramPresent : Bool) (ramSize : UInt32) (i8080 : Bool) : State :=
  reset
    { toRegs := Regs.zero, ramPresent := ramPresent, ramSize := ramSize, hooked := false,
      canStall := false, i8080 := i8080, lastCycles := 0, branchTaken := false,
      dispFetched := false, disp := 0, stalled := false, stallAddr := 0, stallIsWrite := false,
      saved := Regs.zero, halted := false, haltReason := 0, exitCode := 0, faulted := false,
      faultCause := 0, faultAddr := 0, cycles := 0 } 0

/-- `cpu_z80_set_mem_hook`, with a hook. -/
def setMemHook (s : State) (canStall : Bool) : State :=
  { s with hooked := true, canStall := canStall, stalled := false }

end CpuZ80

end RpcEmu
