import RpcEmu.Copro.Card

/-!
# The RV32IM core

`cpu_rv32i.c`.  One instruction is: fetch a word, work out what it asks for, do it.  The middle part
touches no memory and is a function, `rv32iEffect`, one case for each opcode of the source's
`switch`; the rest is a program over the memory operations, byte by byte in ascending order when a
hook is set.

The registers are the source's, less the two that record where a stall happened, which nothing
reads.  The core's RAM is not among them: with no hook it is reached through the `ram` operations,
and `ramPresent` and `ramSize` are all the core itself looks at.
-/

namespace RpcEmu

open Effects

/-- `rv32i_state`. -/
structure Rv32iState where
  x : Fin 32 → UInt32
  pc : UInt32
  ramPresent : Bool
  ramSize : UInt32
  halted : Bool
  haltReason : UInt32
  exitCode : UInt32
  faulted : Bool
  faultCause : UInt32
  faultAddr : UInt32
  cycles : UInt64
  /-- is a hook set? -/
  hooked : Bool
  canStall : Bool
  stalled : Bool
  savedX : Fin 32 → UInt32
  savedPc : UInt32

/-- `RV32I_FAULT_*`. -/
inductive Rv32iFault
  | insnMisaligned | insnAccess | illegal | loadMisaligned | loadAccess | storeMisaligned
  | storeAccess
  deriving DecidableEq, Repr

def Rv32iFault.code : Rv32iFault → UInt32
  | insnMisaligned => 0
  | insnAccess => 1
  | illegal => 2
  | loadMisaligned => 4
  | loadAccess => 5
  | storeMisaligned => 6
  | storeAccess => 7

/-- `fault`: `pc` stays at the instruction that faulted. -/
def Rv32iState.fault (s : Rv32iState) (cause : Rv32iFault) (addr : UInt32) : Rv32iState :=
  { s with faulted := true, faultCause := cause.code, faultAddr := addr }

/-- `in_range`. -/
def inRange (s : Rv32iState) (addr len : UInt32) : Bool :=
  s.hooked || (s.ramPresent && decide (len ≤ s.ramSize) && decide (addr ≤ s.ramSize - len))

/-! ## Memory -/

/-- `load8`. -/
def load8 (addr : UInt32) : Exec Rv32iState UInt8 := do
  let s ← get
  if s.hooked then
    match ← access (.memRead addr) with
    | (.ok, val) => pure val
    | (.stall, _) =>
      modify fun s => { s with stalled := true }
      pure 0
    | (.busError, _) =>
      modify fun s => s.fault .loadAccess addr
      pure 0
  else access (.ramRead addr)

/-- `store8`. -/
def store8 (addr : UInt32) (val : UInt8) : Exec Rv32iState Unit := do
  let s ← get
  if s.hooked then
    match ← access (.memWrite addr val s.cycles) with
    | .ok => pure ()
    | .stall => modify fun s => { s with stalled := true }
    | .busError => modify fun s => s.fault .storeAccess addr
  else access (.ramWrite addr val)

inductive Rv32iWidth
  | byte
  | half
  | word
  deriving DecidableEq, Repr

def Rv32iWidth.bytes : Rv32iWidth → UInt32
  | byte => 1
  | half => 2
  | word => 4

/-- `load8`, `load16`, `load32`: lowest address first. -/
def loadWidth (addr : UInt32) : Rv32iWidth → Exec Rv32iState UInt32
  | .byte => do
    let b0 ← load8 addr
    pure b0.toUInt32
  | .half => do
    let b0 ← load8 addr
    let b1 ← load8 (addr + 1)
    pure (b0.toUInt32 ||| (b1.toUInt32 <<< 8))
  | .word => do
    let b0 ← load8 addr
    let b1 ← load8 (addr + 1)
    let b2 ← load8 (addr + 2)
    let b3 ← load8 (addr + 3)
    pure (b0.toUInt32 ||| (b1.toUInt32 <<< 8) ||| (b2.toUInt32 <<< 16) ||| (b3.toUInt32 <<< 24))

/-- `store8`, `store16`, `store32`. -/
def storeWidth (addr val : UInt32) : Rv32iWidth → Exec Rv32iState Unit
  | .byte => store8 addr val.toUInt8
  | .half => do
    store8 addr val.toUInt8
    store8 (addr + 1) (val >>> 8).toUInt8
  | .word => do
    store8 addr val.toUInt8
    store8 (addr + 1) (val >>> 8).toUInt8
    store8 (addr + 2) (val >>> 16).toUInt8
    store8 (addr + 3) (val >>> 24).toUInt8

/-! ## Arithmetic -/

/-- `sign_extend`, for fewer than 32 bits. -/
def signExtend (val bits : UInt32) : UInt32 :=
  let mask := ((1 : UInt32) <<< bits) - 1
  let val := val &&& mask
  if val &&& ((1 : UInt32) <<< (bits - 1)) ≠ 0 then val ||| ~~~mask else val

/-- `sra32`. -/
def sra32 (val sh : UInt32) : UInt32 :=
  let sh := sh &&& 31
  if val &&& 0x80000000 ≠ 0 then (val >>> sh) ||| ~~~((0xffffffff : UInt32) >>> sh) else val >>> sh

/-- `alu`. -/
def alu (funct3 a b : UInt32) (isImm alt : Bool) : UInt32 :=
  match funct3 with
  | 0 => if !isImm && alt then a - b else a + b
  | 1 => a <<< (b &&& 31)
  | 2 => if a.toInt32 < b.toInt32 then 1 else 0
  | 3 => if a < b then 1 else 0
  | 4 => a ^^^ b
  | 5 => if alt then sra32 a (b &&& 31) else a >>> (b &&& 31)
  | 6 => a ||| b
  | _ => a &&& b

/-- `muldiv`. -/
def muldiv (funct3 a b : UInt32) : UInt32 :=
  let sa := a.toInt32
  let sb := b.toInt32
  match funct3 with
  | 0 => a * b
  | 1 => ((sa.toInt64 * sb.toInt64).toUInt64 >>> 32).toUInt32
  | 2 => ((sa.toInt64 * b.toUInt64.toInt64).toUInt64 >>> 32).toUInt32
  | 3 => ((a.toUInt64 * b.toUInt64) >>> 32).toUInt32
  | 4 =>
    if b = 0 then 0xffffffff
    else if a = 0x80000000 ∧ b = 0xffffffff then 0x80000000
    else (sa / sb).toUInt32
  | 5 => if b = 0 then 0xffffffff else a / b
  | 6 =>
    if b = 0 then a
    else if a = 0x80000000 ∧ b = 0xffffffff then 0
    else (sa % sb).toUInt32
  | _ => if b = 0 then a else a % b

/-- `branch_taken`: `none` for the two encodings that do not exist. -/
def branchTaken (funct3 a b : UInt32) : Option Bool :=
  match funct3 with
  | 0 => some (a = b)
  | 1 => some (a ≠ b)
  | 4 => some (a.toInt32 < b.toInt32)
  | 5 => some (b.toInt32 ≤ a.toInt32)
  | 6 => some (a < b)
  | 7 => some (b ≤ a)
  | _ => none

/-! ## What an instruction asks for -/

inductive Rv32iEffect
  /-- write a register (x0 for none) and go to `next` -/
  | retire (rd : Fin 32) (val next : UInt32)
  | load (width : Rv32iWidth) (signed : Bool) (rd : Fin 32) (addr : UInt32)
  | store (width : Rv32iWidth) (addr val : UInt32)
  | halt (reason : UInt32)
  | illegal
  deriving DecidableEq, Repr

def regField (insn shift : UInt32) : Fin 32 := Fin.ofNat 32 ((insn >>> shift) &&& 0x1f).toNat

def jalOffset (insn : UInt32) : UInt32 :=
  signExtend ((((insn >>> 31) &&& 1) <<< 20) ||| (((insn >>> 21) &&& 0x3ff) <<< 1) |||
    (((insn >>> 20) &&& 1) <<< 11) ||| (((insn >>> 12) &&& 0xff) <<< 12)) 21

def branchOffset (insn : UInt32) : UInt32 :=
  signExtend ((((insn >>> 31) &&& 1) <<< 12) ||| (((insn >>> 25) &&& 0x3f) <<< 5) |||
    (((insn >>> 8) &&& 0xf) <<< 1) ||| (((insn >>> 7) &&& 1) <<< 11)) 13

/-- The `switch` of `rv32i_step`, up to the memory access. -/
def rv32iEffect (s : Rv32iState) (insn : UInt32) : Rv32iEffect :=
  let rd := regField insn 7
  let funct3 := (insn >>> 12) &&& 0x7
  let a := s.x (regField insn 15)
  let b := s.x (regField insn 20)
  let funct7 := (insn >>> 25) &&& 0x7f
  let next := s.pc + 4
  let imm := signExtend (insn >>> 20) 12
  match insn &&& 0x7f with
  | 0x37 => .retire rd (insn &&& 0xfffff000) next
  | 0x17 => .retire rd (s.pc + (insn &&& 0xfffff000)) next
  | 0x6f => .retire rd next (s.pc + jalOffset insn)
  | 0x67 => if funct3 ≠ 0 then .illegal else .retire rd next ((a + imm) &&& ~~~1)
  | 0x63 =>
    match branchTaken funct3 a b with
    | none => .illegal
    | some taken => .retire 0 0 (if taken then s.pc + branchOffset insn else next)
  | 0x03 =>
    match funct3 with
    | 0 => .load .byte true rd (a + imm)
    | 4 => .load .byte false rd (a + imm)
    | 1 => .load .half true rd (a + imm)
    | 5 => .load .half false rd (a + imm)
    | 2 => .load .word false rd (a + imm)
    | _ => .illegal
  | 0x23 =>
    let addr := a + signExtend (((insn >>> 25) <<< 5) ||| ((insn >>> 7) &&& 0x1f)) 12
    match funct3 with
    | 0 => .store .byte addr b
    | 1 => .store .half addr b
    | 2 => .store .word addr b
    | _ => .illegal
  | 0x13 =>
    if funct3 = 1 ∨ funct3 = 5 then
      if funct7 &&& ~~~0x20 ≠ 0 then .illegal
      else .retire rd (alu funct3 a ((insn >>> 20) &&& 0x1f) false (funct7 &&& 0x20 ≠ 0)) next
    else .retire rd (alu funct3 a imm true false) next
  | 0x33 =>
    if funct7 = 0x01 then .retire rd (muldiv funct3 a b) next
    else if funct7 = 0x00 ∨ funct7 = 0x20 then
      if funct7 = 0x20 ∧ funct3 ≠ 0 ∧ funct3 ≠ 5 then .illegal
      else .retire rd (alu funct3 a b false (funct7 = 0x20)) next
    else .illegal
  | 0x0f => if funct3 ≠ 0 ∧ funct3 ≠ 1 then .illegal else .retire 0 0 next
  | 0x73 =>
    if funct3 ≠ 0 ∨ rd ≠ 0 ∨ regField insn 15 ≠ 0 then .illegal
    else if insn >>> 20 = 0 then .halt 1
    else if insn >>> 20 = 1 then .halt 2
    else .illegal
  | _ => .illegal

/-! ## One instruction -/

/-- `set_reg`: x0 stays zero. -/
def Rv32iState.setReg (s : Rv32iState) (rd : Fin 32) (val : UInt32) : Rv32iState :=
  if rd = 0 then s else { s with x := fun r => if r = rd then val else s.x r }

/-- `rv32i_abandon`. -/
def rv32iAbandon (s : Rv32iState) : Rv32iState := { s with x := s.savedX, pc := s.savedPc }

def rv32iFault (cause : Rv32iFault) (addr : UInt32) : Exec Rv32iState Nat := do
  modify fun s => s.fault cause addr
  pure 0

def rv32iFinish (next : UInt32) : Exec Rv32iState Nat := do
  let s ← get
  if s.stalled then
    modify rv32iAbandon
    pure 0
  else
    modify fun s => { s with pc := next, cycles := s.cycles + 1 }
    pure 1

def loadValue (width : Rv32iWidth) (signed : Bool) (val : UInt32) : UInt32 :=
  match width, signed with
  | .byte, true => signExtend val 8
  | .half, true => signExtend val 16
  | _, _ => val

def rv32iPerform (insn : UInt32) : Rv32iEffect → Exec Rv32iState Nat
  | .retire rd val next => do
    modify fun s => s.setReg rd val
    rv32iFinish next
  | .load width signed rd addr => do
    let s ← get
    if addr &&& (width.bytes - 1) ≠ 0 then rv32iFault .loadMisaligned addr
    else if !inRange s addr width.bytes then rv32iFault .loadAccess addr
    else do
      let val ← loadWidth addr width
      modify fun s => s.setReg rd (loadValue width signed val)
      rv32iFinish (s.pc + 4)
  | .store width addr val => do
    let s ← get
    if addr &&& (width.bytes - 1) ≠ 0 then rv32iFault .storeMisaligned addr
    else if !inRange s addr width.bytes then rv32iFault .storeAccess addr
    else do
      storeWidth addr val width
      rv32iFinish (s.pc + 4)
  | .halt reason => do
    modify fun s => { s with halted := true, haltReason := reason, exitCode := s.x 10,
                             pc := s.pc + 4, cycles := s.cycles + 1 }
    pure 1
  | .illegal => rv32iFault .illegal insn

def Rv32iState.save (s : Rv32iState) : Rv32iState :=
  if s.canStall then { s with savedX := s.x, savedPc := s.pc } else s

/-- `rv32i_step`. -/
def rv32iStep : Exec Rv32iState Nat := do
  let s ← get
  if s.halted || s.faulted || s.stalled then pure 0
  else do
    modify Rv32iState.save
    if s.pc &&& 3 ≠ 0 then rv32iFault .insnMisaligned s.pc
    else if !inRange s s.pc 4 then rv32iFault .insnAccess s.pc
    else do
      let insn ← loadWidth s.pc .word
      let s ← get
      rv32iPerform insn (rv32iEffect s insn)

/-- `rv32i_run`. -/
def rv32iRun (cycles : Nat) : Exec Rv32iState Nat := coreRun rv32iStep cycles

/-! ## The core on a card -/

/-- `rv32i_reset`: memory, the hook and the saved registers survive. -/
def rv32iReset (s : Rv32iState) (entry : UInt32) : Rv32iState :=
  { s with x := fun _ => 0, pc := entry, halted := false, haltReason := 0, exitCode := 0,
           faulted := false, faultCause := 0, faultAddr := 0, cycles := 0, stalled := false }

/-- `rv32i_init`, on zeroed memory. -/
def rv32iInit (ramPresent : Bool) (ramSize : UInt32) : Rv32iState where
  x := fun _ => 0
  pc := 0
  ramPresent := ramPresent
  ramSize := ramSize
  halted := false
  haltReason := 0
  exitCode := 0
  faulted := false
  faultCause := 0
  faultAddr := 0
  cycles := 0
  hooked := false
  canStall := false
  stalled := false
  savedX := fun _ => 0
  savedPc := 0

/-- `rv32i_set_mem_hook`, with a hook: setting one ends a stall. -/
def rv32iSetMemHook (s : Rv32iState) (canStall : Bool) : Rv32iState :=
  { s with hooked := true, canStall := canStall, stalled := false }

def rv32iOps : CoreOps Rv32iState where
  id := 0x52563332
  reset := rv32iReset
  run := rv32iRun
  step := do
    let _ ← rv32iStep
    pure ()
  halted s := s.halted
  faulted s := s.faulted
  stalled s := s.stalled
  clearStall s := { s with stalled := false }
  pc s := s.pc
  cycles s := s.cycles.toUInt32
  faultCause s := s.faultCause
  faultAddr s := s.faultAddr
  exitCode s := s.exitCode
  setHook := rv32iSetMemHook
  regRead s sel :=
    if h : sel.toNat < 32 then s.x ⟨sel.toNat, h⟩ else if sel = 32 then s.pc else 0xffffffff
  regWrite s sel val :=
    if h : sel.toNat < 32 then s.setReg ⟨sel.toNat, h⟩ val
    else if sel = 32 then { s with pc := val }
    else s
  interrupt _ := pure ()

def rv32iCard : Coproc Rv32iState Unit :=
  openbusCoprocFit rv32iOps .rv32i 0x1000 (rv32iInit true 0x1000) ()

end RpcEmu
