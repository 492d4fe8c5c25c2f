import RpcEmu.Arm.ModeNumbers
import Mathlib.Logic.Function.Basic
import Mathlib.Data.List.Basic

/-!
# The ARM core: registers, banks and modes

`ARMState` of `arm.h` with what `arm.c` and `arm_common.h` do to it between two accesses.  Both
builds of the core, the interpreter and the recompiler, carry the same text of these functions, so
there is one of each here.

* **The active bank is in `reg`.**  A mode change stores R8–R14 back into the arrays of the mode that
  is left and loads those of the mode that is entered; `usrregs` says where each register of User mode
  is meanwhile.
* **The status is in one of two places.**  In a 26-bit mode it shares R15 with the PC and `cpsr` is 15,
  in a 32-bit mode it is `reg 16` and `cpsr` is 16.
* **Everything behind the core** is the type `σ` of a `World`, and `Bus` says what the core asks of it.
-/

namespace RpcEmu.Arm

/-- What `usrregs[c]` points at. -/
inductive RegPtr where
  | reg (c : Nat)
  | user (c : Nat)
  deriving DecidableEq, Repr

/-- What an access can change: `arm.event` and whatever is behind the bus. -/
structure World (σ : Type) where
  event : UInt32
  mem : σ

/-- `ARMState`, with the globals that go with it (`cpsr`, `usrregs`, `prog32` and `memmode`). -/
structure ArmState (σ : Type) where
  /-- R0–R15, and the CPSR of the 32-bit modes as `reg 16`. -/
  reg : Nat → UInt32
  mode : UInt32
  mmask : UInt32
  r15Mask : UInt32
  userReg : Nat → UInt32
  fiqReg : Nat → UInt32
  /-- R13 and R14 of a bank that has only these two. -/
  irqReg : UInt32 × UInt32
  superReg : UInt32 × UInt32
  abortReg : UInt32 × UInt32
  undefReg : UInt32 × UInt32
  spsr : Nat → UInt32
  r15Diff : UInt32
  abortBaseRestored : Bool
  stmWritebackAtEnd : Bool
  archV4 : Bool
  cpsr : Nat
  usrregs : Nat → RegPtr
  prog32 : Bool
  memmode : Bool
  world : World σ

/-- What `fpaopcode` leaves in the core: a register (the base, or Rd), the flags of a comparison, or an
undefined instruction for the support code. -/
inductive FpaEffect (σ : Type) where
  | wrote (r : Option (Nat × UInt32)) (w : World σ)
  | compared (flags : UInt32) (w : World σ)
  | undefined

/-- What becomes of a SWI: the emulator answers it, in R0–R14 and perhaps by clearing V, or the guest
gets it. -/
inductive SwiEffect (σ : Type) where
  | answered (regs : Nat → UInt32) (clearV : Bool) (w : World σ)
  | real (w : World σ)

structure Bus (σ : Type) where
  read32 : Bool → UInt32 → World σ → UInt32 × World σ
  read8 : Bool → UInt32 → World σ → UInt8 × World σ
  write32 : Bool → UInt32 → UInt32 → World σ → World σ
  write8 : Bool → UInt32 → UInt8 → World σ → World σ
  /-- `cp15_read`. -/
  cp15Read : UInt32 → World σ → UInt32
  /-- `cp15_write`, all but its change of mode. -/
  cp15Write : UInt32 → UInt32 → World σ → World σ
  fpa : UInt32 → ArmState σ → FpaEffect σ
  /-- The SWIs the emulator itself answers, by `swinum`. -/
  swi : UInt32 → ArmState σ → SwiEffect σ

/-! ## Fields of an opcode -/

def rd (op : UInt32) : Nat := ((op >>> 12) &&& 0xf).toNat

def rn (op : UInt32) : Nat := ((op >>> 16) &&& 0xf).toNat

def rm (op : UInt32) : Nat := (op &&& 0xf).toNat

def mulRd (op : UInt32) : Nat := ((op >>> 16) &&& 0xf).toNat

def mulRn (op : UInt32) : Nat := ((op >>> 12) &&& 0xf).toNat

def mulRs (op : UInt32) : Nat := ((op >>> 8) &&& 0xf).toNat

def mulRm (op : UInt32) : Nat := (op &&& 0xf).toNat

def nflag : UInt32 := 0x80000000

def zflag : UInt32 := 0x40000000

def cflag : UInt32 := 0x20000000

def vflag : UInt32 := 0x10000000

/-! ## Modes -/

def user : UInt32 := 0

def fiq : UInt32 := 1

def irq : UInt32 := 2

def supervisor : UInt32 := 3

def abort : UInt32 := 7

def undefined : UInt32 := 11

def system : UInt32 := 15

section State

variable {σ : Type} (a : ArmState σ)

/-- `PC`, the address of the instruction that is executed. -/
def ArmState.pc : UInt32 := (a.reg 15 - 8) &&& a.r15Mask

/-- The status of the current mode, `arm.reg[cpsr]`. -/
def ArmState.psr : UInt32 := a.reg a.cpsr

def ArmState.setReg (r : Nat) (v : UInt32) : ArmState σ :=
  { a with reg := Function.update a.reg r v }

def ArmState.aborted : Bool := a.world.event &&& 0x40 != 0

/-- `CFSET`. -/
def ArmState.cfset : UInt32 := if a.psr &&& cflag ≠ 0 then 1 else 0

/-- `GETADDR`. -/
def getaddr (r : Nat) : UInt32 := if r = 15 then a.reg 15 &&& a.r15Mask else a.reg r

/-- `GETREG`. -/
def getreg (r : Nat) : UInt32 := if r = 15 then a.reg 15 + a.r15Diff else a.reg r

/-- `LOADREG`. -/
def loadreg (r : Nat) (v : UInt32) : ArmState σ :=
  if r = 15 then a.setReg 15 ((a.reg 15 &&& ~~~a.r15Mask) ||| ((v + 4) &&& a.r15Mask))
  else a.setReg r v

/-- Reads through `usrregs`. -/
def ArmState.readPtr : RegPtr → UInt32
  | .reg c => a.reg c
  | .user c => a.userReg c

/-- Writes through `usrregs`. -/
def ArmState.writePtr (v : UInt32) : RegPtr → ArmState σ
  | .reg c => a.setReg c v
  | .user c => { a with userReg := Function.update a.userReg c v }

/-! ## Changing mode -/

/-- `for (c = lo; c < hi; c++) dst[c] = src[c]`. -/
def copyRegs {α : Type} (lo hi : Nat) (src dst : Nat → α) : Nat → α :=
  fun c => if lo ≤ c ∧ c < hi then src c else dst c

def linkPair (reg : Nat → UInt32) : UInt32 × UInt32 := (reg 13, reg 14)

/-- The first switch of `updatemode_at`: the registers of the mode that is left are stored back.  A
reserved mode has none of its own. -/
def storeBack : ArmState σ :=
  match (a.mode &&& 0xf).toNat with
  | 0 | 15 => { a with userReg := copyRegs 8 15 a.reg a.userReg }
  | 1 => { a with fiqReg := copyRegs 8 15 a.reg a.fiqReg }
  | 2 => { a with userReg := copyRegs 8 13 a.reg a.userReg, irqReg := linkPair a.reg }
  | 3 => { a with userReg := copyRegs 8 13 a.reg a.userReg, superReg := linkPair a.reg }
  | 7 => { a with userReg := copyRegs 8 13 a.reg a.userReg, abortReg := linkPair a.reg }
  | 11 => { a with userReg := copyRegs 8 13 a.reg a.userReg, undefReg := linkPair a.reg }
  | _ => a

def loadLink (link : UInt32 × UInt32) : ArmState σ :=
  { a with
    reg := Function.update (Function.update (copyRegs 8 13 a.userReg a.reg) 13 link.1) 14 link.2
    usrregs := copyRegs 13 15 .user (copyRegs 0 13 .reg a.usrregs) }

/-- The second switch of `updatemode_at`: the registers of the mode that is entered.  A reserved mode is
banked as User, and the debugger stops the machine there. -/
def loadBank (m : UInt32) : ArmState σ :=
  match (m &&& 0xf).toNat with
  | 1 =>
    { a with
      reg := copyRegs 8 15 a.fiqReg a.reg
      usrregs := copyRegs 8 15 .user (copyRegs 0 8 .reg a.usrregs) }
  | 2 => loadLink a a.irqReg
  | 3 => loadLink a a.superReg
  | 7 => loadLink a a.abortReg
  | 11 => loadLink a a.undefReg
  | _ => { a with reg := copyRegs 8 15 a.userReg a.reg, usrregs := copyRegs 0 15 .reg a.usrregs }

/-- The end of `updatemode_at`: where the status is, and its move when the change is between 26 and 32
bits.  `om` is the mode that was left. -/
def placePsr (om : UInt32) : ArmState σ :=
  if armMode32 a.mode then
    let a := { a with mmask := 0x1f, cpsr := 16, r15Mask := 0xfffffffc }
    if armMode32 om then a
    else
      let a := a.setReg 16 ((a.reg 15 &&& (0xf0000000 : UInt32)) ||| a.mode)
      let a := a.setReg 16 (a.reg 16 ||| ((a.reg 15 &&& (0xc000000 : UInt32)) >>> 20))
      a.setReg 15 (a.reg 15 &&& 0x3fffffc)
  else
    let a := { a with mmask := 3, cpsr := 15, r15Mask := 0x3fffffc }
    let a := a.setReg 16 ((a.reg 16 &&& 0xffffffe0) ||| a.mode)
    if armMode32 om then
      let a := a.setReg 15 (a.reg 15 &&& a.r15Mask)
      let a := a.setReg 15 (a.reg 15 ||| (a.mode &&& (3 : UInt32)))
      let a := a.setReg 15 (a.reg 15 ||| (a.reg 16 &&& (0xf0000000 : UInt32)))
      a.setReg 15 (a.reg 15 ||| ((a.reg 16 &&& (0xc0 : UInt32)) <<< 20))
    else a

/-- `updatemode_at`.  The address it is told is for the debugger. -/
def updatemode (m : UInt32) : ArmState σ :=
  let om := a.mode
  let a := { a with usrregs := Function.update a.usrregs 15 (.reg 15) }
  let a := storeBack a
  let a := { a with mode := m }
  let a := loadBank a m
  let a := placePsr a om
  { a with memmode := armModePriv a.mode }

/-- `exception`. -/
def exception (mmode address diff : UInt32) : ArmState σ :=
  let irqDisable : UInt32 := if mmode = fiq then 0x80 ||| 0x40 else 0x80
  let link := a.reg 15 - diff
  if armMode32 a.mode then
    let a := { a with spsr := Function.update a.spsr mmode.toNat (a.reg 16) }
    let a := updatemode a (0x10 ||| mmode)
    let a := a.setReg 14 link
    let a := a.setReg 16 (a.reg 16 &&& ~~~0x1f)
    let a := a.setReg 16 (a.reg 16 ||| (0x10 ||| mmode ||| irqDisable))
    a.setReg 15 address
  else if a.prog32 then
    let a := updatemode a (0x10 ||| mmode)
    let a := a.setReg 14 (link &&& 0x3fffffc)
    let saved := (a.reg 16 &&& ~~~0x1f) ||| (link &&& (3 : UInt32))
    let a := { a with spsr := Function.update a.spsr mmode.toNat (saved &&& ~~~0x10) }
    let a := a.setReg 16 (a.reg 16 ||| irqDisable)
    a.setReg 15 address
  else
    let newMode := if supervisor ≤ mmode then supervisor else mmode
    let a := updatemode a newMode
    let a := a.setReg 14 link
    let a := a.setReg 15 (a.reg 15 &&& 0xfc000000)
    a.setReg 15 (a.reg 15 ||| ((irqDisable <<< 20) ||| address ||| newMode))

/-- `arm_exception_undefined`. -/
def armExceptionUndefined : ArmState σ := exception a undefined 8 4

/-! ## Flags -/

/-- The flags replace those that `keep` does not keep. -/
def setFlags (keep flags : UInt32) : ArmState σ :=
  a.setReg a.cpsr ((a.psr &&& keep) ||| flags)

def flagsNZ (result : UInt32) : UInt32 :=
  (if result = 0 then zflag else 0) ||| (result &&& nflag)

/-- `arm_flags_add`. -/
def armFlagsAdd (op1 op2 result : UInt32) : ArmState σ :=
  setFlags a 0x0fffffff (flagsNZ result ||| (if result < op1 then cflag else 0) |||
    (if (op1 ^^^ result) &&& (op2 ^^^ result) &&& 0x80000000 ≠ 0 then vflag else 0))

/-- `arm_flags_sub`. -/
def armFlagsSub (op1 op2 result : UInt32) : ArmState σ :=
  setFlags a 0x0fffffff (flagsNZ result ||| (if result ≤ op1 then cflag else 0) |||
    (if (op1 ^^^ op2) &&& (op1 ^^^ result) &&& 0x80000000 ≠ 0 then vflag else 0))

/-- `arm_flags_adc`. -/
def armFlagsAdc (op1 op2 result : UInt32) : ArmState σ :=
  setFlags a 0x0fffffff (flagsNZ result |||
    (if ((op1 &&& op2) ||| ((op1 ||| op2) &&& ~~~result)) &&& 0x80000000 ≠ 0 then cflag else 0) |||
    (if (op1 ^^^ result) &&& (op2 ^^^ result) &&& 0x80000000 ≠ 0 then vflag else 0))

/-- `arm_flags_sbc`. -/
def armFlagsSbc (op1 op2 result : UInt32) : ArmState σ :=
  setFlags a 0x0fffffff (flagsNZ result |||
    (if ((op1 &&& ~~~op2) ||| ((op1 ||| ~~~op2) &&& ~~~result)) &&& 0x80000000 ≠ 0 then cflag else 0) |||
    (if (op1 ^^^ op2) &&& (op1 ^^^ result) &&& 0x80000000 ≠ 0 then vflag else 0))

/-- `arm_flags_logical`. -/
def armFlagsLogical (result : UInt32) : ArmState σ := setFlags a 0x3fffffff (flagsNZ result)

/-- `arm_flags_long_multiply`. -/
def armFlagsLongMultiply (result : UInt64) : ArmState σ :=
  setFlags a 0x3fffffff ((if result = 0 then zflag else 0) ||| ((result >>> 32).toUInt32 &&& nflag))

/-! ## Destinations -/

/-- `arm_write_dest`. -/
def armWriteDest (op dest : UInt32) : ArmState σ :=
  if rd op = 15 then a.setReg 15 (((dest + 4) &&& a.r15Mask) ||| (a.reg 15 &&& ~~~a.r15Mask))
  else a.setReg (rd op) dest

/-- The bits of R15 that `arm_write_r15` writes. -/
def writeR15Mask (mode : UInt32) : UInt32 :=
  if armMode32 mode then 0xfffffffc else if armModePriv mode then 0xffffffff else 0xf3fffffc

def followPsr : ArmState σ :=
  if a.psr &&& a.mmask ≠ a.mode then updatemode a (a.psr &&& a.mmask) else a

def restoreSpsr : ArmState σ :=
  if armMode32 a.mode then a.setReg 16 (a.spsr (a.mode &&& 0xf).toNat) else a

/-- `arm_write_r15`. -/
def armWriteR15 (dest : UInt32) : ArmState σ :=
  let mask := writeR15Mask a.mode
  let a := a.setReg 15 ((a.reg 15 &&& ~~~mask) ||| ((dest + 4) &&& mask))
  if armModePriv a.mode then followPsr (restoreSpsr a) else a

/-- `arm_compare_rd15`. -/
def armCompareRd15 (dest : UInt32) : ArmState σ :=
  if armMode32 a.mode then followPsr (if armModePriv a.mode then restoreSpsr a else a)
  else
    let mask := if armModePriv a.mode then (0xfc000003 : UInt32) else 0xf0000000
    followPsr (a.setReg 15 ((a.reg 15 &&& ~~~mask) ||| (dest &&& mask)))

def copyCpsr (op value : UInt32) : ArmState σ :=
  let a := if op &&& 0x80000 ≠ 0 then
      a.setReg 15 ((a.reg 15 &&& ~~~0xf0000000) ||| (value &&& 0xf0000000))
    else a
  if op &&& 0x10000 ≠ 0 then
    a.setReg 15 ((a.reg 15 &&& ~~~(0x0c000003 : UInt32)) ||| (value &&& (3 : UInt32)) |||
      ((value &&& (0xc0 : UInt32)) <<< 20))
  else a

def msrFields (op : UInt32) : UInt32 :=
  if armModePriv a.mode then op else op &&& ~~~(0x70000 : UInt32)

def cpsrWritten (op value : UInt32) : ArmState σ :=
  let fieldMask := msrlookup ((op >>> 16) &&& 0xf) &&& psrBitsValid
  let a := a.setReg 16 ((a.reg 16 &&& ~~~fieldMask) ||| (value &&& fieldMask))
  if armMode32 a.mode then a else copyCpsr a op value

/-- `arm_write_cpsr`. -/
def armWriteCpsr (op value : UInt32) : ArmState σ :=
  let a := cpsrWritten a (msrFields a op) value
  if a.reg 16 &&& 0x1f ≠ a.mode then updatemode a (a.reg 16 &&& 0x1f) else a

/-- `arm_read_spsr`. -/
def armReadSpsr : UInt32 :=
  if armModeHasSpsr a.mode then a.spsr (a.mode &&& 0xf).toNat
  else if armMode32 a.mode then a.reg 16
  else (a.reg 15 &&& (0xf0000000 : UInt32)) ||| ((a.reg 15 >>> 20) &&& (0xc0 : UInt32)) |||
    (a.reg 15 &&& (3 : UInt32))

/-- `arm_write_spsr`. -/
def armWriteSpsr (op value : UInt32) : ArmState σ :=
  if armModeHasSpsr a.mode then
    let m := (a.mode &&& 0xf).toNat
    let fieldMask := msrlookup ((op >>> 16) &&& 0xf) &&& psrBitsValid
    { a with spsr := Function.update a.spsr m ((a.spsr m &&& ~~~fieldMask) ||| (value &&& fieldMask)) }
  else a

end State

/-! ## Reset -/

inductive CpuModel where
  | arm7500 | arm7500fe | arm610 | arm710 | arm810 | sa110
  deriving DecidableEq, Repr

/-- The later processors: `arm_reset` gives them the v4 instructions and restartable transfers. -/
def CpuModel.isV4 : CpuModel → Bool
  | .arm810 | .sa110 => true
  | _ => false

/-- The core after the `memset` of `arm_reset`; `w` and `prog32` are not its own. -/
def cleared {σ : Type} (prog32 : Bool) (w : World σ) : ArmState σ where
  reg _ := 0
  mode := 0
  mmask := 0
  r15Mask := 0x3fffffc
  userReg _ := 0
  fiqReg _ := 0
  irqReg := (0, 0)
  superReg := (0, 0)
  abortReg := (0, 0)
  undefReg := (0, 0)
  spsr _ := 0
  r15Diff := 0
  abortBaseRestored := false
  stmWritebackAtEnd := false
  archV4 := false
  cpsr := 15
  usrregs c := .reg c
  prog32 := prog32
  memmode := false
  world := { w with event := 0 }

/-- `arm_reset`. -/
def armReset {σ : Type} (model : CpuModel) (prog32 : Bool) (w : World σ) : ArmState σ :=
  let a := updatemode (cleared prog32 w) supervisor
  let a := { a with cpsr := 15 }
  let a := a.setReg 15 (0x0c000008 ||| 3)
  let a := a.setReg 16 (supervisor ||| 0xd0)
  { a with
    mode := supervisor
    r15Diff := if model.isV4 then 0 else 4
    abortBaseRestored := model.isV4
    stmWritebackAtEnd := model.isV4
    archV4 := model.isV4 }

end RpcEmu.Arm
