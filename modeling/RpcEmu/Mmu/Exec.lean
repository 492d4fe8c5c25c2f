import RpcEmu.Mmu.Kept
import RpcEmu.Arm.ModeNumbers

/-!
# The interpreter's loop

`arm_exec` of `arm.c`, one pass at a time: fetch the opcode at the PC, run the instruction, take an
exception that is pending.  What the loop needs of the processor is R15, the status registers and the
mode; the other registers and their banks are left out.

* **The fetch** keeps the page it fetched from last (`pccache`) and a pointer to it (`pccache2`), and
  asks `getpccache` only when the PC is in another page.
* **An instruction** is what it asks for, in order (`Effect`): accesses, writes to R15 and to the
  status registers, exceptions.  What it asks for depends on the registers left out, so any list of
  effects can follow any opcode.  A write to CP15 is an instruction of its own.
-/

namespace RpcEmu.Mmu

open Bytes Pages

/-- The state of the interpreter: `arm`, `pccache2` and the MMU with the memory behind it. -/
structure Arm (cfg : Config) (D : Type) where
  mmu : Machine cfg D
  r15 : UInt32
  /-- `arm.reg[16]`, the CPSR of the 32-bit modes. -/
  r16 : UInt32
  spsr : UInt32 → UInt32
  pccache2 : HostPage

/-! ## Modes -/

def fiqMode : UInt32 := 1

def irqMode : UInt32 := 2

def supervisorMode : UInt32 := 3

def abortMode : UInt32 := 7

def undefinedMode : UInt32 := 11

def r15Mask (mode : UInt32) : UInt32 := if armMode32 mode then 0xfffffffc else 0x3fffffc

section Arm

variable {D : Type} {cfg : Config} (io : Devices D) (a : Arm cfg D)

def Arm.mode : UInt32 := a.mmu.mode

/-- `PC`. -/
def Arm.pc : UInt32 := (a.r15 - 8) &&& r15Mask a.mode

/-- `arm.reg[cpsr]`: the status is in R15 in the 26-bit modes. -/
def Arm.psr : UInt32 := if armMode32 a.mode then a.r16 else a.r15

/-- `arm.mmask`. -/
def Arm.mmask : UInt32 := if armMode32 a.mode then 0x1f else 3

/-- `prog32`. -/
def Arm.prog32 : Bool := a.mmu.ctrl &&& 0x10 != 0

def modeChanged (om m r15 r16 : UInt32) : UInt32 × UInt32 :=
  if armMode32 m then
    if armMode32 om then (r15, r16)
    else (r15 &&& 0x3fffffc, ((r15 &&& (0xf0000000 : UInt32)) ||| m) ||| ((r15 &&& (0xc000000 : UInt32)) >>> 20))
  else
    let r16 := (r16 &&& 0xffffffe0) ||| m
    if armMode32 om then
      ((r15 &&& (0x3fffffc : UInt32)) ||| (m &&& (3 : UInt32)) ||| (r16 &&& (0xf0000000 : UInt32)) |||
        ((r16 &&& (0xc0 : UInt32)) <<< 20), r16)
    else (r15, r16)

/-- `updatemode_at`; a reserved mode is banked as User and carries on. -/
def updatemodeAt (m : UInt32) : Arm cfg D :=
  { a with
    mmu := updatemode a.mmu m
    r15 := (modeChanged a.mode m a.r15 a.r16).1
    r16 := (modeChanged a.mode m a.r15 a.r16).2 }

/-- `exception`; the link register is left out. -/
def exception (mmode address diff : UInt32) : Arm cfg D :=
  let irqDisable : UInt32 := if mmode = fiqMode then 0x80 ||| 0x40 else 0x80
  let link := a.r15 - diff
  if armMode32 a.mode then
    let t := updatemodeAt { a with spsr := Function.update a.spsr mmode a.r16 } (0x10 ||| mmode)
    { t with r15 := address, r16 := (t.r16 &&& ~~~0x1f) ||| (0x10 ||| mmode ||| irqDisable) }
  else if a.prog32 then
    let t := updatemodeAt a (0x10 ||| mmode)
    { t with
      spsr := Function.update t.spsr mmode (((t.r16 &&& ~~~0x1f) ||| (link &&& 3)) &&& ~~~0x10)
      r16 := t.r16 ||| irqDisable
      r15 := address }
  else
    let newMode := if supervisorMode ≤ mmode then supervisorMode else mmode
    let t := updatemodeAt a newMode
    { t with r15 := (t.r15 &&& (0xfc000000 : UInt32)) ||| ((irqDisable <<< 20) ||| address ||| newMode) }

/-! ## What an instruction can ask for -/

/-- `arm_write_r15`. -/
def armWriteR15 (dest : UInt32) : Arm cfg D :=
  let mask : UInt32 :=
    if armMode32 a.mode then 0xfffffffc else if armModePriv a.mode then 0xffffffff else 0xf3fffffc
  let t := { a with r15 := (a.r15 &&& ~~~mask) ||| ((dest + 4) &&& mask) }
  if armModePriv a.mode then
    let t := if armMode32 a.mode then { t with r16 := a.spsr (a.mode &&& 0xf) } else t
    if t.psr &&& t.mmask ≠ t.mode then updatemodeAt t (t.psr &&& t.mmask) else t
  else t

/-- `arm_compare_rd15`. -/
def armCompareRd15 (dest : UInt32) : Arm cfg D :=
  let t :=
    if armMode32 a.mode then
      if armModePriv a.mode then { a with r16 := a.spsr (a.mode &&& 0xf) } else a
    else
      let mask : UInt32 := if armModePriv a.mode then 0xfc000003 else 0xf0000000
      { a with r15 := (a.r15 &&& ~~~mask) ||| (dest &&& mask) }
  if t.psr &&& t.mmask ≠ t.mode then updatemodeAt t (t.psr &&& t.mmask) else t

/-- `arm_write_cpsr`. -/
def armWriteCpsr (opcode value : UInt32) : Arm cfg D :=
  let opcode := if armModePriv a.mode then opcode else opcode &&& ~~~0x70000
  let fieldMask := msrlookup ((opcode >>> 16) &&& 0xf) &&& psrBitsValid
  let t := { a with r16 := (a.r16 &&& ~~~fieldMask) ||| (value &&& fieldMask) }
  let t :=
    if armMode32 a.mode then t
    else
      let t := if opcode &&& 0x80000 ≠ 0 then
        { t with r15 := (t.r15 &&& ~~~0xf0000000) ||| (value &&& 0xf0000000) } else t
      if opcode &&& 0x10000 ≠ 0 then
        { t with r15 := (t.r15 &&& ~~~(0x0c000003 : UInt32)) ||| (value &&& (3 : UInt32)) |||
            ((value &&& (0xc0 : UInt32)) <<< 20) }
      else t
  if t.r16 &&& 0x1f ≠ t.mode then updatemodeAt t (t.r16 &&& 0x1f) else t

/-- `arm_write_spsr`. -/
def armWriteSpsr (opcode value : UInt32) : Arm cfg D :=
  if armModeHasSpsr a.mode then
    let fieldMask := msrlookup ((opcode >>> 16) &&& 0xf) &&& psrBitsValid
    let spsr := (a.spsr (a.mode &&& 0xf) &&& ~~~fieldMask) ||| (value &&& fieldMask)
    { a with spsr := Function.update a.spsr (a.mode &&& 0xf) spsr }
  else a

end Arm

/-- What an instruction can ask for.  `setR15` is any write to R15 that is no change of mode: branches,
loads, results; `others` is what the host does for an emulated SWI. -/
inductive Effect (D : Type)
  | access (a : Access)
  | userAccess (a : Access)
  | setR15 (value : UInt32)
  | setFlags (value : UInt32)
  | writeR15 (dest : UInt32)
  | compareRd15 (dest : UInt32)
  | writeCpsr (opcode value : UInt32)
  | writeSpsr (opcode value : UInt32)
  | exception (mmode address diff : UInt32)
  | others (mem : Memory) (dev : D)

inductive Body (D : Type)
  | mcr (opcode val : UInt32)
  | effects (l : List (Effect D))

inductive Fetched
  | prefetchAbort
  | executed (opcode : UInt32)
  deriving DecidableEq

section Exec

variable {D : Type} {cfg : Config} (io : Devices D) (a : Arm cfg D)

def effect : Effect D → Option (Arm cfg D)
  | .access x => (access io a.mmu x).map fun r => { a with mmu := r.2 }
  | .userAccess x => (userAccess io a.mmu x).map fun r => { a with mmu := r.2 }
  | .setR15 value => some { a with r15 := value }
  | .setFlags value =>
    let psr := (a.psr &&& 0x0fffffff) ||| (value &&& 0xf0000000)
    some (if armMode32 a.mode then { a with r16 := psr } else { a with r15 := psr })
  | .writeR15 dest => some (armWriteR15 a dest)
  | .compareRd15 dest => some (armCompareRd15 a dest)
  | .writeCpsr opcode value => some (armWriteCpsr a opcode value)
  | .writeSpsr opcode value => some (armWriteSpsr a opcode value)
  | .exception mmode address diff => some (exception a mmode address diff)
  | .others mem dev => some { a with mmu := { a.mmu with mem := mem, dev := dev } }

/-- A CP15 write by a privileged mode; clearing `prog32` leaves a 32-bit mode. -/
def mcr (opcode val : UInt32) : Arm cfg D :=
  if armModePriv a.mode then
    let t := cp15Write a.mmu opcode val
    if t.mode = a.mode then { a with mmu := t }
    else
      { a with
        mmu := t
        r15 := (modeChanged a.mode t.mode a.r15 a.r16).1
        r16 := (modeChanged a.mode t.mode a.r15 a.r16).2 }
  else exception a undefinedMode 8 4

def runBody : Body D → Option (Arm cfg D)
  | .mcr opcode val => some (mcr a opcode val)
  | .effects l => l.foldlM (effect io) a

def opcodeAt : UInt32 := hostWord a.mmu a.pccache2 a.pc

def fetch : Option (Fetched × Arm cfg D) :=
  if a.mmu.pccache = some (page a.pc) then some (.executed (opcodeAt a), a)
  else
    match getpccache io { a.mmu with pccache := some (page a.pc) } a.pc with
    | none => none
    | some (none, t) => some (.prefetchAbort, { a with mmu := { t with pccache := none } })
    | some (some h, t) =>
      let b := { a with mmu := t, pccache2 := h }
      some (.executed (opcodeAt b), b)

def copyInterruptFlags : Arm cfg D :=
  if armMode32 a.mode then a
  else { a with r16 := (a.r16 &&& ~~~(0xc0 : UInt32)) ||| ((a.r15 &&& (0xc000000 : UInt32)) >>> 20) }

def takeEvent (irq fiq : Bool) : Arm cfg D :=
  if a.mmu.abort || irq || fiq then
    let a := copyInterruptFlags a
    if a.mmu.abort then
      let t := exception a abortMode 0x14 0
      { t with mmu := { t.mmu with abort := false } }
    else if fiq && a.r16 &&& 0x40 == 0 then exception a fiqMode 0x20 0
    else if irq && a.r16 &&& 0x80 == 0 then exception a irqMode 0x1c 0
    else a
  else a

def nextPc : Arm cfg D := { a with r15 := a.r15 + 4 }

/-- One pass of `arm_exec`'s loop, with the instruction at the PC and the interrupts raised by its
end.  `none` where the emulator stops. -/
def armExec (body : Body D) (irq fiq : Bool) : Option (Fetched × Arm cfg D) :=
  match fetch io a with
  | none => none
  | some (.prefetchAbort, t) => some (.prefetchAbort, nextPc (exception t abortMode 0x10 4))
  | some (.executed opcode, t) =>
    (runBody io t body).map fun u => (.executed opcode, nextPc (takeEvent u irq fiq))

/-- `arm_reset` and the resets around it. -/
def armReset (mem : Memory) (dev : D) : Arm cfg D where
  mmu := resetState mem dev
  r15 := 0x0c000008 ||| 3
  r16 := supervisorMode ||| 0xd0
  spsr := fun _ => 0
  pccache2 := ⟨.rom, 0⟩

end Exec

end RpcEmu.Mmu
