import RpcEmu.Arm.Data

/-!
# Loads and stores

The transfers of `arm.c` and `arm_common.c`.  An access that fails sets the abort bit of `arm.event`,
and each family looks at it in a place of its own, against its writeback and its destination.
-/

namespace RpcEmu.Arm

variable {σ : Type} (bus : Bus σ) (op : UInt32) (a : ArmState σ)

/-! ## Accesses -/

def memRead32 (addr : UInt32) : UInt32 × ArmState σ :=
  let r := bus.read32 a.memmode addr a.world
  (r.1, { a with world := r.2 })

def memRead8 (addr : UInt32) : UInt8 × ArmState σ :=
  let r := bus.read8 a.memmode addr a.world
  (r.1, { a with world := r.2 })

def memWrite32 (addr data : UInt32) : ArmState σ :=
  { a with world := bus.write32 a.memmode addr data a.world }

def memWrite8 (addr : UInt32) (data : UInt8) : ArmState σ :=
  { a with world := bus.write8 a.memmode addr data a.world }

/-- The `mem_user_` accesses are made with the privilege of User mode. -/
def memUserRead32 (addr : UInt32) : UInt32 × ArmState σ :=
  let r := bus.read32 false addr a.world
  (r.1, { a with world := r.2 })

def memUserRead8 (addr : UInt32) : UInt8 × ArmState σ :=
  let r := bus.read8 false addr a.world
  (r.1, { a with world := r.2 })

def memUserWrite32 (addr data : UInt32) : ArmState σ :=
  { a with world := bus.write32 false addr data a.world }

def memUserWrite8 (addr : UInt32) (data : UInt8) : ArmState σ :=
  { a with world := bus.write8 false addr data a.world }

/-- `arm_ldr_rotate`. -/
def armLdrRotate (value addr : UInt32) : UInt32 := rotateRight32 value ((addr &&& 3) * 8)

/-! ## Single transfers -/

abbrev Load (σ : Type) := ArmState σ → UInt32 → UInt32 × ArmState σ

abbrev Store (σ : Type) := ArmState σ → UInt32 → UInt32 → ArmState σ

def wordLoad : Load σ := fun a addr =>
  let r := memRead32 bus a (addr &&& ~~~3)
  (armLdrRotate r.1 addr, r.2)

def byteLoad : Load σ := fun a addr =>
  let r := memRead8 bus a addr
  (r.1.toUInt32, r.2)

def wordStore : Store σ := fun a addr data => memWrite32 bus a (addr &&& ~~~3) data

def byteStore : Store σ := fun a addr data => memWrite8 bus a addr data.toUInt8

def wordUserLoad : Load σ := fun a addr =>
  let r := memUserRead32 bus a (addr &&& ~~~3)
  (armLdrRotate r.1 addr, r.2)

def byteUserLoad : Load σ := fun a addr =>
  let r := memUserRead8 bus a addr
  (r.1.toUInt32, r.2)

def wordUserStore : Store σ := fun a addr data => memUserWrite32 bus a (addr &&& ~~~3) data

def byteUserStore : Store σ := fun a addr data => memUserWrite8 bus a addr data.toUInt8

def transferOffset : UInt32 :=
  let offset := if op &&& 0x2000000 ≠ 0 then shift2 op a else op &&& 0xfff
  if op &&& 0x800000 = 0 then -offset else offset

/-- The base after a single transfer; `addr` is the address that was used. -/
def writeBase (addr offset : UInt32) : ArmState σ :=
  if op &&& 0x1000000 = 0 then a.setReg (rn op) (addr + offset)
  else if op &&& 0x200000 ≠ 0 then a.setReg (rn op) addr
  else a

def transferAddr : UInt32 :=
  if op &&& 0x1000000 ≠ 0 then getaddr a (rn op) + transferOffset op a else getaddr a (rn op)

def storeSingle (store : Store σ) : ArmState σ :=
  let addr := transferAddr op a
  let offset := transferOffset op a
  let a := store a addr (getreg a (rd op))
  if a.abortBaseRestored && a.aborted then a else writeBase op a addr offset

def loadSingle (load : Load σ) : ArmState σ :=
  let addr := transferAddr op a
  let offset := transferOffset op a
  let r := load a addr
  let a := r.2
  if a.abortBaseRestored && a.aborted then a
  else
    let a := writeBase op a addr offset
    if a.aborted then a else loadreg a (rd op) r.1

def storeUser (store : Store σ) : ArmState σ :=
  let addr := getaddr a (rn op)
  let a := store a addr (getreg a (rd op))
  if a.abortBaseRestored && a.aborted then a else a.setReg (rn op) (addr + transferOffset op a)

def loadUser (load : Load σ) : ArmState σ :=
  let addr := getaddr a (rn op)
  let r := load a addr
  let a := r.2
  if a.abortBaseRestored && a.aborted then a
  else
    let a := a.setReg (rn op) (addr + transferOffset op a)
    if a.aborted then a else loadreg a (rd op) r.1

def swapOp (load : Load σ) (store : Store σ) : ArmState σ :=
  if rd op = 15 then a
  else
    let addr := getaddr a (rn op)
    let data := getreg a (rm op)
    let r := load a addr
    if r.2.aborted then r.2
    else
      let a := store r.2 addr data
      if a.aborted then a else loadreg a (rd op) r.1

def isSwp : Bool := op &&& 0xff0 == 0x90

/-! ## Halfwords and signed bytes -/

def halfOffset : UInt32 :=
  let offset := if op &&& 0x400000 ≠ 0 then ((op >>> 4) &&& 0xf0) ||| (op &&& (0xf : UInt32))
    else a.reg (rm op)
  if op &&& 0x800000 = 0 then -offset else offset

def halfAddr : UInt32 :=
  if op &&& 0x1000000 ≠ 0 then getaddr a (rn op) + halfOffset op a else getaddr a (rn op)

def writeHalfBase (addr offset : UInt32) : ArmState σ :=
  if op &&& 0x1000000 = 0 then a.setReg (rn op) (addr + offset)
  else if op &&& 0x200000 ≠ 0 then a.setReg (rn op) addr
  else a

/-- `arm_strh`. -/
def armStrh : ArmState σ :=
  let addr := halfAddr op a
  let offset := halfOffset op a
  let data := getreg a (rd op)
  let a := memWrite8 bus a (addr &&& ~~~1) data.toUInt8
  let a := memWrite8 bus a (addr ||| 1) (data >>> 8).toUInt8
  if a.aborted then a else writeHalfBase op a addr offset

/-- `arm_ldrh`, `arm_ldrsh` and `arm_ldrsb`, which differ in what they load. -/
def loadHalf (load : Load σ) : ArmState σ :=
  let addr := halfAddr op a
  let offset := halfOffset op a
  let r := load a addr
  let a := r.2
  if a.aborted then a else loadreg (writeHalfBase op a addr offset) (rd op) r.1

/-- `arm_ldrh`. -/
def armLdrh : ArmState σ :=
  loadHalf op a fun a addr =>
    let r := memRead32 bus a (addr &&& ~~~3)
    (if addr &&& 2 ≠ 0 then r.1 >>> 16 else r.1 &&& 0xffff, r.2)

/-- `arm_ldrsh`. -/
def armLdrsh : ArmState σ :=
  loadHalf op a fun a addr =>
    let r := memRead32 bus a (addr &&& ~~~3)
    (if addr &&& 2 ≠ 0 then asr r.1 16 else r.1.toUInt16.toInt16.toInt32.toUInt32, r.2)

/-- `arm_ldrsb`. -/
def armLdrsb : ArmState σ :=
  loadHalf op a fun a addr =>
    let r := memRead8 bus a addr
    (r.1.toInt8.toInt32.toUInt32, r.2)

/-! ## Multiple transfers -/

def regList : List Nat := (List.range 15).filter fun c => op.toNat.testBit c

def listsR15 : Bool := op.toNat.testBit 15

/-- `arm_ldm_stm_offset`. -/
def armLdmStmOffset : UInt32 :=
  UInt32.ofNat (4 * ((List.range 16).filter fun c => op.toNat.testBit c).length)

def writesBack : Bool := op &&& 0x200000 != 0 && rn op != 15

def storeLoop (value : ArmState σ → Nat → UInt32) :
    List Nat → UInt32 → ArmState σ → Bool × UInt32 × ArmState σ
  | [], addr, a => (false, addr, a)
  | c :: cs, addr, a =>
    let a := memWrite32 bus a addr (value a c)
    if a.aborted then (true, addr, a) else storeLoop value cs (addr + 4) a

def storeDone (writeback : UInt32) : ArmState σ :=
  if a.stmWritebackAtEnd && writesBack op then a.setReg (rn op) writeback else a

/-- `data_abort` of the stores. -/
def storeAborted (origBase : UInt32) : ArmState σ :=
  if a.abortBaseRestored && writesBack op then a.setReg (rn op) origBase else a

def storeRest (value : ArmState σ → Nat → UInt32) (origBase writeback addr : UInt32) :
    ArmState σ :=
  let r := storeLoop bus value (regList op).tail addr a
  if r.1 then storeAborted op r.2.2 origBase
  else if listsR15 op then
    let a := memWrite32 bus r.2.2 r.2.1 (r.2.2.reg 15 + r.2.2.r15Diff)
    if a.aborted then storeAborted op a origBase else storeDone op a writeback
  else storeDone op r.2.2 writeback

def storeFirst (value : ArmState σ → Nat → UInt32) (addr writeback : UInt32) : ArmState σ :=
  let a := match regList op with
    | [] => a
    | c :: _ => memWrite32 bus a addr (value a c)
  if !a.stmWritebackAtEnd && writesBack op then a.setReg (rn op) writeback else a

/-- A store of several registers, from where `value` says. -/
def storeMultiple (value : ArmState σ → Nat → UInt32) (address writeback : UInt32) : ArmState σ :=
  let origBase := a.reg (rn op)
  let addr := address &&& ~~~3
  let next := if (regList op).isEmpty then addr else addr + 4
  let a := storeFirst bus op a value addr writeback
  if a.aborted then storeAborted op a origBase
  else storeRest bus op a value origBase writeback next

/-- `arm_store_multiple`. -/
def armStoreMultiple (address writeback : UInt32) : ArmState σ :=
  storeMultiple bus op a (fun a c => a.reg c) address writeback

/-- `arm_store_multiple_s`. -/
def armStoreMultipleS (address writeback : UInt32) : ArmState σ :=
  storeMultiple bus op a (fun a c => a.readPtr (a.usrregs c)) address writeback

def loadLoop (put : ArmState σ → Nat → UInt32 → ArmState σ) :
    List Nat → UInt32 → ArmState σ → Bool × UInt32 × ArmState σ
  | [], addr, a => (false, addr, a)
  | c :: cs, addr, a =>
    let r := memRead32 bus a addr
    if r.2.aborted then (true, addr, r.2) else loadLoop put cs (addr + 4) (put r.2 c r.1)

/-- `data_abort` of the loads. -/
def loadAborted (origBase writeback : UInt32) : ArmState σ :=
  if !a.abortBaseRestored && writesBack op then a.setReg (rn op) writeback
  else a.setReg (rn op) origBase

/-- The loads below R15, from the written-back base; `done` has the rest of the instruction. -/
def loadMultiple (put : ArmState σ → Nat → UInt32 → ArmState σ) (address writeback : UInt32)
    (done : UInt32 → ArmState σ → Bool × ArmState σ) : ArmState σ :=
  let origBase := a.reg (rn op)
  let a := if writesBack op then a.setReg (rn op) writeback else a
  let r := loadLoop bus put (regList op) (address &&& ~~~3) a
  if r.1 then loadAborted op r.2.2 origBase writeback
  else
    let d := done r.2.1 r.2.2
    if d.1 then loadAborted op d.2 origBase writeback else d.2

/-- The load of R15, put in its place by `put`, and whether it aborted. -/
def loadR15 (put : ArmState σ → UInt32 → ArmState σ) (addr : UInt32) (a : ArmState σ) :
    Bool × ArmState σ :=
  let r := memRead32 bus a addr
  if r.2.aborted then (true, r.2) else (false, put r.2 r.1)

def branchTo (dest : UInt32) : ArmState σ :=
  a.setReg 15 ((a.reg 15 &&& ~~~a.r15Mask) ||| ((dest + 4) &&& a.r15Mask))

/-- `arm_load_multiple`. -/
def armLoadMultiple (address writeback : UInt32) : ArmState σ :=
  loadMultiple bus op a ArmState.setReg address writeback fun addr a =>
    if listsR15 op then loadR15 bus branchTo addr a else (false, a)

/-- `*usrregs[c] = v`, a load into the User bank. -/
def putUser (c : Nat) (v : UInt32) : ArmState σ := a.writePtr v (a.usrregs c)

/-- `arm_load_multiple_s`. -/
def armLoadMultipleS (address writeback : UInt32) : ArmState σ :=
  if listsR15 op then
    loadMultiple bus op a ArmState.setReg address writeback (loadR15 bus armWriteR15)
  else
    loadMultiple bus op a putUser address writeback fun _ a => (false, a)

def downAddr : UInt32 :=
  let addr := a.reg (rn op) - armLdmStmOffset op
  if op &&& 0x1000000 = 0 then addr + 4 else addr

def upAddr : UInt32 :=
  let addr := a.reg (rn op)
  if op &&& 0x1000000 ≠ 0 then addr + 4 else addr

def multipleDown (multiple : UInt32 → UInt32 → ArmState σ) : ArmState σ :=
  multiple (downAddr op a) (a.reg (rn op) - armLdmStmOffset op)

def multipleUp (multiple : UInt32 → UInt32 → ArmState σ) : ArmState σ :=
  multiple (upAddr op a) (a.reg (rn op) + armLdmStmOffset op)

end RpcEmu.Arm
