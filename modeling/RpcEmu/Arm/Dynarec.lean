import RpcEmu.Arm.Exec
import RpcEmu.Lib.Masks

/-!
# The recompiler's instructions

`arm_dynarec_ops.h` writes the instruction set a second time, as one function for each kind of
instruction, and `arm_dynarec.c` files the functions in a table of 256.  A function answers whether the
block has to end (an abort) besides what it does.

* **The functions** have the names of the source.  A data-processing one differs from the case of the
  switch in nothing; the transfers test bits 4 and 25 together where the switch has a case that falls
  through, and leave early with an answer.
* **`armOpcodeFn_armOpcode`** is that the table and the switch are the same machine.
-/

namespace RpcEmu.Arm

open Pages Masks

variable {σ : Type}

section Ops

variable (bus : Bus σ) (op : UInt32) (a : ArmState σ)

/-! ## The transfers -/

def opSwap (load : Load σ) (store : Store σ) : UInt32 × ArmState σ :=
  if rd op = 15 then (0, a)
  else
    let addr := getaddr a (rn op)
    let data := getreg a (rm op)
    let r := load a addr
    if r.2.aborted then (1, r.2)
    else
      let a := store r.2 addr data
      if a.aborted then (1, a) else (0, loadreg a (rd op) r.1)

def answer : UInt32 × ArmState σ := (a.world.event &&& 0x40, a)

def isRegShift : Bool := op &&& 0x2000010 == 0x2000010

/-- `opSTRT` and `opSTRBT`. -/
def opStoreUser (store : Store σ) : UInt32 × ArmState σ :=
  if isRegShift op then (0, armExceptionUndefined a)
  else
    let addr := getaddr a (rn op)
    let a := store a addr (getreg a (rd op))
    if a.abortBaseRestored && a.aborted then (1, a)
    else answer (a.setReg (rn op) (addr + transferOffset op a))

/-- `opLDRT` and `opLDRBT`. -/
def opLoadUser (load : Load σ) : UInt32 × ArmState σ :=
  if isRegShift op then (0, armExceptionUndefined a)
  else
    let addr := getaddr a (rn op)
    let r := load a addr
    let a := r.2
    if a.abortBaseRestored && a.aborted then (1, a)
    else
      let a := a.setReg (rn op) (addr + transferOffset op a)
      if a.aborted then (1, a) else (0, loadreg a (rd op) r.1)

/-- `opSTR` and `opSTRB`. -/
def opStoreSingle (store : Store σ) : UInt32 × ArmState σ :=
  if isRegShift op then (0, armExceptionUndefined a)
  else
    let addr := transferAddr op a
    let offset := transferOffset op a
    let a := store a addr (getreg a (rd op))
    if a.abortBaseRestored && a.aborted then (1, a) else answer (writeBase op a addr offset)

/-- `opLDR` and `opLDRB`. -/
def opLoadSingle (load : Load σ) : UInt32 × ArmState σ :=
  if isRegShift op then (0, armExceptionUndefined a)
  else
    let addr := transferAddr op a
    let offset := transferOffset op a
    let r := load a addr
    let a := r.2
    if a.abortBaseRestored && a.aborted then (1, a)
    else
      let a := writeBase op a addr offset
      if a.aborted then (1, a) else (0, loadreg a (rd op) r.1)

/-! ## The functions -/

def opANDreg : UInt32 × ArmState σ :=
  (0, if isMul op then mulOp op a 0 else dataOp .reg op a fun l r _ => l &&& r)

def opANDregS : UInt32 × ArmState σ :=
  (0, if isMul op then mulOpS op a 0 else logicalOpS .reg op a (· &&& ·))

def opEORreg : UInt32 × ArmState σ :=
  (0, if isMul op then mulOp op a (a.reg (mulRn op)) else dataOp .reg op a fun l r _ => l ^^^ r)

def opEORregS : UInt32 × ArmState σ :=
  (0, if isMul op then mulOpS op a (a.reg (mulRn op)) else logicalOpS .reg op a (· ^^^ ·))

def opSUBreg : UInt32 × ArmState σ := (0, dataOp .reg op a fun l r _ => l - r)

def opSUBregS : UInt32 × ArmState σ := (0, arithOpS .reg op a (fun l r _ => l - r) armFlagsSub)

def opRSBreg : UInt32 × ArmState σ := (0, dataOp .reg op a fun l r _ => r - l)

def opRSBregS : UInt32 × ArmState σ := (0, arithOpS .reg op a (fun l r _ => r - l) armFlagsRsb)

def opADDreg : UInt32 × ArmState σ :=
  (0, if isMulLong op a then mulLong op a (umul op a) else dataOp .reg op a fun l r _ => l + r)

def opADDregS : UInt32 × ArmState σ :=
  (0, if isMulLong op a then mulLongS op a (umul op a)
    else arithOpS .reg op a (fun l r _ => l + r) armFlagsAdd)

def opADCreg : UInt32 × ArmState σ :=
  (0, if isMulLong op a then mulLong op a (umul op a + mulCurrent op a)
    else dataOp .reg op a fun l r c => l + r + c)

def opADCregS : UInt32 × ArmState σ :=
  (0, if isMulLong op a then mulLongS op a (umul op a + mulCurrent op a)
    else arithOpS .reg op a (fun l r c => l + r + c) armFlagsAdc)

def opSBCreg : UInt32 × ArmState σ :=
  (0, if isMulLong op a then mulLong op a (smul op a)
    else dataOp .reg op a fun l r c => l - r - borrow c)

def opSBCregS : UInt32 × ArmState σ :=
  (0, if isMulLong op a then mulLongS op a (smul op a)
    else arithOpS .reg op a (fun l r c => l - r - borrow c) armFlagsSbc)

def opRSCreg : UInt32 × ArmState σ :=
  (0, if isMulLong op a then mulLong op a (smul op a + mulCurrent op a)
    else dataOp .reg op a fun l r c => r - l - borrow c)

def opRSCregS : UInt32 × ArmState σ :=
  (0, if isMulLong op a then mulLongS op a (smul op a + mulCurrent op a)
    else arithOpS .reg op a (fun l r c => r - l - borrow c) armFlagsRsc)

def opSWPword : UInt32 × ArmState σ :=
  if isSwp op then opSwap op a (wordLoad bus) (wordStore bus)
  else if isMrs op then (0, mrsCpsr op a)
  else (0, unallocated a)

def opTSTreg : UInt32 × ArmState σ := (0, testOp .reg op a (· &&& ·))

def opMSRcreg : UInt32 × ArmState σ :=
  (0, if isMsrReg op then armWriteCpsr a op (a.reg (rm op)) else unallocated a)

def opTEQreg : UInt32 × ArmState σ := (0, testOp .reg op a (· ^^^ ·))

def opSWPbyte : UInt32 × ArmState σ :=
  if isSwp op then opSwap op a (byteLoad bus) (byteStore bus)
  else if isMrs op then (0, mrsSpsr op a)
  else (0, unallocated a)

def opCMPreg : UInt32 × ArmState σ := (0, compareOp .reg op a (· - ·) armFlagsSub)

def opMSRsreg : UInt32 × ArmState σ :=
  (0, if isMsrReg op then armWriteSpsr a op (a.reg (rm op)) else unallocated a)

def opCMNreg : UInt32 × ArmState σ := (0, compareOp .reg op a (· + ·) armFlagsAdd)

def opORRreg : UInt32 × ArmState σ := (0, dataOp .reg op a fun l r _ => l ||| r)

def opORRregS : UInt32 × ArmState σ := (0, logicalOpS .reg op a (· ||| ·))

def opMOVreg : UInt32 × ArmState σ := (0, dataOp .reg op a fun _ r _ => r)

def opMOVregS : UInt32 × ArmState σ := (0, logicalOpS .reg op a fun _ r => r)

def opBICreg : UInt32 × ArmState σ := (0, dataOp .reg op a fun l r _ => l &&& ~~~r)

def opBICregS : UInt32 × ArmState σ := (0, logicalOpS .reg op a fun l r => l &&& ~~~r)

def opMVNreg : UInt32 × ArmState σ := (0, dataOp .reg op a fun _ r _ => ~~~r)

def opMVNregS : UInt32 × ArmState σ := (0, logicalOpS .reg op a fun _ r => ~~~r)

def opANDimm : UInt32 × ArmState σ := (0, dataOp .imm op a fun l r _ => l &&& r)

def opANDimmS : UInt32 × ArmState σ := (0, logicalOpS .imm op a (· &&& ·))

def opEORimm : UInt32 × ArmState σ := (0, dataOp .imm op a fun l r _ => l ^^^ r)

def opEORimmS : UInt32 × ArmState σ := (0, logicalOpS .imm op a (· ^^^ ·))

def opSUBimm : UInt32 × ArmState σ := (0, dataOp .imm op a fun l r _ => l - r)

def opSUBimmS : UInt32 × ArmState σ := (0, subsImm op a)

def opRSBimm : UInt32 × ArmState σ := (0, dataOp .imm op a fun l r _ => r - l)

def opRSBimmS : UInt32 × ArmState σ := (0, arithOpS .imm op a (fun l r _ => r - l) armFlagsRsb)

def opADDimm : UInt32 × ArmState σ := (0, dataOp .imm op a fun l r _ => l + r)

def opADDimmS : UInt32 × ArmState σ := (0, arithOpS .imm op a (fun l r _ => l + r) armFlagsAdd)

def opADCimm : UInt32 × ArmState σ := (0, dataOp .imm op a fun l r c => l + r + c)

def opADCimmS : UInt32 × ArmState σ := (0, arithOpS .imm op a (fun l r c => l + r + c) armFlagsAdc)

def opSBCimm : UInt32 × ArmState σ := (0, dataOp .imm op a fun l r c => l - r - borrow c)

def opSBCimmS : UInt32 × ArmState σ :=
  (0, arithOpS .imm op a (fun l r c => l - r - borrow c) armFlagsSbc)

def opRSCimm : UInt32 × ArmState σ := (0, dataOp .imm op a fun l r c => r - l - borrow c)

def opRSCimmS : UInt32 × ArmState σ :=
  (0, arithOpS .imm op a (fun l r c => r - l - borrow c) armFlagsRsc)

def opTSTimm : UInt32 × ArmState σ := (0, testOp .imm op a (· &&& ·))

def opMSRcimm : UInt32 × ArmState σ :=
  (0, if rd op = 15 then armWriteCpsr a op (armImm op) else unallocated a)

def opTEQimm : UInt32 × ArmState σ := (0, testOp .imm op a (· ^^^ ·))

def opCMPimm : UInt32 × ArmState σ := (0, compareOp .imm op a (· - ·) armFlagsSub)

def opMSRsimm : UInt32 × ArmState σ :=
  (0, if rd op = 15 then armWriteSpsr a op (armImm op) else unallocated a)

def opCMNimm : UInt32 × ArmState σ := (0, compareOp .imm op a (· + ·) armFlagsAdd)

def opORRimm : UInt32 × ArmState σ := (0, dataOp .imm op a fun l r _ => l ||| r)

def opORRimmS : UInt32 × ArmState σ := (0, logicalOpS .imm op a (· ||| ·))

def opMOVimm : UInt32 × ArmState σ := (0, dataOp .imm op a fun _ r _ => r)

def opMOVimmS : UInt32 × ArmState σ := (0, logicalOpS .imm op a fun _ r => r)

def opBICimm : UInt32 × ArmState σ := (0, dataOp .imm op a fun l r _ => l &&& ~~~r)

def opBICimmS : UInt32 × ArmState σ := (0, logicalOpS .imm op a fun l r => l &&& ~~~r)

def opMVNimm : UInt32 × ArmState σ := (0, dataOp .imm op a fun _ r _ => ~~~r)

def opMVNimmS : UInt32 × ArmState σ := (0, logicalOpS .imm op a fun _ r => ~~~r)

def opSTRT : UInt32 × ArmState σ := opStoreUser op a (wordUserStore bus)

def opLDRT : UInt32 × ArmState σ := opLoadUser op a (wordUserLoad bus)

def opSTRBT : UInt32 × ArmState σ := opStoreUser op a (byteUserStore bus)

def opLDRBT : UInt32 × ArmState σ := opLoadUser op a (byteUserLoad bus)

def opSTR : UInt32 × ArmState σ := opStoreSingle op a (wordStore bus)

def opLDR : UInt32 × ArmState σ := opLoadSingle op a (wordLoad bus)

def opSTRB : UInt32 × ArmState σ := opStoreSingle op a (byteStore bus)

def opLDRB : UInt32 × ArmState σ := opLoadSingle op a (byteLoad bus)

def opSTMD : UInt32 × ArmState σ := answer (multipleDown op a (armStoreMultiple bus op a))

def opSTMI : UInt32 × ArmState σ := answer (multipleUp op a (armStoreMultiple bus op a))

def opSTMDS : UInt32 × ArmState σ := answer (multipleDown op a (armStoreMultipleS bus op a))

def opSTMIS : UInt32 × ArmState σ := answer (multipleUp op a (armStoreMultipleS bus op a))

def opLDMD : UInt32 × ArmState σ := answer (multipleDown op a (armLoadMultiple bus op a))

def opLDMI : UInt32 × ArmState σ := answer (multipleUp op a (armLoadMultiple bus op a))

def opLDMDS : UInt32 × ArmState σ := answer (multipleDown op a (armLoadMultipleS bus op a))

def opLDMIS : UInt32 × ArmState σ := answer (multipleUp op a (armLoadMultipleS bus op a))

def opB : UInt32 × ArmState σ := (0, branch op a)

def opBL : UInt32 × ArmState σ := (0, branchLink op a)

def opcopro : UInt32 × ArmState σ :=
  if op &&& 0xf00 = 0x100 ∨ op &&& 0xf00 = 0x200 then (0, fpaopcode bus op a)
  else (0, armExceptionUndefined a)

def opMCR : UInt32 × ArmState σ :=
  if op &&& 0xf00 = 0x100 then (0, fpaopcode bus op a) else (0, mcr bus op a)

def opMRC : UInt32 × ArmState σ :=
  if op &&& 0xf00 = 0x100 then (0, fpaopcode bus op a) else (0, mrc bus op a)

def opUNALLOC : UInt32 × ArmState σ := (0, unallocated a)

def opLDRH : UInt32 × ArmState σ := answer (armLdrh bus op a)

def opLDRSB : UInt32 × ArmState σ := answer (armLdrsb bus op a)

def opLDRSH : UInt32 × ArmState σ := answer (armLdrsh bus op a)

def opSTRH : UInt32 × ArmState σ := answer (armStrh bus op a)

end Ops

/-! ## The table -/

inductive OpFn where
  | opANDreg | opANDregS | opEORreg | opEORregS | opSUBreg | opSUBregS | opRSBreg | opRSBregS
  | opADDreg | opADDregS | opADCreg | opADCregS | opSBCreg | opSBCregS | opRSCreg | opRSCregS
  | opSWPword | opTSTreg | opMSRcreg | opTEQreg | opSWPbyte | opCMPreg | opMSRsreg | opCMNreg
  | opORRreg | opORRregS | opMOVreg | opMOVregS | opBICreg | opBICregS | opMVNreg | opMVNregS
  | opANDimm | opANDimmS | opEORimm | opEORimmS | opSUBimm | opSUBimmS | opRSBimm | opRSBimmS
  | opADDimm | opADDimmS | opADCimm | opADCimmS | opSBCimm | opSBCimmS | opRSCimm | opRSCimmS
  | opTSTimm | opMSRcimm | opTEQimm | opCMPimm | opMSRsimm | opCMNimm | opORRimm | opORRimmS
  | opMOVimm | opMOVimmS | opBICimm | opBICimmS | opMVNimm | opMVNimmS | opSTRT | opLDRT
  | opSTRBT | opLDRBT | opSTR | opLDR | opSTRB | opLDRB | opSTMD | opSTMI | opSTMDS | opSTMIS
  | opLDMD | opLDMI | opLDMDS | opLDMIS | opB | opBL | opcopro | opMCR | opMRC | opUNALLOC
  | opLDRH | opLDRSB | opLDRSH | opSTRH | opSWI
  deriving DecidableEq, Repr

def OpFn.call (bus : Bus σ) (op : UInt32) (a : ArmState σ) : OpFn → UInt32 × ArmState σ
  | opANDreg => Arm.opANDreg op a
  | opANDregS => Arm.opANDregS op a
  | opEORreg => Arm.opEORreg op a
  | opEORregS => Arm.opEORregS op a
  | opSUBreg => Arm.opSUBreg op a
  | opSUBregS => Arm.opSUBregS op a
  | opRSBreg => Arm.opRSBreg op a
  | opRSBregS => Arm.opRSBregS op a
  | opADDreg => Arm.opADDreg op a
  | opADDregS => Arm.opADDregS op a
  | opADCreg => Arm.opADCreg op a
  | opADCregS => Arm.opADCregS op a
  | opSBCreg => Arm.opSBCreg op a
  | opSBCregS => Arm.opSBCregS op a
  | opRSCreg => Arm.opRSCreg op a
  | opRSCregS => Arm.opRSCregS op a
  | opSWPword => Arm.opSWPword bus op a
  | opTSTreg => Arm.opTSTreg op a
  | opMSRcreg => Arm.opMSRcreg op a
  | opTEQreg => Arm.opTEQreg op a
  | opSWPbyte => Arm.opSWPbyte bus op a
  | opCMPreg => Arm.opCMPreg op a
  | opMSRsreg => Arm.opMSRsreg op a
  | opCMNreg => Arm.opCMNreg op a
  | opORRreg => Arm.opORRreg op a
  | opORRregS => Arm.opORRregS op a
  | opMOVreg => Arm.opMOVreg op a
  | opMOVregS => Arm.opMOVregS op a
  | opBICreg => Arm.opBICreg op a
  | opBICregS => Arm.opBICregS op a
  | opMVNreg => Arm.opMVNreg op a
  | opMVNregS => Arm.opMVNregS op a
  | opANDimm => Arm.opANDimm op a
  | opANDimmS => Arm.opANDimmS op a
  | opEORimm => Arm.opEORimm op a
  | opEORimmS => Arm.opEORimmS op a
  | opSUBimm => Arm.opSUBimm op a
  | opSUBimmS => Arm.opSUBimmS op a
  | opRSBimm => Arm.opRSBimm op a
  | opRSBimmS => Arm.opRSBimmS op a
  | opADDimm => Arm.opADDimm op a
  | opADDimmS => Arm.opADDimmS op a
  | opADCimm => Arm.opADCimm op a
  | opADCimmS => Arm.opADCimmS op a
  | opSBCimm => Arm.opSBCimm op a
  | opSBCimmS => Arm.opSBCimmS op a
  | opRSCimm => Arm.opRSCimm op a
  | opRSCimmS => Arm.opRSCimmS op a
  | opTSTimm => Arm.opTSTimm op a
  | opMSRcimm => Arm.opMSRcimm op a
  | opTEQimm => Arm.opTEQimm op a
  | opCMPimm => Arm.opCMPimm op a
  | opMSRsimm => Arm.opMSRsimm op a
  | opCMNimm => Arm.opCMNimm op a
  | opORRimm => Arm.opORRimm op a
  | opORRimmS => Arm.opORRimmS op a
  | opMOVimm => Arm.opMOVimm op a
  | opMOVimmS => Arm.opMOVimmS op a
  | opBICimm => Arm.opBICimm op a
  | opBICimmS => Arm.opBICimmS op a
  | opMVNimm => Arm.opMVNimm op a
  | opMVNimmS => Arm.opMVNimmS op a
  | opSTRT => Arm.opSTRT bus op a
  | opLDRT => Arm.opLDRT bus op a
  | opSTRBT => Arm.opSTRBT bus op a
  | opLDRBT => Arm.opLDRBT bus op a
  | opSTR => Arm.opSTR bus op a
  | opLDR => Arm.opLDR bus op a
  | opSTRB => Arm.opSTRB bus op a
  | opLDRB => Arm.opLDRB bus op a
  | opSTMD => Arm.opSTMD bus op a
  | opSTMI => Arm.opSTMI bus op a
  | opSTMDS => Arm.opSTMDS bus op a
  | opSTMIS => Arm.opSTMIS bus op a
  | opLDMD => Arm.opLDMD bus op a
  | opLDMI => Arm.opLDMI bus op a
  | opLDMDS => Arm.opLDMDS bus op a
  | opLDMIS => Arm.opLDMIS bus op a
  | opB => Arm.opB op a
  | opBL => Arm.opBL op a
  | opcopro => Arm.opcopro bus op a
  | opMCR => Arm.opMCR bus op a
  | opMRC => Arm.opMRC bus op a
  | opUNALLOC => Arm.opUNALLOC a
  | opLDRH => Arm.opLDRH bus op a
  | opLDRSB => Arm.opLDRSB bus op a
  | opLDRSH => Arm.opLDRSH bus op a
  | opSTRH => Arm.opSTRH bus op a
  | opSWI => (0, Arm.opSWI bus op a)

/-- `opcodes`, the table by bits 20–27. -/
def opcodes : List OpFn :=
  [ .opANDreg, .opANDregS, .opEORreg, .opEORregS, .opSUBreg, .opSUBregS, .opRSBreg, .opRSBregS,
    .opADDreg, .opADDregS, .opADCreg, .opADCregS, .opSBCreg, .opSBCregS, .opRSCreg, .opRSCregS,
    .opSWPword, .opTSTreg, .opMSRcreg, .opTEQreg, .opSWPbyte, .opCMPreg, .opMSRsreg, .opCMNreg,
    .opORRreg, .opORRregS, .opMOVreg, .opMOVregS, .opBICreg, .opBICregS, .opMVNreg, .opMVNregS,
    .opANDimm, .opANDimmS, .opEORimm, .opEORimmS, .opSUBimm, .opSUBimmS, .opRSBimm, .opRSBimmS,
    .opADDimm, .opADDimmS, .opADCimm, .opADCimmS, .opSBCimm, .opSBCimmS, .opRSCimm, .opRSCimmS,
    .opUNALLOC, .opTSTimm, .opMSRcimm, .opTEQimm, .opUNALLOC, .opCMPimm, .opMSRsimm, .opCMNimm,
    .opORRimm, .opORRimmS, .opMOVimm, .opMOVimmS, .opBICimm, .opBICimmS, .opMVNimm, .opMVNimmS,
    .opSTR, .opLDR, .opSTRT, .opLDRT, .opSTRB, .opLDRB, .opSTRBT, .opLDRBT,
    .opSTR, .opLDR, .opSTRT, .opLDRT, .opSTRB, .opLDRB, .opSTRBT, .opLDRBT,
    .opSTR, .opLDR, .opSTR, .opLDR, .opSTRB, .opLDRB, .opSTRB, .opLDRB,
    .opSTR, .opLDR, .opSTR, .opLDR, .opSTRB, .opLDRB, .opSTRB, .opLDRB,
    .opSTR, .opLDR, .opSTRT, .opLDRT, .opSTRB, .opLDRB, .opSTRBT, .opLDRBT,
    .opSTR, .opLDR, .opSTRT, .opLDRT, .opSTRB, .opLDRB, .opSTRBT, .opLDRBT,
    .opSTR, .opLDR, .opSTR, .opLDR, .opSTRB, .opLDRB, .opSTRB, .opLDRB,
    .opSTR, .opLDR, .opSTR, .opLDR, .opSTRB, .opLDRB, .opSTRB, .opLDRB,
    .opSTMD, .opLDMD, .opSTMD, .opLDMD, .opSTMDS, .opLDMDS, .opSTMDS, .opLDMDS,
    .opSTMI, .opLDMI, .opSTMI, .opLDMI, .opSTMIS, .opLDMIS, .opSTMIS, .opLDMIS,
    .opSTMD, .opLDMD, .opSTMD, .opLDMD, .opSTMDS, .opLDMDS, .opSTMDS, .opLDMDS,
    .opSTMI, .opLDMI, .opSTMI, .opLDMI, .opSTMIS, .opLDMIS, .opSTMIS, .opLDMIS,
    .opB, .opB, .opB, .opB, .opB, .opB, .opB, .opB,
    .opB, .opB, .opB, .opB, .opB, .opB, .opB, .opB,
    .opBL, .opBL, .opBL, .opBL, .opBL, .opBL, .opBL, .opBL,
    .opBL, .opBL, .opBL, .opBL, .opBL, .opBL, .opBL, .opBL,
    .opcopro, .opcopro, .opcopro, .opcopro, .opcopro, .opcopro, .opcopro, .opcopro,
    .opcopro, .opcopro, .opcopro, .opcopro, .opcopro, .opcopro, .opcopro, .opcopro,
    .opcopro, .opcopro, .opcopro, .opcopro, .opcopro, .opcopro, .opcopro, .opcopro,
    .opcopro, .opcopro, .opcopro, .opcopro, .opcopro, .opcopro, .opcopro, .opcopro,
    .opMCR, .opMRC, .opMCR, .opMRC, .opMCR, .opMRC, .opMCR, .opMRC,
    .opMCR, .opMRC, .opMCR, .opMRC, .opMCR, .opMRC, .opMCR, .opMRC,
    .opSWI, .opSWI, .opSWI, .opSWI, .opSWI, .opSWI, .opSWI, .opSWI,
    .opSWI, .opSWI, .opSWI, .opSWI, .opSWI, .opSWI, .opSWI, .opSWI]

/-- `arm_opcode_fn`. -/
def armOpcodeFn (op : UInt32) (a : ArmState σ) : OpFn :=
  if a.archV4 && isHalf op then
    if op &&& 0x100000 ≠ 0 then .opLDRH else .opSTRH
  else if a.archV4 && isSigned op then
    if op &&& 0xf0 = 0xd0 then .opLDRSB else .opLDRSH
  else opcodes.getD (opIndex op) .opUNALLOC

/-! ## The table and the switch -/

def Case.fn : Case → OpFn
  | andReg => .opANDreg
  | andsReg => .opANDregS
  | eorReg => .opEORreg
  | eorsReg => .opEORregS
  | subReg => .opSUBreg
  | subsReg => .opSUBregS
  | rsbReg => .opRSBreg
  | rsbsReg => .opRSBregS
  | addReg => .opADDreg
  | addsReg => .opADDregS
  | adcReg => .opADCreg
  | adcsReg => .opADCregS
  | sbcReg => .opSBCreg
  | sbcsReg => .opSBCregS
  | rscReg => .opRSCreg
  | rscsReg => .opRSCregS
  | mrsCpsrSwp => .opSWPword
  | tstReg => .opTSTreg
  | msrCpsrReg => .opMSRcreg
  | teqReg => .opTEQreg
  | mrsSpsrSwpb => .opSWPbyte
  | cmpReg => .opCMPreg
  | msrSpsrReg => .opMSRsreg
  | cmnReg => .opCMNreg
  | orrReg => .opORRreg
  | orrsReg => .opORRregS
  | movReg => .opMOVreg
  | movsReg => .opMOVregS
  | bicReg => .opBICreg
  | bicsReg => .opBICregS
  | mvnReg => .opMVNreg
  | mvnsReg => .opMVNregS
  | andImm => .opANDimm
  | andsImm => .opANDimmS
  | eorImm => .opEORimm
  | eorsImm => .opEORimmS
  | subImm => .opSUBimm
  | subsImm => .opSUBimmS
  | rsbImm => .opRSBimm
  | rsbsImm => .opRSBimmS
  | addImm => .opADDimm
  | addsImm => .opADDimmS
  | adcImm => .opADCimm
  | adcsImm => .opADCimmS
  | sbcImm => .opSBCimm
  | sbcsImm => .opSBCimmS
  | rscImm => .opRSCimm
  | rscsImm => .opRSCimmS
  | tstImm => .opTSTimm
  | msrCpsrImm => .opMSRcimm
  | teqImm => .opTEQimm
  | cmpImm => .opCMPimm
  | msrSpsrImm => .opMSRsimm
  | cmnImm => .opCMNimm
  | orrImm => .opORRimm
  | orrsImm => .opORRimmS
  | movImm => .opMOVimm
  | movsImm => .opMOVimmS
  | bicImm => .opBICimm
  | bicsImm => .opBICimmS
  | mvnImm => .opMVNimm
  | mvnsImm => .opMVNimmS
  | strtReg | strt => .opSTRT
  | ldrtReg | ldrt => .opLDRT
  | strbtReg | strbt => .opSTRBT
  | ldrbtReg | ldrbt => .opLDRBT
  | strReg | str => .opSTR
  | ldrReg | ldr => .opLDR
  | strbReg | strb => .opSTRB
  | ldrbReg | ldrb => .opLDRB
  | stmd => .opSTMD
  | stmi => .opSTMI
  | stmds => .opSTMDS
  | stmis => .opSTMIS
  | ldmd => .opLDMD
  | ldmi => .opLDMI
  | ldmds => .opLDMDS
  | ldmis => .opLDMIS
  | b => .opB
  | bl => .opBL
  | copro => .opcopro
  | mcr => .opMCR
  | mrc => .opMRC
  | swi => .opSWI
  | default => .opUNALLOC

def Case.isRegOffset : Case → Bool
  | strtReg | ldrtReg | strbtReg | ldrbtReg | strReg | ldrReg | strbReg | ldrbReg => true
  | _ => false

def Case.isImmOffset : Case → Bool
  | strt | ldrt | strbt | ldrbt | str | ldr | strb | ldrb => true
  | _ => false

lemma testBit_marks (ks : List Nat) (m i : Nat) :
    (ks.foldl (fun m k => m ||| 1 <<< k) m).testBit i = (m.testBit i || decide (i ∈ ks)) := by
  induction ks generalizing m with
  | nil => simp
  | cons k ks ih =>
    rw [List.foldl_cons, ih, Nat.testBit_or, Nat.one_shiftLeft, Nat.testBit_two_pow, Bool.or_assoc]
    congr 1
    by_cases hk : i = k
    · simp [hk]
    · simp [hk, Ne.symm hk]

lemma mem_switchCases {k : Nat} (hk : k < 256) :
    k ∈ switchCases.flatMap Prod.fst ∨ k = 0x30 ∨ k = 0x34 := by
  have hall : (switchCases.flatMap Prod.fst ++ [0x30, 0x34]).foldl (fun m k => m ||| 1 <<< k) 0 = 2 ^ 256 - 1 := by
    decide +kernel
  have hbit := testBit_marks (switchCases.flatMap Prod.fst ++ [0x30, 0x34]) 0 k
  rw [hall, Nat.testBit_two_pow_sub_one, decide_eq_true hk, Nat.zero_testBit, Bool.false_or] at hbit
  have hmem := List.mem_append.mp (of_decide_eq_true hbit.symm)
  rwa [List.mem_pair] at hmem

lemma switchCase_mem (k : Nat) :
    (∃ e ∈ switchCases, k ∈ e.1 ∧ switchCase k = e.2) ∨
      (k ∉ switchCases.flatMap Prod.fst ∧ switchCase k = .default) := by
  unfold switchCase
  cases h : switchCases.find? fun e => e.1.contains k with
  | some e =>
    refine .inl ⟨e, List.mem_of_find?_eq_some h, ?_, rfl⟩
    simpa using List.find?_some h
  | none =>
    refine .inr ⟨fun hk => ?_, rfl⟩
    obtain ⟨e, he, hke⟩ := List.mem_flatMap.mp hk
    exact absurd hke (by simpa using List.find?_eq_none.mp h e he)

/-- **Every entry of the table is the function of its case.** -/
lemma opcodes_getD {k : Nat} (hk : k < 256) : opcodes.getD k .opUNALLOC = (switchCase k).fn := by
  have hentries : ∀ e ∈ switchCases, ∀ k ∈ e.1, opcodes.getD k .opUNALLOC = e.2.fn := by
    decide +kernel
  rcases switchCase_mem k with ⟨e, he, hke, hcase⟩ | ⟨hnone, hcase⟩
  · rw [hcase, hentries e he k hke]
  · rw [hcase]
    rcases (mem_switchCases hk).resolve_left hnone with rfl | rfl <;> rfl

lemma switchCase_bit (k : Nat) : ((switchCase k).isRegOffset = true → k.testBit 5 = true) ∧
    ((switchCase k).isImmOffset = true → k.testBit 5 = false) := by
  have hentries : ∀ e ∈ switchCases, ∀ k ∈ e.1,
      (e.2.isRegOffset = true → k.testBit 5 = true) ∧ (e.2.isImmOffset = true → k.testBit 5 = false) := by
    decide +kernel
  rcases switchCase_mem k with ⟨e, he, hke, hcase⟩ | ⟨-, hcase⟩
  · rw [hcase]
    exact hentries e he k hke
  · rw [hcase]
    exact ⟨nofun, nofun⟩

lemma opIndex_lt (op : UInt32) : opIndex op < 256 := by
  have h : ((op >>> 20) &&& 0xff).toNat ≤ 255 := by
    rw [UInt32.toNat_and]
    exact Nat.and_le_right
  exact Nat.lt_succ_of_le h

lemma testBit_opIndex (op : UInt32) : (opIndex op).testBit 5 = bit op 25 := by
  have h : bit ((op >>> 20) &&& 0xff) 5 = bit op 25 := by
    rw [bit_and, bit_shiftRight op (by decide), show bit 0xff 5 = true by decide, Bool.and_true]
    rfl
  rw [← h]
  rfl

lemma isRegShift_eq (op : UInt32) : isRegShift op = (bit op 25 && bit op 4) := by
  have h : op &&& 0x2000010 = (op &&& 0x2000000) ||| (op &&& 0x10) := by
    rw [UInt32.and_comm op, UInt32.and_comm op, UInt32.and_comm op, ← or_and]
    rfl
  rw [isRegShift, h, and_single (i := 25) (by decide), and_single (i := 4) (by decide)]
  cases bit op 25 <;> cases bit op 4 <;> decide

lemma isRegShift_of_bit {op : UInt32} (h : bit op 25 = true) :
    isRegShift op = (op &&& 0x10 != 0) := by
  rw [isRegShift_eq, h, and_single (i := 4) (by decide)]
  cases bit op 4 <;> decide

section Agree

variable (bus : Bus σ) (op : UInt32) (a : ArmState σ)

lemma opSwap_snd (load : Load σ) (store : Store σ) :
    (opSwap op a load store).2 = swapOp op a load store := by
  unfold opSwap swapOp
  split
  · rfl
  · dsimp only
    split
    · rfl
    · split <;> rfl

lemma opStoreUser_snd (store : Store σ) : (opStoreUser op a store).2 =
    if isRegShift op then armExceptionUndefined a else storeUser op a store := by
  unfold opStoreUser storeUser
  split
  · rfl
  · dsimp only
    split <;> rfl

lemma opLoadUser_snd (load : Load σ) : (opLoadUser op a load).2 =
    if isRegShift op then armExceptionUndefined a else loadUser op a load := by
  unfold opLoadUser loadUser
  split
  · rfl
  · dsimp only
    split
    · rfl
    · split <;> rfl

lemma opStoreSingle_snd (store : Store σ) : (opStoreSingle op a store).2 =
    if isRegShift op then armExceptionUndefined a else storeSingle op a store := by
  unfold opStoreSingle storeSingle
  split
  · rfl
  · dsimp only
    split <;> rfl

lemma opLoadSingle_snd (load : Load σ) : (opLoadSingle op a load).2 =
    if isRegShift op then armExceptionUndefined a else loadSingle op a load := by
  unfold opLoadSingle loadSingle
  split
  · rfl
  · dsimp only
    split
    · rfl
    · split <;> rfl

lemma call_fn {c : Case} (hreg : c.isRegOffset = true → bit op 25 = true)
    (himm : c.isImmOffset = true → bit op 25 = false) :
    (c.fn.call bus op a).2 = c.body bus op a := by
  have himm' : c.isImmOffset = true → isRegShift op = false := by
    intro h
    rw [isRegShift_eq, himm h, Bool.false_and]
  have hreg' : c.isRegOffset = true → ∀ below : ArmState σ,
      (if isRegShift op then armExceptionUndefined a else below) = unlessBit4 op a below := by
    intro h below
    simp [isRegShift_of_bit (hreg h), unlessBit4]
  cases c with
  | mrsCpsrSwp | mrsSpsrSwpb =>
    simp only [Case.fn, OpFn.call, opSWPword, opSWPbyte, Case.body]
    split
    · exact opSwap_snd op a _ _
    · split <;> rfl
  | strtReg | strbtReg => exact (opStoreUser_snd op a _).trans (hreg' rfl _)
  | ldrtReg | ldrbtReg => exact (opLoadUser_snd op a _).trans (hreg' rfl _)
  | strReg | strbReg => exact (opStoreSingle_snd op a _).trans (hreg' rfl _)
  | ldrReg | ldrbReg => exact (opLoadSingle_snd op a _).trans (hreg' rfl _)
  | strt | strbt => exact (opStoreUser_snd op a _).trans (by rw [himm' rfl]; rfl)
  | ldrt | ldrbt => exact (opLoadUser_snd op a _).trans (by rw [himm' rfl]; rfl)
  | str | strb => exact (opStoreSingle_snd op a _).trans (by rw [himm' rfl]; rfl)
  | ldr | ldrb => exact (opLoadSingle_snd op a _).trans (by rw [himm' rfl]; rfl)
  | copro | mcr | mrc =>
    simp only [Case.fn, OpFn.call, opcopro, opMCR, opMRC, Case.body]
    split <;> rfl
  | _ => rfl

/-- **The two interpreters are the same machine.**  An opcode does the same through the switch of
`arm.c` and through `arm_opcode_fn` and the functions of `arm_dynarec_ops.h`, from every state. -/
theorem armOpcodeFn_armOpcode :
    ((armOpcodeFn op a).call bus op a).2 = armOpcode bus op a := by
  unfold armOpcodeFn armOpcode
  split
  · split <;> rfl
  · split
    · split <;> rfl
    · rw [opcodes_getD (opIndex_lt op)]
      obtain ⟨hreg, himm⟩ := switchCase_bit (opIndex op)
      rw [testBit_opIndex] at hreg himm
      exact call_fn bus op a hreg himm

end Agree

end RpcEmu.Arm
