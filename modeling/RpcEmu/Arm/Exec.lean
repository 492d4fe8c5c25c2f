import RpcEmu.Arm.Transfer

/-!
# The interpreter

`arm_exec` of `arm.c`.  The 256-way switch on bits 20–27 of the opcode is given as it is written:
`switchCases` lists its cases with their labels, in the order of the source, and `Case.body` has what
stands under each.  The cases that fall through test bit 4 and go on to the case below.
-/

namespace RpcEmu.Arm

variable {σ : Type}

/-! ## Branches, coprocessors and SWIs -/

section Other

variable (bus : Bus σ) (op : UInt32) (a : ArmState σ)

def branchOffset : UInt32 := asr (op <<< 8) 6

def branch : ArmState σ :=
  a.setReg 15 (((a.reg 15 + branchOffset op + 4) &&& a.r15Mask) ||| (a.reg 15 &&& ~~~a.r15Mask))

def branchLink : ArmState σ :=
  let a := a.setReg 14 (a.reg 15 - 4)
  a.setReg 15 (((a.reg 15 + branchOffset op + 4) &&& a.r15Mask) ||| (a.reg 15 &&& ~~~a.r15Mask))

/-- `fpaopcode`: what the coprocessor makes of it, with the trap of `fpa_undefined`. -/
def fpaopcode : ArmState σ :=
  match bus.fpa op a with
  | .wrote none w => { a with world := w }
  | .wrote (some (r, v)) w => { a with world := w }.setReg r v
  | .compared flags w => setFlags { a with world := w } 0x0fffffff (flags &&& 0xf0000000)
  | .undefined => armExceptionUndefined (a.setReg 15 (a.reg 15 + 8))

/-- `cp15_write`: the control register has `prog32`, and a processor that loses it leaves its 32-bit
mode. -/
def cp15Write (val : UInt32) : ArmState σ :=
  let a := { a with world := bus.cp15Write op val a.world }
  if rn op = 1 then
    let a := { a with prog32 := val &&& 0x10 != 0 }
    if !a.prog32 && armMode32 a.mode then updatemode a (a.mode &&& 0xf) else a
  else a

def isCp15 : Bool := op &&& 0xf10 == 0xf10 && armModePriv a.mode

def mcr : ArmState σ := if isCp15 op a then cp15Write bus op a (a.reg (rd op)) else armExceptionUndefined a

def mrc : ArmState σ :=
  if isCp15 op a then
    if rd op = 15 then
      a.setReg 15 ((a.reg 15 &&& a.r15Mask) ||| (bus.cp15Read op a.world &&& ~~~a.r15Mask))
    else a.setReg (rd op) (bus.cp15Read op a.world)
  else armExceptionUndefined a

def clearV : ArmState σ := a.setReg a.cpsr (a.psr &&& ~~~vflag)

def swinum : UInt32 :=
  let n := op &&& 0xdffff
  if n = 0x6f then a.reg 10 &&& 0xdffff else if n = 0x71 then a.reg 12 &&& 0xdffff else n

/-- `RPCEMU_SWI_BREAKPOINT`. -/
def swiBreakpoint : UInt32 := 0x00ffffff

/-- `opSWI`. -/
def opSWI : ArmState σ :=
  if op &&& 0x00ffffff = swiBreakpoint then clearV a
  else
    match bus.swi (swinum op a) a with
    | .answered regs v w =>
      let a := { a with reg := copyRegs 0 15 regs a.reg, world := w }
      if v then clearV a else a
    | .real w => exception { a with world := w } supervisor 0xc 4

end Other

/-! ## The switch -/

inductive Case where
  | andReg | andsReg | eorReg | eorsReg | subReg | subsReg | rsbReg | rsbsReg
  | addReg | addsReg | adcReg | adcsReg | sbcReg | sbcsReg | rscReg | rscsReg
  | mrsCpsrSwp | tstReg | msrCpsrReg | teqReg | mrsSpsrSwpb | cmpReg | msrSpsrReg | cmnReg
  | orrReg | orrsReg | movReg | movsReg | bicReg | bicsReg | mvnReg | mvnsReg
  | andImm | andsImm | eorImm | eorsImm | subImm | subsImm | rsbImm | rsbsImm
  | addImm | addsImm | adcImm | adcsImm | sbcImm | sbcsImm | rscImm | rscsImm
  | tstImm | msrCpsrImm | teqImm | cmpImm | msrSpsrImm | cmnImm
  | orrImm | orrsImm | movImm | movsImm | bicImm | bicsImm | mvnImm | mvnsImm
  | strtReg | strt | ldrtReg | ldrt | strbtReg | strbt | ldrbtReg | ldrbt
  | strReg | str | ldrReg | ldr | strbReg | strb | ldrbReg | ldrb
  | stmd | stmi | stmds | stmis | ldmd | ldmi | ldmds | ldmis
  | b | bl | copro | mcr | mrc | swi | default
  deriving DecidableEq, Repr

def switchCases : List (List Nat × Case) :=
  [([0x00], .andReg), ([0x01], .andsReg), ([0x02], .eorReg), ([0x03], .eorsReg),
    ([0x04], .subReg), ([0x05], .subsReg), ([0x06], .rsbReg), ([0x07], .rsbsReg),
    ([0x08], .addReg), ([0x09], .addsReg), ([0x0a], .adcReg), ([0x0b], .adcsReg),
    ([0x0c], .sbcReg), ([0x0d], .sbcsReg), ([0x0e], .rscReg), ([0x0f], .rscsReg),
    ([0x10], .mrsCpsrSwp), ([0x11], .tstReg), ([0x12], .msrCpsrReg), ([0x13], .teqReg),
    ([0x14], .mrsSpsrSwpb), ([0x15], .cmpReg), ([0x16], .msrSpsrReg), ([0x17], .cmnReg),
    ([0x18], .orrReg), ([0x19], .orrsReg), ([0x1a], .movReg), ([0x1b], .movsReg),
    ([0x1c], .bicReg), ([0x1d], .bicsReg), ([0x1e], .mvnReg), ([0x1f], .mvnsReg),
    ([0x20], .andImm), ([0x21], .andsImm), ([0x22], .eorImm), ([0x23], .eorsImm),
    ([0x24], .subImm), ([0x25], .subsImm), ([0x26], .rsbImm), ([0x27], .rsbsImm),
    ([0x28], .addImm), ([0x29], .addsImm), ([0x2a], .adcImm), ([0x2b], .adcsImm),
    ([0x2c], .sbcImm), ([0x2d], .sbcsImm), ([0x2e], .rscImm), ([0x2f], .rscsImm),
    ([0x31], .tstImm), ([0x32], .msrCpsrImm), ([0x33], .teqImm),
    ([0x35], .cmpImm), ([0x36], .msrSpsrImm), ([0x37], .cmnImm),
    ([0x38], .orrImm), ([0x39], .orrsImm), ([0x3a], .movImm), ([0x3b], .movsImm),
    ([0x3c], .bicImm), ([0x3d], .bicsImm), ([0x3e], .mvnImm), ([0x3f], .mvnsImm),
    ([0x62, 0x6a], .strtReg), ([0x42, 0x4a], .strt),
    ([0x63, 0x6b], .ldrtReg), ([0x43, 0x4b], .ldrt),
    ([0x66, 0x6e], .strbtReg), ([0x46, 0x4e], .strbt),
    ([0x67, 0x6f], .ldrbtReg), ([0x47, 0x4f], .ldrbt),
    ([0x60, 0x68, 0x70, 0x72, 0x78, 0x7a], .strReg),
    ([0x40, 0x48, 0x50, 0x52, 0x58, 0x5a], .str),
    ([0x61, 0x69, 0x71, 0x73, 0x79, 0x7b], .ldrReg),
    ([0x41, 0x49, 0x51, 0x53, 0x59, 0x5b], .ldr),
    ([0x64, 0x6c, 0x74, 0x76, 0x7c, 0x7e], .strbReg),
    ([0x44, 0x4c, 0x54, 0x56, 0x5c, 0x5e], .strb),
    ([0x65, 0x6d, 0x75, 0x77, 0x7d, 0x7f], .ldrbReg),
    ([0x45, 0x4d, 0x55, 0x57, 0x5d, 0x5f], .ldrb),
    ([0x80, 0x82, 0x90, 0x92], .stmd), ([0x88, 0x8a, 0x98, 0x9a], .stmi),
    ([0x84, 0x86, 0x94, 0x96], .stmds), ([0x8c, 0x8e, 0x9c, 0x9e], .stmis),
    ([0x81, 0x83, 0x91, 0x93], .ldmd), ([0x89, 0x8b, 0x99, 0x9b], .ldmi),
    ([0x85, 0x87, 0x95, 0x97], .ldmds), ([0x8d, 0x8f, 0x9d, 0x9f], .ldmis),
    ([0xa0, 0xa1, 0xa2, 0xa3, 0xa4, 0xa5, 0xa6, 0xa7, 0xa8, 0xa9, 0xaa, 0xab, 0xac, 0xad, 0xae,
      0xaf], .b),
    ([0xb0, 0xb1, 0xb2, 0xb3, 0xb4, 0xb5, 0xb6, 0xb7, 0xb8, 0xb9, 0xba, 0xbb, 0xbc, 0xbd, 0xbe,
      0xbf], .bl),
    ([0xc0, 0xc1, 0xc2, 0xc3, 0xc4, 0xc5, 0xc6, 0xc7, 0xc8, 0xc9, 0xca, 0xcb, 0xcc, 0xcd, 0xce,
      0xcf, 0xd0, 0xd1, 0xd2, 0xd3, 0xd4, 0xd5, 0xd6, 0xd7, 0xd8, 0xd9, 0xda, 0xdb, 0xdc, 0xdd,
      0xde, 0xdf], .copro),
    ([0xe0, 0xe2, 0xe4, 0xe6, 0xe8, 0xea, 0xec, 0xee], .mcr),
    ([0xe1, 0xe3, 0xe5, 0xe7, 0xe9, 0xeb, 0xed, 0xef], .mrc),
    ([0xf0, 0xf1, 0xf2, 0xf3, 0xf4, 0xf5, 0xf6, 0xf7, 0xf8, 0xf9, 0xfa, 0xfb, 0xfc, 0xfd, 0xfe,
      0xff], .swi)]

def switchCase (k : Nat) : Case :=
  match switchCases.find? fun e => e.1.contains k with
  | some e => e.2
  | none => .default

def unlessBit4 (op : UInt32) (a : ArmState σ) (below : ArmState σ) : ArmState σ :=
  if op &&& 0x10 ≠ 0 then armExceptionUndefined a else below

def Case.body (bus : Bus σ) (op : UInt32) (a : ArmState σ) : Case → ArmState σ
  | andReg => if isMul op then mulOp op a 0 else dataOp .reg op a fun l r _ => l &&& r
  | andsReg => if isMul op then mulOpS op a 0 else logicalOpS .reg op a (· &&& ·)
  | eorReg =>
    if isMul op then mulOp op a (a.reg (mulRn op)) else dataOp .reg op a fun l r _ => l ^^^ r
  | eorsReg => if isMul op then mulOpS op a (a.reg (mulRn op)) else logicalOpS .reg op a (· ^^^ ·)
  | subReg => dataOp .reg op a fun l r _ => l - r
  | subsReg => arithOpS .reg op a (fun l r _ => l - r) armFlagsSub
  | rsbReg => dataOp .reg op a fun l r _ => r - l
  | rsbsReg => arithOpS .reg op a (fun l r _ => r - l) armFlagsRsb
  | addReg =>
    if isMulLong op a then mulLong op a (umul op a) else dataOp .reg op a fun l r _ => l + r
  | addsReg =>
    if isMulLong op a then mulLongS op a (umul op a)
    else arithOpS .reg op a (fun l r _ => l + r) armFlagsAdd
  | adcReg =>
    if isMulLong op a then mulLong op a (umul op a + mulCurrent op a)
    else dataOp .reg op a fun l r c => l + r + c
  | adcsReg =>
    if isMulLong op a then mulLongS op a (umul op a + mulCurrent op a)
    else arithOpS .reg op a (fun l r c => l + r + c) armFlagsAdc
  | sbcReg =>
    if isMulLong op a then mulLong op a (smul op a)
    else dataOp .reg op a fun l r c => l - r - borrow c
  | sbcsReg =>
    if isMulLong op a then mulLongS op a (smul op a)
    else arithOpS .reg op a (fun l r c => l - r - borrow c) armFlagsSbc
  | rscReg =>
    if isMulLong op a then mulLong op a (smul op a + mulCurrent op a)
    else dataOp .reg op a fun l r c => r - l - borrow c
  | rscsReg =>
    if isMulLong op a then mulLongS op a (smul op a + mulCurrent op a)
    else arithOpS .reg op a (fun l r c => r - l - borrow c) armFlagsRsc
  | mrsCpsrSwp =>
    if isSwp op then swapOp op a (wordLoad bus) (wordStore bus)
    else if isMrs op then mrsCpsr op a
    else unallocated a
  | tstReg => testOp .reg op a (· &&& ·)
  | msrCpsrReg => if isMsrReg op then armWriteCpsr a op (a.reg (rm op)) else unallocated a
  | teqReg => testOp .reg op a (· ^^^ ·)
  | mrsSpsrSwpb =>
    if isSwp op then swapOp op a (byteLoad bus) (byteStore bus)
    else if isMrs op then mrsSpsr op a
    else unallocated a
  | cmpReg => compareOp .reg op a (· - ·) armFlagsSub
  | msrSpsrReg => if isMsrReg op then armWriteSpsr a op (a.reg (rm op)) else unallocated a
  | cmnReg => compareOp .reg op a (· + ·) armFlagsAdd
  | orrReg => dataOp .reg op a fun l r _ => l ||| r
  | orrsReg => logicalOpS .reg op a (· ||| ·)
  | movReg => dataOp .reg op a fun _ r _ => r
  | movsReg => logicalOpS .reg op a fun _ r => r
  | bicReg => dataOp .reg op a fun l r _ => l &&& ~~~r
  | bicsReg => logicalOpS .reg op a fun l r => l &&& ~~~r
  | mvnReg => dataOp .reg op a fun _ r _ => ~~~r
  | mvnsReg => logicalOpS .reg op a fun _ r => ~~~r
  | andImm => dataOp .imm op a fun l r _ => l &&& r
  | andsImm => logicalOpS .imm op a (· &&& ·)
  | eorImm => dataOp .imm op a fun l r _ => l ^^^ r
  | eorsImm => logicalOpS .imm op a (· ^^^ ·)
  | subImm => dataOp .imm op a fun l r _ => l - r
  | subsImm => Arm.subsImm op a
  | rsbImm => dataOp .imm op a fun l r _ => r - l
  | rsbsImm => arithOpS .imm op a (fun l r _ => r - l) armFlagsRsb
  | addImm => dataOp .imm op a fun l r _ => l + r
  | addsImm => arithOpS .imm op a (fun l r _ => l + r) armFlagsAdd
  | adcImm => dataOp .imm op a fun l r c => l + r + c
  | adcsImm => arithOpS .imm op a (fun l r c => l + r + c) armFlagsAdc
  | sbcImm => dataOp .imm op a fun l r c => l - r - borrow c
  | sbcsImm => arithOpS .imm op a (fun l r c => l - r - borrow c) armFlagsSbc
  | rscImm => dataOp .imm op a fun l r c => r - l - borrow c
  | rscsImm => arithOpS .imm op a (fun l r c => r - l - borrow c) armFlagsRsc
  | tstImm => testOp .imm op a (· &&& ·)
  | msrCpsrImm => if rd op = 15 then armWriteCpsr a op (armImm op) else unallocated a
  | teqImm => testOp .imm op a (· ^^^ ·)
  | cmpImm => compareOp .imm op a (· - ·) armFlagsSub
  | msrSpsrImm => if rd op = 15 then armWriteSpsr a op (armImm op) else unallocated a
  | cmnImm => compareOp .imm op a (· + ·) armFlagsAdd
  | orrImm => dataOp .imm op a fun l r _ => l ||| r
  | orrsImm => logicalOpS .imm op a (· ||| ·)
  | movImm => dataOp .imm op a fun _ r _ => r
  | movsImm => logicalOpS .imm op a fun _ r => r
  | bicImm => dataOp .imm op a fun l r _ => l &&& ~~~r
  | bicsImm => logicalOpS .imm op a fun l r => l &&& ~~~r
  | mvnImm => dataOp .imm op a fun _ r _ => ~~~r
  | mvnsImm => logicalOpS .imm op a fun _ r => ~~~r
  | strtReg => unlessBit4 op a (storeUser op a (wordUserStore bus))
  | strt => storeUser op a (wordUserStore bus)
  | ldrtReg => unlessBit4 op a (loadUser op a (wordUserLoad bus))
  | ldrt => loadUser op a (wordUserLoad bus)
  | strbtReg => unlessBit4 op a (storeUser op a (byteUserStore bus))
  | strbt => storeUser op a (byteUserStore bus)
  | ldrbtReg => unlessBit4 op a (loadUser op a (byteUserLoad bus))
  | ldrbt => loadUser op a (byteUserLoad bus)
  | strReg => unlessBit4 op a (storeSingle op a (wordStore bus))
  | str => storeSingle op a (wordStore bus)
  | ldrReg => unlessBit4 op a (loadSingle op a (wordLoad bus))
  | ldr => loadSingle op a (wordLoad bus)
  | strbReg => unlessBit4 op a (storeSingle op a (byteStore bus))
  | strb => storeSingle op a (byteStore bus)
  | ldrbReg => unlessBit4 op a (loadSingle op a (byteLoad bus))
  | ldrb => loadSingle op a (byteLoad bus)
  | stmd => multipleDown op a (armStoreMultiple bus op a)
  | stmi => multipleUp op a (armStoreMultiple bus op a)
  | stmds => multipleDown op a (armStoreMultipleS bus op a)
  | stmis => multipleUp op a (armStoreMultipleS bus op a)
  | ldmd => multipleDown op a (armLoadMultiple bus op a)
  | ldmi => multipleUp op a (armLoadMultiple bus op a)
  | ldmds => multipleDown op a (armLoadMultipleS bus op a)
  | ldmis => multipleUp op a (armLoadMultipleS bus op a)
  | b => branch op a
  | bl => branchLink op a
  | copro =>
    if op &&& 0xf00 = 0x100 ∨ op &&& 0xf00 = 0x200 then fpaopcode bus op a
    else armExceptionUndefined a
  | mcr => if op &&& 0xf00 = 0x100 then fpaopcode bus op a else Arm.mcr bus op a
  | mrc => if op &&& 0xf00 = 0x100 then fpaopcode bus op a else Arm.mrc bus op a
  | swi => opSWI bus op a
  | default => unallocated a

/-! ## One pass of the loop -/

def isHalf (op : UInt32) : Bool := op &&& 0xe0000f0 == 0xb0

def isSigned (op : UInt32) : Bool := op &&& 0xe1000d0 == 0x1000d0

section Loop

variable (bus : Bus σ) (op : UInt32) (a : ArmState σ)

def opIndex : Nat := ((op >>> 20) &&& 0xff).toNat

def armOpcode : ArmState σ :=
  if a.archV4 && isHalf op then
    if op &&& 0x100000 ≠ 0 then armLdrh bus op a else armStrh bus op a
  else if a.archV4 && isSigned op then
    if op &&& 0xf0 = 0xd0 then armLdrsb bus op a else armLdrsh bus op a
  else (switchCase (opIndex op)).body bus op a

/-- `flaglookup`: does a condition hold under these flags? -/
def flaglookup (cond flags : UInt32) : Bool :=
  let n := flags &&& 8 != 0
  let z := flags &&& 4 != 0
  let c := flags &&& 2 != 0
  let v := flags &&& 1 != 0
  match cond.toNat with
  | 0 => z
  | 1 => !z
  | 2 => c
  | 3 => !c
  | 4 => n
  | 5 => !n
  | 6 => v
  | 7 => !v
  | 8 => c && !z
  | 9 => !c || z
  | 10 => n == v
  | 11 => n != v
  | 12 => !z && n == v
  | 13 => z || n != v
  | 14 => true
  | _ => false

def condition : Bool := flaglookup (op >>> 28) (a.psr >>> 28)

def syncDisables : ArmState σ :=
  if armMode32 a.mode then a
  else
    let a := a.setReg 16 (a.reg 16 &&& ~~~0xc0)
    a.setReg 16 (a.reg 16 ||| ((a.reg 15 &&& (0xc000000 : UInt32)) >>> 20))

def takeEvent : ArmState σ :=
  if a.world.event = 0 then a
  else
    let a := syncDisables a
    if a.aborted then
      let a := exception a abort 0x14 0
      { a with world := { a.world with event := a.world.event &&& ~~~0x40 } }
    else if a.world.event &&& 2 ≠ 0 ∧ a.reg 16 &&& 0x40 = 0 then exception a fiq 0x20 0
    else if a.world.event &&& 1 ≠ 0 ∧ a.reg 16 &&& 0x80 = 0 then exception a irq 0x1c 0
    else a

/-- `arm.reg[15] += 4`. -/
def advance : ArmState σ := a.setReg 15 (a.reg 15 + 4)

/-- One pass of `arm_exec` from the opcode on. -/
def armExec : ArmState σ :=
  advance (takeEvent (if condition op a then armOpcode bus op a else a))

def prefetchAbort : ArmState σ := advance (exception a abort 0x10 4)

end Loop

end RpcEmu.Arm
