import RpcEmu.Copro.Bus

/-!
# The co-processor card

`openbus_coproc.c`: the card a guest drives through a window of registers, with a processor core,
its RAM, a control area, a DMA engine and the address decode of `Bus` between the core and its
memory.

Three things outside the card are parameters.

* **The core** is a row of operations, `CoreOps σ`, as it is in the source (`coproc_core_ops`): its
  code is a program over the memory operations of `CpuMem`, and the card replies to them.  Every
  result about the card holds whichever core is fitted.
* **The host** is what `openbus_host_ops` provides: physical memory and an interrupt line.
* **The window.**  A bus master reaches all of physical memory, its own registers included:
  `HostBus.window` says which physical addresses come back to the card as register accesses.

The card's RAM and control area are the ones its bus points at, so they appear once, in `bus`.  The
Z80's port latch is part of `CoprocEnv`, since the card's hook reaches it whichever core is fitted.
-/

namespace RpcEmu

open Bytes Effects

/-! ## What the card's hook does -/

structure CoprocEnv where
  bus : CoproBus
  mboxTx : UInt32
  mboxRx : UInt32
  /-- `cpu.z80.ports` -/
  ports : UInt8 → UInt8

/-- `coproc_io_in`: port 0 is the mailbox, every other port the latch. -/
def coprocIoIn (env : CoprocEnv) (port : UInt8) : UInt8 :=
  if port = 0 then env.mboxTx.toUInt8 else env.ports port

/-- `coproc_io_out`. -/
def coprocIoOut (env : CoprocEnv) (port val : UInt8) : CoprocEnv :=
  { env with ports := fun p => if p = port then val else env.ports p,
             mboxRx := if port = 0 then val.toUInt32 else env.mboxRx }

def isCardPort (bus : CoproBus) (addr : UInt32) : Bool :=
  isPortAddr addr && (coproBusRegion bus (bareAddr addr) true).isNone

/-- `coproc_hook_read`. -/
def coprocHookRead (env : CoprocEnv) (addr : UInt32) : (CpuMemResult × UInt8) × CoprocEnv :=
  if isCardPort env.bus addr then ((.ok, coprocIoIn env (bareAddr addr).toUInt8), env)
  else
    let (reply, bus) := hookRead env.bus addr
    (reply, { env with bus := bus })

/-- `coproc_hook_write`. -/
def coprocHookWrite (env : CoprocEnv) (addr : UInt32) (value : UInt8) (cycles : UInt64) :
    CpuMemResult × CoprocEnv :=
  if isCardPort env.bus addr then (.ok, coprocIoOut env (bareAddr addr).toUInt8 value)
  else
    let (reply, bus) := hookWrite env.bus addr value cycles
    (reply, { env with bus := bus })

def coprocHandler : Handler CpuOp CpuOp.Reply CoprocEnv
  | .memRead addr, env => coprocHookRead env addr
  | .memWrite addr val cycles, env => coprocHookWrite env addr val cycles
  | .ramRead addr, env => (env.bus.ram addr, env)
  | .ramWrite addr val, env =>
    ((), { env with bus := { env.bus with ram := env.bus.ram.set addr val } })
  | .ioIn port, env => (coprocIoIn env port, env)
  | .ioOut port val, env => ((), coprocIoOut env port val)

/-! ## The core and the host -/

/-- `coproc_core_ops`: a core's row of the table. -/
structure CoreOps (σ : Type) where
  id : UInt32
  reset : σ → UInt32 → σ
  run : Nat → Exec σ Nat
  step : Exec σ Unit
  halted : σ → Bool
  faulted : σ → Bool
  stalled : σ → Bool
  clearStall : σ → σ
  pc : σ → UInt32
  cycles : σ → UInt32
  faultCause : σ → UInt32
  faultAddr : σ → UInt32
  exitCode : σ → UInt32
  /-- the hook handed over is the card's own; what varies is whether it can stall -/
  setHook : σ → Bool → σ
  regRead : σ → UInt32 → UInt32
  regWrite : σ → UInt32 → UInt32 → σ
  interrupt : UInt32 → Exec σ Unit

/-- `openbus_host_ops`, as far as this card uses it, and the card's place in physical memory. -/
structure HostBus (η : Type) where
  read32 : η → UInt32 → UInt32 × η
  write32 : η → UInt32 → UInt32 → η
  setIrq : η → Bool → η
  /-- the register offset, where a physical address is one of the card's own window -/
  window : UInt32 → Option UInt32

def emptyHost : HostBus Unit where
  read32 h _ := (0, h)
  write32 h _ _ := h
  setIrq h _ := h
  window _ := none

/-- `coproc_state`. -/
structure Coproc (σ η : Type) where
  cpu : σ
  env : CoprocEnv
  ctrl : UInt32
  entry : UInt32
  addr : UInt32
  irq : Bool
  stopReported : Bool
  dmaHost : UInt32
  dmaLocal : UInt32
  dmaLen : UInt32
  dmaToHost : Bool
  dmaControl : Bool
  dmaBusy : Bool
  ctlAddr : UInt32
  regsel : UInt32
  runfor : UInt32
  stopReason : UInt32
  irqctrl : UInt32
  host : η

abbrev Coproc.bus {σ η : Type} (cp : Coproc σ η) : CoproBus := cp.env.bus

def Coproc.setBus {σ η : Type} (cp : Coproc σ η) (bus : CoproBus) : Coproc σ η :=
  { cp with env := { cp.env with bus := bus } }

variable {σ η : Type} (ops : CoreOps σ) (host : HostBus η)

def coreExec {α : Type} (x : Exec σ α) (cp : Coproc σ η) : α × Coproc σ η :=
  let out := (x.run cp.cpu).run coprocHandler cp.env
  (out.1.1, { cp with cpu := out.1.2, env := out.2 })

/-! ## The apertures -/

/-- `openbus_size`. -/
inductive OpenbusSize
  | size8
  | size16
  | size32
  deriving DecidableEq, Repr

def OpenbusSize.bytes : OpenbusSize → Nat
  | size8 => 1
  | size16 => 2
  | size32 => 4

/-- The loop of an aperture read: `n` bytes from byte `i` on, wrapping at the end of the memory. -/
def apertureBytes (m : Block) (size addr : UInt32) : Nat → Nat → UInt32
  | _, 0 => 0
  | i, n + 1 =>
    ((m ((addr + UInt32.ofNat i) % size)).toUInt32 <<< UInt32.ofNat (i * 8)) |||
      apertureBytes m size addr (i + 1) n

def apertureStore (m : Block) (size addr val : UInt32) : Nat → Nat → Block
  | _, 0 => m
  | i, n + 1 =>
    apertureStore (m.set ((addr + UInt32.ofNat i) % size) (val >>> UInt32.ofNat (i * 8)).toUInt8)
      size addr val (i + 1) n

/-- `aperture_read`. -/
def apertureRead (cp : Coproc σ η) (size : OpenbusSize) : UInt32 × Coproc σ η :=
  if !cp.bus.ramPresent || cp.bus.ramSize = 0 then (0xffffffff, cp)
  else (apertureBytes cp.bus.ram cp.bus.ramSize cp.addr 0 size.bytes,
    { cp with addr := (cp.addr + UInt32.ofNat size.bytes) % cp.bus.ramSize })

/-- `aperture_write`. -/
def apertureWrite (cp : Coproc σ η) (size : OpenbusSize) (val : UInt32) : Coproc σ η :=
  if !cp.bus.ramPresent || cp.bus.ramSize = 0 then cp
  else
    { cp.setBus { cp.bus with
        ram := apertureStore cp.bus.ram cp.bus.ramSize cp.addr val 0 size.bytes } with
      addr := (cp.addr + UInt32.ofNat size.bytes) % cp.bus.ramSize }

/-- `ctl_aperture_read`. -/
def ctlApertureRead (cp : Coproc σ η) (size : OpenbusSize) : UInt32 × Coproc σ η :=
  if !cp.bus.ctlPresent || cp.bus.ctlSize = 0 then (0xffffffff, cp)
  else (apertureBytes cp.bus.ctl cp.bus.ctlSize cp.ctlAddr 0 size.bytes,
    { cp with ctlAddr := (cp.ctlAddr + UInt32.ofNat size.bytes) % cp.bus.ctlSize })

/-- `ctl_aperture_write`. -/
def ctlApertureWrite (cp : Coproc σ η) (size : OpenbusSize) (val : UInt32) : Coproc σ η :=
  if !cp.bus.ctlPresent || cp.bus.ctlSize = 0 then cp
  else
    { cp.setBus { cp.bus with
        ctl := apertureStore cp.bus.ctl cp.bus.ctlSize cp.ctlAddr val 0 size.bytes } with
      ctlAddr := (cp.ctlAddr + UInt32.ofNat size.bytes) % cp.bus.ctlSize }

/-! ## The card -/

/-- `coproc_rehook`: whether any region can stall is decided here, once for each map. -/
def coprocRehook (cp : Coproc σ η) : Coproc σ η :=
  { cp with cpu := ops.setHook cp.cpu (coproBusCanStall cp.bus) }

/-- `coproc_drop_irq`. -/
def coprocDropIrq (cp : Coproc σ η) : Coproc σ η :=
  if cp.irq then { cp with irq := false, host := host.setIrq cp.host false } else cp

/-- `coproc_reset`.  ENTRY survives; so does everything the bus holds. -/
def coprocReset (cp : Coproc σ η) : Coproc σ η :=
  let cp := coprocDropIrq host cp
  { cp with ctrl := 0, addr := 0, env := { cp.env with mboxTx := 0, mboxRx := 0 },
            stopReported := false, dmaHost := 0, dmaLocal := 0, dmaLen := 0, dmaToHost := false,
            dmaBusy := false, cpu := ops.reset cp.cpu cp.entry }

/-- `OPENBUS_COPROC_CTRL_RUN`. -/
def ctrlRun : UInt32 := 0x01

/-- `OPENBUS_COPROC_CTRL_STEP`. -/
def ctrlStep : UInt32 := 0x02

/-- `OPENBUS_COPROC_CTRL_RESET`. -/
def ctrlReset : UInt32 := 0x04

/-- `OPENBUS_COPROC_CTRL_IRQ_ON_HALT`. -/
def ctrlIrqOnHalt : UInt32 := 0x08

/-- `OPENBUS_COPROC_IRQ_NMI`. -/
def irqNmi : UInt32 := 0x02

/-- `OPENBUS_COPROC_DMA_START`. -/
def dmaStart : UInt32 := 0x01

/-- `OPENBUS_COPROC_DMA_TO_HOST`. -/
def dmaToHostBit : UInt32 := 0x02

def bitIf (b : Bool) (bit : UInt32) : UInt32 := if b then bit else 0

/-- `coproc_status`. -/
def coprocStatus (cp : Coproc σ η) : UInt32 :=
  bitIf (decide (cp.ctrl &&& ctrlRun ≠ 0) && !ops.halted cp.cpu && !ops.faulted cp.cpu) 0x01 |||
    bitIf (ops.halted cp.cpu) 0x02 ||| bitIf (ops.faulted cp.cpu) 0x04 ||| bitIf cp.irq 0x08 |||
    bitIf cp.dmaBusy 0x10 ||| bitIf (ops.stalled cp.cpu) 0x20

/-- `coproc_note_stop`: report a core that has stopped, once. -/
def coprocNoteStop (cp : Coproc σ η) : Coproc σ η :=
  if cp.stopReported then cp
  else if !ops.halted cp.cpu && !ops.faulted cp.cpu then cp
  else
    let mboxRx := if ops.halted cp.cpu then ops.exitCode cp.cpu else cp.env.mboxRx
    let cp := { cp with stopReported := true, env := { cp.env with mboxRx := mboxRx },
                        ctrl := cp.ctrl &&& ~~~ctrlRun }
    if cp.ctrl &&& ctrlIrqOnHalt ≠ 0 then { cp with irq := true, host := host.setIrq cp.host true }
    else cp

/-- `coproc_apply_interrupts`. -/
def coprocApplyInterrupts (cp : Coproc σ η) : Coproc σ η :=
  let ctrl := cp.irqctrl
  let cp := (coreExec (ops.interrupt ctrl) cp).2
  if ctrl &&& irqNmi ≠ 0 then { cp with irqctrl := cp.irqctrl &&& ~~~irqNmi } else cp

/-- `coproc_start_dma`: the bounds are checked here, and only here. -/
def coprocStartDma (cp : Coproc σ η) : Coproc σ η :=
  if !cp.bus.ramPresent || cp.dmaLen = 0 then cp
  else if cp.dmaLocal &&& 3 ≠ 0 then cp
  else if cp.bus.ramSize ≤ cp.dmaLocal then cp
  else if (cp.bus.ramSize - cp.dmaLocal) / 4 < cp.dmaLen then cp
  else { cp with dmaBusy := true }

/-! ## The registers -/

inductive CoprocReg
  | id | core | ramSize | ctrl | status | entry | addr | data | mboxTx | mboxRx | cycles | pc
  | fault | faultAddr | irqClear | dmaHost | dmaLocal | dmaLen | dmaCtrl | runfor | stopReason
  | irqctrl | mapOff | mapCount | logOff | logEntries | logHead | logTail | waitAddr | waitData
  | waitInfo | waitAck | ctlAddr | ctlData | ctlSize | regsel | regdata
  deriving DecidableEq, Repr

/-- The register an offset in the window reaches: `OPENBUS_COPROC_REG_*`, the two low bits
ignored. -/
def coprocReg (offset : UInt32) : Option CoprocReg :=
  match offset &&& ~~~3 with
  | 0x00 => some .id
  | 0x04 => some .core
  | 0x08 => some .ramSize
  | 0x0c => some .ctrl
  | 0x10 => some .status
  | 0x14 => some .entry
  | 0x18 => some .addr
  | 0x1c => some .data
  | 0x20 => some .mboxTx
  | 0x24 => some .mboxRx
  | 0x28 => some .cycles
  | 0x2c => some .pc
  | 0x30 => some .fault
  | 0x34 => some .faultAddr
  | 0x38 => some .irqClear
  | 0x3c => some .dmaHost
  | 0x40 => some .dmaLocal
  | 0x44 => some .dmaLen
  | 0x48 => some .dmaCtrl
  | 0x4c => some .runfor
  | 0x50 => some .stopReason
  | 0x54 => some .irqctrl
  | 0x58 => some .mapOff
  | 0x5c => some .mapCount
  | 0x60 => some .logOff
  | 0x64 => some .logEntries
  | 0x68 => some .logHead
  | 0x6c => some .logTail
  | 0x70 => some .waitAddr
  | 0x74 => some .waitData
  | 0x78 => some .waitInfo
  | 0x7c => some .waitAck
  | 0x80 => some .ctlAddr
  | 0x84 => some .ctlData
  | 0x88 => some .ctlSize
  | 0x8c => some .regsel
  | 0x90 => some .regdata
  | _ => none

/-- `coproc_read_word`: every register but the two apertures. -/
def coprocReadWord (cp : Coproc σ η) : Option CoprocReg → UInt32
  | some .id => 0x4f424350
  | some .core => ops.id
  | some .ramSize => cp.bus.ramSize
  | some .ctrl => cp.ctrl
  | some .status => coprocStatus ops cp
  | some .entry => cp.entry
  | some .addr => cp.addr
  | some .mboxTx => cp.env.mboxTx
  | some .mboxRx => cp.env.mboxRx
  | some .cycles => ops.cycles cp.cpu
  | some .pc => ops.pc cp.cpu
  | some .fault => if ops.faulted cp.cpu then ops.faultCause cp.cpu else 0
  | some .faultAddr => if ops.faulted cp.cpu then ops.faultAddr cp.cpu else 0
  | some .dmaHost => cp.dmaHost
  | some .dmaLocal => cp.dmaLocal
  | some .dmaLen => cp.dmaLen
  | some .dmaCtrl => bitIf cp.dmaBusy 0x01 ||| bitIf cp.dmaToHost 0x02 ||| bitIf cp.dmaControl 0x04
  | some .runfor => cp.runfor
  | some .stopReason => cp.stopReason
  | some .irqctrl => cp.irqctrl
  | some .mapOff => cp.bus.mapOff
  | some .mapCount => cp.bus.mapCount
  | some .logOff => cp.bus.logOff
  | some .logEntries => cp.bus.logEntries
  | some .logHead => cp.bus.logHead
  | some .logTail => cp.bus.logTail
  | some .waitAddr => cp.bus.waitAddr
  | some .waitData => cp.bus.waitValue
  | some .waitInfo => bitIf cp.bus.waitIsWrite 1 ||| bitIf cp.bus.waitIsPort 2
  | some .ctlAddr => cp.ctlAddr
  | some .ctlSize => cp.bus.ctlSize
  | some .regsel => cp.regsel
  | some .regdata => ops.regRead cp.cpu cp.regsel
  | some .irqClear => 0xffffffff
  | some .waitAck => 0xffffffff
  | some .data => 0xffffffff
  | some .ctlData => 0xffffffff
  | none => 0xffffffff

/-- `coproc_reg_read`. -/
def coprocRegRead (cp : Coproc σ η) (offset : UInt32) (size : OpenbusSize) :
    UInt32 × Coproc σ η :=
  match coprocReg offset with
  | some .data => apertureRead cp size
  | some .ctlData => ctlApertureRead cp size
  | reg =>
    let word := coprocReadWord ops cp reg
    let shifted := word >>> ((offset &&& 3) * 8)
    match size with
    | .size32 => (word, cp)
    | .size16 => (shifted &&& 0xffff, cp)
    | .size8 => (shifted &&& 0xff, cp)

def coprocWriteCtrl (cp : Coproc σ η) (val : UInt32) : Coproc σ η :=
  if val &&& ctrlReset ≠ 0 then coprocReset ops host cp
  else
    let cp := { cp with ctrl := val &&& (ctrlRun ||| ctrlIrqOnHalt) }
    let cp :=
      if decide (cp.ctrl &&& ctrlRun ≠ 0) && !ops.halted cp.cpu && !ops.faulted cp.cpu then
        { cp with stopReported := false }
      else cp
    if val &&& ctrlStep ≠ 0 then coprocNoteStop ops host (coreExec ops.step cp).2 else cp

def coprocWriteWaitAck (cp : Coproc σ η) : Coproc σ η :=
  if cp.bus.stalled then
    { cp.setBus (coproBusResume cp.bus cp.bus.waitValue.toUInt8).2 with
      cpu := ops.clearStall cp.cpu }
  else cp

def coprocWriteMapCount (cp : Coproc σ η) (val : UInt32) : Coproc σ η :=
  let (accepted, bus) := coproBusSetMap cp.bus cp.bus.mapOff val
  if accepted then coprocRehook ops (cp.setBus bus) else cp.setBus bus

def coprocWriteLogTail (cp : Coproc σ η) (val : UInt32) : Coproc σ η :=
  if decide (cp.bus.logEntries ≠ 0) && decide (val < cp.bus.logEntries) then
    cp.setBus { cp.bus with logTail := val }
  else cp

/-- `coproc_reg_write`.  A narrow write to a word register writes the value given. -/
def coprocRegWrite (cp : Coproc σ η) (offset : UInt32) (size : OpenbusSize) (val : UInt32) :
    Coproc σ η :=
  match coprocReg offset with
  | some .data => apertureWrite cp size val
  | some .ctlData => ctlApertureWrite cp size val
  | some .ctrl => coprocWriteCtrl ops host cp val
  | some .entry => { cp with entry := val }
  | some .runfor => { cp with runfor := val }
  | some .irqctrl => coprocApplyInterrupts ops { cp with irqctrl := val }
  | some .mapOff => cp.setBus { cp.bus with mapOff := val }
  | some .mapCount => coprocWriteMapCount ops cp val
  | some .logOff => cp.setBus { cp.bus with logOff := val }
  | some .logEntries => cp.setBus (coproBusSetLog cp.bus cp.bus.logOff val).2
  | some .logTail => coprocWriteLogTail cp val
  | some .waitData => cp.setBus { cp.bus with waitValue := val }
  | some .waitAck => coprocWriteWaitAck ops cp
  | some .ctlAddr => { cp with ctlAddr := if cp.bus.ctlSize ≠ 0 then val % cp.bus.ctlSize else 0 }
  | some .regsel => { cp with regsel := val }
  | some .regdata => { cp with cpu := ops.regWrite cp.cpu cp.regsel val }
  | some .addr => { cp with addr := if cp.bus.ramSize ≠ 0 then val % cp.bus.ramSize else 0 }
  | some .mboxTx => { cp with env := { cp.env with mboxTx := val } }
  | some .irqClear => coprocDropIrq host cp
  | some .dmaHost => { cp with dmaHost := val }
  | some .dmaLocal => { cp with dmaLocal := val }
  | some .dmaLen => { cp with dmaLen := val }
  | some .dmaCtrl =>
    let cp := { cp with dmaToHost := decide (val &&& dmaToHostBit ≠ 0) }
    if val &&& dmaStart ≠ 0 then coprocStartDma cp else cp
  | some .id => cp
  | some .core => cp
  | some .ramSize => cp
  | some .status => cp
  | some .mboxRx => cp
  | some .cycles => cp
  | some .pc => cp
  | some .fault => cp
  | some .faultAddr => cp
  | some .stopReason => cp
  | some .logHead => cp
  | some .waitAddr => cp
  | some .waitInfo => cp
  | some .ctlSize => cp
  | none => cp

/-! ## DMA -/

/-- `openbus_master_read32`: host memory, or a register of the card itself. -/
def openbusMasterRead32 (cp : Coproc σ η) (addr : UInt32) : UInt32 × Coproc σ η :=
  match host.window addr with
  | some offset => coprocRegRead ops cp offset .size32
  | none =>
    let (word, h) := host.read32 cp.host addr
    (word, { cp with host := h })

/-- `openbus_master_write32`. -/
def openbusMasterWrite32 (cp : Coproc σ η) (addr word : UInt32) : Coproc σ η :=
  match host.window addr with
  | some offset => coprocRegWrite ops host cp offset .size32 word
  | none => { cp with host := host.write32 cp.host addr word }

/-- `OPENBUS_COPROC_DMA_WORDS_PER_CYCLE`. -/
def dmaWordsPerCycle : Nat := 1

def dmaIndexes (cp : Coproc σ η) : List UInt32 :=
  [cp.dmaLocal, cp.dmaLocal + 1, cp.dmaLocal + 2, cp.dmaLocal + 3]

def dmaMove (cp : Coproc σ η) : Coproc σ η :=
  if cp.dmaToHost then openbusMasterWrite32 ops host cp cp.dmaHost (cp.bus.ram.word cp.dmaLocal)
  else
    let (word, cp) := openbusMasterRead32 ops host cp cp.dmaHost
    cp.setBus { cp.bus with ram := cp.bus.ram.setWord cp.dmaLocal word }

/-- The body of `coproc_run_dma`: move a word, then count it in the registers. -/
def dmaWord (cp : Coproc σ η) : Coproc σ η :=
  let cp := dmaMove ops host cp
  { cp with dmaHost := cp.dmaHost + 4, dmaLocal := cp.dmaLocal + 4, dmaLen := cp.dmaLen - 1 }

def dmaWords : Nat → Coproc σ η → List (Coproc σ η) × Coproc σ η
  | 0, cp => ([], cp)
  | words + 1, cp =>
    if cp.dmaLen = 0 then ([], cp)
    else
      let (seen, last) := dmaWords words (dmaWord ops host cp)
      (cp :: seen, last)

/-- The outer loop, with `budget` cycles left: the states a word was moved from, the cycles used,
and the card. -/
def dmaCycles : Nat → Coproc σ η → List (Coproc σ η) × Nat × Coproc σ η
  | 0, cp => ([], 0, cp)
  | budget + 1, cp =>
    if cp.dmaLen = 0 then ([], 0, cp)
    else
      let (seen, cp) := dmaWords ops host dmaWordsPerCycle cp
      let (seen', used, cp) := dmaCycles budget cp
      (seen ++ seen', used + 1, cp)

/-- `coproc_run_dma`. -/
def coprocRunDma (cp : Coproc σ η) (budget : Nat) : Nat × Coproc σ η :=
  let (_, used, cp) := dmaCycles ops host budget cp
  (used, if cp.dmaLen = 0 then { cp with dmaBusy := false } else cp)

/-! ## Timeslices -/

/-- `OPENBUS_COPROC_STOP_*`. -/
def stopNone : UInt32 := 0

def stopBudget : UInt32 := 1

def stopHalted : UInt32 := 2

def stopFault : UInt32 := 3

def stopWaiting : UInt32 := 4

def stopStopped : UInt32 := 5

def coprocChargeRunfor (cp : Coproc σ η) (ran : Nat) : Coproc σ η :=
  if cp.runfor = 0 then cp
  else
    let runfor := if cp.runfor ≤ UInt32.ofNat ran then 0 else cp.runfor - UInt32.ofNat ran
    if runfor = 0 then
      { cp with runfor := 0, ctrl := cp.ctrl &&& ~~~ctrlRun, stopReason := stopBudget }
    else { cp with runfor := runfor }

def coprocStopReason (cp : Coproc σ η) : Coproc σ η :=
  if ops.faulted cp.cpu then { cp with stopReason := stopFault }
  else if ops.halted cp.cpu then { cp with stopReason := stopHalted }
  else if ops.stalled cp.cpu then { cp with stopReason := stopWaiting }
  else cp

/-- The core's share of a timeslice of `budget` cycles. -/
def coprocRunCore (cp : Coproc σ η) (budget : Nat) : Nat × Coproc σ η :=
  let budget :=
    if decide (cp.runfor ≠ 0) && decide (cp.runfor.toNat < budget) then cp.runfor.toNat else budget
  let (ran, cp) := coreExec (ops.run budget) cp
  (ran, coprocNoteStop ops host (coprocStopReason ops (coprocChargeRunfor cp ran)))

def coprocRunTransfer (cp : Coproc σ η) (cycles : Int) : Nat × Coproc σ η :=
  if cp.dmaBusy then coprocRunDma ops host cp cycles.toNat else (0, cp)

/-- The rest of a timeslice of which the transfer used `used` cycles. -/
def coprocRunRest (used : Nat) (cp : Coproc σ η) (cycles : Int) : Nat × Coproc σ η :=
  if decide (cp.ctrl &&& ctrlRun ≠ 0) && decide (used < cycles.toNat) then
    let (ran, cp) := coprocRunCore ops host cp (cycles.toNat - used)
    (used + ran, cp)
  else if decide (cp.ctrl &&& ctrlRun = 0) && decide (cp.stopReason = stopNone) then
    (used, { cp with stopReason := stopStopped })
  else (used, cp)

/-- `coproc_run`: the transfer first, then the core. -/
def coprocRun (cp : Coproc σ η) (cycles : Int) : Nat × Coproc σ η :=
  if cycles ≤ 0 then (0, cp)
  else
    let rest := coprocRunTransfer ops host cp cycles
    coprocRunRest ops host rest.1 rest.2 cycles

/-! ## Fitting a card -/

/-- `openbus_coproc_core`. -/
inductive OpenbusCoprocCore
  | rv32i | m6502 | z80 | m65c02 | i8080 | m6809 | m6800 | m68000
  deriving DecidableEq, Repr

/-- `openbus_coproc_ram_default`. -/
def openbusCoprocRamDefault : OpenbusCoprocCore → UInt32
  | .rv32i => 0x100000
  | .m68000 => 0x100000
  | _ => 0x10000

/-- `openbus_coproc_ram_max`. -/
def openbusCoprocRamMax : OpenbusCoprocCore → UInt32
  | .rv32i => 0x4000000
  | _ => 0x1000000

/-- `openbus_coproc_requested_ram`, for a core and the size asked for. -/
def openbusCoprocRequestedRam (core : OpenbusCoprocCore) (bytes : UInt32) : UInt32 :=
  if bytes = 0 then openbusCoprocRamDefault core
  else if bytes < 0x1000 then 0x1000
  else if openbusCoprocRamMax core < bytes then openbusCoprocRamMax core
  else bytes

/-- `OPENBUS_COPROC_CTL_SIZE`. -/
def openbusCoprocCtlSize : UInt32 := 0x40000

/-- `openbus_coproc_fit`, into an empty slot and with memory to be had: `init` is the core after its
own `init`, `h` the host. -/
def openbusCoprocFit (core : OpenbusCoprocCore) (bytes : UInt32) (init : σ) (h : η) : Coproc σ η :=
  let zero : Block := fun _ => 0
  let bus := coproBusInit zero true (openbusCoprocRequestedRam core bytes) zero true
    openbusCoprocCtlSize
  coprocRehook ops
    { cpu := init
      env := { bus := coproBusSetCycleSource bus true, mboxTx := 0, mboxRx := 0, ports := fun _ => 0 }
      ctrl := 0, entry := 0, addr := 0, irq := false, stopReported := false
      dmaHost := 0, dmaLocal := 0, dmaLen := 0
      dmaToHost := false, dmaControl := false, dmaBusy := false
      ctlAddr := 0, regsel := 0, runfor := 0, stopReason := stopNone, irqctrl := 0, host := h }

end RpcEmu
