import RpcEmu.Lib.Masks
import RpcEmu.Lib.Runs
import Mathlib.Data.UInt

/-!
# The interrupt inputs of the CPU

`iomd.c`, and what the devices do to its status registers.  Bits 0 and 1 of `arm.event` are not worked out
when they are looked at: `updateirqs` works them out, and every place that changes a status or a mask has
to call it.

What the registers of the keyboard, the mouse, the CMOS and the display do besides is not in the model.
-/

namespace RpcEmu.Iomd

open Pages

/-! ## The controller -/

/-- `IOMDType`. -/
inductive IomdType where
  | iomd | arm7500 | arm7500fe | iomd2
  deriving DecidableEq, Repr

def IomdType.isArm7500 : IomdType → Bool
  | .arm7500 | .arm7500fe => true
  | _ => false

/-- `iomd_irq`. -/
structure IomdIrq where
  status : UInt8
  mask : UInt8
  deriving DecidableEq, Repr

/-- `iomd_timer`; nothing but 16 bits is ever put in its latch. -/
structure IomdTimer where
  inLatch : UInt16
  counter : Int32
  outLatch : UInt32
  deriving DecidableEq, Repr

/-- The latch as it is added to the counter. -/
def IomdTimer.latch (t : IomdTimer) : Int32 := t.inLatch.toUInt32.toInt32

lemma IomdTimer.toInt_latch (t : IomdTimer) : t.latch.toInt = t.inLatch.toNat := by
  have hlt := t.inLatch.toNat_lt
  have hint : t.latch.toInt = (t.inLatch.toNat : Int).bmod (2 ^ 32) := by
    rw [latch, ← Int32.toInt_toBitVec, UInt32.toBitVec_toInt32, BitVec.toInt_eq_toNat_bmod, UInt32.toNat_toBitVec,
      UInt16.toNat_toUInt32]
  rw [hint, Int.bmod_def]
  omega

/-- `t0` and `t1`. -/
inductive TimerId where
  | t0 | t1
  deriving DecidableEq, Repr

structure Stored where
  ctrl : UInt8
  susmode : UInt8
  clkctrl : UInt8
  vidimux : UInt8
  romcr0 : UInt8
  romcr1 : UInt8
  refcr : UInt8
  mousex : UInt16
  mousey : UInt16
  iotcr : UInt8
  ectcr : UInt8
  dmaext : UInt8
  dramcr : UInt8
  selfref : UInt8
  soundaddr : Fin 4 → UInt32
  sndstat : UInt8
  soundinited : Bool
  sndon : Bool
  cinit : UInt32
  vidcur : UInt32
  vidend : UInt32
  vidstart : UInt32
  vidinit : UInt32
  vidcr : UInt8

/-- `iomd`, with `arm.event` and the variables of `iomd.c`. -/
structure IomdState where
  iomdType : IomdType
  irqa : IomdIrq
  irqb : IomdIrq
  irqc : IomdIrq
  irqd : IomdIrq
  fiq : IomdIrq
  irqdma : IomdIrq
  timer : TimerId → IomdTimer
  oldTimerTicks : UInt32
  flyback : Bool
  stored : Stored
  event : UInt32

def irqaParallel : UInt8 := 0x01
def irqaFloppyIndex : UInt8 := 0x04
def irqaFlyback : UInt8 := 0x08
def irqaPowerOnReset : UInt8 := 0x10
def irqaTimer0 : UInt8 := 0x20
def irqaTimer1 : UInt8 := 0x40
def irqaForceBit : UInt8 := 0x80
def irqbPoduleFiqAsIrq : UInt8 := 0x01
def irqbIde : UInt8 := 0x02
def irqbSerial : UInt8 := 0x04
def iomd2IrqbSuperioSmi : UInt8 := 0x04
def irqbFloppy : UInt8 := 0x10
def irqbPodule : UInt8 := 0x20
def irqbKeyboardTx : UInt8 := 0x40
def irqbKeyboardRx : UInt8 := 0x80
def irqdMouseRx : UInt8 := 0x01
def irqdMouseTx : UInt8 := 0x02
def irqdEvent1 : UInt8 := 0x08
def irqdEvent2 : UInt8 := 0x10
def fiqFloppyDmaRequest : UInt8 := 0x01
def fiqPodule : UInt8 := 0x40
def fiqForceBit : UInt8 := 0x80
def irqdmaSound0 : UInt8 := 0x10
def dmaStatusBuffer : UInt8 := 0x01
def dmaStatusInterrupt : UInt8 := 0x02
def dmaStatusOverrun : UInt8 := 0x04

section Irqs

variable (s : IomdState)

def irqPending : Bool :=
  s.irqa.status &&& s.irqa.mask != 0 || s.irqb.status &&& s.irqb.mask != 0 ||
    s.irqd.status &&& s.irqd.mask != 0 || s.irqdma.status &&& s.irqdma.mask != 0

def fiqPending : Bool :=
  s.fiq.status &&& s.fiq.mask != 0

/-- `updateirqs`. -/
def updateirqs : IomdState :=
  let event := if irqPending s then s.event ||| 1 else s.event &&& ~~~1
  { s with event := if fiqPending s then event ||| 2 else event &&& ~~~2 }

/-! ## The devices -/

inductive Line where
  | irqa (bit : UInt8)
  | irqb (bit : UInt8)
  | irqd (bit : UInt8)
  | fiq (bit : UInt8)
  | irqdma (bit : UInt8)

def set : Line → IomdState
  | .irqa bit => { s with irqa.status := s.irqa.status ||| bit }
  | .irqb bit => { s with irqb.status := s.irqb.status ||| bit }
  | .irqd bit => { s with irqd.status := s.irqd.status ||| bit }
  | .fiq bit => { s with fiq.status := s.fiq.status ||| bit }
  | .irqdma bit => { s with irqdma.status := s.irqdma.status ||| bit }

def clear : Line → IomdState
  | .irqa bit => { s with irqa.status := s.irqa.status &&& ~~~bit }
  | .irqb bit => { s with irqb.status := s.irqb.status &&& ~~~bit }
  | .irqd bit => { s with irqd.status := s.irqd.status &&& ~~~bit }
  | .fiq bit => { s with fiq.status := s.fiq.status &&& ~~~bit }
  | .irqdma bit => { s with irqdma.status := s.irqdma.status &&& ~~~bit }

def raise (line : Line) : IomdState := updateirqs (set s line)

def lower (line : Line) : IomdState := updateirqs (clear s line)

def fdcIrqRaise : IomdState := raise s (.irqb irqbFloppy)
def fdcIrqLower : IomdState := lower s (.irqb irqbFloppy)
def fdcDmaRaise : IomdState := raise s (.fiq fiqFloppyDmaRequest)
def fdcDmaLower : IomdState := lower s (.fiq fiqFloppyDmaRequest)
def fdcIndexpulse : IomdState := raise s (.irqa irqaFloppyIndex)
def ideIrqRaise : IomdState := raise s (.irqb irqbIde)
def ideIrqLower : IomdState := lower s (.irqb irqbIde)
def keyboardIrqRxRaise : IomdState := raise s (.irqb irqbKeyboardRx)
def keyboardIrqRxLower : IomdState := lower s (.irqb irqbKeyboardRx)
def keyboardIrqTxRaise : IomdState := raise s (.irqb irqbKeyboardTx)
def mouseIrqTxRaise : IomdState := raise s (.irqd irqdMouseTx)
def mouseIrqTxLower : IomdState := lower s (.irqd irqdMouseTx)
def mouseIrqRxRaise : IomdState := raise s (.irqd irqdMouseRx)
def mouseIrqRxLower : IomdState := lower s (.irqd irqdMouseRx)

/-- `parallel_bus_device_ack`, for a port whose interrupt is enabled. -/
def parallelBusDeviceAck : IomdState := raise s (.irqa irqaParallel)

/-- `superio_smi_update`, by whether the SuperIO's registers ask for it. -/
def superioSmiUpdate (asks : Bool) : IomdState :=
  if asks then raise s (.irqb iomd2IrqbSuperioSmi) else lower s (.irqb iomd2IrqbSuperioSmi)

/-- `com1_irq_update`. -/
def com1IrqUpdate (pending : Bool) : IomdState :=
  if pending then raise s (.irqb irqbSerial) else lower s (.irqb irqbSerial)

/-- `sound_irq_update`, when there is room for the samples. -/
def soundIrqUpdate : IomdState :=
  let s := raise s (.irqdma irqdmaSound0)
  { s with stored.sndstat := (s.stored.sndstat ||| (dmaStatusInterrupt ||| dmaStatusOverrun)) ^^^ dmaStatusBuffer }

def poduleInts (s : IomdState) (irq fiq : Bool) : IomdState :=
  let s := if irq then set s (.irqb irqbPodule) else s
  if fiq then set (set s (.irqb irqbPoduleFiqAsIrq)) (.fiq fiqPodule) else s

/-- `rethinkpoduleints`. -/
def rethinkpoduleints (openbus : Bool × Bool) (podules : List (Bool × Bool)) : IomdState :=
  let s := clear (clear s (.irqb (irqbPodule ||| irqbPoduleFiqAsIrq))) (.fiq fiqPodule)
  let s := poduleInts s openbus.1 openbus.2
  updateirqs (podules.foldl (fun s p => poduleInts s p.1 p.2) s)

end Irqs

inductive Call where
  | fdcIrqRaise | fdcIrqLower | fdcDmaRaise | fdcDmaLower | fdcIndexpulse
  | ideIrqRaise | ideIrqLower
  | keyboardIrqRxRaise | keyboardIrqRxLower | keyboardIrqTxRaise
  | mouseIrqTxRaise | mouseIrqTxLower | mouseIrqRxRaise | mouseIrqRxLower
  | parallelBusDeviceAck
  | superioSmiUpdate (asks : Bool)
  | com1IrqUpdate (pending : Bool)
  | soundIrqUpdate
  | rethinkpoduleints (openbus : Bool × Bool) (podules : List (Bool × Bool))

def call (s : IomdState) : Call → IomdState
  | .fdcIrqRaise => fdcIrqRaise s
  | .fdcIrqLower => fdcIrqLower s
  | .fdcDmaRaise => fdcDmaRaise s
  | .fdcDmaLower => fdcDmaLower s
  | .fdcIndexpulse => fdcIndexpulse s
  | .ideIrqRaise => ideIrqRaise s
  | .ideIrqLower => ideIrqLower s
  | .keyboardIrqRxRaise => keyboardIrqRxRaise s
  | .keyboardIrqRxLower => keyboardIrqRxLower s
  | .keyboardIrqTxRaise => keyboardIrqTxRaise s
  | .mouseIrqTxRaise => mouseIrqTxRaise s
  | .mouseIrqTxLower => mouseIrqTxLower s
  | .mouseIrqRxRaise => mouseIrqRxRaise s
  | .mouseIrqRxLower => mouseIrqRxLower s
  | .parallelBusDeviceAck => parallelBusDeviceAck s
  | .superioSmiUpdate asks => superioSmiUpdate s asks
  | .com1IrqUpdate pending => com1IrqUpdate s pending
  | .soundIrqUpdate => soundIrqUpdate s
  | .rethinkpoduleints openbus podules => rethinkpoduleints s openbus podules

def calls (s : IomdState) (cs : List Call) : IomdState := cs.foldl call s

/-! ## The timers -/

def TimerId.bit : TimerId → UInt8
  | .t0 => irqaTimer0
  | .t1 => irqaTimer1

def IomdState.setTimer (s : IomdState) (i : TimerId) (t : IomdTimer) : IomdState :=
  { s with timer := Function.update s.timer i t }

lemma latch_pos {t : IomdTimer} (h : t.inLatch ≠ 0) : 0 < t.latch.toInt := by
  rw [t.toInt_latch]
  exact_mod_cast Nat.pos_of_ne_zero fun hz => h (UInt16.toNat_inj.mp hz)

/-- A latch that is added to a counter below zero does not overflow it. -/
lemma toInt_add_latch {t : IomdTimer} (h : t.counter < 0) :
    (t.counter + t.latch).toInt = t.counter.toInt + t.latch.toInt := by
  have hneg := Int32.lt_iff_toInt_lt.mp h
  have hlow := t.counter.le_toInt
  have hlt := t.inLatch.toNat_lt
  have hlatch := t.toInt_latch
  rw [Int32.toInt_zero] at hneg
  rw [Int32.toInt_add, Int.bmod_eq_of_le (by omega) (by omega)]

/-- The loop of `updatetimers` for one timer: an interrupt each time it has run out. -/
def expire (s : IomdState) (i : TimerId) : IomdState :=
  if (s.timer i).counter < 0 ∧ (s.timer i).inLatch ≠ 0 then
    expire (raise (s.setTimer i
      { s.timer i with counter := (s.timer i).counter + (s.timer i).latch }) (.irqa i.bit)) i
  else s
termination_by (-(s.timer i).counter.toInt).toNat
decreasing_by
  rename_i h
  have hnext := toInt_add_latch h.1
  have hpos := latch_pos h.2
  have hneg := Int32.lt_iff_toInt_lt.mp h.1
  simp only [Int32.toInt_zero] at hneg
  simp only [raise, updateirqs, set, IomdState.setTimer, Function.update_self]
  omega

def tick (s : IomdState) (i : TimerId) (ticks : Int32) : IomdState :=
  expire (s.setTimer i { s.timer i with counter := (s.timer i).counter - ticks }) i

/-- `updatetimers`. -/
def updatetimers (s : IomdState) (nsecTimer : UInt64) : IomdState :=
  let newTimerTicks := (nsecTimer / 500).toUInt32
  let ticks := (newTimerTicks - s.oldTimerTicks).toInt32
  if ticks ≤ 0 then s
  else tick (tick { s with oldTimerTicks := newTimerTicks } .t0 ticks) .t1 ticks

/-- `iomd_flyback`. -/
def iomdFlyback (s : IomdState) (flybackNew : Bool) : IomdState :=
  let s := { s with flyback := flybackNew }
  if flybackNew then raise s (.irqa irqaFlyback) else s

/-! ## The registers -/

inductive Reg where
  | iocr | kbddat | kbdcr | iolines | irqrqa | irqmska | susmode | irqmskb | fiqmsk | clkctl
  | tlow (i : TimerId) | thigh (i : TimerId) | tgo (i : TimerId) | tlat (i : TimerId)
  | irqmskc | vidimux | irqrqd | irqmskd | romcr0 | romcr1 | dramcr | vrefcr | fsize | mousex | mousey | msedat
  | msecr | iotcr | ectcr | dmaext | dramwid | selfref | atodicr | sd0 (i : Fin 4) | sd0cr | curscur | cursinit
  | vidcur | vidend | vidstart | vidinit | vidcr | dmast | dmarq | dmamsk | irqrq2 | irqmsk2
  deriving DecidableEq, Repr

/-- `IOMD_0x...`, and the two registers of the IOMD2 that have no name. -/
def Reg.number : Reg → UInt32
  | iocr => 0x000 | kbddat => 0x004 | kbdcr => 0x008 | iolines => 0x00c | irqrqa => 0x014 | irqmska => 0x018
  | susmode => 0x01c | irqmskb => 0x028 | fiqmsk => 0x038 | clkctl => 0x03c
  | tlow .t0 => 0x040 | thigh .t0 => 0x044 | tgo .t0 => 0x048 | tlat .t0 => 0x04c
  | tlow .t1 => 0x050 | thigh .t1 => 0x054 | tgo .t1 => 0x058 | tlat .t1 => 0x05c
  | irqmskc => 0x068 | vidimux => 0x06c | irqrqd => 0x074 | irqmskd => 0x078 | romcr0 => 0x080 | romcr1 => 0x084
  | dramcr => 0x088 | vrefcr => 0x08c | fsize => 0x090 | mousex => 0x0a0 | mousey => 0x0a4 | msedat => 0x0a8
  | msecr => 0x0ac | iotcr => 0x0c4 | ectcr => 0x0c8 | dmaext => 0x0cc | dramwid => 0x0d0 | selfref => 0x0d4
  | atodicr => 0x0e0 | sd0 i => 0x180 + 4 * UInt32.ofNat i | sd0cr => 0x190 | curscur => 0x1c0 | cursinit => 0x1c4
  | vidcur => 0x1d0 | vidend => 0x1d4 | vidstart => 0x1d8 | vidinit => 0x1dc | vidcr => 0x1e0 | dmast => 0x1f0
  | dmarq => 0x1f4 | dmamsk => 0x1f8 | irqrq2 => 0x314 | irqmsk2 => 0x318

def writable : List Reg :=
  [.iocr, .kbddat, .kbdcr, .iolines, .irqrqa, .irqmska, .susmode, .irqmskb, .fiqmsk, .clkctl, .tlow .t0, .thigh .t0,
    .tgo .t0, .tlat .t0, .tlow .t1, .thigh .t1, .tgo .t1, .tlat .t1, .irqmskc, .vidimux, .irqrqd, .irqmskd, .romcr0,
    .romcr1, .dramcr, .vrefcr, .fsize, .mousex, .mousey, .msedat, .msecr, .iotcr, .ectcr, .dmaext, .dramwid, .selfref,
    .atodicr, .sd0 0, .sd0 1, .sd0 2, .sd0 3, .sd0cr, .curscur, .cursinit, .vidcur, .vidend, .vidstart, .vidinit,
    .vidcr, .dmast, .dmarq, .dmamsk, .irqrq2, .irqmsk2]

def target (s : IomdState) (addr : UInt32) : Option Reg :=
  let reg := if s.iomdType = .iomd2 then addr &&& 0x3fc else addr &&& 0x1fc
  writable.find? fun r => r.number = reg

def maskBit (mask bit : UInt8) (val written : UInt32) : UInt8 :=
  if val &&& written ≠ 0 then mask ||| bit else mask &&& ~~~bit

/-- `iomd_write` once the register is known.  The keyboard and the mouse, where a write reaches one of them, make
the calls `cs`. -/
def writeReg (s : IomdState) (reg : Reg) (val : UInt32) (now : UInt64) (cs : List Call) : IomdState :=
  let byte := val.toUInt8
  match reg with
  | .iocr => { s with stored.ctrl := byte }
  | .kbddat | .kbdcr => if s.iomdType ≠ .iomd2 then calls s cs else s
  | .irqrqa => updateirqs { s with irqa.status := (s.irqa.status &&& ~~~byte) ||| irqaForceBit }
  | .irqmska => updateirqs { s with irqa.mask := byte }
  | .susmode => if s.iomdType.isArm7500 then { s with stored.susmode := byte } else s
  | .irqmskb => updateirqs { s with irqb.mask := byte }
  | .fiqmsk => updateirqs { s with fiq.mask := byte }
  | .clkctl => if s.iomdType.isArm7500 then { s with stored.clkctrl := byte } else s
  | .tlow i =>
    s.setTimer i { s.timer i with inLatch := ((s.timer i).inLatch &&& (0xff00 : UInt16)) ||| (val.toUInt16 &&& (0xff : UInt16)) }
  | .thigh i =>
    s.setTimer i { s.timer i with inLatch := ((s.timer i).inLatch &&& (0xff : UInt16)) ||| ((val.toUInt16 &&& (0xff : UInt16)) <<< 8) }
  | .tgo i =>
    let s := updatetimers s now
    s.setTimer i { s.timer i with counter := (s.timer i).latch - 1 }
  | .tlat i =>
    let s := updatetimers s now
    s.setTimer i { s.timer i with outLatch := (s.timer i).counter.toUInt32 }
  | .irqmskc => { s with irqc.mask := byte }
  | .vidimux => if s.iomdType.isArm7500 then { s with stored.vidimux := byte } else s
  | .irqmskd => { s with irqd.mask := byte }
  | .romcr0 => { s with stored.romcr0 := byte }
  | .romcr1 => { s with stored.romcr1 := byte }
  | .vrefcr => { s with stored.refcr := byte }
  | .mousex => if s.iomdType = .iomd then { s with stored.mousex := val.toUInt16 } else s
  | .mousey => if s.iomdType = .iomd then { s with stored.mousey := val.toUInt16 } else s
  | .msedat | .msecr => if s.iomdType.isArm7500 then calls s cs else s
  | .iotcr => { s with stored.iotcr := byte }
  | .ectcr => { s with stored.ectcr := byte }
  | .dmaext => if s.iomdType = .iomd ∨ s.iomdType = .iomd2 then { s with stored.dmaext := byte } else s
  | .dramwid => if s.iomdType.isArm7500 then { s with stored.dramcr := byte } else s
  | .selfref => if s.iomdType.isArm7500 then { s with stored.selfref := byte } else s
  | .sd0 i =>
    let s := { s with stored.sndstat := s.stored.sndstat &&& dmaStatusBuffer }
    let s := lower s (.irqdma irqdmaSound0)
    { s with stored.soundaddr := Function.update s.stored.soundaddr i val }
  | .sd0cr =>
    let s :=
      if val &&& 0x80 ≠ 0 then
        raise { s with stored.sndstat := dmaStatusInterrupt ||| dmaStatusOverrun, stored.soundinited := true }
          (.irqdma irqdmaSound0)
      else s
    { s with stored.sndon := val &&& 0x20 != 0 }
  | .cursinit => { s with stored.cinit := val }
  | .vidcur => { s with stored.vidcur := val &&& 0x1ffffff0 }
  | .vidend => { s with stored.vidend := val &&& 0x1ffffff0 }
  | .vidstart => { s with stored.vidstart := val &&& 0x1ffffff0 }
  | .vidinit => { s with stored.vidinit := val &&& 0xfffffff0 }
  | .vidcr => { s with stored.vidcr := byte }
  | .dmamsk => { s with irqdma.mask := byte }
  | .irqrq2 =>
    let s := if val &&& 0x40 ≠ 0 then clear s (.irqa irqaFlyback) else s
    let s := if val &&& 0x10000 ≠ 0 then clear s (.irqa irqaTimer0) else s
    let s := if val &&& 0x400 ≠ 0 then clear s (.irqb iomd2IrqbSuperioSmi) else s
    let s := if val &&& 0x8 ≠ 0 then clear s (.irqb irqbIde) else s
    raise s (.irqa irqaForceBit)
  | .irqmsk2 =>
    let irqa := maskBit (maskBit s.irqa.mask irqaFlyback val 0x40) irqaTimer0 val 0x10000
    let irqb := maskBit (maskBit s.irqb.mask iomd2IrqbSuperioSmi val 0x400) irqbIde val 0x8
    updateirqs { s with irqa.mask := irqa, irqb.mask := irqb }
  | .iolines | .irqrqd | .dramcr | .fsize | .atodicr | .curscur | .dmast | .dmarq => s

/-- `iomd_write`. -/
def iomdWrite (s : IomdState) (addr val : UInt32) (now : UInt64) (cs : List Call) : IomdState :=
  match target s addr with
  | some reg => writeReg s reg val now cs
  | none => s

/-- `arm_reset`, as far as it goes for `arm.event`, and `iomd_reset`. -/
def iomdReset (s : IomdState) (iomdType : IomdType) : IomdState :=
  let stored := { s.stored with
    ctrl := 0x10, romcr0 := 0x40, romcr1 := 0x40, sndstat := dmaStatusInterrupt ||| dmaStatusOverrun, vidcur := 0,
    vidstart := 0, vidend := 0, vidinit := 0, cinit := 0, sndon := false }
  { s with
    iomdType
    irqa := ⟨irqaForceBit ||| irqaPowerOnReset, 0⟩
    irqb := ⟨0, 0⟩
    irqc := ⟨0, 0⟩
    irqd := ⟨irqdEvent1 ||| irqdEvent2, 0⟩
    fiq := ⟨fiqForceBit, 0⟩
    irqdma := ⟨0, 0⟩
    timer := fun i => { s.timer i with counter := 0xffff, inLatch := 0xffff }
    flyback := false
    stored :=
      if iomdType.isArm7500 then
        { stored with susmode := 0, vidimux := 0, refcr := 1, dramcr := 0, selfref := 0, clkctrl := 0 }
      else { stored with refcr := 0 }
    event := 0 }

/-! ## The bits and the registers -/

/-- **Bits 0 and 1 of `arm.event` are what the registers say.** -/
def Agrees (s : IomdState) : Prop :=
  (s.event &&& 1 ≠ 0 ↔ irqPending s = true) ∧ (s.event &&& 2 ≠ 0 ↔ fiqPending s = true)

instance (s : IomdState) : Decidable (Agrees s) := inferInstanceAs (Decidable (_ ∧ _))

inductive Event where
  | write (addr val : UInt32) (now : UInt64) (cs : List Call)
  | device (c : Call)
  | timer (now : UInt64) (cs : List Call)
  | flyback (flybackNew : Bool)
  | reset (iomdType : IomdType)

def step (s : IomdState) : Event → IomdState
  | .write addr val now cs => iomdWrite s addr val now cs
  | .device c => call s c
  | .timer now cs => calls (updatetimers s now) cs
  | .flyback flybackNew => iomdFlyback s flybackNew
  | .reset iomdType => iomdReset s iomdType

/-- The two masks that are written without a call are given values that make no difference to whether there is an
interrupt. -/
def Heard (s : IomdState) : Event → Prop
  | .write addr val _ _ =>
    (target s addr = some .irqmskd → irqPending { s with irqd.mask := val.toUInt8 } = irqPending s) ∧
      (target s addr = some .dmamsk → irqPending { s with irqdma.mask := val.toUInt8 } = irqPending s)
  | _ => True

/-! ## What keeps them right -/

lemma agrees_iff {s : IomdState} :
    Agrees s ↔ bit s.event 0 = irqPending s ∧ bit s.event 1 = fiqPending s := by
  have hirq : (s.event &&& 1 ≠ 0 ↔ bit s.event 0 = true) := by
    rw [Masks.and_single (i := 0) (by decide) s.event]
    cases bit s.event 0 <;> simp
  have hfiq : (s.event &&& 2 ≠ 0 ↔ bit s.event 1 = true) := by
    rw [Masks.and_single (i := 1) (by decide) s.event]
    cases bit s.event 1 <;> simp
  rw [Agrees, hirq, hfiq, ← Bool.eq_iff_iff, ← Bool.eq_iff_iff]

section Kept

variable (s : IomdState)

/-- **Any place that calls `updateirqs` is right.** -/
lemma agrees_updateirqs : Agrees (updateirqs s) := by
  have hirq : irqPending (updateirqs s) = irqPending s := rfl
  have hfiq : fiqPending (updateirqs s) = fiqPending s := rfl
  have hone : ∀ i : Fin 32, bit 1 i = decide (i.val = 0) := by decide
  have htwo : ∀ i : Fin 32, bit 2 i = decide (i.val = 1) := by decide
  have hone0 := hone 0
  have hone1 := hone 1
  have htwo0 := htwo 0
  have htwo1 := htwo 1
  rw [agrees_iff, hirq, hfiq]
  unfold updateirqs
  cases irqPending s <;> cases fiqPending s <;> simp_all [Masks.bit_not]

lemma agrees_raise (line : Line) : Agrees (raise s line) := agrees_updateirqs _

lemma agrees_lower (line : Line) : Agrees (lower s line) := agrees_updateirqs _

/-- **A place that changes neither a status nor a mask** leaves right what was. -/
lemma Agrees.congr {s t : IomdState} (h : Agrees s) (hirqa : t.irqa = s.irqa) (hirqb : t.irqb = s.irqb)
    (hirqd : t.irqd = s.irqd) (hfiq : t.fiq = s.fiq) (hirqdma : t.irqdma = s.irqdma) (hevent : t.event = s.event) :
    Agrees t := by
  simp only [Agrees, irqPending, fiqPending, hirqa, hirqb, hirqd, hfiq, hirqdma, hevent] at h ⊢
  exact h

lemma agrees_stored {s t : IomdState} (h : Agrees s) (hfiq : fiqPending t = fiqPending s) (hevent : t.event = s.event) :
    Agrees t ↔ irqPending t = irqPending s := by
  obtain ⟨hirq, hfast⟩ := agrees_iff.mp h
  rw [agrees_iff, hevent, hfiq, hirq]
  exact ⟨fun h => h.1.symm, fun h => ⟨h.symm, hfast⟩⟩

lemma agrees_call (c : Call) : Agrees (call s c) := by
  cases c with
  | superioSmiUpdate asks =>
    rw [call, superioSmiUpdate]
    split <;> exact agrees_updateirqs _
  | com1IrqUpdate pending =>
    rw [call, com1IrqUpdate]
    split <;> exact agrees_updateirqs _
  | soundIrqUpdate => exact (agrees_raise s (.irqdma irqdmaSound0)).congr rfl rfl rfl rfl rfl rfl
  | _ => exact agrees_updateirqs _

lemma agrees_calls {s : IomdState} (h : Agrees s) (cs : List Call) : Agrees (calls s cs) := by
  induction cs generalizing s with
  | nil => exact h
  | cons c cs ih => exact ih (agrees_call s c)

lemma agrees_setTimer {s : IomdState} (h : Agrees s) (i : TimerId) (t : IomdTimer) : Agrees (s.setTimer i t) :=
  h.congr rfl rfl rfl rfl rfl rfl

lemma agrees_expire {s : IomdState} (h : Agrees s) (i : TimerId) : Agrees (expire s i) := by
  induction s using expire.induct i with
  | case1 s hout ih =>
    rw [expire, if_pos hout]
    exact ih (agrees_raise _ _)
  | case2 s hout =>
    rw [expire, if_neg hout]
    exact h

lemma agrees_updatetimers {s : IomdState} (h : Agrees s) (now : UInt64) : Agrees (updatetimers s now) := by
  unfold updatetimers
  dsimp only
  split
  · exact h
  · refine agrees_expire (agrees_setTimer (agrees_expire (agrees_setTimer ?_ _ _) _) _ _) _
    exact h.congr rfl rfl rfl rfl rfl rfl

lemma agrees_flyback {s : IomdState} (h : Agrees s) (flybackNew : Bool) : Agrees (iomdFlyback s flybackNew) := by
  unfold iomdFlyback
  dsimp only
  split
  · exact agrees_updateirqs _
  · exact h.congr rfl rfl rfl rfl rfl rfl

lemma agrees_reset (iomdType : IomdType) : Agrees (iomdReset s iomdType) := by
  have hevent : (iomdReset s iomdType).event = 0 := rfl
  rw [agrees_iff, hevent, bit_zero, bit_zero]
  -- all masks are clear
  simp [irqPending, fiqPending, iomdReset]

/-- **A write of a register**, but for the two masks. -/
lemma agrees_writeReg {s : IomdState} (h : Agrees s) {reg : Reg} (hirqmskd : reg ≠ .irqmskd) (hdmamsk : reg ≠ .dmamsk)
    (val : UInt32) (now : UInt64) (cs : List Call) : Agrees (writeReg s reg val now cs) := by
  cases reg
  case irqmskd => exact absurd rfl hirqmskd
  case dmamsk => exact absurd rfl hdmamsk
  case irqrqa | irqmska | irqmskb | fiqmsk | irqrq2 | irqmsk2 => exact agrees_updateirqs _
  case kbddat | kbdcr | msedat | msecr =>
    rw [writeReg]
    split
    · exact agrees_calls h cs
    · exact h
  case tgo i | tlat i => exact agrees_setTimer (agrees_updatetimers h now) _ _
  case sd0 i => exact (agrees_lower _ _).congr rfl rfl rfl rfl rfl rfl
  case sd0cr =>
    rw [writeReg]
    dsimp only
    split
    · exact (agrees_raise _ _).congr rfl rfl rfl rfl rfl rfl
    · exact h.congr rfl rfl rfl rfl rfl rfl
  case susmode | clkctl | vidimux | mousex | mousey | dmaext | dramwid | selfref =>
    rw [writeReg]
    split
    · exact h.congr rfl rfl rfl rfl rfl rfl
    · exact h
  all_goals exact h.congr rfl rfl rfl rfl rfl rfl

/-- **An event leaves the two bits right exactly when what it writes to the two masks makes no difference.** -/
lemma agrees_step {s : IomdState} (h : Agrees s) (e : Event) : Agrees (step s e) ↔ Heard s e := by
  cases e with
  | device c => exact iff_of_true (agrees_call s c) trivial
  | timer now cs => exact iff_of_true (agrees_calls (agrees_updatetimers h now) cs) trivial
  | flyback flybackNew => exact iff_of_true (agrees_flyback h flybackNew) trivial
  | reset iomdType => exact iff_of_true (agrees_reset s iomdType) trivial
  | write addr val now cs =>
    rw [step, iomdWrite, Heard]
    cases htarget : target s addr with
    | none => simpa using h
    | some reg =>
      by_cases hirqmskd : reg = .irqmskd
      · subst hirqmskd
        simp only [writeReg, true_implies, reduceCtorEq, false_implies, and_true, Option.some.injEq]
        exact agrees_stored h rfl rfl
      · by_cases hdmamsk : reg = .dmamsk
        · subst hdmamsk
          simp only [writeReg, true_implies, reduceCtorEq, false_implies, true_and, Option.some.injEq]
          exact agrees_stored h rfl rfl
        · simpa [hirqmskd, hdmamsk] using agrees_writeReg h hirqmskd hdmamsk val now cs

end Kept

/-- **The CPU's inputs are what the registers say** after every event of a run from a reset, exactly when no
write of the mask of IRQD or of the DMA interrupts makes a difference. -/
theorem inputs_right_along_iff (s : IomdState) (iomdType : IomdType) (es : List Event) :
    Runs.Along step Heard (iomdReset s iomdType) es ↔
      Runs.Along step (fun s e => Agrees (step s e)) (iomdReset s iomdType) es :=
  Runs.along_iff_of_inv (I := Agrees) (fun _ e h hheard => (agrees_step h e).mpr hheard)
    (fun _ e h => (agrees_step h e).symm) es _ (agrees_reset s iomdType)

def unset : IomdState :=
  { iomdType := .iomd, irqa := ⟨0, 0⟩, irqb := ⟨0, 0⟩, irqc := ⟨0, 0⟩, irqd := ⟨0, 0⟩, fiq := ⟨0, 0⟩
    irqdma := ⟨0, 0⟩, timer := fun _ => ⟨0, 0, 0⟩, oldTimerTicks := 0, flyback := false, event := 0
    stored := ⟨0, 0, 0, 0, 0, 0, 0, 0, 0, 0, 0, 0, 0, 0, fun _ => 0, 0, false, false, 0, 0, 0, 0, 0, 0⟩ }

theorem inputs_wrong :
    ¬Runs.Along step (fun s e => Agrees (step s e)) (iomdReset unset .arm7500) [.write 0x03200078 0x08 0 []] := by
  rw [Runs.along_cons]
  rintro ⟨hagrees, -⟩
  exact absurd hagrees (by decide)

end RpcEmu.Iomd
