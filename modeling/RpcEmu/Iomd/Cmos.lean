import RpcEmu.Lib.I2c
import Mathlib.Data.Int.Basic
import Mathlib.Logic.Function.Basic
import Mathlib.Tactic.Cases

/-!
# The CMOS memory on its two wires

`cmos.c`.  The guest moves the two lines of an I²C bus through the IOMD's control register, one write at a
time, and `cmosi2cchange` follows them: nine states, a count of bits that goes up where the guest sends and
down where it reads, and a byte each way.  Two chips are on the bus, the PCF8583 with the memory and the clock,
and in some machines the SPD of a memory module.

What the bus is for is the other half of the file, `ByteBus`: the same chips, told of a start, a byte, an
acknowledgement.  `Shows` says where in the protocol the bits have got to, `shows_step` that one write of the
lines keeps it, and `bus_is_byte_protocol` that of whatever the guest does with the lines the chips see the
bytes, and the guest hears the answers, of the protocol.
-/

namespace RpcEmu.Cmos

open I2c

/-! ## The chips -/

/-- `struct tm`, the host's clock taken apart. -/
structure Tm where
  sec : Nat
  min : Nat
  hour : Nat
  mday : Nat
  mon : Nat
  year : Nat
  wday : Nat

/-- `BIN2BCD`. -/
def bin2bcd (val : Nat) : Nat := ((val / 10) <<< 4) ||| (val % 10)

/-- `cmosram`. -/
abbrev CmosRam := UInt8 → UInt8

/-- `cmosgettime`: the registers of the clock are put in the memory. -/
def cmosgettime (now : Tm) (cmosram : CmosRam) : CmosRam := fun reg =>
  if reg = 1 then 0
  else if reg = 2 then UInt8.ofNat (bin2bcd now.sec)
  else if reg = 3 then UInt8.ofNat (bin2bcd now.min)
  else if reg = 4 then UInt8.ofNat (bin2bcd now.hour)
  else if reg = 5 then UInt8.ofNat ((((now.year + 1900) &&& 3) <<< 6) ||| bin2bcd now.mday)
  else if reg = 6 then UInt8.ofNat ((now.wday <<< 5) ||| bin2bcd (now.mon + 1))
  else cmosram reg

/-- `I2C_ACK` and its like. -/
inductive Result where
  | ack | nack | done
  deriving DecidableEq, Repr

/-- `PCF_STATE_...`. -/
inductive PcfState where
  | addr | data
  deriving DecidableEq, Repr

/-- `PCF8583`; no more than eight bits are ever put in its address. -/
structure Pcf8583 where
  regAddress : UInt8
  state : PcfState

structure Chips where
  cmosram : CmosRam
  pcf : Pcf8583
  spdRegAddress : UInt8
  stores : List (UInt8 × UInt8)

/-- `pcf8583_start`. -/
def pcf8583Start (c : Chips) : Result × Chips :=
  (.ack, { c with pcf.state := .addr })

/-- `pcf8583_stop`. -/
def pcf8583Stop (c : Chips) : Chips :=
  { c with pcf.state := .addr }

/-- `pcf8583_write`. -/
def pcf8583Write (c : Chips) (data : UInt8) : Result × Chips :=
  match c.pcf.state with
  | .addr => (.ack, { c with pcf.regAddress := data, pcf.state := .data })
  | .data =>
    (.ack, { c with
      cmosram := Function.update c.cmosram c.pcf.regAddress data
      stores := (c.pcf.regAddress, data) :: c.stores
      pcf.regAddress := c.pcf.regAddress + 1 })

/-- `pcf8583_read`: the byte with what it leaves. -/
def pcf8583Read (c : Chips) (now : Tm) : UInt8 × Chips :=
  let cmosram := if c.pcf.regAddress < 0x10 then cmosgettime now c.cmosram else c.cmosram
  (cmosram c.pcf.regAddress, { c with cmosram, pcf.regAddress := c.pcf.regAddress + 1 })

/-- `spd_data`, the rest of which is zero. -/
def spdData (reg : UInt8) : UInt8 :=
  [128, 8, 4, 12, 10, 1, 64, 0, 0, 1, 1, 0, 0, 8, 0, 0, 0xf, 2, 0x7f, 0x7f, 0x7f, 0x00, 0x3f, 0x10, 0x10, 0x10,
    0x10, 1, 1, 1, 1, 0x20].getD reg.toNat 0

/-- `spd_write`. -/
def spdWrite (c : Chips) (data : UInt8) : Result × Chips :=
  (.ack, { c with spdRegAddress := data &&& 0x7f })

/-- `spd_read`. -/
def spdRead (c : Chips) : UInt8 × Chips :=
  (spdData c.spdRegAddress, { c with spdRegAddress := (c.spdRegAddress + 1) &&& 0x7f })

/-- `I2C_Slave`, one of the two. -/
inductive Slave where
  | pcf8583 | spd
  deriving DecidableEq, Repr

/-- `devops->start`. -/
def Slave.start : Slave → Chips → Result × Chips
  | .pcf8583, c => pcf8583Start c
  | .spd, c => (.ack, c)

/-- `devops->stop`. -/
def Slave.stop : Slave → Chips → Chips
  | .pcf8583, c => pcf8583Stop c
  | .spd, c => c

/-- `devops->write`. -/
def Slave.write : Slave → Chips → UInt8 → Result × Chips
  | .pcf8583, c, data => pcf8583Write c data
  | .spd, c, data => spdWrite c data

/-- `devops->read`. -/
def Slave.read : Slave → Chips → Tm → UInt8 × Chips
  | .pcf8583, c, now => pcf8583Read c now
  | .spd, c, _ => spdRead c

def i2cPcf8583 : UInt32 := 1
def i2cSpdDimm0 : UInt32 := 2

def slaveAt (i2cDevices : UInt32) (address : UInt8) : Option Slave :=
  if address = 0x50 ∧ i2cDevices &&& i2cPcf8583 ≠ 0 then some .pcf8583
  else if address = 0x54 ∧ i2cDevices &&& i2cSpdDimm0 ≠ 0 then some .spd
  else none

/-! ## The bits -/

/-- `I2C_STATE_...`. -/
inductive I2cState where
  | idle | addr | ackRead | ackReadAddr | ackWrite | nackWrite | read | write | wait
  deriving DecidableEq, Repr

/-- `I2C_SerDes`. -/
structure SerDes where
  activeSlave : Option Slave
  address : UInt8
  inbuf : UInt8
  outbuf : UInt8
  bitcount : Int
  state : I2cState
  oldpinstate : Pins

structure Bus where
  serdes : SerDes
  i2cclock : Bool
  i2cdata : Bool
  i2cDevices : UInt32
  chips : Chips

/-- Where the code calls `fatal`, or follows a null pointer. -/
inductive Fault where
  | noSlaveInRead | noSlaveInWrite | nullSlave
  deriving DecidableEq, Repr

inductive Edge where
  | fell | rose | none
  deriving DecidableEq, Repr

def edge (oldscl scl : Bool) : Edge :=
  if oldscl && !scl then .fell else if !oldscl && scl then .rose else .none

namespace Bus

def lines (b : Bus) (sda : Bool) : Bus :=
  { b with i2cclock := true, i2cdata := sda }

/-- `reset_serdes`. -/
def resetSerdes (b : Bus) : Bus :=
  { b with
    serdes := { b.serdes with
      state := .idle, bitcount := 0, address := 0, activeSlave := Option.none, inbuf := 0, outbuf := 0 }
    i2cclock := true
    i2cdata := true }

def bitIn (b : Bus) (sda : Bool) : Bus :=
  { b with serdes.bitcount := b.serdes.bitcount + 1, serdes.inbuf := shiftIn b.serdes.inbuf sda }

def addressed (b : Bus) : Bus :=
  let b := { b with serdes.address := b.serdes.inbuf >>> 1 }
  match slaveAt b.i2cDevices b.serdes.address with
  | some slave =>
    let b := { b with serdes.state := if b.serdes.inbuf &&& 1 ≠ 0 then .ackReadAddr else .ackWrite }
    let (result, chips) := slave.start b.chips
    let b := { b with chips }
    match result with
    | .ack => { b.lines true with serdes.activeSlave := some slave }
    | .nack => { b.lines true with serdes.state := .wait }
    | .done => b
  | Option.none => b.resetSerdes

def written (b : Bus) : Except Fault Bus :=
  match b.serdes.activeSlave with
  | Option.none => .error .noSlaveInWrite
  | some slave =>
    let (result, chips) := slave.write b.chips b.serdes.inbuf
    let b := { b with chips }
    match result with
    | .ack => .ok { b with serdes.state := .ackWrite, i2cclock := true }
    | .nack => .ok { b with serdes.state := .nackWrite, i2cclock := true }
    | .done => .ok b

def fetched (b : Bus) (now : Tm) : Except Fault Bus :=
  if b.serdes.bitcount = 8 then
    match b.serdes.activeSlave with
    | Option.none => .error .nullSlave
    | some slave =>
      let (outbuf, chips) := slave.read b.chips now
      .ok { b with serdes.outbuf := outbuf, chips }
  else .ok b

def bitOut (b : Bus) : Bus :=
  if 0 < b.serdes.bitcount then
    let b := { b with serdes.bitcount := b.serdes.bitcount - 1 }
    b.lines (b.serdes.outbuf.toNat.testBit b.serdes.bitcount.toNat)
  else b

/-- The `switch` of `cmosi2cchange`. -/
def clock (b : Bus) (now : Tm) (moved : Edge) (sda : Bool) : Except Fault Bus :=
  match b.serdes.state, moved with
  | .idle, _ => .ok (b.lines true)
  | .addr, .fell => .ok (b.lines true)
  | .addr, .rose =>
    let b := b.bitIn sda
    .ok (if b.serdes.bitcount = 8 then b.addressed else b)
  | .ackReadAddr, .fell => .ok (b.lines false)
  | .ackReadAddr, .rose => .ok { b with serdes.state := .read, serdes.bitcount := 8 }
  | .ackRead, .fell => .ok (b.lines true)
  | .ackRead, .rose =>
    match b.serdes.activeSlave with
    | Option.none => .error .noSlaveInRead
    | some _ =>
      if sda then .ok { b with serdes.state := .wait }
      else .ok { b with serdes.state := .read, serdes.bitcount := 8 }
  | .ackWrite, .fell => .ok (b.lines false)
  | .nackWrite, .fell => .ok (b.lines true)
  | .ackWrite, .rose | .nackWrite, .rose =>
    .ok { b with serdes.state := .write, serdes.bitcount := 0, serdes.inbuf := 0 }
  | .read, .fell => do
    let b ← b.fetched now
    .ok b.bitOut
  | .read, .rose => .ok (if b.serdes.bitcount = 0 then { b with serdes.state := .ackRead } else b)
  | .write, .fell => .ok (b.lines true)
  | .write, .rose =>
    let b := b.bitIn sda
    if b.serdes.bitcount = 8 then b.written else .ok b
  | .wait, _ | .addr, .none | .ackReadAddr, .none | .ackRead, .none | .ackWrite, .none | .nackWrite, .none
  | .read, .none | .write, .none => .ok b

def leave (b : Bus) (pins : Pins) : Bus :=
  { b with serdes.oldpinstate := pins }

end Bus

/-- `cmosi2cchange`. -/
def cmosi2cchange (b : Bus) (now : Tm) (pins : Pins) : Except Fault Bus :=
  let old := b.serdes.oldpinstate
  if pins.scl && old.sda && !pins.sda then
    let b := b.resetSerdes
    .ok ({ b with serdes.state := .addr }.leave pins)
  else if pins.scl && !old.sda && pins.sda then
    let b :=
      match b.serdes.activeSlave with
      | some slave => { b with chips := slave.stop b.chips }
      | none => b
    .ok (b.resetSerdes.leave pins)
  else do
    let b ← b.clock now (edge old.scl pins.scl) pins.sda
    .ok (b.leave pins)

/-- `reseti2c`; what the memory holds and where the lines were is as it was. -/
def reseti2c (b : Bus) (chosenI2cDevices : UInt32) : Bus :=
  { b with i2cDevices := chosenI2cDevices, chips.spdRegAddress := 0 }.resetSerdes

/-! ## The bytes -/

inductive Phase where
  /-- Nobody is talked to: there has been no start, or nobody has that address, or the guest has had its last
  byte. -/
  | free
  /-- The address byte is to come. -/
  | address
  /-- It has come, and its device is to acknowledge it. -/
  | selected (slave : Slave) (reading : Bool)
  /-- The PCF8583 is to be given the address of a register, -/
  | register
  /-- then bytes for the registers from there on. -/
  | data
  /-- The SPD is to be given an address. -/
  | pointer
  /-- The device sends; `out` is its last byte. -/
  | sending (slave : Slave) (out : UInt8)

structure ByteBus where
  phase : Phase
  mem : CmosRam
  reg : UInt8
  spdReg : UInt8
  stores : List (UInt8 × UInt8)

namespace ByteBus

def fetch (m : ByteBus) (now : Tm) : Slave → ByteBus
  | .pcf8583 =>
    let mem := if m.reg < 0x10 then cmosgettime now m.mem else m.mem
    { m with phase := .sending .pcf8583 (mem m.reg), mem, reg := m.reg + 1 }
  | .spd => { m with phase := .sending .spd (spdData m.spdReg), spdReg := (m.spdReg + 1) &&& 0x7f }

def take (devices : UInt32) (m : ByteBus) (b : UInt8) : ByteBus :=
  match m.phase with
  | .address =>
    match slaveAt devices (b >>> 1) with
    | some slave => { m with phase := .selected slave (b &&& 1 != 0) }
    | none => { m with phase := .free }
  | .register => { m with phase := .data, reg := b }
  | .data => { m with mem := Function.update m.mem m.reg b, stores := (m.reg, b) :: m.stores, reg := m.reg + 1 }
  | .pointer => { m with spdReg := b &&& 0x7f }
  | _ => m

def acknowledged (m : ByteBus) (sda : Bool) : ByteBus :=
  match m.phase with
  | .selected .pcf8583 false => { m with phase := .register }
  | .selected .spd false => { m with phase := .pointer }
  | .selected slave true => { m with phase := .sending slave 0xff }
  | .sending slave out => { m with phase := if sda then .free else .sending slave out }
  | _ => m

def event (devices : UInt32) (m : ByteBus) (now : Tm) : BusEvent → ByteBus
  | .start => { m with phase := .address }
  | .stop => { m with phase := .free }
  | .opened =>
    match m.phase with
    | .sending slave _ => m.fetch now slave
    | _ => m
  | .byte b => m.take devices b
  | .ack sda => m.acknowledged sda

def answer (m : ByteBus) : UInt8 :=
  match m.phase with
  | .sending _ out => out
  | _ => 0xff

def answerAck (m : ByteBus) : Bool :=
  match m.phase with
  | .selected _ _ | .register | .data | .pointer => false
  | _ => true

def heard (m : ByteBus) : BusEvent → BusEvent
  | .byte _ => .byte m.answer
  | .ack _ => .ack m.answerAck
  | e => e

def run (devices : UInt32) : ByteBus → List (BusEvent × Tm) → ByteBus × List BusEvent
  | m, [] => (m, [])
  | m, (e, now) :: es =>
    let rest := run devices (m.event devices now e) es
    (rest.1, m.heard e :: rest.2)

end ByteBus

def framed : Pins → Framer → List (Pins × Tm) → List (BusEvent × Tm)
  | _, _, [] => []
  | old, g, (pins, now) :: ws =>
    let next := g.next (symbol old pins)
    (next.2.map fun e => (e, now)).toList ++ framed pins next.1 ws

def hears (s : Symbol) (i2cdata : Bool) : Symbol :=
  match s with
  | .rise _ => .rise i2cdata
  | s => s

def clockOut : Bus → Framer → List (Pins × Tm) → Except Fault (Bus × List BusEvent)
  | b, _, [] => .ok (b, [])
  | b, f, (pins, now) :: ws => do
    let b' ← cmosi2cchange b now pins
    let next := f.next (hears (symbol b.serdes.oldpinstate pins) b'.i2cdata)
    let (b'', es) ← clockOut b' next.1 ws
    .ok (b'', next.2.toList ++ es)

/-! ## What is heard -/

/-- The bit that the chips put on the data line for the clock `k` of a frame. -/
def ByteBus.drives (m : ByteBus) (k : Nat) : Bool :=
  if k < 8 then bitAt m.answer k else m.answerAck

/-- The two frames are as far, and the byte is what the chips have said of their answer. -/
def Hears (f g : Framer) (m : ByteBus) : Prop :=
  f.map Frame.clocks = g.map Frame.clocks ∧
    ∀ fr ∈ f, fr.clocks ≤ 8 ∧ fr.byte = byteSoFar m.answer fr.clocks

def ByteBus.after (devices : UInt32) (m : ByteBus) (now : Tm) (e : Option BusEvent) : ByteBus :=
  e.elim m (m.event devices now)

lemma answer_take (devices : UInt32) (m : ByteBus) (b : UInt8) : (m.take devices b).answer = m.answer := by
  unfold ByteBus.take
  cases hphase : m.phase with
  | address => cases slaveAt devices (b >>> 1) <;> simp [ByteBus.answer, hphase]
  | free | selected slave reading | register | data | pointer | sending slave out => simp [ByteBus.answer, hphase]

/-- **The answer is heard** bit by bit, as long as the bits on the line are those of the answer. -/
lemma Hears.next {f g : Framer} {m : ByteBus} {line : Bool} {s : Symbol} (h : Hears f g m) (devices : UInt32)
    (now : Tm) (hline : ∀ fr ∈ g, ∀ sda, s = .rise sda → line = m.drives fr.clocks) :
    Hears (f.next (hears s line)).1 (g.next s).1 (m.after devices now (g.next s).2) ∧
      (f.next (hears s line)).2 = (g.next s).2.map m.heard := by
  obtain ⟨hclocks, hbyte⟩ := h
  cases f with
  | none =>
    cases g with
    | some gr => simp at hclocks
    | none => cases s <;> simp [hears, Framer.next, Hears, Frame.empty, ByteBus.heard]
  | some fr =>
    cases g with
    | none => simp at hclocks
    | some gr =>
      simp only [Option.map_some, Option.some.injEq] at hclocks
      obtain ⟨hle, hfr⟩ := hbyte fr rfl
      cases s with
      | start | stop => simp [hears, Framer.next, Hears, Frame.empty, ByteBus.heard]
      | quiet => simp [hears, Framer.next, Hears, ByteBus.after, hclocks, hfr, hclocks ▸ hle]
      | fall =>
        by_cases hzero : gr.clocks = 0
        · -- a new answer may begin, of which nothing has been heard
          simp [hears, Framer.next, Hears, hclocks, hfr, hzero, ByteBus.heard]
        · simp [hears, Framer.next, Hears, ByteBus.after, hclocks, hfr, hzero, hclocks ▸ hle]
      | rise sda =>
        have hbit := hline gr rfl sda rfl
        simp only [hears, Framer.next, Frame.clock, hclocks]
        split_ifs with hlt heq
        · refine ⟨⟨by simp, ?_⟩, rfl⟩
          rw [ByteBus.drives, if_pos (by omega)] at hbit
          rintro fr' ⟨⟩
          refine ⟨by simp; omega, ?_⟩
          rw [hfr, hbit, hclocks, byteSoFar_succ _ (by omega)]
          rfl
        · rw [ByteBus.drives, if_pos (by omega)] at hbit
          have hwhole : shiftIn fr.byte line = m.answer := by
            rw [hfr, hbit, hclocks, byteSoFar_succ _ (by omega), heq, byteSoFar_eight]
          refine ⟨⟨by simp, ?_⟩, by simp [hwhole, ByteBus.heard]⟩
          rintro fr' ⟨⟩
          simp [hwhole, ByteBus.after, ByteBus.event, answer_take]
        · rw [ByteBus.drives, if_neg (by omega)] at hbit
          refine ⟨⟨by simp, ?_⟩, by simp [hbit, ByteBus.heard]⟩
          rintro fr' ⟨⟩
          simp [Frame.empty]

/-! ## Where the bits have got to -/

/-- What a byte is to the chip that takes it. -/
inductive Takes (pcfState : PcfState) : Slave → Phase → Prop
  | register (h : pcfState = .addr) : Takes pcfState .pcf8583 .register
  | data (h : pcfState = .data) : Takes pcfState .pcf8583 .data
  | pointer : Takes pcfState .spd .pointer

/-- The states of the bits, each with where the frame and the transaction are.  What depends on the clock is the
count of a byte that is read: it goes down when the clock falls. -/
inductive Place (scl : Bool) (b : Bus) (g : Framer) (phase : Phase) : Prop
  | idle (hstate : b.serdes.state = .idle) (hcount : b.serdes.bitcount = 0) (hline : b.i2cdata = true)
      (hphase : phase = .free)
  | addr (fr : Frame) (hstate : b.serdes.state = .addr) (hg : g = some fr) (hlt : fr.clocks < 8)
      (hcount : b.serdes.bitcount = fr.clocks) (hin : b.serdes.inbuf = fr.byte) (hphase : phase = .address)
  | ackReadAddr (fr : Frame) (slave : Slave) (hstate : b.serdes.state = .ackReadAddr) (hg : g = some fr)
      (hclocks : fr.clocks = 8) (hcount : b.serdes.bitcount = 8) (hslave : b.serdes.activeSlave = some slave)
      (hphase : phase = .selected slave true)
  | ackAddr (fr : Frame) (slave : Slave) (hstate : b.serdes.state = .ackWrite) (hg : g = some fr)
      (hclocks : fr.clocks = 8) (hcount : b.serdes.bitcount = 8) (hslave : b.serdes.activeSlave = some slave)
      (hphase : phase = .selected slave false) (hpcf : slave = .pcf8583 → b.chips.pcf.state = .addr)
  | ackWrite (fr : Frame) (slave : Slave) (hstate : b.serdes.state = .ackWrite) (hg : g = some fr)
      (hclocks : fr.clocks = 8) (hcount : b.serdes.bitcount = 8) (hslave : b.serdes.activeSlave = some slave)
      (htakes : Takes b.chips.pcf.state slave phase)
  | write (fr : Frame) (slave : Slave) (hstate : b.serdes.state = .write) (hg : g = some fr)
      (hlt : fr.clocks < 8) (hcount : b.serdes.bitcount = fr.clocks) (hin : b.serdes.inbuf = fr.byte)
      (hslave : b.serdes.activeSlave = some slave) (htakes : Takes b.chips.pcf.state slave phase)
  | readHigh (fr : Frame) (slave : Slave) (out : UInt8) (hscl : scl = true) (hstate : b.serdes.state = .read)
      (hg : g = some fr) (hlt : fr.clocks < 8) (hcount : b.serdes.bitcount = 8 - fr.clocks)
      (hslave : b.serdes.activeSlave = some slave) (hphase : phase = .sending slave out)
      (hout : 0 < fr.clocks → b.serdes.outbuf = out)
  | readLow (fr : Frame) (slave : Slave) (out : UInt8) (hscl : scl = false) (hstate : b.serdes.state = .read)
      (hg : g = some fr) (hlt : fr.clocks < 8) (hcount : b.serdes.bitcount = 7 - fr.clocks)
      (hslave : b.serdes.activeSlave = some slave) (hphase : phase = .sending slave out)
      (hout : b.serdes.outbuf = out)
  | ackRead (fr : Frame) (slave : Slave) (out : UInt8) (hstate : b.serdes.state = .ackRead) (hg : g = some fr)
      (hclocks : fr.clocks = 8) (hcount : b.serdes.bitcount = 0) (hslave : b.serdes.activeSlave = some slave)
      (hphase : phase = .sending slave out)
  | wait (hstate : b.serdes.state = .wait) (hcount : b.serdes.bitcount = 0) (hline : b.i2cdata = true)
      (hphase : phase = .free)

/-- **The bits show the bytes**: the chips hold the same, the line is what they put on it when the clock is low,
and the states go together. -/
structure Shows (devices : UInt32) (scl : Bool) (b : Bus) (g : Framer) (m : ByteBus) : Prop where
  devices : b.i2cDevices = devices
  mem : b.chips.cmosram = m.mem
  reg : b.chips.pcf.regAddress = m.reg
  spdReg : b.chips.spdRegAddress = m.spdReg
  stores : b.chips.stores = m.stores
  line : scl = false → ∀ fr ∈ g, b.i2cdata = m.drives fr.clocks
  place : Place scl b g m.phase

section Released

variable {m : ByteBus}

lemma bitAt_ones (k : Nat) : bitAt 0xff k = true := by
  have hones : (0xff : UInt8).toNat = 2 ^ 8 - 1 := rfl
  rw [bitAt, hones, Nat.testBit_two_pow_sub_one, decide_eq_true]
  omega

lemma drives_of_answer {k : Nat} (h : m.answer = 0xff) (hk : k < 8) : m.drives k = true := by
  rw [ByteBus.drives, if_pos hk, h, bitAt_ones]

lemma drives_free (h : m.phase = .free) (k : Nat) : m.drives k = true := by
  unfold ByteBus.drives
  split_ifs
  · simp [ByteBus.answer, h, bitAt_ones]
  · simp [ByteBus.answerAck, h]

end Released

lemma Takes.answer {m : ByteBus} {pcfState : PcfState} {slave : Slave} (h : Takes pcfState slave m.phase) :
    m.answer = 0xff ∧ m.answerAck = false := by
  generalize hphase : m.phase = phase at h
  cases h <;> simp [ByteBus.answer, ByteBus.answerAck, hphase]

lemma Place.bitcount {scl : Bool} {b : Bus} {g : Framer} {phase : Phase} (h : Place scl b g phase) :
    0 ≤ b.serdes.bitcount ∧ b.serdes.bitcount ≤ 8 := by
  cases h <;> omega

section Steps

variable {devices : UInt32} {b : Bus} {g : Framer} {m : ByteBus}

lemma event_opened (devices : UInt32) (now : Tm) (h : ∀ slave out, m.phase ≠ .sending slave out) :
    m.event devices now .opened = m := by
  simp only [ByteBus.event]

lemma Shows.fall_kept (h : Shows devices true b g m) (now : Tm) {b' : Bus} (hdevices : b'.i2cDevices = b.i2cDevices)
    (hchips : b'.chips = b.chips) (hphase : ∀ slave out, m.phase ≠ .sending slave out)
    (hline : ∀ fr ∈ g, b'.i2cdata = m.drives fr.clocks) (hplace : Place false b' g m.phase) :
    Shows devices false b' (g.next .fall).1 (m.after devices now (g.next .fall).2) := by
  have hsame : m.after devices now (g.next .fall).2 = m := by
    cases g with
    | none => rfl
    | some fr =>
      simp only [Framer.next]
      split_ifs
      · exact event_opened devices now hphase
      · rfl
  have hg : (g.next .fall).1 = g := by cases g <;> rfl
  rw [hsame, hg]
  exact ⟨hdevices.trans h.devices, hchips ▸ h.mem, hchips ▸ h.reg, hchips ▸ h.spdReg, hchips ▸ h.stores,
    fun _ => hline, hplace⟩

lemma shows_bitOut {fr : Frame} {slave : Slave} {out : UInt8} (hdevices : b.i2cDevices = devices)
    (hmem : b.chips.cmosram = m.mem) (hreg : b.chips.pcf.regAddress = m.reg)
    (hspdReg : b.chips.spdRegAddress = m.spdReg) (hstores : b.chips.stores = m.stores)
    (hstate : b.serdes.state = .read) (hlt : fr.clocks < 8) (hcount : b.serdes.bitcount = 8 - fr.clocks)
    (hslave : b.serdes.activeSlave = some slave) (hphase : m.phase = .sending slave out)
    (hout : b.serdes.outbuf = out) : Shows devices false b.bitOut (some fr) m := by
  rw [Bus.bitOut, if_pos (by omega)]
  refine ⟨hdevices, hmem, hreg, hspdReg, hstores, ?_, ?_⟩
  · rintro - fr' ⟨⟩
    have hbit : (b.serdes.bitcount - 1).toNat = 7 - fr.clocks := by omega
    rw [ByteBus.drives, if_pos hlt, ByteBus.answer, hphase]
    simp only [Bus.lines, bitAt, hout, hbit]
  · refine .readLow fr slave out rfl hstate rfl hlt ?_ hslave hphase hout
    simp only [Bus.lines]
    omega

lemma Shows.fall_read (h : Shows devices true b g m) (now : Tm) {fr : Frame} {slave : Slave} {out : UInt8}
    (hstate : b.serdes.state = .read) (hg : g = some fr) (hlt : fr.clocks < 8)
    (hcount : b.serdes.bitcount = 8 - fr.clocks) (hslave : b.serdes.activeSlave = some slave)
    (hphase : m.phase = .sending slave out) (hout : 0 < fr.clocks → b.serdes.outbuf = out) :
    ∃ b', b.fetched now = .ok b' ∧
      Shows devices false b'.bitOut (g.next .fall).1 (m.after devices now (g.next .fall).2) := by
  subst hg
  by_cases hfirst : fr.clocks = 0
  · have hopened : m.after devices now (Framer.next (some fr) .fall).2 = m.fetch now slave := by
      simp [Framer.next, hfirst, ByteBus.after, ByteBus.event, hphase]
    rw [hopened, Bus.fetched, if_pos (by omega), hslave]
    refine ⟨_, rfl, ?_⟩
    cases slave with
    | pcf8583 =>
      have hphase' : (m.fetch now .pcf8583).phase = .sending .pcf8583 (Slave.pcf8583.read b.chips now).1 := by
        simp [ByteBus.fetch, Slave.read, pcf8583Read, h.mem, h.reg]
      refine shows_bitOut h.devices ?_ ?_ h.spdReg h.stores hstate hlt hcount hslave hphase' rfl
      · simp [pcf8583Read, ByteBus.fetch, h.mem, h.reg]
      · simp [pcf8583Read, ByteBus.fetch, h.reg]
    | spd =>
      have hphase' : (m.fetch now .spd).phase = .sending .spd (Slave.spd.read b.chips now).1 := by
        simp [ByteBus.fetch, Slave.read, spdRead, h.spdReg]
      refine shows_bitOut h.devices h.mem h.reg ?_ h.stores hstate hlt hcount hslave hphase' rfl
      simp [spdRead, ByteBus.fetch, h.spdReg]
  · have hkept : m.after devices now (Framer.next (some fr) .fall).2 = m := by
      simp [Framer.next, hfirst, ByteBus.after]
    rw [hkept, Bus.fetched, if_neg (by omega)]
    exact ⟨b, rfl, shows_bitOut h.devices h.mem h.reg h.spdReg h.stores hstate hlt hcount hslave hphase
      (hout (by omega))⟩

/-- **The clock falls.** -/
lemma Shows.fall (h : Shows devices true b g m) (now : Tm) (sda : Bool) :
    ∃ b', b.clock now .fell sda = .ok b' ∧
      Shows devices false b' (g.next .fall).1 (m.after devices now (g.next .fall).2) := by
  cases h.place with
  | idle hstate hcount hline hphase =>
    refine ⟨b.lines true, by simp only [Bus.clock, hstate], h.fall_kept now rfl rfl (by simp [hphase]) ?_ ?_⟩
    · exact fun fr _ => (drives_free hphase _).symm
    · exact .idle hstate hcount rfl hphase
  | addr fr hstate hg hlt hcount hin hphase =>
    refine ⟨b.lines true, by simp only [Bus.clock, hstate], h.fall_kept now rfl rfl (by simp [hphase]) ?_ ?_⟩
    · rintro fr' hfr'
      cases hg.symm.trans hfr'
      exact (drives_of_answer (by simp [ByteBus.answer, hphase]) hlt).symm
    · exact .addr fr hstate hg hlt hcount hin hphase
  | ackReadAddr fr slave hstate hg hclocks hcount hslave hphase =>
    refine ⟨b.lines false, by simp only [Bus.clock, hstate], h.fall_kept now rfl rfl (by simp [hphase]) ?_ ?_⟩
    · rintro fr' hfr'
      cases hg.symm.trans hfr'
      simp [Bus.lines, ByteBus.drives, hclocks, ByteBus.answerAck, hphase]
    · exact .ackReadAddr fr slave hstate hg hclocks hcount hslave hphase
  | ackAddr fr slave hstate hg hclocks hcount hslave hphase hpcf =>
    refine ⟨b.lines false, by simp only [Bus.clock, hstate], h.fall_kept now rfl rfl (by simp [hphase]) ?_ ?_⟩
    · rintro fr' hfr'
      cases hg.symm.trans hfr'
      simp [Bus.lines, ByteBus.drives, hclocks, ByteBus.answerAck, hphase]
    · exact .ackAddr fr slave hstate hg hclocks hcount hslave hphase hpcf
  | ackWrite fr slave hstate hg hclocks hcount hslave htakes =>
    refine ⟨b.lines false, by simp only [Bus.clock, hstate], h.fall_kept now rfl rfl ?_ ?_ ?_⟩
    · intro slave' out hphase
      rw [hphase] at htakes
      cases htakes
    · rintro fr' hfr'
      cases hg.symm.trans hfr'
      simp [Bus.lines, ByteBus.drives, hclocks, htakes.answer]
    · exact .ackWrite fr slave hstate hg hclocks hcount hslave htakes
  | write fr slave hstate hg hlt hcount hin hslave htakes =>
    refine ⟨b.lines true, by simp only [Bus.clock, hstate], h.fall_kept now rfl rfl ?_ ?_ ?_⟩
    · intro slave' out hphase
      rw [hphase] at htakes
      cases htakes
    · rintro fr' hfr'
      cases hg.symm.trans hfr'
      exact (drives_of_answer htakes.answer.1 hlt).symm
    · exact .write fr slave hstate hg hlt hcount hin hslave htakes
  | readHigh fr slave out hscl hstate hg hlt hcount hslave hphase hout =>
    obtain ⟨b', hfetched, hshows⟩ := h.fall_read now hstate hg hlt hcount hslave hphase hout
    exact ⟨b'.bitOut, by simp only [Bus.clock, hstate, hfetched]; rfl, hshows⟩
  | readLow fr slave out hscl => cases hscl
  | ackRead fr slave out hstate hg hclocks hcount hslave hphase =>
    subst hg
    refine ⟨b.lines true, by simp only [Bus.clock, hstate], ?_⟩
    simp only [Framer.next, hclocks]
    refine ⟨h.devices, h.mem, h.reg, h.spdReg, h.stores, ?_, ?_⟩
    · rintro - fr' ⟨⟩
      simp [Bus.lines, ByteBus.after, ByteBus.drives, hclocks, ByteBus.answerAck, hphase]
    · exact .ackRead fr slave out hstate rfl hclocks hcount hslave hphase
  | wait hstate hcount hline hphase =>
    refine ⟨b, by simp only [Bus.clock, hstate], h.fall_kept now rfl rfl (by simp [hphase]) ?_ ?_⟩
    · exact fun fr _ => hline.trans (drives_free hphase _).symm
    · exact .wait hstate hcount hline hphase

lemma after_rise_free (devices : UInt32) (g : Framer) (now : Tm) (sda : Bool) (h : m.phase = .free) :
    m.after devices now (g.next (.rise sda)).2 = m := by
  cases g with
  | none => rfl
  | some fr =>
    simp only [Framer.next, Frame.clock]
    split_ifs <;> simp [ByteBus.after, ByteBus.event, ByteBus.take, ByteBus.acknowledged, h]

lemma clock_lt {fr : Frame} (h : fr.clocks < 7) (sda : Bool) :
    fr.clock sda = (⟨fr.clocks + 1, shiftIn fr.byte sda⟩, none) := by
  rw [Frame.clock, if_pos h]

lemma clock_seven {fr : Frame} (h : fr.clocks = 7) (sda : Bool) :
    fr.clock sda = (⟨8, shiftIn fr.byte sda⟩, some (.byte (shiftIn fr.byte sda))) := by
  simp [Frame.clock, h]

lemma clock_eight {fr : Frame} (h : fr.clocks = 8) (sda : Bool) : fr.clock sda = (.empty, some (.ack sda)) := by
  simp [Frame.clock, h]

lemma Shows.addressed (h : Shows devices false b g m) {fr : Frame} (now : Tm) (sda : Bool)
    (hg : g = some fr) (hseven : fr.clocks = 7) (hcount : b.serdes.bitcount = fr.clocks)
    (hin : b.serdes.inbuf = fr.byte) (hphase : m.phase = .address) :
    (b.bitIn sda).addressed.i2cdata = true ∧
      Shows devices true (b.bitIn sda).addressed (g.next (.rise sda)).1 (m.after devices now (g.next (.rise sda)).2) := by
  subst hg
  simp only [Framer.next, clock_seven hseven, ByteBus.after, Option.elim_some, ByteBus.event, ByteBus.take, hphase]
  cases hslave : slaveAt devices (shiftIn fr.byte sda >>> 1) with
  | none =>
    simp only [Bus.addressed, Bus.bitIn, h.devices, hin, hslave]
    exact ⟨rfl, rfl, h.mem, h.reg, h.spdReg, h.stores, by simp, .idle rfl rfl rfl rfl⟩
  | some slave =>
    have hcount8 : b.serdes.bitcount + 1 = 8 := by omega
    cases hreading : shiftIn fr.byte sda &&& 1 != 0 with
    | true =>
      have hread : shiftIn fr.byte sda &&& 1 ≠ 0 := by simpa using hreading
      cases slave <;>
        · simp only [Bus.addressed, Bus.bitIn, h.devices, hin, hslave, Slave.start, pcf8583Start, if_pos hread]
          refine ⟨rfl, rfl, h.mem, h.reg, h.spdReg, h.stores, by simp, ?_⟩
          exact .ackReadAddr _ _ rfl rfl rfl hcount8 rfl rfl
    | false =>
      have hwrite : ¬shiftIn fr.byte sda &&& 1 ≠ 0 := by simpa using hreading
      cases slave <;>
        · simp only [Bus.addressed, Bus.bitIn, h.devices, hin, hslave, Slave.start, pcf8583Start, if_neg hwrite]
          refine ⟨rfl, rfl, h.mem, h.reg, h.spdReg, h.stores, by simp, ?_⟩
          exact .ackAddr _ _ rfl rfl rfl hcount8 rfl rfl (by simp [Bus.lines])

lemma Shows.written (h : Shows devices false b g m) {fr : Frame} {slave : Slave} (now : Tm) (sda : Bool)
    (hg : g = some fr) (hseven : fr.clocks = 7) (hcount : b.serdes.bitcount = fr.clocks)
    (hin : b.serdes.inbuf = fr.byte) (hslave : b.serdes.activeSlave = some slave)
    (htakes : Takes b.chips.pcf.state slave m.phase) :
    ∃ b', (b.bitIn sda).written = .ok b' ∧ b'.i2cdata = b.i2cdata ∧
      Shows devices true b' (g.next (.rise sda)).1 (m.after devices now (g.next (.rise sda)).2) := by
  subst hg
  have hcount8 : b.serdes.bitcount + 1 = 8 := by omega
  simp only [Framer.next, clock_seven hseven, ByteBus.after, Option.elim_some, ByteBus.event]
  simp only [Bus.written, Bus.bitIn, hslave, hin]
  generalize hphase : m.phase = phase at htakes
  cases htakes with
  | register hpcf =>
    simp only [Slave.write, pcf8583Write, hpcf, ByteBus.take, hphase]
    refine ⟨_, rfl, rfl, h.devices, h.mem, rfl, h.spdReg, h.stores, by simp, ?_⟩
    exact .ackWrite _ .pcf8583 rfl rfl rfl hcount8 rfl (.data rfl)
  | data hpcf =>
    simp only [Slave.write, pcf8583Write, hpcf, ByteBus.take, hphase]
    refine ⟨_, rfl, rfl, h.devices, ?_, ?_, h.spdReg, ?_, by simp, ?_⟩
    · simp [h.mem, h.reg]
    · simp [h.reg]
    · simp [h.stores, h.reg]
    · exact .ackWrite _ .pcf8583 rfl rfl rfl hcount8 rfl (.data rfl)
  | pointer =>
    simp only [Slave.write, spdWrite, ByteBus.take, hphase]
    refine ⟨_, rfl, rfl, h.devices, h.mem, h.reg, rfl, h.stores, by simp, ?_⟩
    exact .ackWrite _ .spd rfl rfl rfl hcount8 rfl .pointer

/-- **The clock rises.** -/
lemma Shows.rise (h : Shows devices false b g m) (now : Tm) (sda : Bool) :
    ∃ b', b.clock now .rose sda = .ok b' ∧ b'.i2cdata = b.i2cdata ∧
      Shows devices true b' (g.next (.rise sda)).1 (m.after devices now (g.next (.rise sda)).2) := by
  cases h.place with
  | idle hstate hcount hline hphase =>
    refine ⟨b.lines true, by simp only [Bus.clock, hstate], hline.symm, ?_⟩
    rw [after_rise_free devices g now sda hphase]
    exact ⟨h.devices, h.mem, h.reg, h.spdReg, h.stores, by simp, .idle hstate hcount rfl hphase⟩
  | wait hstate hcount hline hphase =>
    refine ⟨b, by simp only [Bus.clock, hstate], rfl, ?_⟩
    rw [after_rise_free devices g now sda hphase]
    exact ⟨h.devices, h.mem, h.reg, h.spdReg, h.stores, by simp, .wait hstate hcount hline hphase⟩
  | addr fr hstate hg hlt hcount hin hphase =>
    by_cases hseven : fr.clocks = 7
    · have hhigh : b.i2cdata = true := by
        rw [h.line rfl fr hg, drives_of_answer (by simp [ByteBus.answer, hphase]) hlt]
      have hcount8 : (b.bitIn sda).serdes.bitcount = 8 := by simp only [Bus.bitIn]; omega
      obtain ⟨hdata, hshows⟩ := h.addressed now sda hg hseven hcount hin hphase
      exact ⟨_, by simp only [Bus.clock, hstate, hcount8, if_true], hdata.trans hhigh.symm, hshows⟩
    · have hcount8 : (b.bitIn sda).serdes.bitcount ≠ 8 := by simp only [Bus.bitIn]; omega
      refine ⟨b.bitIn sda, by simp only [Bus.clock, hstate, hcount8, if_false], rfl, ?_⟩
      subst hg
      simp only [Framer.next, clock_lt (show fr.clocks < 7 by omega)]
      refine ⟨h.devices, h.mem, h.reg, h.spdReg, h.stores, by simp, ?_⟩
      exact .addr ⟨fr.clocks + 1, shiftIn fr.byte sda⟩ hstate rfl (by simp; omega) (by simp [Bus.bitIn, hcount])
        (by simp [Bus.bitIn, hin]) hphase
  | ackReadAddr fr slave hstate hg hclocks hcount hslave hphase =>
    subst hg
    refine ⟨{ b with serdes.state := .read, serdes.bitcount := 8 }, by simp only [Bus.clock, hstate], rfl, ?_⟩
    simp only [Framer.next, clock_eight hclocks, ByteBus.after, Option.elim_some, ByteBus.event,
      ByteBus.acknowledged, hphase]
    refine ⟨h.devices, h.mem, h.reg, h.spdReg, h.stores, by simp, ?_⟩
    exact .readHigh .empty slave 0xff rfl rfl rfl (by decide) rfl hslave rfl (by simp [Frame.empty])
  | ackAddr fr slave hstate hg hclocks hcount hslave hphase hpcf =>
    subst hg
    refine ⟨{ b with serdes.state := .write, serdes.bitcount := 0, serdes.inbuf := 0 }, by simp only [Bus.clock, hstate],
      rfl, ?_⟩
    simp only [Framer.next, clock_eight hclocks, ByteBus.after, Option.elim_some, ByteBus.event,
      ByteBus.acknowledged, hphase]
    cases slave with
    | pcf8583 =>
      refine ⟨h.devices, h.mem, h.reg, h.spdReg, h.stores, by simp, ?_⟩
      exact .write .empty .pcf8583 rfl rfl (by decide) rfl rfl hslave (.register (hpcf rfl))
    | spd =>
      refine ⟨h.devices, h.mem, h.reg, h.spdReg, h.stores, by simp, ?_⟩
      exact .write .empty .spd rfl rfl (by decide) rfl rfl hslave .pointer
  | ackWrite fr slave hstate hg hclocks hcount hslave htakes =>
    subst hg
    have hsame : m.acknowledged sda = m := by
      generalize hphase : m.phase = phase at htakes
      cases htakes <;> simp [ByteBus.acknowledged, hphase]
    refine ⟨{ b with serdes.state := .write, serdes.bitcount := 0, serdes.inbuf := 0 }, by simp only [Bus.clock, hstate],
      rfl, ?_⟩
    simp only [Framer.next, clock_eight hclocks, ByteBus.after, Option.elim_some, ByteBus.event, hsame]
    refine ⟨h.devices, h.mem, h.reg, h.spdReg, h.stores, by simp, ?_⟩
    exact .write .empty slave rfl rfl (by decide) rfl rfl hslave htakes
  | write fr slave hstate hg hlt hcount hin hslave htakes =>
    by_cases hseven : fr.clocks = 7
    · have hcount8 : (b.bitIn sda).serdes.bitcount = 8 := by simp only [Bus.bitIn]; omega
      obtain ⟨b', hwritten, hshows⟩ := h.written now sda hg hseven hcount hin hslave htakes
      exact ⟨b', by simp only [Bus.clock, hstate, hcount8, if_true, hwritten], hshows⟩
    · have hcount8 : (b.bitIn sda).serdes.bitcount ≠ 8 := by simp only [Bus.bitIn]; omega
      refine ⟨b.bitIn sda, by simp only [Bus.clock, hstate, hcount8, if_false], rfl, ?_⟩
      subst hg
      simp only [Framer.next, clock_lt (show fr.clocks < 7 by omega)]
      refine ⟨h.devices, h.mem, h.reg, h.spdReg, h.stores, by simp, ?_⟩
      exact .write ⟨fr.clocks + 1, shiftIn fr.byte sda⟩ slave hstate rfl (by simp; omega)
        (by simp [Bus.bitIn, hcount]) (by simp [Bus.bitIn, hin]) hslave htakes
  | readHigh fr slave out hscl => cases hscl
  | readLow fr slave out hscl hstate hg hlt hcount hslave hphase hout =>
    subst hg
    by_cases hseven : fr.clocks = 7
    · have hcount0 : b.serdes.bitcount = 0 := by omega
      refine ⟨{ b with serdes.state := .ackRead }, by simp only [Bus.clock, hstate, hcount0, if_true], rfl, ?_⟩
      simp only [Framer.next, clock_seven hseven, ByteBus.after, Option.elim_some, ByteBus.event, ByteBus.take, hphase]
      refine ⟨h.devices, h.mem, h.reg, h.spdReg, h.stores, by simp, ?_⟩
      exact .ackRead _ slave out rfl rfl rfl hcount0 hslave hphase
    · have hcount0 : b.serdes.bitcount ≠ 0 := by omega
      refine ⟨b, by simp only [Bus.clock, hstate, hcount0, if_false], rfl, ?_⟩
      simp only [Framer.next, clock_lt (show fr.clocks < 7 by omega)]
      refine ⟨h.devices, h.mem, h.reg, h.spdReg, h.stores, by simp, ?_⟩
      exact .readHigh _ slave out rfl hstate rfl (by simp; omega) (by simp; omega) hslave hphase fun _ => hout
  | ackRead fr slave out hstate hg hclocks hcount hslave hphase =>
    have hhigh : b.i2cdata = true := by
      rw [h.line rfl fr hg]
      simp [ByteBus.drives, hclocks, ByteBus.answerAck, hphase]
    subst hg
    cases sda with
    | true =>
      refine ⟨{ b with serdes.state := .wait }, by simp [Bus.clock, hstate, hslave], rfl, ?_⟩
      simp only [Framer.next, clock_eight hclocks, ByteBus.after, Option.elim_some, ByteBus.event,
        ByteBus.acknowledged, hphase, if_true]
      exact ⟨h.devices, h.mem, h.reg, h.spdReg, h.stores, by simp, .wait rfl hcount hhigh rfl⟩
    | false =>
      refine ⟨{ b with serdes.state := .read, serdes.bitcount := 8 }, by simp [Bus.clock, hstate, hslave], rfl, ?_⟩
      simp only [Framer.next, clock_eight hclocks, ByteBus.after, Option.elim_some, ByteBus.event,
        ByteBus.acknowledged, hphase, Bool.false_eq_true, if_false]
      refine ⟨h.devices, h.mem, h.reg, h.spdReg, h.stores, by simp, ?_⟩
      exact .readHigh .empty slave out rfl rfl rfl (by decide) rfl hslave rfl (by simp [Frame.empty])

/-- **The clock stays.** -/
lemma Shows.quiet {scl : Bool} (h : Shows devices scl b g m) (now : Tm) (sda : Bool) :
    ∃ b', b.clock now .none sda = .ok b' ∧ b'.i2cdata = b.i2cdata ∧ Shows devices scl b' g m := by
  by_cases hidle : b.serdes.state = .idle
  · cases h.place with
    | idle hstate hcount hline hphase =>
      refine ⟨b.lines true, by simp only [Bus.clock, hstate], hline.symm, h.devices, h.mem, h.reg, h.spdReg,
        h.stores, fun _ fr _ => (drives_free hphase _).symm, .idle hstate hcount rfl hphase⟩
    | _ => simp_all
  · refine ⟨b, ?_, rfl, h⟩
    unfold Bus.clock
    cases hstate : b.serdes.state <;> first | rfl | exact absurd hstate hidle

lemma Shows.start {scl : Bool} (h : Shows devices scl b g m) (now : Tm) (pins : Pins) (hscl : pins.scl = true) :
    Shows devices pins.scl ({ b.resetSerdes with serdes.state := .addr }.leave pins) (g.next .start).1
      (m.after devices now (g.next .start).2) := by
  refine ⟨h.devices, h.mem, h.reg, h.spdReg, h.stores, by simp [hscl], ?_⟩
  exact .addr .empty rfl (by cases g <;> rfl) (by decide) rfl rfl (by cases g <;> rfl)

lemma Shows.stop {scl : Bool} (h : Shows devices scl b g m) (now : Tm) (pins : Pins) (hscl : pins.scl = true)
    {c : Chips} (hmem : c.cmosram = m.mem) (hreg : c.pcf.regAddress = m.reg) (hspdReg : c.spdRegAddress = m.spdReg)
    (hstores : c.stores = m.stores) :
    Shows devices pins.scl ({ b with chips := c }.resetSerdes.leave pins) (g.next .stop).1
      (m.after devices now (g.next .stop).2) := by
  have hafter : m.after devices now (g.next .stop).2 = { m with phase := .free } := by cases g <;> rfl
  rw [hafter]
  exact ⟨h.devices, hmem, hreg, hspdReg, hstores, by simp [hscl], .idle rfl rfl rfl rfl⟩

lemma Shows.leave {scl : Bool} (h : Shows devices scl b g m) (pins : Pins) : Shows devices scl (b.leave pins) g m := by
  refine ⟨h.devices, h.mem, h.reg, h.spdReg, h.stores, h.line, ?_⟩
  cases h.place with
  | idle hstate hcount hline hphase => exact .idle hstate hcount hline hphase
  | addr fr hstate hg hlt hcount hin hphase => exact .addr fr hstate hg hlt hcount hin hphase
  | ackReadAddr fr slave hstate hg hclocks hcount hslave hphase =>
    exact .ackReadAddr fr slave hstate hg hclocks hcount hslave hphase
  | ackAddr fr slave hstate hg hclocks hcount hslave hphase hpcf =>
    exact .ackAddr fr slave hstate hg hclocks hcount hslave hphase hpcf
  | ackWrite fr slave hstate hg hclocks hcount hslave htakes =>
    exact .ackWrite fr slave hstate hg hclocks hcount hslave htakes
  | write fr slave hstate hg hlt hcount hin hslave htakes =>
    exact .write fr slave hstate hg hlt hcount hin hslave htakes
  | readHigh fr slave out hscl hstate hg hlt hcount hslave hphase hout =>
    exact .readHigh fr slave out hscl hstate hg hlt hcount hslave hphase hout
  | readLow fr slave out hscl hstate hg hlt hcount hslave hphase hout =>
    exact .readLow fr slave out hscl hstate hg hlt hcount hslave hphase hout
  | ackRead fr slave out hstate hg hclocks hcount hslave hphase =>
    exact .ackRead fr slave out hstate hg hclocks hcount hslave hphase
  | wait hstate hcount hline hphase => exact .wait hstate hcount hline hphase

/-- **One write of the lines.** -/
theorem shows_step (h : Shows devices b.serdes.oldpinstate.scl b g m) (now : Tm) (pins : Pins) :
    ∃ b', cmosi2cchange b now pins = .ok b' ∧ b'.serdes.oldpinstate = pins ∧
      (∀ sda, symbol b.serdes.oldpinstate pins = .rise sda → ∀ fr ∈ g, b'.i2cdata = m.drives fr.clocks) ∧
      Shows devices pins.scl b' (g.next (symbol b.serdes.oldpinstate pins)).1
        (m.after devices now (g.next (symbol b.serdes.oldpinstate pins)).2) := by
  obtain ⟨scl, sda⟩ := pins
  generalize hold : b.serdes.oldpinstate = old at h ⊢
  obtain ⟨oldscl, oldsda⟩ := old
  by_cases hstart : (scl && oldsda && !sda) = true
  · have hsym : symbol ⟨oldscl, oldsda⟩ ⟨scl, sda⟩ = .start := by simp only [symbol, hstart, if_true]
    have hscl : scl = true := by simp at hstart; exact hstart.1.1
    refine ⟨{ b.resetSerdes with serdes.state := .addr }.leave ⟨scl, sda⟩, ?_, rfl, by simp [hsym], ?_⟩
    · simp only [cmosi2cchange, hold, hstart, if_true]
    · rw [hsym]
      exact h.start now ⟨scl, sda⟩ hscl
  by_cases hstop : (scl && !oldsda && sda) = true
  · have hsym : symbol ⟨oldscl, oldsda⟩ ⟨scl, sda⟩ = .stop := by
      simp only [symbol, hstart, hstop, if_true, Bool.false_eq_true, if_false]
    have hscl : scl = true := by simp at hstop; exact hstop.1.1
    rw [hsym]
    simp only [cmosi2cchange, hold, hstart, hstop, if_true, Bool.false_eq_true, if_false]
    cases b.serdes.activeSlave with
    | none => exact ⟨_, rfl, rfl, by simp, h.stop now ⟨scl, sda⟩ hscl h.mem h.reg h.spdReg h.stores⟩
    | some slave =>
      refine ⟨_, rfl, rfl, by simp, ?_⟩
      cases slave <;> exact h.stop now ⟨scl, sda⟩ hscl h.mem h.reg h.spdReg h.stores
  have hchange : cmosi2cchange b now ⟨scl, sda⟩ =
      (b.clock now (edge oldscl scl) sda).map fun b => b.leave ⟨scl, sda⟩ := by
    simp only [cmosi2cchange, hold, hstart, hstop, Bool.false_eq_true, if_false]
    cases b.clock now (edge oldscl scl) sda <;> rfl
  have hsym : symbol ⟨oldscl, oldsda⟩ ⟨scl, sda⟩ =
      if !oldscl && scl then .rise sda else if oldscl && !scl then .fall else .quiet := by
    simp only [symbol, hstart, hstop, Bool.false_eq_true, if_false]
  rw [hchange, hsym]
  cases oldscl with
  | false =>
    cases scl with
    | true =>
      obtain ⟨b', hclock, hdata, hshows⟩ := h.rise now sda
      refine ⟨b'.leave ⟨true, sda⟩, by rw [edge]; simp [hclock, Except.map], rfl, ?_, hshows.leave _⟩
      rintro - - fr hfr
      exact hdata.trans (h.line rfl fr hfr)
    | false =>
      obtain ⟨b', hclock, hdata, hshows⟩ := h.quiet now sda
      refine ⟨b'.leave ⟨false, sda⟩, by rw [edge]; simp [hclock, Except.map], rfl, by simp, ?_⟩
      cases g <;> exact hshows.leave _
  | true =>
    cases scl with
    | true =>
      obtain ⟨b', hclock, hdata, hshows⟩ := h.quiet now sda
      refine ⟨b'.leave ⟨true, sda⟩, by rw [edge]; simp [hclock, Except.map], rfl, by simp, ?_⟩
      cases g <;> exact hshows.leave _
    | false =>
      obtain ⟨b', hclock, hshows⟩ := h.fall now sda
      exact ⟨b'.leave ⟨false, sda⟩, by rw [edge]; simp [hclock, Except.map], rfl, by simp, hshows.leave _⟩

end Steps

def ByteBus.ofChips (c : Chips) : ByteBus where
  phase := .free
  mem := c.cmosram
  reg := c.pcf.regAddress
  spdReg := c.spdRegAddress
  stores := c.stores

lemma shows_reset (b : Bus) (devices : UInt32) (scl : Bool) :
    Shows devices scl (reseti2c b devices) none (.ofChips (reseti2c b devices).chips) :=
  ⟨rfl, rfl, rfl, rfl, rfl, by simp, .idle rfl rfl rfl rfl⟩

theorem shows_run {devices : UInt32} {b : Bus} {f g : Framer} {m : ByteBus} (ws : List (Pins × Tm))
    (h : Shows devices b.serdes.oldpinstate.scl b g m) (hhears : Hears f g m) :
    ∃ b' g', clockOut b f ws = .ok (b', (m.run devices (framed b.serdes.oldpinstate g ws)).2) ∧
      Shows devices b'.serdes.oldpinstate.scl b' g' (m.run devices (framed b.serdes.oldpinstate g ws)).1 := by
  induction ws generalizing b f g m with
  | nil => exact ⟨b, g, rfl, h⟩
  | cons w ws ih =>
    obtain ⟨pins, now⟩ := w
    obtain ⟨b', hchange, hpins, hline, hshows⟩ := shows_step h now pins
    obtain ⟨hhears', hheard⟩ := hhears.next devices now fun fr hfr sda hrise => hline sda hrise fr hfr
    obtain ⟨b'', g'', hrun, hshows'⟩ := ih (by rwa [hpins]) hhears'
    rw [hpins] at hrun hshows'
    refine ⟨b'', g'', ?_, ?_⟩
    · rw [clockOut, hchange]
      simp only [bind, Except.bind, hrun, hheard, framed]
      cases (g.next (symbol b.serdes.oldpinstate pins)).2 <;> rfl
    · rw [framed]
      revert hshows'
      cases (g.next (symbol b.serdes.oldpinstate pins)).2 <;> exact id

/-- **Whatever the guest does with the lines**, what comes of it is what the chips make of the bytes: the guest
hears their answers, the memory holds what they have stored, no device is missing where one is needed, and the
count of bits is never more than eight. -/
theorem bus_is_byte_protocol (b : Bus) (devices : UInt32) (ws : List (Pins × Tm)) :
    let m := ByteBus.ofChips (reseti2c b devices).chips
    let spoken := m.run devices (framed b.serdes.oldpinstate none ws)
    ∃ b', clockOut (reseti2c b devices) none ws = .ok (b', spoken.2) ∧ b'.chips.cmosram = spoken.1.mem ∧
      b'.chips.stores = spoken.1.stores ∧ 0 ≤ b'.serdes.bitcount ∧ b'.serdes.bitcount ≤ 8 := by
  intro m spoken
  have hhears : Hears none none m := ⟨rfl, by simp⟩
  obtain ⟨b', g', hrun, hshows⟩ := shows_run (b := reseti2c b devices) ws (shows_reset b devices _) hhears
  exact ⟨b', hrun, hshows.mem, hshows.stores, hshows.place.bitcount.1, hshows.place.bitcount.2⟩

end RpcEmu.Cmos
