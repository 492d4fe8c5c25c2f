import RpcEmu.Iomd.Interrupts
import RpcEmu.Lib.ByteMasks
import Mathlib.Data.Fintype.Basic

/-!
# The interrupt of the serial port

The two UARTs of `superio.c`.  COM1 reaches the ARM through bit 2 of IRQB: four sources, each with its bit of
the IER, and all of them behind OUT2.  Nothing keeps the bit up to date; every place that changes a source has
to call `uart_update_irq`, which works out again what `uart_update_iir` works out for the guest, in another order.

**`Coherent`**: the bit is set when OUT2 is and the IIR would name a source.  `Coherent.put_updateIrq` is why
any place that calls the function keeps it, and `Coherent.put` why one that leaves the sources alone does.

The baud rate, the transmit FIFO, which is only ever emptied, and the log are not in the model.
-/

namespace RpcEmu.Superio

open Iomd ByteMasks

/-! ## The registers -/

/-- `SerialPortID`. -/
inductive SerialPortId where
  | com1 | com2
  deriving DecidableEq, Repr

/-- The eight registers, by what they are to a reader; a write of `rbr` is of the THR, one of `iir` of the FCR. -/
inductive UartReg where
  | rbr | ier | iir | lcr | mcr | lsr | msr | scr
  deriving DecidableEq, Repr

/-- `UART`. -/
structure Uart where
  rbr : UInt8
  ier : UInt8
  iir : UInt8
  fcr : UInt8
  lcr : UInt8
  mcr : UInt8
  lsr : UInt8
  msr : UInt8
  scr : UInt8
  dll : UInt8
  dlm : UInt8
  rxFifo : Fin 16 → UInt8
  rxHead : Fin 16
  rxTail : Fin 16
  rxCount : Nat
  fifoEnabled : Bool
  threIntPending : Bool

def lcrDlab : UInt8 := 0x80
def lsrDr : UInt8 := 0x01
def lsrOe : UInt8 := 0x02
def lsrPe : UInt8 := 0x04
def lsrFe : UInt8 := 0x08
def lsrBi : UInt8 := 0x10
def lsrThre : UInt8 := 0x20
def lsrTemt : UInt8 := 0x40
def iirNoInt : UInt8 := 0x01
def iirRls : UInt8 := 0x06
def iirRda : UInt8 := 0x04
def iirThre : UInt8 := 0x02
def iirModem : UInt8 := 0x00
def iirFifoEn : UInt8 := 0xC0

local instance fifo_ne_zero : NeZero 16 := ⟨by decide⟩

/-- `uart_reset`. -/
def uartReset : Uart where
  rbr := 0
  ier := 0
  iir := iirNoInt
  fcr := 0
  lcr := 0
  mcr := 0
  lsr := lsrThre ||| lsrTemt
  msr := 0
  scr := 0
  dll := 12
  dlm := 0
  rxFifo := fun _ => 0
  rxHead := 0
  rxTail := 0
  rxCount := 0
  fifoEnabled := false
  threIntPending := false

inductive Source where
  | lineStatus | receivedData | modemStatus | thrEmpty
  deriving DecidableEq, Repr

instance : Fintype Source where
  elems := {.lineStatus, .receivedData, .modemStatus, .thrEmpty}
  complete := by intro source; cases source <;> decide

def Uart.asks (u : Uart) : Source → Bool
  | .lineStatus => u.ier &&& 0x04 != 0 && u.lsr &&& (lsrOe ||| lsrPe ||| lsrFe ||| lsrBi) != 0
  | .receivedData => u.ier &&& 0x01 != 0 && u.lsr &&& lsrDr != 0
  | .modemStatus => u.ier &&& 0x08 != 0 && u.msr &&& 0x0F != 0
  | .thrEmpty => u.ier &&& 0x02 != 0 && u.threIntPending && u.lsr &&& lsrThre != 0

/-- `uart_update_iir`. -/
def uartUpdateIir (u : Uart) : Uart :=
  let iir :=
    if u.asks .lineStatus then iirRls
    else if u.asks .receivedData then iirRda
    else if u.asks .modemStatus then iirModem
    else if u.asks .thrEmpty then iirThre
    else iirNoInt
  { u with iir := if u.fifoEnabled then iir ||| iirFifoEn else iir }

/-- The `pending` of `uart_update_irq`. -/
def uartPending (u : Uart) : Bool :=
  let pending :=
    if u.asks .lineStatus then true
    else if u.asks .receivedData then true
    else if u.asks .thrEmpty then true
    else if u.asks .modemStatus then true
    else false
  if u.mcr &&& 0x08 = 0 then false else pending

/-- `com1` and `com2`, with the interrupt controller. -/
structure Ports where
  uart : SerialPortId → Uart
  iomd : IomdState

def Ports.put (p : Ports) (port : SerialPortId) (u : Uart) : Ports :=
  { p with uart := Function.update p.uart port u }

/-- `uart_update_irq`. -/
def uartUpdateIrq (p : Ports) (busPort : SerialPortId) : Ports :=
  if busPort ≠ .com1 then p
  else { p with iomd := com1IrqUpdate p.iomd (uartPending (p.uart busPort)) }

/-! ## What comes from outside -/

/-- `uart_rx_push`. -/
def uartRxPush (u : Uart) (data : UInt8) : Uart :=
  if 16 ≤ u.rxCount then { u with lsr := u.lsr ||| lsrOe }
  else { u with
    rxFifo := Function.update u.rxFifo u.rxHead data
    rxHead := u.rxHead + 1
    rxCount := u.rxCount + 1
    rbr := data
    lsr := u.lsr ||| lsrDr }

/-- The status lines with their deltas, as `superio_serial_update_msr` puts them in the MSR. -/
def uartModemLines (u : Uart) (status : UInt8) : Uart :=
  let delta := ((u.msr &&& 0xF0) ^^^ status) >>> 4
  { u with msr := (status &&& 0xF0) ||| (u.msr &&& 0x0F) ||| delta }

inductive Arrival where
  | serialRx (port : SerialPortId) (data : UInt8)
  | serialUpdateMsr (port : SerialPortId) (status : UInt8)

/-- `superio_serial_rx` and `superio_serial_update_msr`. -/
def arrive (p : Ports) : Arrival → Ports
  | .serialRx port data => uartUpdateIrq (p.put port (uartRxPush (p.uart port) data)) port
  | .serialUpdateMsr port status => uartUpdateIrq (p.put port (uartModemLines (p.uart port) status)) port

/-! ## What the guest writes and reads -/

def Uart.transmitted (u : Uart) : Uart :=
  { u with
    lsr := (u.lsr &&& ~~~lsrThre &&& ~~~lsrTemt) ||| (lsrThre ||| lsrTemt)
    threIntPending := if u.ier &&& 0x02 ≠ 0 then true else u.threIntPending }

def Uart.writeIer (u : Uart) (val : UInt8) : Uart :=
  let ier := val &&& 0x0F
  { u with
    ier
    threIntPending :=
      if ier &&& 0x02 = 0 then false
      else if u.ier &&& 0x02 = 0 ∧ u.lsr &&& lsrThre ≠ 0 then true
      else u.threIntPending }

def Uart.writeFcr (u : Uart) (val : UInt8) : Uart :=
  let u := { u with fcr := val, fifoEnabled := val &&& 0x01 != 0 }
  if val &&& 0x02 ≠ 0 then { u with rxHead := 0, rxTail := 0, rxCount := 0, lsr := u.lsr &&& ~~~lsrDr } else u

def Uart.loopback (u : Uart) (val : UInt8) : Uart :=
  if val &&& 0x10 ≠ 0 then
    { u with msr :=
        ((val &&& 0x01) <<< 4) ||| ((val &&& 0x02) <<< 3) ||| ((val &&& 0x04) <<< 4) ||| ((val &&& 0x08) <<< 4) }
  else u

/-- `uart_write`.  What the device does when it is given the byte, or the control lines, is `meanwhile`. -/
def uartWrite (p : Ports) (port : SerialPortId) (reg : UartReg) (val : UInt8) (meanwhile : List Arrival) : Ports :=
  let u := p.uart port
  match reg with
  | .rbr =>
    if u.lcr &&& lcrDlab ≠ 0 then p.put port { u with dll := val }
    else
      let p := meanwhile.foldl arrive p
      uartUpdateIrq (p.put port (p.uart port).transmitted) port
  | .ier =>
    if u.lcr &&& lcrDlab ≠ 0 then p.put port { u with dlm := val }
    else uartUpdateIrq (p.put port (u.writeIer val)) port
  | .iir => uartUpdateIrq (p.put port (u.writeFcr val)) port
  | .lcr => p.put port { u with lcr := val }
  | .mcr =>
    let p := meanwhile.foldl arrive (p.put port { u with mcr := val &&& 0x1F })
    uartUpdateIrq (p.put port ((p.uart port).loopback val)) port
  | .scr => p.put port { u with scr := val }
  | .lsr | .msr => p

def Uart.readRbr (u : Uart) : UInt8 × Uart :=
  if 0 < u.rxCount then
    (u.rxFifo u.rxTail,
      if 0 < u.rxCount - 1 then
        { u with rxTail := u.rxTail + 1, rxCount := u.rxCount - 1, rbr := u.rxFifo (u.rxTail + 1) }
      else { u with rxTail := u.rxTail + 1, rxCount := u.rxCount - 1, lsr := u.lsr &&& ~~~lsrDr })
  else (u.rbr, { u with lsr := u.lsr &&& ~~~lsrDr })

def Uart.readIir (u : Uart) : Uart :=
  let u := uartUpdateIir u
  if u.iir &&& 0x0E = iirThre then { u with threIntPending := false } else u

def Uart.readLsr (u : Uart) : Uart :=
  { u with lsr := u.lsr &&& ~~~(lsrOe ||| lsrPe ||| lsrFe ||| lsrBi) }

def Uart.readMsr (u : Uart) : Uart :=
  { u with msr := u.msr &&& 0xF0 }

/-- `uart_read`; the device, asked for its lines, says `status`. -/
def uartRead (p : Ports) (port : SerialPortId) (reg : UartReg) (status : UInt8) : UInt8 × Ports :=
  let u := p.uart port
  match reg with
  | .rbr =>
    if u.lcr &&& lcrDlab ≠ 0 then (u.dll, p)
    else (u.readRbr.1, uartUpdateIrq (p.put port u.readRbr.2) port)
  | .ier => (if u.lcr &&& lcrDlab ≠ 0 then u.dlm else u.ier, p)
  | .iir =>
    let p := p.put port u.readIir
    ((p.uart port).iir, if port = .com1 then uartUpdateIrq p port else p)
  | .lcr => (u.lcr, p)
  | .mcr => (u.mcr, p)
  | .lsr => (u.lsr, uartUpdateIrq (p.put port u.readLsr) port)
  | .msr => (if u.mcr &&& 0x10 ≠ 0 then u.msr else status, uartUpdateIrq (p.put port u.readMsr) port)
  | .scr => (u.scr, p)

inductive Event where
  | write (port : SerialPortId) (reg : UartReg) (val : UInt8) (meanwhile : List Arrival)
  | read (port : SerialPortId) (reg : UartReg) (status : UInt8)
  | arrival (a : Arrival)

def step (p : Ports) : Event → Ports
  | .write port reg val meanwhile => uartWrite p port reg val meanwhile
  | .read port reg status => (uartRead p port reg status).2
  | .arrival a => arrive p a

def reset (iomd : IomdState) (iomdType : IomdType) : Ports :=
  ⟨fun _ => uartReset, iomdReset iomd iomdType⟩

/-! ## The bit and the registers -/

/-- The serial interrupt is up at the IOMD. -/
def Raised (p : Ports) : Prop := p.iomd.irqb.status &&& irqbSerial ≠ 0

/-- The UART drives its line. -/
def Uart.Asserted (u : Uart) : Prop := u.mcr &&& 0x08 ≠ 0 ∧ (uartUpdateIir u).iir &&& iirNoInt = 0

/-- **The bit is what the registers say.** -/
def Coherent (p : Ports) : Prop := Raised p ↔ (p.uart .com1).Asserted

instance (p : Ports) : Decidable (Raised p) := inferInstanceAs (Decidable (_ ≠ _))

instance (u : Uart) : Decidable u.Asserted := inferInstanceAs (Decidable (_ ∧ _))

def Uart.asking (u : Uart) : Finset Source := Finset.univ.filter fun source => u.asks source = true

lemma iir_eq_zero_iff (u : Uart) :
    (uartUpdateIir u).iir &&& iirNoInt = 0 ↔ ∃ source, u.asks source = true := by
  constructor
  · intro h
    by_contra hnone
    simp only [not_exists, Bool.not_eq_true] at hnone
    simp only [uartUpdateIir, hnone, Bool.false_eq_true, if_false] at h
    cases hf : u.fifoEnabled <;> simp [hf] at h <;> exact absurd h (by decide)
  · rintro ⟨source, hs⟩
    simp only [uartUpdateIir]
    cases hf : u.fifoEnabled <;> cases source <;> simp only [hs] <;> split_ifs <;> rfl

lemma uartPending_iff (u : Uart) : uartPending u = true ↔ u.Asserted := by
  rw [Uart.Asserted, iir_eq_zero_iff, uartPending]
  constructor
  · intro h
    split_ifs at h with hout h1 h2 h3 h4
    exacts [⟨hout, _, h1⟩, ⟨hout, _, h2⟩, ⟨hout, _, h3⟩, ⟨hout, _, h4⟩]
  · rintro ⟨hout, source, hs⟩
    simp only [hout, if_false]
    cases source <;> simp [hs]

lemma raised_com1IrqUpdate (uart : SerialPortId → Uart) (s : IomdState) (pending : Bool) :
    Raised ⟨uart, com1IrqUpdate s pending⟩ ↔ pending = true := by
  cases pending with
  | false =>
    have hclear : s.irqb.status &&& ~~~irqbSerial &&& irqbSerial = 0 := by
      rw [UInt8.and_assoc, show ~~~irqbSerial &&& irqbSerial = 0 from rfl, UInt8.and_zero]
    simp [Raised, com1IrqUpdate, lower, updateirqs, clear, hclear]
  | true =>
    have hset : (s.irqb.status ||| irqbSerial) &&& irqbSerial = irqbSerial := by
      apply UInt8.toBitVec_inj.mp
      ext i _
      simp only [UInt8.toBitVec_and, UInt8.toBitVec_or, BitVec.getElem_and, BitVec.getElem_or]
      grind
    have hne : irqbSerial ≠ 0 := by decide
    simp [Raised, com1IrqUpdate, raise, updateirqs, Iomd.set, hset, hne]

@[simp] lemma uart_updateIrq (p : Ports) (port : SerialPortId) : (uartUpdateIrq p port).uart = p.uart := by
  unfold uartUpdateIrq
  split_ifs <;> rfl

@[simp] lemma uart_put (p : Ports) (port : SerialPortId) (u : Uart) : (p.put port u).uart port = u :=
  Function.update_self ..

lemma coherent_updateIrq (p : Ports) : Coherent (uartUpdateIrq p .com1) := by
  rw [Coherent, uart_updateIrq, ← uartPending_iff, uartUpdateIrq, if_neg (by simp)]
  exact raised_com1IrqUpdate ..

/-- **A place that calls the function keeps the bit right**, whatever it has done to its UART. -/
lemma Coherent.put_updateIrq {p : Ports} (h : Coherent p) (port : SerialPortId) (u : Uart) :
    Coherent (uartUpdateIrq (p.put port u) port) := by
  cases port with
  | com1 => exact coherent_updateIrq _
  | com2 => simpa [Coherent, Raised, uartUpdateIrq, Ports.put] using h

lemma Coherent.put {p : Ports} (h : Coherent p) (port : SerialPortId) {u : Uart}
    (hasks : u.asks = (p.uart port).asks) (hmcr : u.mcr = (p.uart port).mcr) : Coherent (p.put port u) := by
  cases port with
  | com1 =>
    rw [Coherent, uart_put, Uart.Asserted, iir_eq_zero_iff, hasks, hmcr, ← iir_eq_zero_iff]
    exact h
  | com2 => simpa [Coherent, Raised, Ports.put] using h

/-! ## What keeps it right -/

lemma Coherent.arrive {p : Ports} (h : Coherent p) (a : Arrival) : Coherent (arrive p a) := by
  cases a <;> exact h.put_updateIrq ..

lemma Coherent.arrivals {p : Ports} (h : Coherent p) (as : List Arrival) : Coherent (as.foldl Superio.arrive p) := by
  induction as generalizing p with
  | nil => exact h
  | cons a as ih => exact ih (h.arrive a)

lemma asks_congr {u u' : Uart} (hier : u'.ier = u.ier) (hlsr : u'.lsr = u.lsr) (hmsr : u'.msr = u.msr)
    (hthre : u'.threIntPending = u.threIntPending) : u'.asks = u.asks := by
  funext source
  cases source <;> simp [Uart.asks, hier, hlsr, hmsr, hthre]

lemma Coherent.uartWrite {p : Ports} (h : Coherent p) (port : SerialPortId) (reg : UartReg) (val : UInt8)
    (meanwhile : List Arrival) : Coherent (uartWrite p port reg val meanwhile) := by
  cases reg with
  | rbr =>
    simp only [Superio.uartWrite]
    split_ifs
    · exact h.put port (asks_congr rfl rfl rfl rfl) rfl
    · exact (h.arrivals meanwhile).put_updateIrq ..
  | ier =>
    simp only [Superio.uartWrite]
    split_ifs
    · exact h.put port (asks_congr rfl rfl rfl rfl) rfl
    · exact h.put_updateIrq ..
  | iir => exact h.put_updateIrq ..
  | lcr | scr => exact h.put port (asks_congr rfl rfl rfl rfl) rfl
  | mcr =>
    -- between the new OUT2 and the call for it the bit may be wrong: the call is what counts
    simp only [Superio.uartWrite]
    cases port with
    | com1 => exact coherent_updateIrq _
    | com2 =>
      have hput : Coherent (p.put .com2 { p.uart .com2 with mcr := val &&& 0x1F }) := by
        simpa [Coherent, Raised, Ports.put] using h
      exact (hput.arrivals meanwhile).put_updateIrq ..
  | lsr | msr => exact h

lemma uartRead_iir (p : Ports) (status : UInt8) :
    (uartRead p .com1 .iir status).2 = uartUpdateIrq (p.put .com1 (p.uart .com1).readIir) .com1 := rfl

lemma uartRead_lsr (p : Ports) (port : SerialPortId) (status : UInt8) :
    (uartRead p port .lsr status).2 = uartUpdateIrq (p.put port (p.uart port).readLsr) port := rfl

lemma uartRead_msr (p : Ports) (port : SerialPortId) (status : UInt8) :
    (uartRead p port .msr status).2 = uartUpdateIrq (p.put port (p.uart port).readMsr) port := rfl

lemma Coherent.uartRead {p : Ports} (h : Coherent p) (port : SerialPortId) (reg : UartReg) (status : UInt8) :
    Coherent (uartRead p port reg status).2 := by
  cases reg with
  | rbr =>
    simp only [Superio.uartRead]
    split_ifs
    · exact h
    · exact h.put_updateIrq ..
  | iir =>
    cases port with
    | com1 =>
      rw [uartRead_iir]
      exact h.put_updateIrq ..
    | com2 => simpa [Superio.uartRead, Coherent, Raised, Ports.put] using h
  | lsr =>
    rw [uartRead_lsr]
    exact h.put_updateIrq ..
  | msr =>
    rw [uartRead_msr]
    exact h.put_updateIrq ..
  | ier | lcr | mcr | scr => exact h

/-- **The step.** -/
theorem Coherent.step {p : Ports} (h : Coherent p) (e : Event) : Coherent (step p e) := by
  cases e with
  | write port reg val meanwhile => exact h.uartWrite ..
  | read port reg status => exact h.uartRead ..
  | arrival a => exact h.arrive a

lemma coherent_reset (iomd : IomdState) (iomdType : IomdType) : Coherent (reset iomd iomdType) := by
  have hclear : ¬Raised (reset iomd iomdType) := by simp [Raised, reset, iomdReset]
  have hno : ¬uartReset.Asserted := by decide
  exact iff_of_false hclear hno

/-- **The run.** -/
theorem coherent_exec (iomd : IomdState) (iomdType : IomdType) (es : List Event) :
    Coherent (Runs.exec step (reset iomd iomdType) es) :=
  Runs.exec_inv (C := fun _ _ => True) (fun _ e h _ => h.step e) es _ (coherent_reset iomd iomdType)
    (Runs.along_of_forall fun _ _ _ => trivial)

/-! ## The handler -/

def named (iir : UInt8) : Option Source :=
  if iir &&& iirNoInt ≠ 0 then none
  else if iir &&& 0x0E = iirRls then some .lineStatus
  else if iir &&& 0x0E = iirRda then some .receivedData
  else if iir &&& 0x0E = iirThre then some .thrEmpty
  else if iir &&& 0x0E = iirModem then some .modemStatus
  else none

/-- The handler has read until nothing was ready. -/
inductive Drained : Ports → Ports → Prop
  | last (p : Ports) (hclear : ((uartRead p .com1 .rbr 0).2.uart .com1).lsr &&& lsrDr = 0) :
      Drained p (uartRead p .com1 .rbr 0).2
  | more (p : Ports) (hready : ((uartRead p .com1 .rbr 0).2.uart .com1).lsr &&& lsrDr ≠ 0) {p' : Ports}
      (h : Drained (uartRead p .com1 .rbr 0).2 p') : Drained p p'

/-- What the handler does for each source. -/
inductive Served : Source → Ports → Ports → Prop
  | lineStatus (p : Ports) : Served .lineStatus p (uartRead p .com1 .lsr 0).2
  | receivedData {p p' : Ports} (h : Drained p p') : Served .receivedData p p'
  | modemStatus (p : Ports) (status : UInt8) : Served .modemStatus p (uartRead p .com1 .msr status).2
  | thrEmpty (p : Ports) : Served .thrEmpty p p

/-- One round of the handler: read the IIR, serve the source. -/
def Round (p p' : Ports) : Prop :=
  ∃ source, named (uartRead p .com1 .iir 0).1 = some source ∧ Served source (uartRead p .com1 .iir 0).2 p'

/-- Round after round, the bit is cleared: while it is set there is a round to be made, and whatever comes of it
settles. -/
inductive Settles : Ports → Prop
  | clear {p : Ports} (h : ¬Raised p) : Settles p
  | round {p : Ports} (hround : ∃ p', Round p p') (h : ∀ p', Round p p' → Settles p') : Settles p

/-- It asks for received data behind the divisor latch. -/
def Uart.Shut (u : Uart) : Prop := u.lcr &&& lcrDlab ≠ 0 ∧ u.asks .receivedData = true

/-! ## What a round takes away -/

@[simp] lemma mem_asking {u : Uart} {source : Source} : source ∈ u.asking ↔ u.asks source = true := by
  simp [Uart.asking]

def Uart.first (u : Uart) : Option Source :=
  if u.asks .lineStatus then some .lineStatus
  else if u.asks .receivedData then some .receivedData
  else if u.asks .modemStatus then some .modemStatus
  else if u.asks .thrEmpty then some .thrEmpty
  else none

lemma asks_of_first {u : Uart} {source : Source} (h : u.first = some source) : u.asks source = true := by
  unfold Uart.first at h
  split_ifs at h with h1 h2 h3 h4 <;> cases h <;> assumption

lemma exists_first {u : Uart} {source : Source} (h : u.asks source = true) : ∃ source, u.first = some source := by
  unfold Uart.first
  cases source <;> simp only [h] <;> split_ifs <;> exact ⟨_, rfl⟩

lemma named_updateIir (u : Uart) : named (uartUpdateIir u).iir = u.first := by
  unfold uartUpdateIir Uart.first
  cases u.fifoEnabled <;> simp only [] <;> split_ifs <;> rfl

lemma iir_readIir (u : Uart) : u.readIir.iir = (uartUpdateIir u).iir := by
  simp only [Uart.readIir]
  split_ifs <;> rfl

lemma named_readIir (p : Ports) : named (uartRead p .com1 .iir 0).1 = (p.uart .com1).first := by
  rw [← named_updateIir, ← iir_readIir]
  simp [uartRead]

/-- It asks for no more than it did. -/
structure Quieter (u u' : Uart) : Prop where
  lcr : u'.lcr = u.lcr
  mcr : u'.mcr = u.mcr
  asking : u'.asking ⊆ u.asking

lemma Quieter.trans {u u' u'' : Uart} (h : Quieter u u') (h' : Quieter u' u'') : Quieter u u'' :=
  ⟨h'.lcr.trans h.lcr, h'.mcr.trans h.mcr, h'.asking.trans h.asking⟩

lemma Quieter.not_shut {u u' : Uart} (h : Quieter u u') (hshut : ¬u.Shut) : ¬u'.Shut := by
  rintro ⟨hdlab, hasks⟩
  exact hshut ⟨h.lcr ▸ hdlab, mem_asking.mp (h.asking (mem_asking.mpr hasks))⟩

lemma asks_updateIir (u : Uart) : (uartUpdateIir u).asks = u.asks :=
  asks_congr rfl rfl rfl rfl

lemma quieter_readIir (u : Uart) : Quieter u u.readIir := by
  simp only [Uart.readIir]
  split_ifs
  · refine ⟨rfl, rfl, fun source hs => ?_⟩
    rw [mem_asking] at hs ⊢
    cases source with
    | thrEmpty => simp [Uart.asks] at hs
    | lineStatus | receivedData | modemStatus => exact hs
  · exact ⟨rfl, rfl, fun source hs => by rwa [mem_asking, asks_updateIir, ← mem_asking] at hs⟩

lemma thrEmpty_readIir {u : Uart} (h : u.first = some .thrEmpty) : Source.thrEmpty ∉ u.readIir.asking := by
  have hiir : (uartUpdateIir u).iir &&& 0x0E = iirThre := by
    unfold Uart.first at h
    split_ifs at h with h1 h2 h3 h4 <;> cases h
    simp only [uartUpdateIir, h1, h2, h3, h4]
    cases u.fifoEnabled <;> rfl
  rw [mem_asking, Uart.readIir, if_pos hiir]
  simp [Uart.asks]

lemma quieter_readRbr (u : Uart) : Quieter u u.readRbr.2 := by
  have hclear (u' : Uart) (hier : u'.ier = u.ier) (hmsr : u'.msr = u.msr)
      (hthre : u'.threIntPending = u.threIntPending) (hlsr : u'.lsr = u.lsr &&& ~~~lsrDr) :
      u'.asking ⊆ u.asking := by
    intro source hs
    rw [mem_asking] at hs ⊢
    cases source with
    | lineStatus => rwa [Uart.asks, hlsr, and_not_and (by decide), hier] at hs
    | receivedData => rw [Uart.asks, hlsr, and_not_and_self] at hs; simp at hs
    | modemStatus => rwa [Uart.asks, hmsr, hier] at hs
    | thrEmpty => rwa [Uart.asks, hlsr, and_not_and (by decide), hier, hthre] at hs
  unfold Uart.readRbr
  split_ifs
  · exact ⟨rfl, rfl, fun source hs => hs⟩
  · exact ⟨rfl, rfl, hclear _ rfl rfl rfl rfl⟩
  · exact ⟨rfl, rfl, hclear _ rfl rfl rfl rfl⟩

lemma quieter_readLsr (u : Uart) : Quieter u u.readLsr := by
  refine ⟨rfl, rfl, fun source hs => ?_⟩
  rw [mem_asking] at hs ⊢
  cases source with
  | lineStatus => rw [Uart.readLsr, Uart.asks, and_not_and_self] at hs; simp at hs
  | receivedData | thrEmpty => rwa [Uart.readLsr, Uart.asks, and_not_and (by decide)] at hs
  | modemStatus => exact hs

lemma lineStatus_readLsr (u : Uart) : Source.lineStatus ∉ u.readLsr.asking := by
  rw [mem_asking, Uart.readLsr, Uart.asks, and_not_and_self]
  simp

lemma modemStatus_readMsr (u : Uart) : Source.modemStatus ∉ u.readMsr.asking := by
  have hlow : u.msr &&& 0xF0 &&& 0x0F = 0 := by
    rw [UInt8.and_assoc, show (0xF0 : UInt8) &&& 0x0F = 0 from rfl, UInt8.and_zero]
  rw [mem_asking, Uart.readMsr, Uart.asks, hlow]
  simp

lemma quieter_readMsr (u : Uart) : Quieter u u.readMsr := by
  refine ⟨rfl, rfl, fun source hs => ?_⟩
  cases source with
  | modemStatus => exact absurd hs (modemStatus_readMsr u)
  | lineStatus | receivedData | thrEmpty => rwa [mem_asking] at hs ⊢

/-! ## The rounds -/

section Rounds

variable {p p' : Ports}

lemma uartRead_rbr (hdlab : (p.uart .com1).lcr &&& lcrDlab = 0) :
    (uartRead p .com1 .rbr 0).2 = uartUpdateIrq (p.put .com1 (p.uart .com1).readRbr.2) .com1 := by
  simp [uartRead, hdlab]

lemma exists_drained (hdlab : (p.uart .com1).lcr &&& lcrDlab = 0) : ∃ p', Drained p p' := by
  generalize hn : (p.uart .com1).rxCount = n
  induction n using Nat.strong_induction_on generalizing p with
  | _ n ih =>
    have hread := uartRead_rbr hdlab
    have huart : (uartRead p .com1 .rbr 0).2.uart .com1 = (p.uart .com1).readRbr.2 := by simp [hread]
    by_cases hclear : ((uartRead p .com1 .rbr 0).2.uart .com1).lsr &&& lsrDr = 0
    · exact ⟨_, .last p hclear⟩
    · have hcount : (p.uart .com1).readRbr.2.rxCount < n := by
        rw [huart] at hclear
        unfold Uart.readRbr at hclear ⊢
        split_ifs at hclear ⊢ with h1 h2
        · simp only
          omega
        · exact absurd (and_not_and_self _ _) hclear
        · exact absurd (and_not_and_self _ _) hclear
      have hlcr : ((uartRead p .com1 .rbr 0).2.uart .com1).lcr &&& lcrDlab = 0 := by
        rwa [huart, (quieter_readRbr _).lcr]
      obtain ⟨p', h⟩ := ih _ hcount hlcr (by rw [huart])
      exact ⟨p', .more p hclear h⟩

lemma not_drained (h : Drained p p') (hdlab : (p.uart .com1).lcr &&& lcrDlab ≠ 0) :
    (p.uart .com1).lsr &&& lsrDr = 0 := by
  induction h with
  | last p hclear => simpa [uartRead, hdlab] using hclear
  | more p hready h ih =>
    have hsame : (uartRead p .com1 .rbr 0).2 = p := by simp [uartRead, hdlab]
    rw [hsame] at hready ih
    exact absurd (ih hdlab) hready

lemma Drained.coherent (h : Drained p p') (hp : Coherent p) : Coherent p' := by
  induction h with
  | last p hclear => exact hp.uartRead ..
  | more p hready h ih => exact ih (hp.uartRead ..)

lemma quieter_uartRead_rbr (p : Ports) : Quieter (p.uart .com1) ((uartRead p .com1 .rbr 0).2.uart .com1) := by
  by_cases hdlab : (p.uart .com1).lcr &&& lcrDlab = 0
  · rw [uartRead_rbr hdlab]
    simpa using quieter_readRbr (p.uart .com1)
  · simpa [uartRead, hdlab] using (⟨rfl, rfl, subset_rfl⟩ : Quieter (p.uart .com1) (p.uart .com1))

lemma Drained.quieter (h : Drained p p') : Quieter (p.uart .com1) (p'.uart .com1) := by
  induction h with
  | last p hclear => exact quieter_uartRead_rbr p
  | more p hready h ih => exact (quieter_uartRead_rbr p).trans ih

lemma Drained.clear (h : Drained p p') : Source.receivedData ∉ (p'.uart .com1).asking := by
  induction h with
  | last p hclear => simp [Uart.asks, hclear]
  | more p hready h ih => exact ih

lemma Served.coherent {source : Source} (h : Served source p p') (hp : Coherent p) : Coherent p' := by
  cases h with
  | lineStatus => exact hp.uartRead ..
  | receivedData h => exact h.coherent hp
  | modemStatus status => exact hp.uartRead ..
  | thrEmpty => exact hp

lemma Served.quieter {source : Source} (h : Served source p p') : Quieter (p.uart .com1) (p'.uart .com1) := by
  cases h with
  | lineStatus => simpa [uartRead_lsr] using quieter_readLsr (p.uart .com1)
  | receivedData h => exact h.quieter
  | modemStatus status => simpa [uartRead_msr] using quieter_readMsr (p.uart .com1)
  | thrEmpty => exact ⟨rfl, rfl, subset_rfl⟩

lemma uart_readIir (p : Ports) : (uartRead p .com1 .iir 0).2.uart .com1 = (p.uart .com1).readIir := by
  simp [uartRead_iir]

/-- **A round**: it keeps the bit right and brings no source. -/
lemma Round.quieter (h : Round p p') (hp : Coherent p) :
    Coherent p' ∧ Quieter (p.uart .com1) (p'.uart .com1) := by
  obtain ⟨source, -, hserved⟩ := h
  have hiir := quieter_readIir (p.uart .com1)
  rw [← uart_readIir] at hiir
  exact ⟨hserved.coherent (hp.uartRead ..), hiir.trans hserved.quieter⟩

lemma asking_round (h : Round p p') (hp : Coherent p) : (p'.uart .com1).asking ⊂ (p.uart .com1).asking := by
  have hquieter := (h.quieter hp).2
  obtain ⟨source, hnamed, hserved⟩ := h
  rw [named_readIir] at hnamed
  have hgone : source ∉ (p'.uart .com1).asking := by
    cases hserved with
    | lineStatus => simpa [uartRead_lsr, uart_readIir] using lineStatus_readLsr (p.uart .com1).readIir
    | receivedData hdrained => exact hdrained.clear
    | modemStatus status => simpa [uartRead_msr, uart_readIir] using modemStatus_readMsr (p.uart .com1).readIir
    | thrEmpty =>
      rw [uart_readIir]
      exact thrEmpty_readIir hnamed
  exact (Finset.ssubset_iff_of_subset hquieter.asking).mpr
    ⟨source, mem_asking.mpr (asks_of_first hnamed), hgone⟩

lemma exists_round (hp : Coherent p) (hshut : ¬(p.uart .com1).Shut) (hraised : Raised p) : ∃ p', Round p p' := by
  obtain ⟨-, hiir⟩ := hp.mp hraised
  obtain ⟨asker, hasks⟩ := (iir_eq_zero_iff _).mp hiir
  obtain ⟨source, hfirst⟩ := exists_first hasks
  have hnamed := (named_readIir p).trans hfirst
  cases source with
  | lineStatus => exact ⟨_, _, hnamed, .lineStatus _⟩
  | receivedData =>
    have hdlab : ((uartRead p .com1 .iir 0).2.uart .com1).lcr &&& lcrDlab = 0 := by
      rw [uart_readIir, (quieter_readIir _).lcr]
      by_contra hdlab
      exact hshut ⟨hdlab, asks_of_first hfirst⟩
    obtain ⟨p', hdrained⟩ := exists_drained hdlab
    exact ⟨p', _, hnamed, .receivedData hdrained⟩
  | modemStatus => exact ⟨_, _, hnamed, .modemStatus _ 0⟩
  | thrEmpty => exact ⟨_, _, hnamed, .thrEmpty _⟩

theorem settles_of_not_shut (hp : Coherent p) (hshut : ¬(p.uart .com1).Shut) : Settles p := by
  generalize hn : (p.uart .com1).asking = asking
  induction asking using Finset.strongInduction generalizing p with
  | H asking ih =>
    by_cases hraised : Raised p
    · refine .round (exists_round hp hshut hraised) fun p' hround => ?_
      obtain ⟨hp', hquieter⟩ := hround.quieter hp
      exact ih _ (hn ▸ asking_round hround hp) hp' (hquieter.not_shut hshut) rfl
    · exact .clear hraised

lemma receivedData_readIir_readLsr (u : Uart) :
    u.readIir.asks .receivedData = u.asks .receivedData ∧
      u.readIir.readLsr.asks .receivedData = u.readIir.asks .receivedData := by
  constructor
  · unfold Uart.readIir
    simp only []
    split_ifs <;> rfl
  · simp only [Uart.asks, Uart.readLsr]
    rw [and_not_and (by decide)]

theorem not_settles_of_shut (h : Settles p) (hp : Coherent p) (hshut : (p.uart .com1).Shut) : ¬Raised p := by
  induction h with
  | clear h => exact h
  | @round p hround h ih =>
    intro hraised
    obtain ⟨p', hp'⟩ := hround
    obtain ⟨hcoherent, hquieter⟩ := hp'.quieter hp
    have hagain (hasks : (p'.uart .com1).asks .receivedData = true) : False := by
      refine ih p' hp' hcoherent ⟨hquieter.lcr ▸ hshut.1, hasks⟩ (hcoherent.mpr ⟨?_, ?_⟩)
      · rw [hquieter.mcr]
        exact (hp.mp hraised).1
      · exact (iir_eq_zero_iff _).mpr ⟨_, hasks⟩
    obtain ⟨source, hnamed, hserved⟩ := hp'
    rw [named_readIir] at hnamed
    obtain ⟨hiir, hlsr⟩ := receivedData_readIir_readLsr (p.uart .com1)
    cases hserved with
    | lineStatus =>
      refine hagain ?_
      rw [uartRead_lsr, uart_updateIrq, uart_put, uart_readIir, hlsr, hiir]
      exact hshut.2
    | receivedData hdrained =>
      have hempty := not_drained hdrained (by rw [uart_readIir, (quieter_readIir _).lcr]; exact hshut.1)
      rw [uart_readIir] at hempty
      have hasks := hiir.trans hshut.2
      simp [Uart.asks, hempty] at hasks
    | modemStatus status | thrEmpty =>
      -- the received data come before them
      have hbefore := hshut.2
      unfold Uart.first at hnamed
      split_ifs at hnamed <;> contradiction

end Rounds

/-- **After any run the bit is set just when OUT2 is and the IIR would name a source; and the handler comes to
the end of it, but where the received data ask and DLAB hides them.** -/
theorem serial_interrupt (iomd : IomdState) (iomdType : IomdType) (es : List Event) :
    let p := Runs.exec step (reset iomd iomdType) es
    (Raised p ↔ (p.uart .com1).Asserted) ∧ (Settles p ↔ ¬(Raised p ∧ (p.uart .com1).Shut)) := by
  intro p
  have hp : Coherent p := coherent_exec iomd iomdType es
  refine ⟨hp, fun hsettles ⟨hraised, hshut⟩ => not_settles_of_shut hsettles hp hshut hraised, fun h => ?_⟩
  by_cases hraised : Raised p
  · exact settles_of_not_shut hp fun hshut => h ⟨hraised, hshut⟩
  · exact .clear hraised

theorem divisor_latch_holds_interrupt :
    let p := Runs.exec step (reset unset .iomd)
      [.write .com1 .ier 0x01 [], .write .com1 .mcr 0x08 [], .arrival (.serialRx .com1 0x41),
        .write .com1 .lcr 0x80 []]
    Raised p ∧ ¬Settles p := by
  intro p
  have hp : Coherent p := coherent_exec unset .iomd _
  have hraised : Raised p := hp.mpr (by decide)
  have hshut : (p.uart .com1).Shut := by
    unfold Uart.Shut
    decide
  exact ⟨hraised, fun hsettles => not_settles_of_shut hsettles hp hshut hraised⟩

end RpcEmu.Superio
