import RpcEmu.Superio.Receive

/-!
# The modem status of a serial port

The lines of a device are kept twice.  The UART has them in its MSR, with a bit for each that has changed, and asks
for an interrupt by these bits.  The serial bus (`serial.c`) has them in a byte of its own, or asks the device; and
that byte is what a read of the MSR gives, whole, outside loopback.  So a read gives none of the changes
(`not_modem_status_tells`).  And loopback puts other lines in the MSR, so that what changed before is lost and the
next report is compared with what never was on the line.

A run keeps to the lines just if each of its steps does not meet any of these (`modem_status_tells_iff`).
-/

namespace RpcEmu.Superio

open Iomd Runs ByteMasks

/-! ## The bus -/

/-- A port of the bus: the control lines, the status that was last reported over it, and whether a device is attached
that can be asked. -/
structure SerialBusPort where
  control : UInt8
  status : UInt8
  getStatus : Bool

inductive LineReport where
  | deviceStatus (status : UInt8)
  | updateMsr (status : UInt8)
  deriving DecidableEq, Repr

def LineReport.status : LineReport → UInt8
  | .deviceStatus status => status
  | .updateMsr status => status

/-- The UARTs, the bus of the port, and the lines that the device has; and for a reader of the run, which lines have
changed since the MSR was last read, a bit for each. -/
structure LineState where
  ports : Ports
  bus : SerialBusPort
  lines : UInt8
  changed : UInt8

section Port

variable (port : SerialPortId)

/-- `serial_bus_device_status`, or `superio_serial_update_msr` alone. -/
def LineState.report (s : LineState) (r : LineReport) : LineState where
  ports := arrive s.ports (.serialUpdateMsr port r.status)
  bus := match r with
    | .deviceStatus status => { s.bus with status }
    | .updateMsr _ => s.bus
  lines := r.status
  changed := s.changed ||| (s.lines ^^^ r.status) >>> 4

/-- `serial_bus_get_status`. -/
def serialBusGetStatus (s : LineState) : UInt8 := if s.bus.getStatus then s.lines else s.bus.status

def LineState.calls (s : LineState) : UartReg → Bool
  | .rbr => (s.ports.uart port).lcr &&& lcrDlab == 0
  | .mcr => true
  | _ => false

inductive LineEvent where
  | write (reg : UartReg) (val : UInt8) (meanwhile : List LineReport)
  | read (reg : UartReg)
  | report (r : LineReport)
  deriving DecidableEq, Repr

def LineState.reports (s : LineState) (reg : UartReg) (meanwhile : List LineReport) : List LineReport :=
  if s.calls port reg then meanwhile else []

/-- `uart_write`; `serial_bus_set_ctrl` is told of the MCR. -/
def LineState.write (s : LineState) (reg : UartReg) (val : UInt8) (meanwhile : List LineReport) : LineState :=
  let meanwhile := s.reports port reg meanwhile
  let told := meanwhile.foldl (LineState.report port) s
  { told with
    ports := uartWrite s.ports port reg val (meanwhile.map fun r => .serialUpdateMsr port r.status)
    bus := if reg = .mcr then { told.bus with control := val &&& 0x0F } else told.bus }

/-- The UART is in loopback. -/
def LineState.loops (s : LineState) : Prop := (s.ports.uart port).mcr &&& 0x10 ≠ 0

instance (s : LineState) : Decidable (s.loops port) := inferInstanceAs (Decidable (_ ≠ _))

/-- `uart_read`; a read of the MSR asks the bus, and is one. -/
def LineState.read (s : LineState) (reg : UartReg) : UInt8 × LineState :=
  let (val, ports) := uartRead s.ports port reg (serialBusGetStatus s)
  (val, { s with
    ports
    bus := if reg = .msr ∧ ¬s.loops port then { s.bus with status := serialBusGetStatus s } else s.bus
    changed := if reg = .msr then 0 else s.changed })

def lineStep (s : LineState) : LineEvent → LineState
  | .write reg val meanwhile => s.write port reg val meanwhile
  | .read reg => (s.read port reg).2
  | .report r => s.report port r

def lineStart (iomd : IomdState) (iomdType : IomdType) (bus : SerialBusPort) (lines : UInt8) : LineState where
  ports := reset iomd iomdType
  bus
  lines
  changed := 0

/-! ## What is to hold -/

/-- The MSR's low nibble says which lines have changed. -/
def LineState.Tells (s : LineState) : Prop := (s.ports.uart port).msr &&& 0x0F = s.changed

/-- So it does after each report. -/
def ReportsTell : LineState → List LineReport → Prop :=
  Along (LineState.report port) fun s r => (s.report port r).Tells port

/-- A read outside loopback gives the device's lines, and which of them have changed; and the UART has those that have
after the step, and after each report on the way. -/
def StatusTells (s : LineState) (e : LineEvent) : Prop :=
  (match e with
    | .read .msr => ¬s.loops port → (s.read port .msr).1 = s.lines &&& 0xF0 ||| s.changed
    | .write reg _ meanwhile => ReportsTell port s (s.reports port reg meanwhile)
    | _ => True) ∧
  (lineStep port s e).Tells port

/-! ## When it does -/

/-- A line that differs from the MSR has changed. -/
def LineState.Agrees (s : LineState) : Prop :=
  ((s.ports.uart port).msr ^^^ s.lines) >>> 4 &&& ~~~s.changed = 0

/-- So it is before each report. -/
def ReportsAgree : LineState → List LineReport → Prop := Along (LineState.report port) fun s _ => s.Agrees port

/-- A read outside loopback finds that the byte of the bus is of the lines that the device has, and has in its low
nibble the lines that have changed: none, as the bytes of the devices have nothing there.  A report finds that the
UART's copy is right.  And a write that goes into loopback does after no change. -/
def LineAllowed (s : LineState) : LineEvent → Prop
  | .read .msr => ¬s.loops port →
      serialBusGetStatus s &&& 0xF0 = s.lines &&& 0xF0 ∧ serialBusGetStatus s &&& 0x0F = s.changed
  | .read _ => True
  | .report _ => s.Agrees port
  | .write reg val meanwhile =>
    ReportsAgree port s (s.reports port reg meanwhile) ∧
      (reg = .mcr → val &&& 0x10 ≠ 0 → ((s.reports port reg meanwhile).foldl (LineState.report port) s).changed = 0)

end Port

/-! ## Nibbles -/

lemma changed_uartModemLines (u : Uart) (status : UInt8) :
    (uartModemLines u status).msr &&& (0x0F : UInt8) = u.msr &&& (0x0F : UInt8) ||| (u.msr ^^^ status) >>> 4 := by
  have hlow : (0x0F : UInt8).toBitVec = 0x0F#8 := rfl
  have hhigh : (0xF0 : UInt8).toBitVec = 0xF0#8 := rfl
  unfold uartModemLines
  simp only [← UInt8.toBitVec_inj, UInt8.toBitVec_xor, UInt8.toBitVec_and, UInt8.toBitVec_or, toBitVec_highNibble,
    hlow, hhigh]
  ext i hi
  simp only [BitVec.getElem_or, BitVec.getElem_and, BitVec.getElem_ushiftRight, BitVec.getLsbD_xor,
    BitVec.getLsbD_and]
  interval_cases i <;> simp

lemma changed_loopback (u : Uart) {val : UInt8} (h : val &&& 0x10 ≠ 0) : (u.loopback val).msr &&& 0x0F = 0 := by
  have hshifts : ∀ a b c d : UInt8,
      ((a &&& 0x01) <<< 4 ||| (b &&& 0x02) <<< 3 ||| (c &&& 0x04) <<< 4 ||| (d &&& 0x08) <<< 4) &&& 0x0F = 0 := by
    intro a b c d
    have h4 : ∀ x : UInt8, (x <<< 4).toBitVec = x.toBitVec <<< 4 := fun _ => rfl
    have h3 : ∀ x : UInt8, (x <<< 3).toBitVec = x.toBitVec <<< 3 := fun _ => rfl
    have hlow : (0x0F : UInt8).toBitVec = 0x0F#8 := rfl
    have htwo : (0x02 : UInt8).toBitVec = 0x02#8 := rfl
    simp only [← UInt8.toBitVec_inj, UInt8.toBitVec_and, UInt8.toBitVec_or, h4, h3, hlow, htwo]
    ext i hi
    simp only [BitVec.getElem_or, BitVec.getElem_and, BitVec.getElem_shiftLeft]
    interval_cases i <;> simp
  unfold Uart.loopback
  rw [if_pos h]
  exact hshifts val val val val

/-! ## The reports -/

section Port

variable {port : SerialPortId} {s : LineState}

lemma uart_report (s : LineState) (r : LineReport) :
    (s.report port r).ports.uart port = uartModemLines (s.ports.uart port) r.status := by
  unfold LineState.report arrive
  dsimp only
  rw [uart_updateIrq, uart_put]

/-- The MSR tells, of the four lines only. -/
structure LineSound (port : SerialPortId) (s : LineState) : Prop where
  tells : s.Tells port
  nibble : s.changed &&& 0xF0 = 0

lemma tells_report_iff (hs : LineSound port s) (r : LineReport) : s.Agrees port ↔ (s.report port r).Tells port := by
  have hxor : ∀ m l st : UInt8, m ^^^ st ^^^ (l ^^^ st) = m ^^^ l := by
    intro m l st
    rw [UInt8.xor_comm l st, UInt8.xor_assoc, ← UInt8.xor_assoc st, UInt8.xor_self, UInt8.zero_xor]
  unfold LineState.Tells
  rw [uart_report, changed_uartModemLines, show (s.ports.uart port).msr &&& 0x0F = s.changed from hs.tells]
  show s.Agrees port ↔ s.changed ||| _ = s.changed ||| (s.lines ^^^ r.status) >>> 4
  rw [or_eq_or_iff, ← highNibble_xor, hxor]
  exact Iff.rfl

lemma LineSound.report (hs : LineSound port s) (hagrees : s.Agrees port) (r : LineReport) :
    LineSound port (s.report port r) := by
  refine ⟨(tells_report_iff hs r).mp hagrees, ?_⟩
  show (s.changed ||| (s.lines ^^^ r.status) >>> 4) &&& 0xF0 = 0
  rw [or_and_mask, hs.nibble, highNibble_and_high, UInt8.or_zero]

lemma reportsTell_iff (hs : LineSound port s) (rs : List LineReport) :
    ReportsAgree port s rs ↔ ReportsTell port s rs :=
  along_iff_of_inv (fun _ r h hagrees => h.report hagrees r) (fun _ r h => tells_report_iff h r) rs s hs

lemma LineSound.reports (hs : LineSound port s) {rs : List LineReport} (hrs : ReportsAgree port s rs) :
    LineSound port (rs.foldl (LineState.report port) s) :=
  exec_inv (fun _ r h hagrees => h.report hagrees r) rs s hs hrs

lemma msr_arrivals {p : Ports} (h : (p.uart port).msr = (s.ports.uart port).msr) (rs : List LineReport) :
    (((rs.map fun r => .serialUpdateMsr port r.status).foldl arrive p).uart port).msr =
      ((rs.foldl (LineState.report port) s).ports.uart port).msr := by
  induction rs generalizing p s with
  | nil => exact h
  | cons r rs ih =>
    rw [List.map_cons, List.foldl_cons, List.foldl_cons]
    apply ih
    rw [uart_report]
    unfold arrive
    dsimp only
    rw [uart_updateIrq, uart_put]
    unfold uartModemLines
    rw [h]

/-! ## The accesses -/

lemma msr_writeFcr (u : Uart) (val : UInt8) : (u.writeFcr val).msr = u.msr := by
  unfold Uart.writeFcr
  dsimp only
  split <;> rfl

lemma msr_write (s : LineState) (reg : UartReg) (val : UInt8) (meanwhile : List LineReport) :
    ((s.write port reg val meanwhile).ports.uart port).msr &&& 0x0F =
      if reg = .mcr ∧ val &&& 0x10 ≠ 0 then 0
      else (((s.reports port reg meanwhile).foldl (LineState.report port) s).ports.uart port).msr &&& 0x0F := by
  show ((uartWrite s.ports port reg val _).uart port).msr &&& 0x0F = _
  -- where the device is not called there are no reports
  have hquiet : ∀ reg', reg' ≠ .mcr → s.calls port reg' = false →
      (if reg' = .mcr ∧ val &&& 0x10 ≠ 0 then 0
        else (((s.reports port reg' meanwhile).foldl (LineState.report port) s).ports.uart port).msr &&& 0x0F) =
      (s.ports.uart port).msr &&& 0x0F := by
    intro reg' hreg hcalls
    have hnone : s.reports port reg' meanwhile = [] := if_neg (by rw [hcalls]; nofun)
    rw [if_neg fun h => hreg h.1, hnone]
    rfl
  cases reg with
  | rbr =>
    unfold uartWrite
    dsimp only
    by_cases hdlab : (s.ports.uart port).lcr &&& lcrDlab ≠ 0
    · rw [if_pos hdlab, hquiet .rbr nofun (beq_eq_false_iff_ne.mpr hdlab), uart_put]
    · rw [if_neg hdlab, uart_updateIrq, uart_put, if_neg fun h => nomatch h.1]
      exact congrArg (· &&& 0x0F) (msr_arrivals rfl _)
  | mcr =>
    unfold uartWrite
    dsimp only
    rw [uart_updateIrq, uart_put]
    by_cases hloop : val &&& 0x10 ≠ 0
    · rw [changed_loopback _ hloop, if_pos ⟨rfl, hloop⟩]
    · rw [if_neg fun h => hloop h.2]
      unfold Uart.loopback
      rw [if_neg hloop, msr_arrivals (s := s) (by rw [uart_put])]
  | ier =>
    rw [hquiet .ier nofun rfl]
    unfold uartWrite
    dsimp only
    split
    · rw [uart_put]
    · rw [uart_updateIrq, uart_put]
      rfl
  | iir =>
    rw [hquiet .iir nofun rfl]
    unfold uartWrite
    dsimp only
    rw [uart_updateIrq, uart_put, msr_writeFcr]
  | lcr =>
    rw [hquiet .lcr nofun rfl]
    unfold uartWrite
    dsimp only
    rw [uart_put]
  | scr =>
    rw [hquiet .scr nofun rfl]
    unfold uartWrite
    dsimp only
    rw [uart_put]
  | lsr => exact (hquiet .lsr nofun rfl).symm
  | msr => exact (hquiet .msr nofun rfl).symm

lemma tells_write_iff (hs : LineSound port s) (reg : UartReg) (val : UInt8) (meanwhile : List LineReport)
    (hrs : ReportsAgree port s (s.reports port reg meanwhile)) :
    (reg = .mcr → val &&& 0x10 ≠ 0 →
        ((s.reports port reg meanwhile).foldl (LineState.report port) s).changed = 0) ↔
      (s.write port reg val meanwhile).Tells port := by
  have htold := (hs.reports hrs).tells
  show _ ↔ ((s.write port reg val meanwhile).ports.uart port).msr &&& 0x0F =
    ((s.reports port reg meanwhile).foldl (LineState.report port) s).changed
  rw [msr_write]
  split
  next hloop =>
    constructor
    · intro h
      exact (h hloop.1 hloop.2).symm
    · intro h _ _
      exact h.symm
  next hloop =>
    constructor
    · intro _
      exact htold
    · intro _ hreg hval
      exact absurd ⟨hreg, hval⟩ hloop

lemma LineSound.write (hs : LineSound port s) (reg : UartReg) (val : UInt8) (meanwhile : List LineReport)
    (hallowed : LineAllowed port s (.write reg val meanwhile)) : LineSound port (s.write port reg val meanwhile) :=
  ⟨(tells_write_iff hs reg val meanwhile hallowed.1).mp hallowed.2, (hs.reports hallowed.1).nibble⟩

lemma msr_read (p : Ports) (reg : UartReg) (status : UInt8) :
    ((uartRead p port reg status).2.uart port).msr =
      if reg = .msr then (p.uart port).msr &&& 0xF0 else (p.uart port).msr := by
  cases reg with
  | rbr =>
    unfold uartRead
    dsimp only
    split
    · rfl
    · rw [uart_updateIrq, uart_put]
      unfold Uart.readRbr
      split
      · split <;> rfl
      · rfl
  | iir =>
    unfold uartRead
    dsimp only
    have hiir : (p.uart port).readIir.msr = (p.uart port).msr := by
      unfold Uart.readIir
      dsimp only
      split <;> rfl
    split
    · rw [uart_updateIrq, uart_put, hiir]
      rfl
    · rw [uart_put, hiir]
      rfl
  | lsr =>
    unfold uartRead
    dsimp only
    rw [uart_updateIrq, uart_put]
    rfl
  | msr =>
    unfold uartRead
    dsimp only
    rw [uart_updateIrq, uart_put]
    rfl
  | ier | lcr | mcr | scr => rfl

lemma LineSound.read (hs : LineSound port s) (reg : UartReg) : LineSound port (s.read port reg).2 := by
  constructor
  · show ((uartRead s.ports port reg (serialBusGetStatus s)).2.uart port).msr &&& 0x0F =
      if reg = .msr then 0 else s.changed
    rw [msr_read]
    split
    · rw [UInt8.and_assoc, show (0xF0 : UInt8) &&& 0x0F = 0 by decide, UInt8.and_zero]
    · exact hs.tells
  · show (if reg = .msr then 0 else s.changed) &&& 0xF0 = 0
    split
    · exact UInt8.zero_and
    · exact hs.nibble

lemma read_msr_iff (hs : LineSound port s) :
    (¬s.loops port → serialBusGetStatus s &&& 0xF0 = s.lines &&& 0xF0 ∧ serialBusGetStatus s &&& 0x0F = s.changed) ↔
      (¬s.loops port → (s.read port .msr).1 = (s.lines &&& 0xF0) ||| s.changed) := by
  refine forall_congr' fun hloops => ?_
  have hvalue : (s.read port .msr).1 = serialBusGetStatus s := if_neg hloops
  rw [hvalue, eq_nibbles_iff hs.nibble]

/-! ## Runs -/

lemma LineSound.step (hs : LineSound port s) (e : LineEvent) (hallowed : LineAllowed port s e) :
    LineSound port (lineStep port s e) := by
  cases e with
  | write reg val meanwhile => exact hs.write reg val meanwhile hallowed
  | read reg => exact hs.read reg
  | report r => exact hs.report hallowed r

lemma lineAllowed_iff (hs : LineSound port s) (e : LineEvent) : LineAllowed port s e ↔ StatusTells port s e := by
  cases e with
  | write reg val meanwhile =>
    show ReportsAgree port s _ ∧ _ ↔ ReportsTell port s _ ∧ (s.write port reg val meanwhile).Tells port
    constructor
    · intro h
      exact ⟨(reportsTell_iff hs _).mp h.1, (tells_write_iff hs reg val meanwhile h.1).mp h.2⟩
    · intro h
      have hrs := (reportsTell_iff hs _).mpr h.1
      exact ⟨hrs, (tells_write_iff hs reg val meanwhile hrs).mpr h.2⟩
  | read reg =>
    have htells := (hs.read reg).tells
    cases reg with
    | msr =>
      show _ ↔ _ ∧ (s.read port .msr).2.Tells port
      rw [and_iff_left htells]
      exact read_msr_iff hs
    | rbr | ier | iir | lcr | mcr | lsr | scr => exact iff_of_true trivial ⟨trivial, htells⟩
  | report r =>
    show s.Agrees port ↔ True ∧ (s.report port r).Tells port
    rw [true_and]
    exact tells_report_iff hs r

/-- **A run keeps to the device's lines just if its steps are allowed.** -/
theorem modem_status_tells_iff (port : SerialPortId) (iomd : IomdState) (iomdType : IomdType) (bus : SerialBusPort)
    (lines : UInt8) (es : List LineEvent) :
    Along (lineStep port) (LineAllowed port) (lineStart iomd iomdType bus lines) es ↔
      Along (lineStep port) (StatusTells port) (lineStart iomd iomdType bus lines) es :=
  along_iff_of_inv (fun _ e hs hallowed => hs.step e hallowed) (fun _ e hs => lineAllowed_iff hs e) es _
    ⟨(by decide : uartReset.msr &&& 0x0F = 0), UInt8.zero_and⟩

/-! ## A device that is asked

All the devices of the emulator answer with nothing in the low nibble.  With one that is asked, a read of the MSR is
right just if no line has changed since the last. -/

/-- A device is attached that can be asked, and has nothing in the low nibble. -/
structure LineState.Asked (s : LineState) : Prop where
  getStatus : s.bus.getStatus = true
  nibble : s.lines &&& 0x0F = 0

/-- The device says nothing of changes itself. -/
def LineEvent.Bare : LineEvent → Prop
  | .report r => r.status &&& 0x0F = 0
  | .write _ _ meanwhile => ∀ r ∈ meanwhile, r.status &&& 0x0F = 0
  | .read _ => True

/-- `LineAllowed`, and the MSR is read only when no line has changed. -/
def LineUnchanged (port : SerialPortId) (s : LineState) : LineEvent → Prop
  | .read .msr => ¬s.loops port → s.changed = 0
  | e => LineAllowed port s e

lemma LineState.Asked.report (h : s.Asked) {r : LineReport} (hr : r.status &&& 0x0F = 0) : (s.report port r).Asked := by
  refine ⟨?_, hr⟩
  unfold LineState.report
  dsimp only
  split
  · exact h.getStatus
  · exact h.getStatus

lemma LineState.Asked.reports (h : s.Asked) {rs : List LineReport} (hrs : ∀ r ∈ rs, r.status &&& 0x0F = 0) :
    (rs.foldl (LineState.report port) s).Asked := by
  induction rs generalizing s with
  | nil => exact h
  | cons r rs ih =>
    rw [List.forall_mem_cons] at hrs
    exact ih (h.report hrs.1) hrs.2

lemma LineState.Asked.step (h : s.Asked) {e : LineEvent} (he : e.Bare) : (lineStep port s e).Asked := by
  cases e with
  | write reg val meanwhile =>
    have htold : ((s.reports port reg meanwhile).foldl (LineState.report port) s).Asked := by
      unfold LineState.reports
      split
      · exact h.reports he
      · exact h
    refine ⟨?_, htold.nibble⟩
    unfold lineStep LineState.write
    dsimp only
    split
    · exact htold.getStatus
    · exact htold.getStatus
  | read reg =>
    refine ⟨?_, h.nibble⟩
    unfold lineStep LineState.read
    dsimp only
    split
    · exact h.getStatus
    · exact h.getStatus
  | report r => exact h.report he

lemma lineUnchanged_iff (h : s.Asked) (e : LineEvent) : LineUnchanged port s e ↔ LineAllowed port s e := by
  have hbyte : serialBusGetStatus s = s.lines := if_pos h.getStatus
  have hread : (¬s.loops port → s.changed = 0) ↔ (¬s.loops port →
      serialBusGetStatus s &&& 0xF0 = s.lines &&& 0xF0 ∧ serialBusGetStatus s &&& 0x0F = s.changed) := by
    rw [hbyte, h.nibble]
    exact forall_congr' fun _ => ⟨fun hnone => ⟨rfl, hnone.symm⟩, fun hnone => hnone.2.symm⟩
  cases e with
  | read reg => cases reg <;> first | exact hread | exact Iff.rfl
  | write | report => exact Iff.rfl

lemma tells_iff_unchanged (port : SerialPortId) (iomd : IomdState) (iomdType : IomdType) {bus : SerialBusPort}
    {lines : UInt8} (hbus : bus.getStatus = true) (hlines : lines &&& 0x0F = 0) {es : List LineEvent}
    (hes : ∀ e ∈ es, e.Bare) :
    Along (lineStep port) (LineUnchanged port) (lineStart iomd iomdType bus lines) es ↔
      Along (lineStep port) (StatusTells port) (lineStart iomd iomdType bus lines) es :=
  along_iff_of_allowed (I := fun s => LineSound port s ∧ s.Asked) (L := fun _ e => e.Bare)
    (fun _ e hs he hun => ⟨hs.1.step e ((lineUnchanged_iff hs.2 e).mp hun), hs.2.step he⟩)
    (fun _ e hs _ => (lineUnchanged_iff hs.2 e).trans (lineAllowed_iff hs.1 e)) es _
    ⟨⟨(by decide : uartReset.msr &&& 0x0F = 0), UInt8.zero_and⟩, hbus, hlines⟩
    (along_of_forall fun e he _ => hes e he)

end Port

theorem not_modem_status_tells :
    ¬ ∀ (bus : SerialBusPort) (es : List LineEvent),
      Along (lineStep .com1) (StatusTells .com1) (lineStart unset .iomd bus 0) es := by
  intro h
  have hread := h ⟨0, 0, true⟩ [.report (.deviceStatus 0x10), .read .msr]
  rw [along_cons, along_cons] at hread
  have hvalue := hread.2.1.1 (by decide)
  exact absurd hvalue (by decide)

end RpcEmu.Superio
