import RpcEmu.Superio.Uart
import RpcEmu.Lib.CountedRing

/-!
# What a serial port receives

The receive buffer of a UART: a ring of sixteen bytes with a count, the byte that a reader finds where there is
none, and two bits of the LSR.  A run is also written down as somebody would who only sees the events (`RxLog`):
which bytes have come while fewer than sixteen were waiting and have not been thrown away, how many of them have
been read, and whether one has been refused.

`Receives` is what ties the buffer to the log, and each access keeps it (`RxTracks.step`).  So the guest reads what
the log says (`receive_path`), and the free space is what will fit.
-/

namespace RpcEmu.Superio

open Iomd Runs ByteMasks
open CountedRing hiding Ring

/-! ## The log -/

/-- What has come at a port: whether each port's divisor latch is open, the bytes that have come while fewer than
sixteen were waiting and have not been discarded, how many of them have been read, and whether a byte has been
refused since the LSR was last read. -/
structure RxLog where
  dlab : SerialPortId → Bool
  kept : List UInt8
  taken : Nat
  refused : Bool

def rxLogStart : RxLog := ⟨fun _ => false, [], 0, false⟩

def RxLog.waiting (l : RxLog) : List UInt8 := l.kept.drop l.taken

def RxLog.push (l : RxLog) (data : UInt8) : RxLog :=
  if l.waiting.length < 16 then { l with kept := l.kept ++ [data] } else { l with refused := true }

def RxLog.arrive (port : SerialPortId) (l : RxLog) : Arrival → RxLog
  | .serialRx q data => if q = port then l.push data else l
  | .serialUpdateMsr .. => l

def RxLog.write (port : SerialPortId) (l : RxLog) (q : SerialPortId) (val : UInt8) (meanwhile : List Arrival) :
    UartReg → RxLog
  | .rbr => if l.dlab q then l else meanwhile.foldl (RxLog.arrive port) l
  | .mcr => meanwhile.foldl (RxLog.arrive port) l
  | .iir => if q = port ∧ val &&& 0x02 ≠ 0 then { l with kept := l.kept.take l.taken } else l
  | .lcr => { l with dlab := Function.update l.dlab q (val &&& 0x80 != 0) }
  | _ => l

def RxLog.read (port : SerialPortId) (l : RxLog) : UartReg → RxLog
  | .rbr => if l.dlab port ∨ l.waiting = [] then l else { l with taken := l.taken + 1 }
  | .lsr => { l with refused := false }
  | _ => l

def RxLog.next (port : SerialPortId) (l : RxLog) : Event → RxLog
  | .write q reg val meanwhile => l.write port q val meanwhile reg
  | .read q reg _ => if q = port then l.read port reg else l
  | .arrival a => l.arrive port a

def rxLog (port : SerialPortId) (es : List Event) : RxLog := es.foldl (RxLog.next port) rxLogStart

/-! ## What the guest sees -/

def rbrRead (port : SerialPortId) (p : Ports) : Event → List UInt8
  | .read q .rbr status =>
    if q = port ∧ (p.uart q).lcr &&& lcrDlab = 0 ∧ (p.uart q).lsr &&& lsrDr ≠ 0 then [(uartRead p q .rbr status).1]
    else []
  | _ => []

def received (port : SerialPortId) (p : Ports) (es : List Event) : List UInt8 :=
  (steps step p es).flatMap fun v => rbrRead port v.1 v.2

/-- `superio_serial_rx_space`. -/
def superioSerialRxSpace (p : Ports) (port : SerialPortId) : Nat := 16 - (p.uart port).rxCount

/-! ## The buffer as a ring -/

def Uart.ring (u : Uart) : CountedRing.Ring UInt8 where
  slots k := if h : k < 16 then u.rxFifo ⟨k, h⟩ else 0
  head := u.rxHead.val
  tail := u.rxTail.val
  count := u.rxCount

variable {u u' : Uart} {l : RxLog}

lemma ring_push (data : UInt8) (lsr : UInt8) :
    Uart.ring { u with
      rxFifo := Function.update u.rxFifo u.rxHead data, rxHead := u.rxHead + 1, rxCount := u.rxCount + 1
      rbr := data, lsr } = u.ring.push 16 data := by
  have hslots : (fun k => if h : k < 16 then Function.update u.rxFifo u.rxHead data ⟨k, h⟩ else 0) =
      Function.update u.ring.slots u.rxHead.val data := by
    funext k
    by_cases hk : k = u.rxHead.val
    · rw [hk, Function.update_self, dif_pos u.rxHead.isLt]
      exact Function.update_self _ _ _
    · rw [Function.update_of_ne hk]
      show _ = if h : k < 16 then u.rxFifo ⟨k, h⟩ else 0
      split
      · rw [Function.update_of_ne]
        exact fun h => hk (congrArg Fin.val h)
      · rfl
  have hhead : (u.rxHead + 1).val = (u.rxHead.val + 1) % 16 := Fin.val_add _ _
  show CountedRing.Ring.mk _ _ _ _ = CountedRing.Ring.mk _ _ _ _
  rw [hhead, hslots]
  rfl

lemma ring_pop (rbr lsr : UInt8) :
    Uart.ring { u with rxTail := u.rxTail + 1, rxCount := u.rxCount - 1, rbr, lsr } = u.ring.pop 16 := by
  have htail : (u.rxTail + 1).val = (u.rxTail.val + 1) % 16 := Fin.val_add _ _
  show CountedRing.Ring.mk _ _ _ _ = CountedRing.Ring.mk _ _ _ _
  rw [htail]
  rfl

/-! ## The buffer and the log -/

/-- The buffer and the LSR hold what the log says. -/
structure Receives (u : Uart) (l : RxLog) : Prop where
  good : Good 16 u.ring
  contents : u.ring.contents 16 = l.waiting
  taken : l.taken ≤ l.kept.length
  ready : u.lsr &&& lsrDr ≠ 0 ↔ l.waiting ≠ []
  overrun : u.lsr &&& lsrOe ≠ 0 ↔ l.refused = true

lemma Receives.count (h : Receives u l) : u.rxCount = l.waiting.length := by
  rw [← h.contents, length_contents]
  rfl

/-- The receive side is the same. -/
structure SameRx (u u' : Uart) : Prop where
  ring : u'.ring = u.ring
  ready : u'.lsr &&& lsrDr = u.lsr &&& lsrDr
  overrun : u'.lsr &&& lsrOe = u.lsr &&& lsrOe

lemma SameRx.receives (h : SameRx u u') (hr : Receives u l) : Receives u' l where
  good := h.ring ▸ hr.good
  contents := h.ring ▸ hr.contents
  taken := hr.taken
  ready := h.ready ▸ hr.ready
  overrun := h.overrun ▸ hr.overrun

/-! ## The accesses -/

lemma Receives.push (h : Receives u l) (data : UInt8) : Receives (uartRxPush u data) (l.push data) := by
  have hcount := h.count
  unfold uartRxPush RxLog.push
  by_cases hfull : 16 ≤ u.rxCount
  · rw [if_pos hfull, if_neg (by omega)]
    refine ⟨h.good, h.contents, h.taken, ?_, iff_of_true ?_ rfl⟩
    · show (u.lsr ||| lsrOe) &&& lsrDr ≠ 0 ↔ _
      rw [or_and_of_disjoint (by decide)]
      exact h.ready
    · show (u.lsr ||| lsrOe) &&& lsrOe ≠ 0
      rw [or_mask_and]
      decide
  · rw [if_neg hfull, if_pos (by omega)]
    have hroom : u.ring.count < 16 := Nat.lt_of_not_le hfull
    have hwaiting : (l.kept ++ [data]).drop l.taken = l.waiting ++ [data] := List.drop_append_of_le_length h.taken
    refine ⟨?_, ?_, ?_, iff_of_true ?_ ?_, ?_⟩
    · rw [ring_push]
      exact h.good.push hroom data
    · rw [ring_push, contents_push h.good hroom, h.contents]
      exact hwaiting.symm
    · show l.taken ≤ (l.kept ++ [data]).length
      rw [List.length_append]
      exact h.taken.trans (Nat.le_add_right _ _)
    · show (u.lsr ||| lsrDr) &&& lsrDr ≠ 0
      rw [or_mask_and]
      decide
    · show (l.kept ++ [data]).drop l.taken ≠ []
      rw [hwaiting]
      exact List.append_ne_nil_of_right_ne_nil _ (List.cons_ne_nil _ _)
    · show (u.lsr ||| lsrDr) &&& lsrOe ≠ 0 ↔ _
      rw [or_and_of_disjoint (by decide)]
      exact h.overrun

lemma Receives.readRbr_value (h : Receives u l) {data : UInt8} {rest : List UInt8} (hw : l.waiting = data :: rest) :
    u.readRbr.1 = data := by
  have hcount := h.count
  rw [hw, List.length_cons] at hcount
  have hfull : 0 < u.rxCount := by omega
  have hpop := contents_pop h.good hfull
  rw [h.contents, hw] at hpop
  have hslot : u.ring.slots u.ring.tail = u.rxFifo u.rxTail := dif_pos u.rxTail.isLt
  rw [Uart.readRbr, if_pos hfull, ← hslot]
  exact (List.cons_eq_cons.mp hpop).1.symm

lemma Receives.readRbr (h : Receives u l) :
    Receives u.readRbr.2 (if l.waiting = [] then l else { l with taken := l.taken + 1 }) := by
  have hcount := h.count
  unfold Uart.readRbr
  cases hw : l.waiting with
  | nil =>
    rw [hw] at hcount
    rw [if_pos rfl, if_neg (by rw [hcount]; exact Nat.lt_irrefl 0)]
    refine ⟨h.good, h.contents, h.taken, iff_of_false ?_ (not_not.mpr hw), ?_⟩
    · show ¬u.lsr &&& ~~~lsrDr &&& lsrDr ≠ 0
      rw [and_not_and_self]
      exact not_not.mpr rfl
    · show u.lsr &&& ~~~lsrDr &&& lsrOe ≠ 0 ↔ _
      rw [and_not_and (by decide)]
      exact h.overrun
  | cons data rest =>
    rw [hw, List.length_cons] at hcount
    have hfull : 0 < u.rxCount := by omega
    have hpop := contents_pop h.good hfull
    rw [h.contents, hw] at hpop
    have hrest : l.kept.drop (l.taken + 1) = rest := by
      have htail : (l.kept.drop l.taken).tail = rest := congrArg List.tail hw
      rw [List.tail_drop] at htail
      exact htail
    have htaken : l.taken + 1 ≤ l.kept.length := by
      have hlen : (l.kept.drop l.taken).length = rest.length + 1 := congrArg List.length hw
      rw [List.length_drop] at hlen
      omega
    have hcontents : (u.ring.pop 16).contents 16 = l.kept.drop (l.taken + 1) := by
      rw [hrest]
      exact (List.cons_eq_cons.mp hpop).2.symm
    rw [if_neg (List.cons_ne_nil _ _), if_pos hfull]
    split
    next hmore =>
      refine ⟨?_, ?_, htaken, iff_of_true ?_ ?_, h.overrun⟩
      · rw [ring_pop]
        exact h.good.pop hfull
      · rw [ring_pop]
        exact hcontents
      · exact h.ready.mpr (by rw [hw]; exact List.cons_ne_nil _ _)
      · show l.kept.drop (l.taken + 1) ≠ []
        rw [hrest, ← List.length_pos_iff]
        omega
    next hlast =>
      refine ⟨?_, ?_, htaken, iff_of_false ?_ ?_, ?_⟩
      · rw [ring_pop]
        exact h.good.pop hfull
      · rw [ring_pop]
        exact hcontents
      · show ¬u.lsr &&& ~~~lsrDr &&& lsrDr ≠ 0
        rw [and_not_and_self]
        exact not_not.mpr rfl
      · show ¬l.kept.drop (l.taken + 1) ≠ []
        rw [hrest, not_not, ← List.length_eq_zero_iff]
        omega
      · show u.lsr &&& ~~~lsrDr &&& lsrOe ≠ 0 ↔ _
        rw [and_not_and (by decide)]
        exact h.overrun

lemma Receives.readLsr (h : Receives u l) : Receives u.readLsr { l with refused := false } where
  good := h.good
  contents := h.contents
  taken := h.taken
  ready := by
    show u.lsr &&& ~~~(lsrOe ||| lsrPe ||| lsrFe ||| lsrBi) &&& lsrDr ≠ 0 ↔ _
    rw [and_not_and (by decide)]
    exact h.ready
  overrun := by
    have hclear : u.lsr &&& ~~~(lsrOe ||| lsrPe ||| lsrFe ||| lsrBi) &&& lsrOe = 0 := by
      rw [UInt8.and_assoc, show ~~~(lsrOe ||| lsrPe ||| lsrFe ||| lsrBi) &&& lsrOe = 0 by decide, UInt8.and_zero]
    exact iff_of_false (not_not.mpr hclear) nofun

lemma Receives.writeFcr (h : Receives u l) (val : UInt8) :
    Receives (u.writeFcr val) (if val &&& 0x02 ≠ 0 then { l with kept := l.kept.take l.taken } else l) := by
  unfold Uart.writeFcr
  split
  · have hempty : (l.kept.take l.taken).drop l.taken = [] := by
      rw [List.drop_eq_nil_iff, List.length_take]
      exact Nat.min_le_left _ _
    refine ⟨good_clear (by decide) u.ring, ?_, ?_, iff_of_false ?_ (not_not.mpr hempty), ?_⟩
    · show (u.ring.clear).contents 16 = (l.kept.take l.taken).drop l.taken
      rw [contents_clear, hempty]
    · show l.taken ≤ (l.kept.take l.taken).length
      rw [List.length_take, Nat.min_eq_left h.taken]
    · show ¬u.lsr &&& ~~~lsrDr &&& lsrDr ≠ 0
      rw [and_not_and_self]
      exact not_not.mpr rfl
    · show u.lsr &&& ~~~lsrDr &&& lsrOe ≠ 0 ↔ _
      rw [and_not_and (by decide)]
      exact h.overrun
  · exact ⟨h.good, h.contents, h.taken, h.ready, h.overrun⟩

lemma sameRx_transmitted (u : Uart) : SameRx u u.transmitted := by
  have hbits : ∀ n : UInt8, ~~~lsrThre &&& n = n → ~~~lsrTemt &&& n = n → (lsrThre ||| lsrTemt) &&& n = 0 →
      u.transmitted.lsr &&& n = u.lsr &&& n := by
    intro n hthre htemt hboth
    show ((u.lsr &&& ~~~lsrThre &&& ~~~lsrTemt) ||| (lsrThre ||| lsrTemt)) &&& n = _
    rw [or_and_of_disjoint hboth, and_not_and htemt, and_not_and hthre]
  exact ⟨rfl, hbits _ (by decide) (by decide) (by decide), hbits _ (by decide) (by decide) (by decide)⟩

lemma sameRx_readIir (u : Uart) : SameRx u u.readIir := by
  unfold Uart.readIir
  dsimp only
  split
  · exact ⟨rfl, rfl, rfl⟩
  · exact ⟨rfl, rfl, rfl⟩

lemma sameRx_loopback (u : Uart) (val : UInt8) : SameRx u (u.loopback val) := by
  unfold Uart.loopback
  split
  · exact ⟨rfl, rfl, rfl⟩
  · exact ⟨rfl, rfl, rfl⟩

/-! ## The ports and the log -/

/-- The port's buffer and latches are as logged. -/
structure RxTracks (port : SerialPortId) (p : Ports) (l : RxLog) : Prop where
  dlab : ∀ q, (p.uart q).lcr &&& lcrDlab ≠ 0 ↔ l.dlab q = true
  receives : Receives (p.uart port) l

variable {port : SerialPortId} {p : Ports} {l' : RxLog}

lemma RxTracks.updateIrq (h : RxTracks port p l) (q : SerialPortId) : RxTracks port (uartUpdateIrq p q) l where
  dlab := by
    rw [uart_updateIrq]
    exact h.dlab
  receives := by
    rw [uart_updateIrq]
    exact h.receives

lemma uart_put_ne {q q' : SerialPortId} (hq : q' ≠ q) : (p.put q u').uart q' = p.uart q' :=
  Function.update_of_ne hq _ _

lemma RxTracks.put (h : RxTracks port p l) (q : SerialPortId) (u' : Uart) (hlcr : u'.lcr = (p.uart q).lcr)
    (hdlab : l'.dlab = l.dlab) (hport : q = port → Receives u' l') (hother : q ≠ port → l' = l) :
    RxTracks port (p.put q u') l' := by
  refine ⟨fun q' => ?_, ?_⟩
  · rw [hdlab, ← h.dlab q']
    by_cases hq : q' = q
    · rw [hq, uart_put, hlcr]
    · rw [uart_put_ne hq]
  · by_cases hq : q = port
    · rw [hq, uart_put]
      exact hport hq
    · rw [uart_put_ne (Ne.symm hq), hother hq]
      exact h.receives

lemma RxTracks.put_same (h : RxTracks port p l) (q : SerialPortId) (u' : Uart) (hlcr : u'.lcr = (p.uart q).lcr)
    (hsame : SameRx (p.uart q) u') : RxTracks port (p.put q u') l := by
  refine h.put q u' hlcr rfl (fun hq => ?_) fun _ => rfl
  rw [hq] at hsame
  exact hsame.receives h.receives

lemma dlab_push (l : RxLog) (data : UInt8) : (l.push data).dlab = l.dlab := by
  unfold RxLog.push
  split <;> rfl

lemma RxTracks.arrive (h : RxTracks port p l) (a : Arrival) : RxTracks port (arrive p a) (l.arrive port a) := by
  cases a with
  | serialRx q data =>
    refine RxTracks.updateIrq (h.put q _ ?_ ?_ (fun hq => ?_) fun hq => if_neg hq) q
    · unfold uartRxPush
      split <;> rfl
    · split
      · exact dlab_push l data
      · rfl
    · show Receives _ (if q = port then l.push data else l)
      rw [if_pos hq, hq]
      exact h.receives.push data
  | serialUpdateMsr q status =>
    exact (h.put_same q (uartModemLines (p.uart q) status) rfl ⟨rfl, rfl, rfl⟩).updateIrq q

lemma RxTracks.arrivals (h : RxTracks port p l) (as : List Arrival) :
    RxTracks port (as.foldl Superio.arrive p) (as.foldl (RxLog.arrive port) l) := by
  induction as generalizing p l with
  | nil => exact h
  | cons a as ih => exact ih (h.arrive a)

lemma lcr_writeFcr (u : Uart) (val : UInt8) : (u.writeFcr val).lcr = u.lcr := by
  unfold Uart.writeFcr
  dsimp only
  split <;> rfl

lemma lcr_loopback (u : Uart) (val : UInt8) : (u.loopback val).lcr = u.lcr := by
  unfold Uart.loopback
  split <;> rfl

lemma RxTracks.write (h : RxTracks port p l) (q : SerialPortId) (reg : UartReg) (val : UInt8)
    (meanwhile : List Arrival) :
    RxTracks port (uartWrite p q reg val meanwhile) (l.write port q val meanwhile reg) := by
  cases reg with
  | rbr =>
    unfold uartWrite RxLog.write
    dsimp only
    by_cases hdlab : (p.uart q).lcr &&& lcrDlab ≠ 0
    · rw [if_pos hdlab, if_pos ((h.dlab q).mp hdlab)]
      exact h.put_same q _ rfl ⟨rfl, rfl, rfl⟩
    · rw [if_neg hdlab, if_neg (mt (h.dlab q).mpr hdlab)]
      exact ((h.arrivals meanwhile).put_same q (Uart.transmitted _) rfl (sameRx_transmitted _)).updateIrq q
  | ier =>
    unfold uartWrite
    dsimp only
    split
    · exact h.put_same q _ rfl ⟨rfl, rfl, rfl⟩
    · exact (h.put_same q ((p.uart q).writeIer val) rfl ⟨rfl, rfl, rfl⟩).updateIrq q
  | iir =>
    refine RxTracks.updateIrq (h.put q _ (lcr_writeFcr _ val) ?_ (fun hq => ?_) fun hq => ?_) q
    · unfold RxLog.write
      dsimp only
      split <;> rfl
    · have hfcr := h.receives.writeFcr val
      unfold RxLog.write
      rw [hq]
      simpa only [true_and] using hfcr
    · exact if_neg fun hand => hq hand.1
  | lcr =>
    refine ⟨fun q' => ?_, ?_⟩
    · show ((Function.update p.uart q { p.uart q with lcr := val }) q').lcr &&& lcrDlab ≠ 0 ↔
        Function.update l.dlab q (val &&& 0x80 != 0) q' = true
      by_cases hq : q' = q
      · rw [hq, Function.update_self, Function.update_self, bne_iff_ne]
        exact Iff.rfl
      · rw [Function.update_of_ne hq, Function.update_of_ne hq]
        exact h.dlab q'
    · show Receives (Function.update p.uart q { p.uart q with lcr := val } port) _
      by_cases hq : port = q
      · rw [hq, Function.update_self]
        rw [hq] at h
        exact ⟨h.receives.good, h.receives.contents, h.receives.taken, h.receives.ready, h.receives.overrun⟩
      · rw [Function.update_of_ne hq]
        exact ⟨h.receives.good, h.receives.contents, h.receives.taken, h.receives.ready, h.receives.overrun⟩
  | mcr =>
    have hput : RxTracks port (p.put q { p.uart q with mcr := val &&& 0x1F }) l :=
      h.put_same q _ rfl ⟨rfl, rfl, rfl⟩
    exact ((hput.arrivals meanwhile).put_same q _ (lcr_loopback _ val) (sameRx_loopback _ val)).updateIrq q
  | scr => exact h.put_same q _ rfl ⟨rfl, rfl, rfl⟩
  | lsr | msr => exact h

lemma lcr_readRbr (u : Uart) : u.readRbr.2.lcr = u.lcr := by
  unfold Uart.readRbr
  split
  · split <;> rfl
  · rfl

lemma lcr_readIir (u : Uart) : u.readIir.lcr = u.lcr := by
  unfold Uart.readIir
  dsimp only
  split <;> rfl

lemma RxTracks.read (h : RxTracks port p l) (q : SerialPortId) (reg : UartReg) (status : UInt8) :
    RxTracks port (uartRead p q reg status).2 (if q = port then l.read port reg else l) := by
  cases reg with
  | rbr =>
    unfold uartRead
    dsimp only
    by_cases hdlab : (p.uart q).lcr &&& lcrDlab ≠ 0
    · rw [if_pos hdlab]
      have hsame : (if q = port then l.read port .rbr else l) = l := by
        split
        next hq => exact if_pos (Or.inl (hq ▸ (h.dlab q).mp hdlab))
        · rfl
      rw [hsame]
      exact h
    · rw [if_neg hdlab]
      refine RxTracks.updateIrq (h.put q _ (lcr_readRbr _) ?_ (fun hq => ?_) fun hq => if_neg hq) q
      · unfold RxLog.read
        dsimp only
        split
        · split <;> rfl
        · rfl
      · have hread := h.receives.readRbr
        have hopen : ¬l.dlab port = true := by
          rw [← h.dlab port, ← hq]
          exact hdlab
        have hlog : l.read port .rbr = if l.waiting = [] then l else { l with taken := l.taken + 1 } :=
          if_congr (or_iff_right hopen) rfl rfl
        rw [if_pos hq, hq, hlog]
        exact hread
  | iir =>
    have hput : RxTracks port (p.put q (p.uart q).readIir) l :=
      h.put_same q _ (lcr_readIir _) (sameRx_readIir _)
    have hsame : (if q = port then l.read port .iir else l) = l := ite_self l
    rw [hsame]
    unfold uartRead
    dsimp only
    split
    · exact hput.updateIrq q
    · exact hput
  | lsr =>
    refine RxTracks.updateIrq (h.put q (p.uart q).readLsr rfl ?_ (fun hq => ?_) fun hq => if_neg hq) q
    · split <;> rfl
    · rw [if_pos hq, hq]
      exact h.receives.readLsr
  | msr =>
    have hsame : (if q = port then l.read port .msr else l) = l := ite_self l
    rw [hsame]
    exact (h.put_same q (p.uart q).readMsr rfl ⟨rfl, rfl, rfl⟩).updateIrq q
  | ier | lcr | mcr | scr =>
    show RxTracks port p (if q = port then l else l)
    rw [ite_self]
    exact h

/-- **The step.** -/
theorem RxTracks.step (h : RxTracks port p l) (e : Event) : RxTracks port (step p e) (l.next port e) := by
  cases e with
  | write q reg val meanwhile => exact h.write q reg val meanwhile
  | read q reg status => exact h.read q reg status
  | arrival a => exact h.arrive a

/-! ## What is read -/

def RxLog.given (l : RxLog) : List UInt8 := l.kept.take l.taken

lemma given_push {l : RxLog} (h : l.taken ≤ l.kept.length) (data : UInt8) : (l.push data).given = l.given := by
  unfold RxLog.push
  split
  · exact List.take_append_of_le_length h
  · rfl

lemma taken_push {l : RxLog} (h : l.taken ≤ l.kept.length) (data : UInt8) :
    (l.push data).taken ≤ (l.push data).kept.length := by
  unfold RxLog.push
  split
  · show l.taken ≤ (l.kept ++ [data]).length
    rw [List.length_append]
    exact h.trans (Nat.le_add_right _ _)
  · exact h

lemma given_arrive {l : RxLog} (h : l.taken ≤ l.kept.length) (a : Arrival) :
    (l.arrive port a).given = l.given ∧ (l.arrive port a).taken ≤ (l.arrive port a).kept.length := by
  cases a with
  | serialRx q data =>
    unfold RxLog.arrive
    dsimp only
    split
    · exact ⟨given_push h data, taken_push h data⟩
    · exact ⟨rfl, h⟩
  | serialUpdateMsr q status => exact ⟨rfl, h⟩

lemma given_arrivals {l : RxLog} (h : l.taken ≤ l.kept.length) (as : List Arrival) :
    (as.foldl (RxLog.arrive port) l).given = l.given := by
  induction as generalizing l with
  | nil => rfl
  | cons a as ih =>
    obtain ⟨hgiven, htaken⟩ : (l.arrive port a).given = l.given ∧
        (l.arrive port a).taken ≤ (l.arrive port a).kept.length := given_arrive h a
    exact (ih htaken).trans hgiven

lemma given_write (h : l.taken ≤ l.kept.length) (q : SerialPortId) (reg : UartReg) (val : UInt8)
    (meanwhile : List Arrival) : (l.write port q val meanwhile reg).given = l.given := by
  cases reg with
  | rbr =>
    unfold RxLog.write
    dsimp only
    split
    · rfl
    · exact given_arrivals h meanwhile
  | mcr => exact given_arrivals h meanwhile
  | iir =>
    unfold RxLog.write
    dsimp only
    split
    · show (l.kept.take l.taken).take l.taken = l.kept.take l.taken
      rw [List.take_take, Nat.min_self]
    · rfl
  | ier | lcr | lsr | msr | scr => rfl

lemma RxTracks.given_next (h : RxTracks port p l) (e : Event) :
    (l.next port e).given = l.given ++ rbrRead port p e := by
  cases e with
  | write q reg val meanwhile =>
    exact (given_write h.receives.taken q reg val meanwhile).trans (List.append_nil _).symm
  | arrival a =>
    exact (given_arrive h.receives.taken a).1.trans (List.append_nil _).symm
  | read q reg status =>
    show (if q = port then l.read port reg else l).given = _
    cases reg with
    | rbr =>
      unfold rbrRead
      dsimp only
      by_cases hq : q = port
      · rw [if_pos hq, hq]
        unfold RxLog.read
        dsimp only
        cases hw : l.waiting with
        | nil =>
          have hnot : ¬(p.uart port).lsr &&& lsrDr ≠ 0 := by
            rw [h.receives.ready, hw]
            exact not_not.mpr rfl
          rw [if_pos (Or.inr rfl), if_neg fun hand => hnot hand.2.2, List.append_nil]
        | cons data rest =>
          have hready : (p.uart port).lsr &&& lsrDr ≠ 0 := by
            rw [h.receives.ready, hw]
            exact List.cons_ne_nil _ _
          by_cases hdlab : l.dlab port = true
          · have hlatch := (h.dlab port).mpr hdlab
            rw [if_pos (Or.inl hdlab), if_neg fun hand => hlatch hand.2.1, List.append_nil]
          · have hopen : (p.uart port).lcr &&& lcrDlab = 0 := not_not.mp (mt (h.dlab port).mp hdlab)
            have hvalue : (uartRead p port .rbr status).1 = data := by
              unfold uartRead
              dsimp only
              rw [if_neg (not_not.mpr hopen)]
              exact h.receives.readRbr_value hw
            rw [if_neg (not_or.mpr ⟨hdlab, List.cons_ne_nil _ _⟩), if_pos ⟨rfl, hopen, hready⟩, hvalue]
            show l.kept.take (l.taken + 1) = l.kept.take l.taken ++ [data]
            have hget : l.kept[l.taken]? = some data := by
              rw [← List.head?_drop]
              exact congrArg List.head? hw
            rw [List.take_add_one, hget, Option.toList_some]
      · rw [if_neg hq, if_neg fun hand => hq hand.1, List.append_nil]
    | ier | iir | lcr | mcr | lsr | msr | scr =>
      rw [rbrRead, List.append_nil]
      · split <;> rfl
      · exact nofun

/-- **The run.** -/
theorem rxTracks_exec (h : RxTracks port p l) (es : List Event) :
    RxTracks port (exec step p es) (es.foldl (RxLog.next port) l) ∧
      (es.foldl (RxLog.next port) l).given = l.given ++ received port p es := by
  induction es generalizing p l with
  | nil => exact ⟨h, (List.append_nil _).symm⟩
  | cons e es ih =>
    obtain ⟨htracks, hgiven⟩ := ih (h.step e)
    refine ⟨htracks, ?_⟩
    rw [List.foldl_cons, hgiven, h.given_next e, List.append_assoc]
    rfl

lemma receives_reset : Receives uartReset rxLogStart :=
  ⟨⟨by decide, by decide, by decide⟩, rfl, by decide, by decide, by decide⟩

lemma rxTracks_reset (iomd : IomdState) (iomdType : IomdType) (port : SerialPortId) :
    RxTracks port (reset iomd iomdType) rxLogStart where
  dlab _ := by
    show uartReset.lcr &&& lcrDlab ≠ 0 ↔ false = true
    decide
  receives := receives_reset

/-! ## The space -/

lemma RxTracks.kept_arrivals (h : RxTracks port p l) (data : List UInt8) :
    let l' := (data.map fun b => Event.arrival (.serialRx port b)).foldl (RxLog.next port) l
    l'.kept = l.kept ++ data.take (superioSerialRxSpace p port) ∧
      (l'.refused = true ↔ l.refused = true ∨ superioSerialRxSpace p port < data.length) := by
  induction data generalizing p l with
  | nil =>
    refine ⟨?_, ?_⟩
    · rw [List.take_nil, List.append_nil]
      rfl
    show l.refused = true ↔ _
    rw [List.length_nil]
    exact (or_iff_left (Nat.not_lt_zero _)).symm
  | cons b data ih =>
    have hcount := h.receives.count
    have hle : (p.uart port).rxCount ≤ 16 := h.receives.good.count_le
    obtain ⟨hkept, hrefused⟩ := ih (h.step (.arrival (.serialRx port b)))
    have hspace : superioSerialRxSpace (Superio.step p (.arrival (.serialRx port b))) port =
        superioSerialRxSpace p port - 1 := by
      show 16 - ((uartUpdateIrq (p.put port (uartRxPush (p.uart port) b)) port).uart port).rxCount =
        16 - (p.uart port).rxCount - 1
      rw [uart_updateIrq, uart_put]
      unfold uartRxPush
      split
      · show 16 - (p.uart port).rxCount = _
        omega
      · show 16 - ((p.uart port).rxCount + 1) = _
        omega
    have hnext : l.next port (.arrival (.serialRx port b)) = l.push b := if_pos rfl
    rw [hspace, hnext] at hkept hrefused
    rw [List.map_cons, List.foldl_cons, hnext]
    refine ⟨hkept.trans ?_, hrefused.trans ?_⟩
    · unfold RxLog.push superioSerialRxSpace
      rw [← hcount]
      split
      next hroom =>
        obtain ⟨n, hn⟩ : ∃ n, 16 - (p.uart port).rxCount = n + 1 := ⟨15 - (p.uart port).rxCount, by omega⟩
        rw [hn, List.take_succ_cons, Nat.add_sub_cancel, List.append_assoc, List.singleton_append]
      next hfull =>
        rw [show 16 - (p.uart port).rxCount = 0 by omega, List.take_zero, List.take_zero]
    · unfold RxLog.push superioSerialRxSpace
      rw [← hcount, List.length_cons]
      split
      next hroom =>
        refine or_congr_right ?_
        omega
      next hfull => exact iff_of_true (Or.inl rfl) (Or.inr (by omega))

/-- **The receive path**: the guest has read, in order, what came while there was room and was not discarded;
data-ready says whether a byte waits, and overrun whether one has been refused; and what fits is the space. -/
theorem receive_path (iomd : IomdState) (iomdType : IomdType) (port : SerialPortId) (es : List Event) :
    let p := exec step (reset iomd iomdType) es
    let l := rxLog port es
    received port (reset iomd iomdType) es = l.kept.take l.taken ∧
      ((p.uart port).lsr &&& lsrDr ≠ 0 ↔ l.waiting ≠ []) ∧ ((p.uart port).lsr &&& lsrOe ≠ 0 ↔ l.refused = true) ∧
      ∀ data : List UInt8,
        let l' := rxLog port (es ++ data.map fun b => .arrival (.serialRx port b))
        l'.kept = l.kept ++ data.take (superioSerialRxSpace p port) ∧
          (l'.refused = true ↔ l.refused = true ∨ superioSerialRxSpace p port < data.length) := by
  obtain ⟨htracks, hgiven⟩ := rxTracks_exec (rxTracks_reset iomd iomdType port) es
  refine ⟨hgiven.symm, htracks.receives.ready, htracks.receives.overrun, fun data => ?_⟩
  have harrivals := htracks.kept_arrivals data
  unfold rxLog
  rw [List.foldl_append]
  exact harrivals

end RpcEmu.Superio
