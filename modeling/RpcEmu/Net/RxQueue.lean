import RpcEmu.Lib.CountedRing
import RpcEmu.Lib.Runs
import RpcEmu.Lib.Stream

/-!
# Received frames on their way to the guest

The receive side of `network-nat.c`.  The frame the guest takes next is in a slot of its own, and the
frames behind it are in a ring of `PKT_QUEUE_SIZE`; SLiRP and the Access relay both come in through
`rxDeliver`.
-/

namespace RpcEmu.Net

open CountedRing Streams

def pktMaxSize : Nat := 2048
def pktQueueSize : Nat := 32
def headerLen : Nat := 14

/-- `queued_packet_t`. -/
structure QueuedPacket where
  data : List UInt8
  len : Nat

def QueuedPacket.frame (p : QueuedPacket) : List UInt8 := p.data.take p.len

/-- The receive side of `nat`, with `network_poduleinfo` and the podule's interrupt line. -/
structure NatState where
  irqStatus : UInt32
  buffer : List UInt8
  bufferLen : Nat
  pktQueue : CountedRing.Ring QueuedPacket
  poduleinfo : Bool
  irq : Bool

/-- `memcpy` to the start of a buffer. -/
def memcpy (dst src : List UInt8) : List UInt8 := src ++ dst.drop src.length

@[simp] lemma take_memcpy (dst src : List UInt8) : (memcpy dst src).take src.length = src := by
  simp [memcpy]

variable (s : NatState)

/-- `network_irq_raise`. -/
def networkIrqRaise : NatState := { s with irq := s.irq || s.poduleinfo }

/-- `network_irq_lower`. -/
def networkIrqLower : NatState := { s with irq := s.irq && !s.poduleinfo }

/-- `rx_space`. -/
def rxSpace : Nat := (if s.bufferLen = 0 then 1 else 0) + (pktQueueSize - s.pktQueue.count)

def unready : Bool := s.irqStatus == 0 || !s.poduleinfo

def fillSlot (data : List UInt8) (len : Nat) : NatState :=
  networkIrqRaise { s with buffer := memcpy s.buffer data, bufferLen := len }

def enqueue (pkt : List UInt8) : NatState :=
  let slot := s.pktQueue.slots s.pktQueue.head
  { s with pktQueue := s.pktQueue.push pktQueueSize ⟨memcpy slot.data pkt, pkt.length⟩ }

/-- `rx_deliver`: whether the frame was taken. -/
def rxDeliver (pkt : List UInt8) : Bool × NatState :=
  if pkt.length = 0 ∨ pktMaxSize < pkt.length then (false, s)
  else if unready s then (false, s)
  else if s.bufferLen = 0 ∧ s.pktQueue.count = 0 then (true, fillSlot s pkt pkt.length)
  else if pktQueueSize ≤ s.pktQueue.count then (false, s)
  else (true, enqueue s pkt)

/-- `slirp_output`. -/
def slirpOutput (pkt : List UInt8) : Bool × NatState :=
  if pkt.length ≤ 0 then (false, s) else rxDeliver s pkt

/-- `network_nat_inject_packet`. -/
def networkNatInjectPacket (pkt : List UInt8) : Bool × NatState :=
  if pkt.length ≤ 0 then (false, s) else rxDeliver s pkt

/-- `network_nat_inject_space`. -/
def networkNatInjectSpace : Nat := if unready s then 0 else rxSpace s

/-- `deliver_queued_packet`. -/
def deliverQueuedPacket : NatState :=
  if s.pktQueue.count = 0 then s
  else if s.bufferLen ≠ 0 then s
  else
    let pkt := s.pktQueue.slots s.pktQueue.tail
    fillSlot { s with pktQueue := s.pktQueue.pop pktQueueSize } (pkt.data.take pkt.len) pkt.len

/-- `struct ro_mbuf_part`. -/
structure RoMbufPart where
  mNext : UInt32
  mList : UInt32
  mOff : UInt32
  mLen : UInt32
  mInioff : UInt32
  mInilen : UInt32
  deriving DecidableEq

def RoMbufPart.bytes (m : RoMbufPart) : List UInt8 :=
  u32Bytes m.mNext ++ u32Bytes m.mList ++ u32Bytes m.mOff ++ u32Bytes m.mLen ++ u32Bytes m.mInioff ++
    u32Bytes m.mInilen

/-- `struct rx_hdr`. -/
structure RxHdr where
  rxPtr : UInt32
  rxTag : UInt32
  rxSrcAddr : List UInt8
  rxDstAddr : List UInt8
  rxFrameType : UInt32
  rxErrorLevel : UInt32
  rxCksum : UInt32
  deriving DecidableEq

def RxHdr.bytes (h : RxHdr) : List UInt8 :=
  u32Bytes h.rxPtr ++ u32Bytes h.rxTag ++ h.rxSrcAddr ++ [0, 0] ++ h.rxDstAddr ++ [0, 0] ++
    u32Bytes h.rxFrameType ++ u32Bytes h.rxErrorLevel ++ u32Bytes h.rxCksum

def rxHdrOf (frame : List UInt8) : RxHdr where
  rxPtr := 0
  rxTag := 0
  rxSrcAddr := (frame.drop 6).take 6
  rxDstAddr := frame.take 6
  rxFrameType := ((frame.getD 12 0).toUInt32 <<< 8) ||| (frame.getD 13 0).toUInt32
  rxErrorLevel := 0
  rxCksum := 0

/-- What becomes of a receive call: the frame it took, and what it writes in the guest's memory and where,
in order. -/
inductive RxOutcome
  | noData
  | dropped (frame : List UInt8)
  | delivered (frame : List UInt8) (writes : List (UInt32 × List UInt8))

def RxOutcome.presented : RxOutcome → Option (List UInt8)
  | .noData => none
  | .dropped frame => some frame
  | .delivered frame _ => some frame

/-- `network_nat_rx`; `rxb` is what the guest has at `mbuf`. -/
def networkNatRx (mbuf rxhdr : UInt32) (rxb : RoMbufPart) : RxOutcome × NatState :=
  let s := if s.bufferLen = 0 then deliverQueuedPacket s else s
  if s.bufferLen = 0 then (.noData, s)
  else
    let frame := s.buffer.take s.bufferLen
    -- from here the frame is consumed whatever happens to it
    let s' := deliverQueuedPacket { s with bufferLen := 0 }
    if mbuf = 0 ∨ s.bufferLen ≤ headerLen then (.dropped frame, s')
    else
      let payloadLen := s.bufferLen - headerLen
      if rxb.mInilen.toNat < payloadLen then (.dropped frame, s')
      else
        let rxb' := { rxb with mOff := rxb.mInioff, mLen := UInt32.ofNat payloadLen }
        (.delivered frame [(rxhdr, (rxHdrOf frame).bytes), (mbuf + rxb'.mOff, frame.drop headerLen),
          (mbuf, rxb'.bytes)], s')

/-- `network_nat_reset`. -/
def networkNatReset : NatState :=
  { networkIrqLower s with bufferLen := 0, pktQueue := s.pktQueue.clear }

/-- `network_nat_setirqstatus`. -/
def networkNatSetirqstatus (address : UInt32) : NatState := { s with irqStatus := address }

/-- `network_nat_loadstate`; `address` is what the snapshot holds. -/
def networkNatLoadstate (address : UInt32) : NatState :=
  if address ≠ 0 then networkNatSetirqstatus s address else s

def started (poduleinfo : Bool) : NatState where
  irqStatus := 0
  buffer := List.replicate pktMaxSize 0
  bufferLen := 0
  pktQueue := ⟨fun _ => ⟨List.replicate pktMaxSize 0, 0⟩, 0, 0, 0⟩
  poduleinfo := poduleinfo
  irq := false

/-! ## Runs -/

inductive RxEvent
  | slirpOutput (pkt : List UInt8)
  | injectPacket (pkt : List UInt8)
  | rx (mbuf rxhdr : UInt32) (rxb : RoMbufPart)
  | reset
  | setirqstatus (address : UInt32)
  | loadstate (address : UInt32)

def RxEvent.frame? : RxEvent → Option (List UInt8)
  | .slirpOutput pkt => some pkt
  | .injectPacket pkt => some pkt
  | _ => none

def RxEvent.isReset : RxEvent → Bool
  | .reset => true
  | _ => false

def RxEvent.isRx : RxEvent → Bool
  | .rx .. => true
  | _ => false

def rxStep : RxEvent → NatState × Option (List UInt8) × Option (List UInt8)
  | .slirpOutput pkt =>
    let (taken, s') := slirpOutput s pkt
    (s', if taken then some pkt else none, none)
  | .injectPacket pkt =>
    let (taken, s') := networkNatInjectPacket s pkt
    (s', if taken then some pkt else none, none)
  | .rx mbuf rxhdr rxb =>
    let (outcome, s') := networkNatRx s mbuf rxhdr rxb
    (s', none, outcome.presented)
  | .reset => (networkNatReset s, none, none)
  | .setirqstatus address => (networkNatSetirqstatus s address, none, none)
  | .loadstate address => (networkNatLoadstate s address, none, none)

def rxNext (s : NatState) (e : RxEvent) : NatState := (rxStep s e).1

def accepted : NatState → List RxEvent → List (List UInt8)
  | _, [] => []
  | s, e :: es => (rxStep s e).2.1.toList ++ accepted (rxNext s e) es

def presented : NatState → List RxEvent → List (List UInt8)
  | _, [] => []
  | s, e :: es => (rxStep s e).2.2.toList ++ presented (rxNext s e) es

/-- The one queue that the slot and the ring are. -/
def waiting : List (List UInt8) :=
  (if s.bufferLen = 0 then [] else [s.buffer.take s.bufferLen]) ++
    (s.pktQueue.contents pktQueueSize).map QueuedPacket.frame

/-- The ring is good, and its frames have their lengths. -/
structure Sound (s : NatState) : Prop where
  ring : Good pktQueueSize s.pktQueue
  frames : ∀ p ∈ s.pktQueue.contents pktQueueSize, p.len ≠ 0 ∧ p.frame.length = p.len

/-- An empty slot has nothing behind it. -/
structure Settled (s : NatState) : Prop extends Sound s where
  slot : s.bufferLen = 0 → s.pktQueue.count = 0

section Waiting

variable {s : NatState}

lemma waiting_empty (h : s.bufferLen = 0) :
    waiting s = (s.pktQueue.contents pktQueueSize).map QueuedPacket.frame := by simp [waiting, h]

lemma waiting_full (h : s.bufferLen ≠ 0) :
    waiting s = s.buffer.take s.bufferLen :: waiting { s with bufferLen := 0 } := by simp [waiting, h]

lemma waiting_fillSlot (frame : List UInt8) (h : frame.length ≠ 0) :
    waiting (fillSlot s frame frame.length) =
      frame :: (s.pktQueue.contents pktQueueSize).map QueuedPacket.frame := by
  simp [waiting, fillSlot, networkIrqRaise, h]

lemma length_waiting : (waiting s).length = (if s.bufferLen = 0 then 0 else 1) + s.pktQueue.count := by
  by_cases h : s.bufferLen = 0 <;> simp [waiting, h, Nat.add_comm]

lemma rxSpace_add_waiting (h : Settled s) : rxSpace s + (waiting s).length = 1 + pktQueueSize := by
  have hcount := h.ring.count_le
  rw [length_waiting, rxSpace]
  split <;> omega

lemma settled_of_full (h : Sound s) (hfull : s.bufferLen ≠ 0) : Settled s :=
  { h with slot := fun hempty => absurd hempty hfull }

lemma bufferLen_fillSlot (data : List UInt8) (len : Nat) : (fillSlot s data len).bufferLen = len := rfl

end Waiting

/-! ## What each call does to the queue -/

section Calls

variable {s : NatState}

lemma deliverQueuedPacket_spec (h : Sound s) :
    Settled (deliverQueuedPacket s) ∧ waiting (deliverQueuedPacket s) = waiting s := by
  unfold deliverQueuedPacket
  split
  next hnone => exact ⟨{ h with slot := fun _ => hnone }, rfl⟩
  next hsome =>
    split
    next hbusy => exact ⟨settled_of_full h hbusy, rfl⟩
    next hidle =>
      have hidle : s.bufferLen = 0 := not_not.mp hidle
      have hpop := contents_pop h.ring (Nat.pos_of_ne_zero hsome)
      obtain ⟨hlen, hframe⟩ := h.frames _ (hpop ▸ List.mem_cons_self)
      have hrest : Sound { s with pktQueue := s.pktQueue.pop pktQueueSize } :=
        ⟨h.ring.pop (Nat.pos_of_ne_zero hsome),
          fun p hp => h.frames p (hpop ▸ List.mem_cons_of_mem _ hp)⟩
      have hwaiting := waiting_fillSlot (s := { s with pktQueue := s.pktQueue.pop pktQueueSize })
        (s.pktQueue.slots s.pktQueue.tail).frame (by rw [hframe]; exact hlen)
      rw [hframe] at hwaiting
      refine ⟨settled_of_full ⟨hrest.ring, hrest.frames⟩ hlen, ?_⟩
      rw [waiting_empty hidle, hpop, List.map_cons]
      exact hwaiting

lemma unready_deliverQueuedPacket : unready (deliverQueuedPacket s) = unready s := by
  unfold deliverQueuedPacket
  split_ifs <;> rfl

lemma rxDeliver_spec (h : Settled s) (pkt : List UInt8) :
    Settled (rxDeliver s pkt).2 ∧
      waiting (rxDeliver s pkt).2 = waiting s ++ (if (rxDeliver s pkt).1 then [pkt] else []) ∧
      unready (rxDeliver s pkt).2 = unready s ∧
      ((rxDeliver s pkt).1 = true ↔
        (1 ≤ pkt.length ∧ pkt.length ≤ pktMaxSize) ∧ 0 < networkNatInjectSpace s) := by
  unfold rxDeliver networkNatInjectSpace
  by_cases hlen : pkt.length = 0 ∨ pktMaxSize < pkt.length
  · rw [if_pos hlen]
    refine ⟨h, by simp, rfl, ?_⟩
    constructor
    · intro hfalse
      cases hfalse
    · rintro ⟨⟨hpos, hle⟩, -⟩
      omega
  rw [if_neg hlen]
  have hfits : 1 ≤ pkt.length ∧ pkt.length ≤ pktMaxSize := by omega
  by_cases hready : unready s
  · simp [hready, h]
  rw [if_neg hready, if_neg hready]
  by_cases hempty : s.bufferLen = 0 ∧ s.pktQueue.count = 0
  · rw [if_pos hempty]
    have hwaiting := waiting_fillSlot (s := s) pkt (by omega)
    have hnone : waiting s = [] := List.eq_nil_of_length_eq_zero (by simp [length_waiting, hempty])
    have hcontents : s.pktQueue.contents pktQueueSize = [] :=
      List.eq_nil_of_length_eq_zero (by simp [hempty.2])
    refine ⟨settled_of_full ⟨h.ring, h.frames⟩ (by rw [bufferLen_fillSlot]; omega), ?_, rfl, ?_⟩
    · rw [hwaiting, hnone, hcontents]
      rfl
    · simp [hfits, rxSpace, hempty]
  rw [if_neg hempty]
  have hslot : s.bufferLen ≠ 0 := fun hidle => hempty ⟨hidle, h.slot hidle⟩
  by_cases hfull : pktQueueSize ≤ s.pktQueue.count
  · rw [if_pos hfull]
    refine ⟨h, by simp, rfl, ?_⟩
    simp [rxSpace, hslot, hfull]
  · rw [if_neg hfull]
    rw [Nat.not_le] at hfull
    have hpush := fun q => contents_push h.ring hfull q
    have hframe : (QueuedPacket.mk (memcpy (s.pktQueue.slots s.pktQueue.head).data pkt)
        pkt.length).frame = pkt := take_memcpy _ _
    refine ⟨settled_of_full ⟨h.ring.push hfull _, ?_⟩ hslot, ?_, rfl, ?_⟩
    · intro p hp
      have hp' := (hpush _ ▸ hp : p ∈ _ ++ [_])
      rcases List.mem_append.mp hp' with hold | hnew
      · exact h.frames p hold
      · rw [List.mem_singleton.mp hnew, hframe]
        exact ⟨by show pkt.length ≠ 0; omega, rfl⟩
    · have hcontents : (enqueue s pkt).pktQueue.contents pktQueueSize = _ := hpush _
      have hbuffer : (enqueue s pkt).bufferLen = s.bufferLen := rfl
      rw [waiting, waiting, hcontents, hbuffer, List.map_append, List.map_singleton, hframe]
      simp [enqueue]
    · simp [hfits, rxSpace, hslot, hfull]

lemma rxDeliver_room (h : Settled s) {pkt : List UInt8} (hfits : 1 ≤ pkt.length ∧ pkt.length ≤ pktMaxSize)
    (hroom : 0 < networkNatInjectSpace s) :
    (rxDeliver s pkt).1 = true ∧ Settled (rxDeliver s pkt).2 ∧
      waiting (rxDeliver s pkt).2 = waiting s ++ [pkt] ∧
      networkNatInjectSpace (rxDeliver s pkt).2 + 1 = networkNatInjectSpace s := by
  obtain ⟨hnext, hwaiting, hready, htaken⟩ := rxDeliver_spec h pkt
  have htaken' := htaken.mpr ⟨hfits, hroom⟩
  rw [htaken', if_pos rfl] at hwaiting
  refine ⟨htaken', hnext, hwaiting, ?_⟩
  have hspace := rxSpace_add_waiting h
  have hspace' := rxSpace_add_waiting hnext
  rw [hwaiting, List.length_append, List.length_singleton] at hspace'
  unfold networkNatInjectSpace at hroom ⊢
  rw [hready]
  split
  next hunready => simp [hunready] at hroom
  next hregistered => omega

lemma networkNatRx_spec (h : Settled s) (mbuf rxhdr : UInt32) (rxb : RoMbufPart) :
    Settled (networkNatRx s mbuf rxhdr rxb).2 ∧
      waiting s = (networkNatRx s mbuf rxhdr rxb).1.presented.toList ++
        waiting (networkNatRx s mbuf rxhdr rxb).2 ∧
      ((networkNatRx s mbuf rxhdr rxb).1.presented = none → waiting s = []) ∧
      unready (networkNatRx s mbuf rxhdr rxb).2 = unready s := by
  have hpromote : (if s.bufferLen = 0 then deliverQueuedPacket s else s) = s := by
    split
    next hidle => rw [deliverQueuedPacket, if_pos (h.slot hidle)]
    next => rfl
  obtain ⟨hsettled, hnext⟩ := deliverQueuedPacket_spec (s := { s with bufferLen := 0 }) ⟨h.ring, h.frames⟩
  have hready : unready (deliverQueuedPacket { s with bufferLen := 0 }) = unready s :=
    unready_deliverQueuedPacket
  unfold networkNatRx
  rw [hpromote]
  by_cases hidle : s.bufferLen = 0
  · have hnone : waiting s = [] :=
      List.eq_nil_of_length_eq_zero (by simp [length_waiting, hidle, h.slot hidle])
    simp [hidle, h, hnone, RxOutcome.presented]
  have hfull := waiting_full hidle
  rw [← hnext] at hfull
  simp only [hidle, if_false]
  split_ifs <;> exact ⟨hsettled, hfull, fun hnone => by simp [RxOutcome.presented] at hnone, hready⟩

lemma rxStep_delivery {e : RxEvent} {pkt : List UInt8} (he : e.frame? = some pkt) :
    rxStep s e = ((rxDeliver s pkt).2, if (rxDeliver s pkt).1 then some pkt else none, none) := by
  have hempty : pkt.length ≤ 0 → rxDeliver s pkt = (false, s) := by
    intro hlen
    rw [rxDeliver, if_pos (Or.inl (Nat.le_zero.mp hlen))]
  cases e with
  | slirpOutput pkt' =>
    cases he
    by_cases hlen : pkt.length ≤ 0
    · simp [rxStep, slirpOutput, hlen, hempty]
    · simp [rxStep, slirpOutput, hlen]
  | injectPacket pkt' =>
    cases he
    by_cases hlen : pkt.length ≤ 0
    · simp [rxStep, networkNatInjectPacket, hlen, hempty]
    · simp [rxStep, networkNatInjectPacket, hlen]
  | _ => cases he

lemma settled_setirqstatus (h : Settled s) (address : UInt32) :
    Settled (networkNatSetirqstatus s address) := ⟨⟨h.ring, h.frames⟩, h.slot⟩

/-- **One step.**  What was waiting and what is accepted is what is presented and what is waiting. -/
lemma step_waiting (h : Settled s) {e : RxEvent} (he : e.isReset = false) :
    Settled (rxNext s e) ∧
      waiting s ++ (rxStep s e).2.1.toList = (rxStep s e).2.2.toList ++ waiting (rxNext s e) := by
  have hdelivery : ∀ pkt, e.frame? = some pkt → Settled (rxNext s e) ∧
      waiting s ++ (rxStep s e).2.1.toList = (rxStep s e).2.2.toList ++ waiting (rxNext s e) := by
    intro pkt hpkt
    obtain ⟨hsettled, hwaiting, -, -⟩ := rxDeliver_spec h pkt
    rw [rxNext, rxStep_delivery hpkt]
    refine ⟨hsettled, ?_⟩
    rw [hwaiting]
    split <;> simp
  cases e with
  | slirpOutput pkt => exact hdelivery pkt rfl
  | injectPacket pkt => exact hdelivery pkt rfl
  | rx mbuf rxhdr rxb =>
    obtain ⟨hsettled, hwaiting, -, -⟩ := networkNatRx_spec h mbuf rxhdr rxb
    exact ⟨hsettled, by simpa [rxStep, rxNext] using hwaiting⟩
  | reset => cases he
  | setirqstatus address => exact ⟨settled_setirqstatus h address, List.append_nil _⟩
  | loadstate address =>
    have hnext : rxNext s (.loadstate address) =
        if address ≠ 0 then networkNatSetirqstatus s address else s := rfl
    rw [hnext]
    split
    · exact ⟨settled_setirqstatus h address, List.append_nil _⟩
    · exact ⟨h, List.append_nil _⟩

lemma settled_reset : Settled (networkNatReset s) ∧ waiting (networkNatReset s) = [] := by
  have hcontents : (networkNatReset s).pktQueue.contents pktQueueSize = [] := contents_clear
  refine ⟨⟨⟨good_clear (by decide) _, ?_⟩, fun _ => rfl⟩, ?_⟩
  · simp [hcontents]
  · rw [waiting_empty rfl, hcontents, List.map_nil]

lemma settled_started (poduleinfo : Bool) :
    Settled (started poduleinfo) ∧ waiting (started poduleinfo) = [] := by
  refine ⟨⟨⟨⟨Nat.zero_lt_succ _, Nat.zero_le _, rfl⟩, ?_⟩, fun _ => rfl⟩, rfl⟩
  intro p hp
  cases hp

end Calls

/-! ## Runs -/

section Runs

variable {s : NatState}

lemma settled_exec (h : Settled s) (es : List RxEvent) : Settled (Runs.exec rxNext s es) := by
  induction es generalizing s with
  | nil => exact h
  | cons e es ih =>
    cases hreset : e.isReset with
    | false => exact ih (step_waiting h hreset).1
    | true =>
      obtain rfl : e = .reset := by cases e <;> first | rfl | cases hreset
      exact ih settled_reset.1

/-- **A run without a reset.**  Nothing is lost, repeated or overtaken. -/
lemma run_waiting (h : Settled s) {es : List RxEvent} (hes : ∀ e ∈ es, e.isReset = false) :
    waiting s ++ accepted s es = presented s es ++ waiting (Runs.exec rxNext s es) := by
  induction es generalizing s with
  | nil => simp [accepted, presented]
  | cons e es ih =>
    obtain ⟨he, hes⟩ := List.forall_mem_cons.mp hes
    obtain ⟨hnext, hstep⟩ := step_waiting h he
    rw [accepted, presented, ← List.append_assoc, hstep, List.append_assoc, ih hnext hes,
      ← List.append_assoc, Runs.exec_cons]

lemma presented_append (es es' : List RxEvent) :
    presented s (es ++ es') = presented s es ++ presented (Runs.exec rxNext s es) es' := by
  induction es generalizing s with
  | nil => rfl
  | cons e es ih => simp [presented, ih]

lemma presented_rxs (h : Settled s) {rxs : List RxEvent} (hrxs : ∀ e ∈ rxs, e.isRx = true)
    (hlen : (waiting s).length ≤ rxs.length) : presented s rxs = waiting s := by
  induction rxs generalizing s with
  | nil => exact (List.eq_nil_of_length_eq_zero (Nat.le_zero.mp hlen)).symm
  | cons e rxs ih =>
    obtain ⟨he, hrest⟩ := List.forall_mem_cons.mp hrxs
    cases e with
    | rx mbuf rxhdr rxb =>
      obtain ⟨hnext, hwaiting, hnone, -⟩ := networkNatRx_spec h mbuf rxhdr rxb
      have hlen' := congrArg List.length hwaiting
      rw [List.length_append] at hlen'
      have hpresented : presented (networkNatRx s mbuf rxhdr rxb).2 rxs =
          waiting (networkNatRx s mbuf rxhdr rxb).2 := by
        refine ih hnext hrest ?_
        cases hframe : (networkNatRx s mbuf rxhdr rxb).1.presented with
        | none =>
          rw [hnone hframe] at hlen'
          simp only [List.length_nil] at hlen'
          omega
        | some frame =>
          simp only [hframe, Option.toList_some, List.length_singleton] at hlen'
          simp only [List.length_cons] at hlen
          omega
      rw [hwaiting, ← hpresented]
      rfl
    | _ => cases he

lemma accepted_deliveries (h : Settled s) {ds : List RxEvent} (hroom : ds.length ≤ networkNatInjectSpace s)
    (hds : ∀ d ∈ ds, ∃ pkt, d.frame? = some pkt ∧ 1 ≤ pkt.length ∧ pkt.length ≤ pktMaxSize) :
    accepted s ds = ds.filterMap RxEvent.frame? := by
  induction ds generalizing s with
  | nil => rfl
  | cons d ds ih =>
    obtain ⟨⟨pkt, hpkt, hfits⟩, hds⟩ := List.forall_mem_cons.mp hds
    rw [List.length_cons] at hroom
    obtain ⟨htaken', hnext, -, hspace⟩ := rxDeliver_room h hfits (by omega)
    have hroom' : ds.length ≤ networkNatInjectSpace (rxDeliver s pkt).2 := by omega
    rw [accepted, rxNext, rxStep_delivery hpkt, htaken', ih hnext hroom' hds, List.filterMap_cons, hpkt]
    rfl

end Runs

/-- **The receive queue is a queue that loses nothing.**  In every run of deliveries, receive calls, resets
and registrations: as many frames as there is said to be room for are accepted, one after another; and from
the start, or from a reset, the frames presented are the first of those accepted, and as many receive calls
as are left to present are presented with the rest. -/
theorem receive_queue_lossless (poduleinfo : Bool) (es : List RxEvent) :
    (∀ ds : List RxEvent, ds.length ≤ networkNatInjectSpace (Runs.exec rxNext (started poduleinfo) es) →
      (∀ d ∈ ds, ∃ pkt, d.frame? = some pkt ∧ 1 ≤ pkt.length ∧ pkt.length ≤ pktMaxSize) →
        accepted (Runs.exec rxNext (started poduleinfo) es) ds = ds.filterMap RxEvent.frame?) ∧
    (∀ s, s = started poduleinfo ∨ s = networkNatReset (Runs.exec rxNext (started poduleinfo) es) →
      ∀ es', (∀ e ∈ es', e.isReset = false) →
        presented s es' <+: accepted s es' ∧
          ∀ rxs : List RxEvent, (∀ e ∈ rxs, e.isRx = true) →
            (accepted s es').length ≤ (presented s es').length + rxs.length →
              presented s (es' ++ rxs) = accepted s es') := by
  have hreached := settled_exec (settled_started poduleinfo).1 es
  refine ⟨fun ds hroom hds => accepted_deliveries hreached hroom hds, ?_⟩
  rintro s hs es' hes'
  have hfresh : Settled s ∧ waiting s = [] := by
    rcases hs with rfl | rfl
    · exact settled_started poduleinfo
    · exact settled_reset
  have hrun := run_waiting hfresh.1 hes'
  rw [hfresh.2, List.nil_append] at hrun
  refine ⟨⟨_, hrun.symm⟩, ?_⟩
  intro rxs hrxs hlen
  have hrest := presented_rxs (settled_exec hfresh.1 es') hrxs (by
    rw [hrun, List.length_append] at hlen
    omega)
  rw [presented_append, hrest, hrun]

end RpcEmu.Net
