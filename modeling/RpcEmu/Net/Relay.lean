import RpcEmu.Net.Frames
import RpcEmu.Net.RxQueue

/-!
# The Access relay

`broadcast_relay.c`.  Access+ datagrams that the guest sends go out on sockets of the host, and datagrams
that come in on those sockets are put in frames for the guest.

Sending and receiving are calls of the host: a datagram that is sent is what `sendto` is given, and one that
comes in is what `recvfrom` gives.  The clock is read where the source reads it.
-/

namespace RpcEmu.Net

def accessPortAnnounce : UInt16 := 32770

/-- `access_ports`. -/
def accessPorts : List UInt16 := [accessPortAnnounce, 32771, 49171]

/-- `find_socket_for_port`. -/
def findSocketForPort (port : UInt16) : Option Nat := accessPorts.idxOf? port

def ethHlen : Nat := 14
def ipHdrLen : Nat := 20
def ethPIp : UInt16 := 0x0800
def ipProtoUdp : UInt8 := 17
def relayRecvCapacity : Nat := 65535
def relayBcastPerSecond : UInt32 := 100
def relayUnicastPerSecond : UInt32 := 20000

inductive RelayDir
  | into
  | out
  deriving DecidableEq

inductive RelayClass
  | bcast
  | unicast
  deriving DecidableEq

def reasmSlots : Nat := 4
def reasmMaxLen : Nat := 65535
def reasmTimeout : Int := 8

structure DatagramKey where
  srcIp : UInt32
  dstIp : UInt32
  ipId : UInt16
  deriving DecidableEq

/-- `reasm_slot_t`. -/
structure ReasmSlot where
  inUse : Bool
  key : DatagramKey
  dstPort : UInt16
  sockIdx : Nat
  nextOffset : Nat
  totalLen : Nat
  started : Int
  data : Nat → UInt8

def ReasmSlot.bytes (slot : ReasmSlot) (n : Nat) : List UInt8 := (List.range n).map slot.data

/-- `relay_state_t`, with `reasm` and `ip_id_counter`. -/
structure RelayState where
  sockets : Nat → Bool
  enabled : Bool
  hostAddr : UInt32
  bcastAddr : UInt32
  guestIp : UInt32
  rateCount : RelayDir → RelayClass → UInt32
  lastRateReset : Int
  reasm : List ReasmSlot
  ipIdCounter : UInt16

/-- `reasm_reset`. -/
def reasmReset (slots : List ReasmSlot) : List ReasmSlot := slots.map fun slot => { slot with inUse := false }

def relayStarted : RelayState where
  sockets := fun _ => false
  enabled := false
  hostAddr := 0
  bcastAddr := 0
  guestIp := 0
  rateCount := fun _ _ => 0
  lastRateReset := 0
  reasm := List.replicate reasmSlots ⟨false, ⟨0, 0, 0⟩, 0, 0, 0, 0, 0, fun _ => 0⟩
  ipIdCounter := 0x8000

/-- `broadcast_relay_init`, where the ports are this machine's: the sockets it has, and the addresses of the
host. -/
def broadcastRelayInit (relay : RelayState) (sockets : Nat → Bool) (bcast host : UInt32) (now : Int) :
    RelayState :=
  { relay with
    sockets := sockets, bcastAddr := bcast, hostAddr := host, rateCount := fun _ _ => 0,
    lastRateReset := now, guestIp := 0, reasm := reasmReset relay.reasm, enabled := true }

/-- A call of `sendto`. -/
structure Sent where
  sockIdx : Nat
  ip : UInt32
  port : UInt16
  payload : List UInt8
  deriving DecidableEq

variable (relay : RelayState)

def classOf (broadcast : Bool) : RelayClass := if broadcast then .bcast else .unicast

def rateCap : RelayClass → UInt32
  | .bcast => relayBcastPerSecond
  | .unicast => relayUnicastPerSecond

/-- `relay_rate_allow`. -/
def relayRateAllow (now : Int) (dir : RelayDir) (cls : RelayClass) : Bool × RelayState :=
  let relay :=
    if now ≠ relay.lastRateReset then { relay with rateCount := fun _ _ => 0, lastRateReset := now } else relay
  if rateCap cls ≤ relay.rateCount dir cls then (false, relay)
  else
    (true, { relay with
      rateCount := fun d c =>
        if d = dir ∧ c = cls then relay.rateCount d c + 1 else relay.rateCount d c })

/-! ## Reassembly -/

/-- `reasm_lookup`. -/
def reasmLookup (slots : List ReasmSlot) (key : DatagramKey) : Option Nat :=
  slots.findIdx? fun slot => slot.inUse && slot.key == key

/-- `reasm_expire`. -/
def reasmExpire (slots : List ReasmSlot) (now : Int) : List ReasmSlot :=
  slots.map fun slot =>
    if slot.inUse ∧ reasmTimeout < now - slot.started then { slot with inUse := false } else slot

def oldestSlot (slots : List ReasmSlot) : Nat :=
  (List.range slots.length).foldl (fun best i =>
    match slots[i]?, slots[best]? with
    | some slot, some oldest => if slot.started < oldest.started then i else best
    | _, _ => best) 0

def claimedSlot (slots : List ReasmSlot) (key : DatagramKey) : Nat :=
  match reasmLookup slots key with
  | some i => i
  | none => (slots.findIdx? fun slot => !slot.inUse).getD (oldestSlot slots)

/-- `reasm_claim`: the slot, and the slots with it claimed. -/
def reasmClaim (slots : List ReasmSlot) (key : DatagramKey) (now : Int) : Nat × List ReasmSlot :=
  let i := claimedSlot slots key
  (i, slots.modify i fun slot =>
    { slot with inUse := true, key := key, nextOffset := 0, totalLen := 0, started := now })

/-- `memcpy` into a slot's data. -/
def memcpyAt (data : Nat → UInt8) (offset : Nat) (bytes : List UInt8) : Nat → UInt8 := fun i =>
  if offset ≤ i ∧ i < offset + bytes.length then bytes.getD (i - offset) 0 else data i

def accessSocket (sockets : Nat → Bool) (srcPort dstPort : UInt16) : Option Nat :=
  ((findSocketForPort dstPort).or (findSocketForPort srcPort)).filter sockets

structure Fragment where
  key : DatagramKey
  offset : Nat
  more : Bool
  deriving DecidableEq

/-- The slot a fragment belongs in, where it belongs in one: the slots with it claimed or found, or with the
datagram given up. -/
def fragmentSlot (f : Fragment) (frag : List UInt8) (now : Int) : List ReasmSlot × Option Nat :=
  if f.offset = 0 then
    -- only the first fragment has the ports
    if frag.length < 8 then (relay.reasm, none)
    else
      match accessSocket relay.sockets (be16 frag 0) (be16 frag 2) with
      | none => (relay.reasm, none)
      | some sockIdx =>
        let (i, slots) := reasmClaim relay.reasm f.key now
        (slots.modify i fun slot => { slot with dstPort := be16 frag 2, sockIdx := sockIdx }, some i)
  else
    match reasmLookup relay.reasm f.key with
    | none => (relay.reasm, none)
    | some i =>
      match relay.reasm[i]? with
      | none => (relay.reasm, none)
      | some slot =>
        if f.offset ≠ slot.nextOffset then
          -- out of order or overlapping
          (relay.reasm.modify i fun slot => { slot with inUse := false }, none)
        else (relay.reasm, some i)

def absorb (slot : ReasmSlot) (f : Fragment) (frag : List UInt8) : ReasmSlot :=
  { slot with
    data := memcpyAt slot.data f.offset frag
    nextOffset := f.offset + frag.length
    totalLen := if f.more then slot.totalLen else f.offset + frag.length }

def completed (slot : ReasmSlot) (now : Int) : RelayState × List Sent :=
  if slot.totalLen < 8 then (relay, [])
  else
    let (allowed, relay) := relayRateAllow relay now .out .unicast
    if !allowed then (relay, [])
    else
      (relay, [⟨slot.sockIdx, slot.key.dstIp, slot.dstPort, (slot.bytes slot.totalLen).drop 8⟩])

def fragmentBytes (ip : List UInt8) (hdrLen avail : Nat) : List UInt8 :=
  let total := (be16 ip 2).toNat
  let fragLen := if total ≤ hdrLen ∨ avail < total - hdrLen then avail else total - hdrLen
  (ip.drop hdrLen).take fragLen

/-- `relay_tx_fragment`, with the clock as `relay_rate_allow` reads it: whether the relay has taken the
fragment, and what is sent. -/
def relayTxFragment (ip : List UInt8) (hdrLen avail : Nat) (f : Fragment) (now rateNow : Int) :
    Bool × RelayState × List Sent :=
  let frag := fragmentBytes ip hdrLen avail
  if frag.length = 0 then (false, relay, [])
  else
    match fragmentSlot relay f frag now with
    | (slots, none) => (false, { relay with reasm := slots }, [])
    | (slots, some i) =>
      if reasmMaxLen < f.offset + frag.length then
        (true, { relay with reasm := slots.modify i fun slot => { slot with inUse := false } }, [])
      else
        let slots := slots.modify i fun slot => absorb slot f frag
        match slots[i]? with
        | none => (true, { relay with reasm := slots }, [])
        | some slot =>
          if slot.totalLen = 0 ∨ slot.nextOffset < slot.totalLen then
            (true, { relay with reasm := slots }, [])
          else
            let relay :=
              { relay with reasm := slots.modify i fun slot => { slot with inUse := false } }
            let (relay, sent) := completed relay slot rateNow
            (true, relay, sent)

/-! ## Transmission -/

def broadcastMac : Mac := ⟨255, 255, 255, 255, 255, 255⟩

def gatewayMac : Mac := ⟨0x52, 0x54, 0x00, 0x12, 0x34, 0x56⟩

def ipHeaderLen (pkt : List UInt8) : Nat := (u8 (pkt.drop ethHlen) 0 &&& 0x0f).toNat * 4

def udpHeaderLen (pkt : List UInt8) : Option Nat :=
  if pkt.length < 42 then none
  else if be16 pkt 12 ≠ ethPIp then none
  else if u8 (pkt.drop ethHlen) 9 ≠ ipProtoUdp then none
  else if ipHeaderLen pkt < ipHdrLen ∨ pkt.length < ethHlen + ipHeaderLen pkt then none
  else some (ipHeaderLen pkt)

def learnedFrom (pkt : List UInt8) : Option UInt32 :=
  let srcIp := be32 (pkt.drop ethHlen) 12
  if srcIp &&& guestNetMask = guestNetAddr ∧ srcIp ≠ guestNetBroadcast then some srcIp else none

def isBroadcast (pkt : List UInt8) : Bool :=
  let dstIp := be32 (pkt.drop ethHlen) 16
  pkt.take 6 == broadcastMac.bytes || dstIp == 0xffffffff || dstIp == guestNetBroadcast

def isExternalUnicast (pkt : List UInt8) : Bool :=
  !isBroadcast pkt && be32 (pkt.drop ethHlen) 16 &&& guestNetMask != guestNetAddr

def fragmentOf (pkt : List UInt8) : Fragment :=
  let ip := pkt.drop ethHlen
  let field := be16 ip 6
  { key := ⟨be32 ip 12, be32 ip 16, be16 ip 4⟩
    offset := (field &&& 0x1fff).toNat * 8
    more := field &&& 0x2000 != 0 }

def isFragment (pkt : List UInt8) : Bool :=
  ((fragmentOf pkt).more || (fragmentOf pkt).offset != 0) && isExternalUnicast pkt

/-- The rest of `broadcast_relay_tx`, for a frame that is not a fragment. -/
def relayTxWhole (pkt : List UInt8) (hdrLen : Nat) (rateNow : Int) : Bool × RelayState × List Sent :=
  if pkt.length < ethHlen + hdrLen + 8 then (false, relay, [])
  else
    let udp := pkt.drop (ethHlen + hdrLen)
    let dstPort := be16 udp 2
    match (findSocketForPort dstPort).or (findSocketForPort (be16 udp 0)) with
    | none => (false, relay, [])
    | some sockIdx =>
      if !isBroadcast pkt && !isExternalUnicast pkt then (false, relay, [])
      else if !relay.sockets sockIdx then (false, relay, [])
      else
        let (allowed, relay) := relayRateAllow relay rateNow .out (classOf (isBroadcast pkt))
        if !allowed then (true, relay, [])
        else
          let payloadLen := min ((be16 udp 4).toNat - 8) (pkt.length - ethHlen - hdrLen - 8)
          if payloadLen = 0 then (false, relay, [])
          else
            let ip := if isBroadcast pkt then relay.bcastAddr else be32 (pkt.drop ethHlen) 16
            (isExternalUnicast pkt, relay, [⟨sockIdx, ip, dstPort, (udp.drop 8).take payloadLen⟩])

/-- `broadcast_relay_tx`: whether the relay has dealt with the frame, and what is sent. -/
def broadcastRelayTx (pkt : List UInt8) (now rateNow : Int) : Bool × RelayState × List Sent :=
  if !relay.enabled then (false, relay, [])
  else
    match udpHeaderLen pkt with
    | none => (false, relay, [])
    | some hdrLen =>
      let relay := { relay with
        guestIp := (learnedFrom pkt).getD relay.guestIp
        reasm := reasmExpire relay.reasm now }
      if isFragment pkt then
        relayTxFragment relay (pkt.drop ethHlen) hdrLen (pkt.length - ethHlen - hdrLen) (fragmentOf pkt) now
          rateNow
      else relayTxWhole relay pkt hdrLen rateNow

/-! ## Frames for the guest -/

/-- The loop of `ip_checksum` that adds the carries in. -/
def foldCarries (sum : Nat) : Nat :=
  if 65536 ≤ sum then foldCarries (sum % 65536 + sum / 65536) else sum
termination_by sum
decreasing_by omega

/-- `ip_checksum`. -/
def ipChecksum (hdr : List UInt8) : UInt16 :=
  let words := (List.range (hdr.length / 2)).map fun i => (be16 hdr (2 * i)).toNat
  ~~~(UInt16.ofNat (foldCarries words.sum))

structure SockAddr where
  ip : UInt32
  port : UInt16
  deriving DecidableEq

def guestIpHeader (payloadLen : Nat) (id flags : UInt16) (src dst : UInt32) : List UInt8 :=
  let front := [0x45, 0] ++ be16Bytes (UInt16.ofNat (ipHdrLen + payloadLen)) ++ be16Bytes id ++
    be16Bytes flags ++ [64, ipProtoUdp]
  let addresses := be32Bytes src ++ be32Bytes dst
  front ++ be16Bytes (ipChecksum (front ++ [0, 0] ++ addresses)) ++ addresses

def guestEthHeader (hwaddr : Mac) (broadcast : Bool) : List UInt8 :=
  (if broadcast then broadcastMac.bytes else hwaddr.bytes) ++ gatewayMac.bytes ++ be16Bytes ethPIp

def guestDestIp (hwaddr : Mac) (broadcast : Bool) : UInt32 :=
  if broadcast then guestNetBroadcast
  else if relay.guestIp ≠ 0 then relay.guestIp
  else guestSubnetGuest hwaddr

def guestUdpHeader (sender : SockAddr) (destPort : UInt16) (payloadLen : Nat) : List UInt8 :=
  be16Bytes sender.port ++ be16Bytes destPort ++ be16Bytes (UInt16.ofNat (8 + payloadLen)) ++ [0, 0]

/-- `build_guest_frame`. -/
def buildGuestFrame (hwaddr : Mac) (maxLen : Nat) (sender : SockAddr) (destPort : UInt16)
    (payload : List UInt8) (broadcast : Bool) : Option (List UInt8) :=
  if maxLen < ethHlen + ipHdrLen + 8 + payload.length then none
  else
    some (guestEthHeader hwaddr broadcast ++
      guestIpHeader (8 + payload.length) 0 0 sender.ip (guestDestIp relay hwaddr broadcast) ++
      guestUdpHeader sender destPort payload.length ++ payload)

def maxDataPerFrag : Nat := 1480

def fragDataLen (left : Nat) : Nat := if maxDataPerFrag < left then maxDataPerFrag else left

def guestFragment (hwaddr : Mac) (ipId : UInt16) (sender : SockAddr) (destPort : UInt16)
    (payload : List UInt8) (broadcast : Bool) (offset : Nat) : List UInt8 :=
  let left := 8 + payload.length - offset
  let fragLen := fragDataLen left
  let isLast := 8 + payload.length ≤ offset + fragLen
  let flags := (UInt16.ofNat (offset / 8) &&& 0x1fff) ||| (if isLast then 0 else 0x2000)
  guestEthHeader hwaddr broadcast ++
    guestIpHeader fragLen ipId flags sender.ip (guestDestIp relay hwaddr broadcast) ++
    (if offset = 0 then guestUdpHeader sender destPort payload.length ++ payload.take (fragLen - 8)
    else (payload.drop (offset - 8)).take fragLen)

/-- The loop of `inject_fragmented_udp`, from an offset on: the frames made, and the guest. -/
def injectLoop (frameAt : Nat → List UInt8) (total offset : Nat) (guest : NatState) :
    List (List UInt8) × NatState :=
  if offset < total then
    let frame := frameAt offset
    let (taken, guest) := networkNatInjectPacket guest frame
    if !taken then ([frame], guest)
    else
      let (frames, guest) := injectLoop frameAt total (offset + fragDataLen (total - offset)) guest
      (frame :: frames, guest)
  else ([], guest)
termination_by total - offset
decreasing_by
  unfold fragDataLen maxDataPerFrag
  split <;> omega

/-- `inject_fragmented_udp`: the frames made. -/
def injectFragmentedUdp (hwaddr : Mac) (guest : NatState) (sender : SockAddr) (destPort : UInt16)
    (payload : List UInt8) (broadcast : Bool) : List (List UInt8) × RelayState × NatState :=
  let ipId := relay.ipIdCounter
  let relay := { relay with ipIdCounter := ipId + 1 }
  let frags := (8 + payload.length + maxDataPerFrag - 1) / maxDataPerFrag
  if networkNatInjectSpace guest < frags then ([], relay, guest)
  else
    let (frames, guest) :=
      injectLoop (guestFragment relay hwaddr ipId sender destPort payload broadcast) (8 + payload.length) 0 guest
    (frames, relay, guest)

/-- `poll_socket`, of a socket a datagram has come in on: the frames made. -/
def pollSocket (hwaddr : Mac) (guest : NatState) (sockIdx : Nat) (sender : SockAddr) (payload : List UInt8)
    (now : Int) : List (List UInt8) × RelayState × NatState :=
  let port := accessPorts.getD sockIdx 0
  let payload := payload.take relayRecvCapacity
  if !relay.sockets sockIdx || payload.length == 0 then ([], relay, guest)
  else if sender.ip = 0x7f000001 ∨ sender.ip = relay.hostAddr then ([], relay, guest)
  else
    let broadcast := port == accessPortAnnounce
    let (allowed, relay) := relayRateAllow relay now .into (classOf broadcast)
    if !allowed then ([], relay, guest)
    else if 1472 < payload.length then injectFragmentedUdp relay hwaddr guest sender port payload broadcast
    else
      match buildGuestFrame relay hwaddr 2048 sender port payload broadcast with
      | none => ([], relay, guest)
      | some frame => ([frame], relay, (networkNatInjectPacket guest frame).2)

/-! ## What a frame changes -/

/-- Only the rate count differs. -/
def RateOnly (relay relay' : RelayState) : Prop :=
  ∃ count reset, relay' = { relay with rateCount := count, lastRateReset := reset }

lemma rateOnly_refl : RateOnly relay relay := ⟨_, _, rfl⟩

lemma RateOnly.reasm {relay relay' : RelayState} (h : RateOnly relay relay') : relay'.reasm = relay.reasm := by
  obtain ⟨count, reset, rfl⟩ := h
  rfl

lemma RateOnly.sockets {relay relay' : RelayState} (h : RateOnly relay relay') :
    relay'.sockets = relay.sockets := by
  obtain ⟨count, reset, rfl⟩ := h
  rfl

lemma RateOnly.enabled {relay relay' : RelayState} (h : RateOnly relay relay') :
    relay'.enabled = relay.enabled := by
  obtain ⟨count, reset, rfl⟩ := h
  rfl

lemma rateOnly_allow (now : Int) (dir : RelayDir) (cls : RelayClass) :
    RateOnly relay (relayRateAllow relay now dir cls).2 := by
  simp only [relayRateAllow]
  split_ifs <;> exact ⟨_, _, rfl⟩

lemma rateOnly_completed (slot : ReasmSlot) (now : Int) : RateOnly relay (completed relay slot now).1 := by
  simp only [completed]
  split
  · exact rateOnly_refl relay
  · split <;> exact rateOnly_allow relay now .out .unicast

lemma rateOnly_whole (pkt : List UInt8) (hdrLen : Nat) (rateNow : Int) :
    RateOnly relay (relayTxWhole relay pkt hdrLen rateNow).2.1 := by
  simp only [relayTxWhole]
  split
  · exact rateOnly_refl relay
  split
  · exact rateOnly_refl relay
  split
  · exact rateOnly_refl relay
  split
  · exact rateOnly_refl relay
  split
  · exact rateOnly_allow relay rateNow .out _
  split <;> exact rateOnly_allow relay rateNow .out _

lemma rateOnly_fragment (ip : List UInt8) (hdrLen avail : Nat) (f : Fragment) (now rateNow : Int) :
    ∃ slots, RateOnly { relay with reasm := slots }
      (relayTxFragment relay ip hdrLen avail f now rateNow).2.1 := by
  simp only [relayTxFragment]
  split
  · exact ⟨_, rateOnly_refl relay⟩
  split
  · exact ⟨_, rateOnly_refl _⟩
  split
  · exact ⟨_, rateOnly_refl _⟩
  split
  · exact ⟨_, rateOnly_refl _⟩
  split
  · exact ⟨_, rateOnly_refl _⟩
  · exact ⟨_, rateOnly_completed _ _ rateNow⟩

lemma rateOnly_pollSocket (hwaddr : Mac) (guest : NatState) (sockIdx : Nat) (sender : SockAddr)
    (payload : List UInt8) (now : Int) :
    ∃ ipId, RateOnly { relay with ipIdCounter := ipId }
      (pollSocket relay hwaddr guest sockIdx sender payload now).2.1 := by
  simp only [pollSocket]
  split
  · exact ⟨_, rateOnly_refl relay⟩
  split
  · exact ⟨_, rateOnly_refl relay⟩
  obtain ⟨count, reset, hallow⟩ :=
    rateOnly_allow relay now .into (classOf (accessPorts.getD sockIdx 0 == accessPortAnnounce))
  rw [hallow]
  split
  · exact ⟨relay.ipIdCounter, count, reset, rfl⟩
  split
  · simp only [injectFragmentedUdp]
    split <;> exact ⟨relay.ipIdCounter + 1, count, reset, rfl⟩
  · split <;> exact ⟨relay.ipIdCounter, count, reset, rfl⟩

end RpcEmu.Net
