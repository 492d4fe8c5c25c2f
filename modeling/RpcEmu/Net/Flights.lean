import RpcEmu.Net.Reassembly
import Mathlib.Data.List.Perm.Basic
import Mathlib.Data.List.Nodup

/-!
# Datagrams in flight

A guest sends Access+ datagrams as fragments, each in ascending order and at most four in flight at once.

**The gap.**  `broadcast_relay_tx` turns away a frame shorter than one with a UDP header before it asks
whether it is a fragment; a last fragment has none, and may be that short.
-/

namespace RpcEmu.Net

open Runs

/-! ## What the slots in use hold -/

section Live

structure Held where
  key : DatagramKey
  dstPort : UInt16
  sockIdx : Nat
  totalLen : Nat
  started : Int
  bytes : List UInt8

def ReasmSlot.held (slot : ReasmSlot) : Held :=
  ⟨slot.key, slot.dstPort, slot.sockIdx, slot.totalLen, slot.started, slot.bytes slot.nextOffset⟩

def live (slots : List ReasmSlot) : List Held := (slots.filter ReasmSlot.inUse).map ReasmSlot.held

lemma live_append (slots slots' : List ReasmSlot) : live (slots ++ slots') = live slots ++ live slots' := by
  rw [live, List.filter_append, List.map_append]
  rfl

lemma live_free {slot : ReasmSlot} (h : slot.inUse = false) : live [slot] = [] := by simp [live, h]

lemma live_used {slot : ReasmSlot} (h : slot.inUse = true) : live [slot] = [slot.held] := by simp [live, h]

lemma live_perm_cons (front back : List ReasmSlot) (slot : ReasmSlot) :
    (live (front ++ slot :: back)).Perm (live [slot] ++ live (front ++ back)) := by
  rw [List.append_cons, live_append, live_append, live_append]
  refine (List.perm_append_comm.append_right _).trans ?_
  rw [List.append_assoc]

lemma live_split {slots : List ReasmSlot} {i : Nat} {slot : ReasmSlot} (h : slots[i]? = some slot) :
    ∃ rest, (live slots).Perm (live [slot] ++ rest) ∧
      ∀ f : ReasmSlot → ReasmSlot, (live (slots.modify i f)).Perm (live [f slot] ++ rest) := by
  obtain ⟨hi, rfl⟩ := List.getElem?_eq_some_iff.mp h
  refine ⟨live (slots.take i ++ slots.drop (i + 1)), ?_, ?_⟩
  · conv_lhs => rw [← List.take_append_drop i slots, List.drop_eq_getElem_cons hi]
    exact live_perm_cons _ _ _
  · intro f
    rw [List.modify_eq_take_cons_drop hi]
    exact live_perm_cons _ _ _

lemma reasmLookup_none {slots : List ReasmSlot} {key : DatagramKey} :
    reasmLookup slots key = none ↔ ∀ held ∈ live slots, held.key ≠ key := by
  simp only [reasmLookup, List.findIdx?_eq_none_iff, live, List.mem_map, List.mem_filter]
  constructor
  · rintro h held ⟨slot, ⟨hslot, huse⟩, rfl⟩ hkey
    have := h slot hslot
    simp [huse, show slot.key = key from hkey] at this
  · intro h slot hslot
    by_contra hlive
    simp only [Bool.not_eq_false, Bool.and_eq_true, beq_iff_eq] at hlive
    exact h slot.held ⟨slot, ⟨hslot, hlive.1⟩, rfl⟩ hlive.2

lemma exists_free {slots : List ReasmSlot} (h : (live slots).length < slots.length) :
    ∃ i slot, (slots.findIdx? fun slot => !slot.inUse) = some i ∧ slots[i]? = some slot ∧
      slot.inUse = false := by
  cases hfind : slots.findIdx? fun slot => !slot.inUse with
  | none =>
    rw [List.findIdx?_eq_none_iff] at hfind
    have hall : slots.filter ReasmSlot.inUse = slots := by
      refine List.filter_eq_self.mpr ?_
      intro slot hslot
      simpa using hfind slot hslot
    rw [live, List.length_map, hall] at h
    exact absurd h (lt_irrefl _)
  | some i =>
    obtain ⟨hi, hslot, -⟩ := List.findIdx?_eq_some_iff_getElem.mp hfind
    exact ⟨i, slots[i], rfl, List.getElem?_eq_getElem hi, by simpa using hslot⟩

lemma reasmExpire_eq {slots : List ReasmSlot} {now : Int}
    (h : ∀ held ∈ live slots, now - held.started ≤ reasmTimeout) : reasmExpire slots now = slots := by
  rw [reasmExpire]
  conv_rhs => rw [← List.map_id slots]
  refine List.map_congr_left ?_
  intro slot hslot
  refine if_neg ?_
  rintro ⟨huse, hold⟩
  have := h slot.held (List.mem_map.mpr ⟨slot, List.mem_filter.mpr ⟨hslot, huse⟩, rfl⟩)
  exact absurd hold (not_lt.mpr this)

end Live

/-! ## What the guest sends -/

/-- A UDP datagram to an external peer: `body` is its UDP header and payload. -/
structure GuestDatagram where
  key : DatagramKey
  body : List UInt8
  header : 8 ≤ body.length
  bound : body.length ≤ 8 + 65507
  external : key.dstIp &&& guestNetMask ≠ guestNetAddr
  unicast : key.dstIp ≠ 0xffffffff

def GuestDatagram.wanted (d : GuestDatagram) (sockIdx : Nat) : Sent :=
  ⟨sockIdx, d.key.dstIp, be16 d.body 2, d.body.drop 8⟩

def GuestDatagram.socket (d : GuestDatagram) (sockets : Nat → Bool) : Option Nat :=
  accessSocket sockets (be16 d.body 0) (be16 d.body 2)

/-- A frame with a fragment of a datagram: `len` bytes of it from `offset`.  The frame may be longer. -/
structure Piece where
  datagram : GuestDatagram
  offset : Nat
  len : Nat
  pkt : List UInt8
  nonempty : 0 < len
  within : offset + len ≤ datagram.body.length
  part : len ≠ datagram.body.length
  aligned : offset + len < datagram.body.length → 8 ∣ len
  ethertype : be16 pkt 12 = ethPIp
  proto : u8 (pkt.drop ethHlen) 9 = ipProtoUdp
  mac : pkt.take 6 ≠ broadcastMac.bytes
  headerLen : ipHdrLen ≤ ipHeaderLen pkt
  holds : ethHlen + ipHeaderLen pkt + len ≤ pkt.length
  total : (be16 (pkt.drop ethHlen) 2).toNat = ipHeaderLen pkt + len
  fragment : fragmentOf pkt = ⟨datagram.key, offset, decide (offset + len < datagram.body.length)⟩
  bytes : ((pkt.drop ethHlen).drop (ipHeaderLen pkt)).take len = (datagram.body.drop offset).take len

/-- The piece ends its datagram. -/
def Piece.Last (p : Piece) : Prop := p.offset + p.len = p.datagram.body.length

instance (p : Piece) : Decidable p.Last := inferInstanceAs (Decidable (_ = _))

structure Going where
  datagram : GuestDatagram
  sent : Nat
  started : Int

/-- The relay with the datagrams in flight: how much of each has been sent, and since when. -/
structure Flight where
  relay : RelayState
  going : List Going

inductive FlightEvent
  | fragment (p : Piece) (now rateNow : Int)
  | other (pkt : List UInt8) (h : isFragment pkt = false) (now rateNow : Int)

def Flight.others (f : Flight) (key : DatagramKey) : List Going :=
  f.going.filter fun g => g.datagram.key ≠ key

def Flight.startOf (f : Flight) (p : Piece) (now : Int) : Int :=
  if p.offset = 0 then now
  else ((f.going.find? fun g => g.datagram.key = p.datagram.key).map Going.started).getD now

def flightStep (f : Flight) : FlightEvent → Flight
  | .fragment p now rateNow =>
    { relay := (broadcastRelayTx f.relay p.pkt now rateNow).2.1
      going :=
        if p.Last then f.others p.datagram.key
        else ⟨p.datagram, p.offset + p.len, f.startOf p now⟩ :: f.others p.datagram.key }
  | .other pkt _ now rateNow => { f with relay := (broadcastRelayTx f.relay pkt now rateNow).2.1 }

/-- A first piece finds a slot free, and any other follows the last of its datagram. -/
def InOrder (f : Flight) (p : Piece) : Prop :=
  if p.offset = 0 then
    f.going.length < reasmSlots ∧ (∀ g ∈ f.going, g.datagram.key ≠ p.datagram.key) ∧
      (p.datagram.socket f.relay.sockets).isSome
  else ∃ g ∈ f.going, g.datagram = p.datagram ∧ g.sent = p.offset

/-- The pieces come in order and in time. -/
def Legal (f : Flight) : FlightEvent → Prop
  | .fragment p now rateNow =>
    (∀ g ∈ f.going, now - g.started ≤ reasmTimeout) ∧ InOrder f p ∧
      (p.Last → (relayRateAllow f.relay rateNow .out .unicast).1 = true)
  | .other _ _ now _ => ∀ g ∈ f.going, now - g.started ≤ reasmTimeout

/-- With its last fragment a datagram's payload is sent, to the port and from the socket that its ports name,
and with the others nothing. -/
def SendsWanted (f : Flight) : FlightEvent → Prop
  | .fragment p now rateNow =>
    (broadcastRelayTx f.relay p.pkt now rateNow).2.2 =
      if p.Last then ((p.datagram.socket f.relay.sockets).map p.datagram.wanted).toList else []
  | .other _ _ _ _ => True

/-- The piece is no shorter than its headers. -/
def LongEnough : FlightEvent → Prop
  | .fragment p _ _ => 42 ≤ p.pkt.length
  | .other _ _ _ _ => True

/-! ## The invariant -/

section Invariant

def Going.held (sockets : Nat → Bool) (g : Going) : Held :=
  ⟨g.datagram.key, be16 g.datagram.body 2, (g.datagram.socket sockets).getD 0, 0, g.started,
    g.datagram.body.take g.sent⟩

/-- **The slots in use hold what was sent of the datagrams in flight**, and nothing else. -/
structure Collecting (f : Flight) : Prop where
  enabled : f.relay.enabled = true
  slots : f.relay.reasm.length = reasmSlots
  distinct : (f.going.map fun g => g.datagram.key).Nodup
  sockets : ∀ g ∈ f.going, (g.datagram.socket f.relay.sockets).isSome
  within : ∀ g ∈ f.going, g.sent ≤ g.datagram.body.length
  held : (live f.relay.reasm).Perm (f.going.map (Going.held f.relay.sockets))

variable {f : Flight}

lemma Collecting.mono (h : Collecting f) {relay : RelayState} (henabled : relay.enabled = f.relay.enabled)
    (hsockets : relay.sockets = f.relay.sockets) (hreasm : relay.reasm = f.relay.reasm) :
    Collecting ⟨relay, f.going⟩ := by
  refine ⟨henabled.trans h.enabled, ?_, h.distinct, ?_, h.within, ?_⟩
  · rw [hreasm, h.slots]
  · rw [hsockets]
    exact h.sockets
  · rw [hsockets, hreasm]
    exact h.held

lemma Collecting.reasmExpire (h : Collecting f) {now : Int} (hnow : ∀ g ∈ f.going, now - g.started ≤ reasmTimeout) :
    Net.reasmExpire f.relay.reasm now = f.relay.reasm := by
  refine reasmExpire_eq ?_
  intro held hheld
  obtain ⟨g, hg, rfl⟩ := List.mem_map.mp (h.held.mem_iff.mp hheld)
  exact hnow g hg

lemma going_perm (h : Collecting f) {g : Going} (hg : g ∈ f.going) :
    f.going.Perm (g :: f.others g.datagram.key) := by
  obtain ⟨front, back, hsplit⟩ := List.append_of_mem hg
  have hdistinct := h.distinct
  rw [hsplit, List.map_append, List.map_cons, List.nodup_middle, List.nodup_cons, ← List.map_append] at hdistinct
  have hothers : f.others g.datagram.key = front ++ back := by
    rw [Flight.others, hsplit, List.filter_append, List.filter_cons_of_neg (by simp), ← List.filter_append]
    refine List.filter_eq_self.mpr ?_
    intro g' hg'
    have hne : g'.datagram.key ≠ g.datagram.key := fun hkey => hdistinct.1 (List.mem_map.mpr ⟨g', hg', hkey⟩)
    simpa using hne
  rw [hothers, hsplit]
  exact List.perm_middle

lemma going_unique (h : Collecting f) {g g' : Going} (hg : g ∈ f.going) (hg' : g' ∈ f.going)
    (hkey : g.datagram.key = g'.datagram.key) : g = g' :=
  List.inj_on_of_nodup_map h.distinct hg hg' hkey

/-- The fragment can go in the slot: it holds what was sent of the datagram, and the others hold what was
sent of the others. -/
structure Ready (f : Flight) (p : Piece) (now : Int) (slots : List ReasmSlot) (i : Nat) (slot : ReasmSlot) :
    Prop where
  get : slots[i]? = some slot
  inUse : slot.inUse = true
  key : slot.key = p.datagram.key
  dstPort : slot.dstPort = be16 p.datagram.body 2
  socket : p.datagram.socket f.relay.sockets = some slot.sockIdx
  waiting : slot.totalLen = 0
  started : slot.started = f.startOf p now
  bytes : slot.bytes p.offset = p.datagram.body.take p.offset
  length : slots.length = reasmSlots
  rest : ∀ change : ReasmSlot → ReasmSlot, (live (slots.modify i change)).Perm
    (live [change slot] ++ (f.others p.datagram.key).map (Going.held f.relay.sockets))

lemma others_eq {key : DatagramKey} (h : ∀ g ∈ f.going, g.datagram.key ≠ key) : f.others key = f.going := by
  refine List.filter_eq_self.mpr ?_
  intro g hg
  simpa using h g hg

lemma ready_first (h : Collecting f) {p : Piece} (hoffset : p.offset = 0) {now : Int}
    (hfew : f.going.length < reasmSlots) (hnew : ∀ g ∈ f.going, g.datagram.key ≠ p.datagram.key)
    (hsocket : (p.datagram.socket f.relay.sockets).isSome) (frag : List UInt8) (hlong : 8 ≤ frag.length)
    (hports : be16 frag 0 = be16 p.datagram.body 0 ∧ be16 frag 2 = be16 p.datagram.body 2) (more : Bool) :
    ∃ slots i slot, fragmentSlot f.relay ⟨p.datagram.key, p.offset, more⟩ frag now = (slots, some i) ∧
      Ready f p now slots i slot := by
  obtain ⟨sockIdx, hsockIdx⟩ := Option.isSome_iff_exists.mp hsocket
  have hlive : (live f.relay.reasm).length < f.relay.reasm.length := by
    rw [h.held.length_eq, List.length_map, h.slots]
    exact hfew
  obtain ⟨i, free, hfind, hget, hfree⟩ := exists_free hlive
  obtain ⟨rest, hrest, hchanged⟩ := live_split hget
  have hnone : reasmLookup f.relay.reasm p.datagram.key = none := by
    rw [reasmLookup_none]
    intro held hheld
    obtain ⟨g, hg, rfl⟩ := List.mem_map.mp (h.held.mem_iff.mp hheld)
    exact hnew g hg
  have hclaimed : claimedSlot f.relay.reasm p.datagram.key = i := by rw [claimedSlot, hnone, hfind]; rfl
  rw [live_free hfree, List.nil_append] at hrest
  let claim (slot : ReasmSlot) : ReasmSlot :=
    { slot with inUse := true, key := p.datagram.key, nextOffset := 0, totalLen := 0, started := now }
  let name (slot : ReasmSlot) : ReasmSlot :=
    { slot with dstPort := be16 p.datagram.body 2, sockIdx := sockIdx }
  refine ⟨(f.relay.reasm.modify i claim).modify i name, i, name (claim free), ?_, ?_⟩
  · rw [fragmentSlot, if_pos hoffset, if_neg (by omega), hports.1, hports.2]
    rw [show accessSocket f.relay.sockets (be16 p.datagram.body 0) (be16 p.datagram.body 2) = some sockIdx from
      hsockIdx]
    simp only [reasmClaim, hclaimed]
    rfl
  · refine ⟨?_, rfl, rfl, rfl, hsockIdx, rfl, ?_, ?_, ?_, ?_⟩
    · rw [List.getElem?_modify_eq, List.getElem?_modify_eq, hget]
      rfl
    · rw [Flight.startOf, if_pos hoffset]
    · rw [hoffset]
      rfl
    · rw [List.length_modify, List.length_modify, h.slots]
    · intro change
      rw [List.modify_modify_eq, List.modify_modify_eq, others_eq hnew]
      exact (hchanged _).trans ((hrest.symm.trans h.held).append_left _)

lemma ready_later (h : Collecting f) {p : Piece} (hoffset : p.offset ≠ 0) {now : Int} {g : Going}
    (hg : g ∈ f.going) (hdatagram : g.datagram = p.datagram) (hsent : g.sent = p.offset) (frag : List UInt8)
    (more : Bool) :
    ∃ slots i slot, fragmentSlot f.relay ⟨p.datagram.key, p.offset, more⟩ frag now = (slots, some i) ∧
      Ready f p now slots i slot := by
  have hkey : g.datagram.key = p.datagram.key := congrArg _ hdatagram
  cases hlookup : reasmLookup f.relay.reasm p.datagram.key with
  | none =>
    rw [reasmLookup_none] at hlookup
    exact absurd hkey (hlookup _ (h.held.mem_iff.mpr (List.mem_map_of_mem hg)))
  | some i =>
    obtain ⟨slot, hget, huse, hslotKey⟩ := reasmLookup_some hlookup
    obtain ⟨rest, hrest, hchanged⟩ := live_split hget
    have hmem : slot.held ∈ f.going.map (Going.held f.relay.sockets) := by
      rw [← h.held.mem_iff, hrest.mem_iff, live_used huse]
      exact List.mem_cons_self
    obtain ⟨g', hg', hheld⟩ := List.mem_map.mp hmem
    have hkey' : g'.datagram.key = g.datagram.key :=
      (congrArg Held.key hheld).trans (hslotKey.trans hkey.symm)
    obtain rfl := going_unique h hg' hg hkey'
    have hothers : rest.Perm ((f.others p.datagram.key).map (Going.held f.relay.sockets)) := by
      have hgoing := h.held.trans ((going_perm h hg').map _)
      rw [List.map_cons, hheld] at hgoing
      rw [live_used huse] at hrest
      rw [← hkey]
      exact (hrest.symm.trans hgoing).cons_inv
    obtain ⟨sockIdx, hsockIdx⟩ := Option.isSome_iff_exists.mp (h.sockets g' hg')
    have hbytes : slot.bytes slot.nextOffset = p.datagram.body.take p.offset := by
      rw [← hdatagram, ← hsent]
      exact (congrArg Held.bytes hheld).symm
    have hnext : slot.nextOffset = p.offset := by
      have hlen := congrArg List.length hbytes
      have hwithin := p.within
      rw [length_bytes, List.length_take] at hlen
      omega
    refine ⟨f.relay.reasm, i, slot, ?_, ?_⟩
    · simp only [fragmentSlot, if_neg hoffset, hlookup, hget]
      rw [if_neg (by rw [hnext]; simp)]
    · refine ⟨hget, huse, hslotKey, ?_, ?_, ?_, ?_, ?_, h.slots, ?_⟩
      · rw [← hdatagram]
        exact (congrArg Held.dstPort hheld).symm
      · have hsockHeld := congrArg Held.sockIdx hheld
        rw [Going.held, hsockIdx] at hsockHeld
        rw [← hdatagram, hsockIdx]
        exact congrArg some hsockHeld
      · exact (congrArg Held.totalLen hheld).symm
      · rw [Flight.startOf, if_neg hoffset]
        have hfind : (f.going.find? fun g => g.datagram.key = p.datagram.key) = some g' := by
          cases hfound : f.going.find? fun g => g.datagram.key = p.datagram.key with
          | none =>
            have := List.find?_eq_none.mp hfound g' hg'
            simp [hkey] at this
          | some found =>
            have hfoundKey := List.find?_some hfound
            have hfoundKey : found.datagram.key = p.datagram.key := by simpa using hfoundKey
            rw [going_unique h (List.mem_of_find?_eq_some hfound) hg' (hfoundKey.trans hkey.symm)]
        rw [hfind]
        exact (congrArg Held.started hheld).symm
      · rw [← hnext, hbytes, hnext]
      · intro change
        exact (hchanged change).trans (hothers.append_left _)

end Invariant

/-! ## A piece -/

section Piece

variable (p : Piece)

def Piece.frag : List UInt8 := (p.datagram.body.drop p.offset).take p.len

lemma Piece.length_frag : p.frag.length = p.len := by
  have hwithin := p.within
  rw [Piece.frag, List.length_take, List.length_drop]
  omega

lemma Piece.fragBytes_eq : fragBytes p.pkt = p.frag := by
  have hholds := p.holds
  have hnonempty := p.nonempty
  rw [fragBytes, fragmentBytes, p.total]
  rw [if_neg (by omega), Nat.add_sub_cancel_left, p.bytes]
  rfl

lemma Piece.eight_le (h : ¬p.Last) : 8 ≤ p.len :=
  Nat.le_of_dvd p.nonempty (p.aligned (lt_of_le_of_ne p.within h))

lemma Piece.last_of_short (h : p.pkt.length < 42) : p.Last := by
  by_contra hlast
  have hlen := p.eight_le hlast
  have hholds := p.holds
  have hheader := p.headerLen
  unfold ethHlen at hholds
  unfold ipHdrLen at hheader
  omega

lemma Piece.first_not_last (h : p.offset = 0) : ¬p.Last := by
  intro hlast
  rw [Piece.Last, h, Nat.zero_add] at hlast
  exact p.part hlast

lemma Piece.more_eq : (fragmentOf p.pkt).more = decide ¬p.Last := by
  have hwithin := p.within
  rw [p.fragment]
  refine decide_eq_decide.mpr ?_
  rw [Piece.Last]
  omega

lemma Piece.isFragment : Net.isFragment p.pkt = true := by
  have hdst : be32 (p.pkt.drop ethHlen) 16 = p.datagram.key.dstIp :=
    congrArg (fun f : Fragment => f.key.dstIp) p.fragment
  have hexternal := p.datagram.external
  have hunicast := p.datagram.unicast
  have hmac := p.mac
  have hnet : p.datagram.key.dstIp ≠ guestNetBroadcast := by
    intro hbroadcast
    rw [hbroadcast] at hexternal
    exact hexternal (by decide)
  have hpart : (fragmentOf p.pkt).more = true ∨ (fragmentOf p.pkt).offset ≠ 0 := by
    rw [p.more_eq, p.fragment]
    by_cases hoffset : p.offset = 0
    · exact Or.inl (decide_eq_true (p.first_not_last hoffset))
    · exact Or.inr hoffset
  have hbroadcast : isBroadcast p.pkt = false := by simp [isBroadcast, hdst, hunicast, hmac, hnet]
  have hunicast : isExternalUnicast p.pkt = true := by simp [isExternalUnicast, hbroadcast, hdst, hexternal]
  rw [Net.isFragment, hunicast, Bool.and_true]
  simpa using hpart

lemma Piece.udpHeaderLen (h : 42 ≤ p.pkt.length) : Net.udpHeaderLen p.pkt = some (ipHeaderLen p.pkt) := by
  have hholds := p.holds
  have hheader := p.headerLen
  rw [Net.udpHeaderLen, if_neg (by omega), if_neg (not_not.mpr p.ethertype), if_neg (not_not.mpr p.proto),
    if_neg (by omega)]

lemma Piece.ports (h : p.offset = 0) :
    8 ≤ p.frag.length ∧ be16 p.frag 0 = be16 p.datagram.body 0 ∧ be16 p.frag 2 = be16 p.datagram.body 2 := by
  have hlen := p.eight_le (p.first_not_last h)
  have hfrag : p.frag = p.datagram.body.take p.len := by rw [Piece.frag, h, List.drop_zero]
  have hbyte : ∀ k < 8, u8 p.frag k = u8 p.datagram.body k := by
    intro k hk
    rw [u8, u8, hfrag, List.getD_eq_getElem?_getD, List.getD_eq_getElem?_getD, List.getElem?_take_of_lt (by omega)]
  refine ⟨by rw [p.length_frag]; exact hlen, ?_, ?_⟩ <;>
    rw [be16, be16, hbyte _ (by omega), hbyte _ (by omega)]

end Piece

/-! ## A frame -/

section Frame

variable {f : Flight} {p : Piece} {now rateNow : Int}

lemma relayRateAllow_congr (relay relay' : RelayState) (hcount : relay'.rateCount = relay.rateCount)
    (hreset : relay'.lastRateReset = relay.lastRateReset) (now : Int) (dir : RelayDir) (cls : RelayClass) :
    (relayRateAllow relay' now dir cls).1 = (relayRateAllow relay now dir cls).1 := by
  unfold relayRateAllow
  dsimp only
  rw [hreset]
  split
  · split <;> rfl
  · rw [hcount]
    split <;> rfl

lemma relayTxFragment_room {relay : RelayState} {ip frag : List UInt8} {hdrLen avail i : Nat} {fr : Fragment}
    {slots : List ReasmSlot} {slot : ReasmSlot} (hfrag : fragmentBytes ip hdrLen avail = frag)
    (hnonempty : frag.length ≠ 0) (hslot : fragmentSlot relay fr frag now = (slots, some i))
    (hget : slots[i]? = some slot) (hroom : fr.offset + frag.length ≤ reasmMaxLen) :
    relayTxFragment relay ip hdrLen avail fr now rateNow =
      if (absorb slot fr frag).totalLen = 0 ∨ (absorb slot fr frag).nextOffset < (absorb slot fr frag).totalLen then
        (true, { relay with reasm := slots.modify i fun slot => absorb slot fr frag }, [])
      else
        (true, completed { relay with
          reasm := slots.modify i fun slot => { absorb slot fr frag with inUse := false } }
          (absorb slot fr frag) rateNow) := by
  have hget' : (slots.modify i fun slot => absorb slot fr frag)[i]? = some (absorb slot fr frag) := by
    rw [List.getElem?_modify_eq, hget]
    rfl
  simp only [relayTxFragment, hfrag, hslot, hget']
  rw [if_neg hnonempty, if_neg (Nat.not_lt.mpr hroom), List.modify_modify_eq]
  rfl

lemma Ready.absorbed {slots : List ReasmSlot} {i : Nat} {slot : ReasmSlot} (h : Ready f p now slots i slot) :
    (absorb slot (fragmentOf p.pkt) p.frag).bytes (p.offset + p.len) = p.datagram.body.take (p.offset + p.len) := by
  have hbytes := bytes_absorb slot (fragmentOf p.pkt) p.frag
  rw [p.length_frag, p.fragment] at hbytes
  rw [p.fragment, hbytes, h.bytes, Piece.frag, ← List.take_add]

lemma Ready.sent {relay : RelayState} {slots : List ReasmSlot} {i : Nat} {slot : ReasmSlot}
    (h : Ready ⟨relay, f.going⟩ p now slots i slot)
    (hslot : fragmentSlot relay (fragmentOf p.pkt) p.frag now = (slots, some i)) :
    relayTxFragment relay (p.pkt.drop ethHlen) (ipHeaderLen p.pkt) (p.pkt.length - ethHlen - ipHeaderLen p.pkt)
        (fragmentOf p.pkt) now rateNow =
      if p.Last then
        (true, completed { relay with
          reasm := slots.modify i fun slot =>
            { absorb slot (fragmentOf p.pkt) p.frag with inUse := false } }
          (absorb slot (fragmentOf p.pkt) p.frag) rateNow)
      else
        (true, { relay with reasm := slots.modify i fun slot => absorb slot (fragmentOf p.pkt) p.frag }, []) := by
  have hnonempty := p.nonempty
  have hwithin := p.within
  have hbound := p.datagram.bound
  have hoffset : (fragmentOf p.pkt).offset = p.offset := congrArg Fragment.offset p.fragment
  have hroom : (fragmentOf p.pkt).offset + p.frag.length ≤ reasmMaxLen := by
    rw [hoffset, p.length_frag, reasmMaxLen]
    omega
  rw [relayTxFragment_room p.fragBytes_eq (by rw [p.length_frag]; omega) hslot h.get hroom]
  by_cases hlast : p.Last
  · have hmore : (fragmentOf p.pkt).more = false := by simp [p.more_eq, hlast]
    rw [if_pos hlast, if_neg]
    simp only [absorb, hmore, hoffset, p.length_frag]
    rw [if_neg (by simp)]
    omega
  · have hmore : (fragmentOf p.pkt).more = true := by simp [p.more_eq, hlast]
    rw [if_neg hlast, if_pos]
    left
    simp only [absorb, hmore]
    exact h.waiting

lemma Ready.completed {relay : RelayState} {slots : List ReasmSlot} {i : Nat} {slot : ReasmSlot}
    (h : Ready f p now slots i slot) (hlast : p.Last)
    (hrate : (relayRateAllow relay rateNow .out .unicast).1 = true) :
    (Net.completed relay (absorb slot (fragmentOf p.pkt) p.frag) rateNow).2 =
      [p.datagram.wanted slot.sockIdx] := by
  have hheader := p.datagram.header
  have htotal : (absorb slot (fragmentOf p.pkt) p.frag).totalLen = p.offset + p.len := by
    simp only [absorb, p.more_eq, p.length_frag, hlast]
    rw [p.fragment]
    rfl
  have hbytes := h.absorbed
  rw [← htotal] at hbytes
  rw [Net.completed, if_neg (by rw [htotal, hlast]; omega)]
  dsimp only
  rw [hrate, hbytes, htotal, hlast, List.take_length]
  show [(⟨slot.sockIdx, slot.key.dstIp, slot.dstPort, _⟩ : Sent)] = _
  rw [h.key, h.dstPort]
  rfl

def looking (relay : RelayState) (pkt : List UInt8) : RelayState :=
  { relay with guestIp := (learnedFrom pkt).getD relay.guestIp }

lemma collecting_looking (h : Collecting f) (pkt : List UInt8) : Collecting ⟨looking f.relay pkt, f.going⟩ :=
  h.mono rfl rfl rfl

lemma tx_piece (h : Collecting f) (hnow : ∀ g ∈ f.going, now - g.started ≤ reasmTimeout)
    (hlong : 42 ≤ p.pkt.length) (rateNow : Int) :
    broadcastRelayTx f.relay p.pkt now rateNow =
      relayTxFragment (looking f.relay p.pkt) (p.pkt.drop ethHlen) (ipHeaderLen p.pkt)
        (p.pkt.length - ethHlen - ipHeaderLen p.pkt) (fragmentOf p.pkt) now rateNow := by
  rw [broadcastRelayTx, if_neg (by simp [h.enabled]), p.udpHeaderLen hlong]
  simp only [p.isFragment, if_true, h.reasmExpire hnow]
  rfl

lemma tx_short (hshort : ¬42 ≤ p.pkt.length) : (broadcastRelayTx f.relay p.pkt now rateNow).2.2 = [] := by
  have hnone : Net.udpHeaderLen p.pkt = none := if_pos (Nat.not_le.mp hshort)
  rw [broadcastRelayTx, hnone]
  split <;> rfl

lemma ready_of_inOrder (h : Collecting f) (hplace : InOrder f p) (now : Int) :
    ∃ slots i slot, fragmentSlot f.relay (fragmentOf p.pkt) p.frag now = (slots, some i) ∧
      Ready f p now slots i slot := by
  rw [p.fragment]
  unfold InOrder at hplace
  split at hplace
  next hfirst =>
    obtain ⟨hfew, hnew, hsocket⟩ := hplace
    obtain ⟨hlong, hports⟩ := p.ports hfirst
    exact ready_first h hfirst hfew hnew hsocket p.frag hlong hports _
  next hlater =>
    obtain ⟨g, hg, hdatagram, hsent⟩ := hplace
    exact ready_later h hlater hg hdatagram hsent p.frag _

lemma collecting_more {slots : List ReasmSlot} {i : Nat} {slot : ReasmSlot} (h : Collecting f)
    (hready : Ready f p now slots i slot) (hlast : ¬p.Last) :
    Collecting
      ⟨{ f.relay with reasm := slots.modify i fun slot => absorb slot (fragmentOf p.pkt) p.frag },
        ⟨p.datagram, p.offset + p.len, f.startOf p now⟩ :: f.others p.datagram.key⟩ := by
  refine ⟨h.enabled, ?_, ?_, ?_, ?_, ?_⟩
  · exact (List.length_modify _ _ _).trans hready.length
  · rw [List.map_cons, List.nodup_cons]
    refine ⟨?_, h.distinct.sublist (List.filter_sublist.map _)⟩
    rintro hmem
    obtain ⟨g, hg, hkey⟩ := List.mem_map.mp hmem
    have hne := (List.mem_filter.mp hg).2
    simp [hkey] at hne
  · intro g hg
    rcases List.mem_cons.mp hg with rfl | hg
    · exact Option.isSome_iff_exists.mpr ⟨_, hready.socket⟩
    · exact h.sockets g (List.mem_filter.mp hg).1
  · intro g hg
    rcases List.mem_cons.mp hg with rfl | hg
    · exact p.within
    · exact h.within g (List.mem_filter.mp hg).1
  · have hheld : (absorb slot (fragmentOf p.pkt) p.frag).held =
        Going.held f.relay.sockets ⟨p.datagram, p.offset + p.len, f.startOf p now⟩ := by
      have hnext : (absorb slot (fragmentOf p.pkt) p.frag).nextOffset = p.offset + p.len := by
        simp only [absorb, p.fragment, p.length_frag]
      have htotal : (absorb slot (fragmentOf p.pkt) p.frag).totalLen = 0 := by
        simp only [absorb, p.more_eq, hlast]
        exact hready.waiting
      rw [ReasmSlot.held, Going.held, hnext, hready.absorbed, htotal, hready.socket]
      simp only [absorb, hready.key, hready.dstPort, hready.started, Option.getD_some]
    have hrest := hready.rest fun slot => absorb slot (fragmentOf p.pkt) p.frag
    have huse : (absorb slot (fragmentOf p.pkt) p.frag).inUse = true := hready.inUse
    rw [live_used huse, hheld] at hrest
    exact hrest

lemma collecting_last {slots : List ReasmSlot} {i : Nat} {slot : ReasmSlot} (h : Collecting f)
    (hready : Ready f p now slots i slot) :
    Collecting
      ⟨{ f.relay with
          reasm := slots.modify i fun slot =>
            { absorb slot (fragmentOf p.pkt) p.frag with inUse := false } }, f.others p.datagram.key⟩ := by
  refine ⟨h.enabled, ?_, h.distinct.sublist (List.filter_sublist.map _), ?_, ?_, ?_⟩
  · exact (List.length_modify _ _ _).trans hready.length
  · intro g hg
    exact h.sockets g (List.mem_filter.mp hg).1
  · intro g hg
    exact h.within g (List.mem_filter.mp hg).1
  · have hrest := hready.rest fun slot => { absorb slot (fragmentOf p.pkt) p.frag with inUse := false }
    rw [live_free rfl] at hrest
    exact hrest

/-- **One frame** that is legal and long enough: the slots still hold what was sent of the datagrams in
flight, and what is sent is what is to be sent. -/
lemma step_collecting (h : Collecting f) {e : FlightEvent} (hlegal : Legal f e) (hlong : LongEnough e) :
    Collecting (flightStep f e) ∧ SendsWanted f e := by
  cases e with
  | fragment p now rateNow =>
    have hlooking := collecting_looking h p.pkt
    obtain ⟨slots, i, slot, hslot, hready⟩ :=
      ready_of_inOrder (p := p) hlooking hlegal.2.1 now
    have htx := (tx_piece h hlegal.1 hlong rateNow).trans (hready.sent hslot)
    simp only [flightStep, SendsWanted]
    rw [htx]
    by_cases hlast : p.Last
    · have hrate := relayRateAllow_congr f.relay
        { looking f.relay p.pkt with
          reasm := slots.modify i fun slot =>
            { absorb slot (fragmentOf p.pkt) p.frag with inUse := false } }
        rfl rfl rateNow .out .unicast
      have honly := rateOnly_completed
        { looking f.relay p.pkt with
          reasm := slots.modify i fun slot =>
            { absorb slot (fragmentOf p.pkt) p.frag with inUse := false } }
        (absorb slot (fragmentOf p.pkt) p.frag) rateNow
      have hsocket : p.datagram.socket f.relay.sockets = some slot.sockIdx := hready.socket
      rw [if_pos hlast, if_pos hlast, if_pos hlast, hsocket]
      refine ⟨?_, ?_⟩
      · exact (collecting_last hlooking hready).mono honly.enabled honly.sockets honly.reasm
      · exact hready.completed hlast (hrate.trans (hlegal.2.2 hlast))
    · rw [if_neg hlast, if_neg hlast, if_neg hlast]
      exact ⟨collecting_more hlooking hready hlast, rfl⟩
  | other pkt hother now rateNow =>
    refine ⟨?_, trivial⟩
    simp only [flightStep, broadcastRelayTx]
    rw [if_neg (by simp [h.enabled])]
    cases hlen : Net.udpHeaderLen pkt with
    | none => exact h
    | some hdrLen =>
      have hrate := rateOnly_whole (looking f.relay pkt) pkt hdrLen rateNow
      simp only [hother, h.reasmExpire hlegal]
      exact (collecting_looking h pkt).mono hrate.enabled hrate.sockets hrate.reasm

lemma not_sends_of_short (h : Collecting f) {e : FlightEvent} (hlegal : Legal f e) (hshort : ¬LongEnough e) :
    ¬SendsWanted f e := by
  cases e with
  | fragment p now rateNow =>
    obtain ⟨slots, i, slot, -, hready⟩ := ready_of_inOrder h hlegal.2.1 now
    rw [SendsWanted, tx_short hshort, if_pos (p.last_of_short (Nat.not_le.mp hshort)), hready.socket]
    exact nofun
  | other pkt hother now rateNow => exact absurd trivial hshort

end Frame

/-- **Fragments are reassembled.**  In every run of legal frames from the relay's start, each datagram is sent
as it is to be exactly when no fragment's frame is shorter than 42 bytes; and whatever frames the relay is
given from its start, it sends for fragments nothing but whole datagrams. -/
theorem fragments_reassembled (sockets : Nat → Bool) (bcast host : UInt32) (start : Int) :
    (∀ es : List FlightEvent,
      Along flightStep Legal ⟨broadcastRelayInit relayStarted sockets bcast host start, []⟩ es →
        (Along flightStep (fun _ e => LongEnough e)
            ⟨broadcastRelayInit relayStarted sockets bcast host start, []⟩ es ↔
          Along flightStep SendsWanted
            ⟨broadcastRelayInit relayStarted sockets bcast host start, []⟩ es)) ∧
      ∀ ts : List Transmit, Along Transmitted.step SendsOneDatagram
        ⟨broadcastRelayInit relayStarted sockets bcast host start, []⟩ ts := by
  refine ⟨fun es hlegal => ?_, run_gathered sockets bcast host start⟩
  refine along_iff_of_allowed (I := Collecting) (L := Legal) ?_ ?_ es _ ?_ hlegal
  · intro f e h hlegal hlong
    exact (step_collecting h hlegal hlong).1
  · intro f e h hlegal
    refine ⟨fun hlong => (step_collecting h hlegal hlong).2, fun hsends => ?_⟩
    by_contra hshort
    exact not_sends_of_short h hlegal hshort hsends
  · exact ⟨rfl, rfl, List.nodup_nil, nofun, nofun, List.Perm.refl _⟩

/-! ## A datagram with four bytes to send -/

def shareDatagram : GuestDatagram where
  key := ⟨0x64400002, 0xc0a80109, 1⟩
  body := [0x80, 3, 0x80, 3, 0, 12, 0, 0, 1, 2, 3, 4]
  header := by decide
  bound := by decide
  external := by decide
  unicast := by decide

def shareFrame (total flags offset : UInt8) (bytes : List UInt8) : List UInt8 :=
  [0x52, 0x54, 0, 0x12, 0x34, 0x56, 6, 2, 3, 4, 5, 6, 8, 0, 0x45, 0, 0, total, 0, 1, flags, offset, 64, 17, 0, 0,
    100, 64, 0, 2, 192, 168, 1, 9] ++ bytes

def firstPiece : Piece where
  datagram := shareDatagram
  offset := 0
  len := 8
  pkt := shareFrame 28 0x20 0 [0x80, 3, 0x80, 3, 0, 12, 0, 0]
  nonempty := by decide
  within := by decide
  part := by decide
  aligned := by decide
  ethertype := by decide
  proto := by decide
  mac := by decide
  headerLen := by decide
  holds := by decide
  total := by decide
  fragment := by decide
  bytes := by decide

def lastPiece (padded : Bool) : Piece where
  datagram := shareDatagram
  offset := 8
  len := 4
  pkt := shareFrame 24 0 1 ([1, 2, 3, 4] ++ List.replicate (if padded then 22 else 0) 0)
  nonempty := by decide
  within := by decide
  part := by decide
  aligned := by decide
  ethertype := by cases padded <;> decide
  proto := by cases padded <;> decide
  mac := by cases padded <;> decide
  headerLen := by cases padded <;> decide
  holds := by cases padded <;> decide
  total := by cases padded <;> decide
  fragment := by cases padded <;> decide
  bytes := by cases padded <;> decide

def shareRun (padded : Bool) : List FlightEvent := [.fragment firstPiece 0 0, .fragment (lastPiece padded) 1 1]

def shareStart : Flight := ⟨broadcastRelayInit relayStarted (fun _ => true) 0xc0a801ff 0xc0a80102 0, []⟩

lemma shareRun_going :
    (flightStep shareStart (.fragment firstPiece 0 0)).going = [⟨shareDatagram, 8, 0⟩] := rfl

lemma shareRun_legal (padded : Bool) : Along flightStep Legal shareStart (shareRun padded) := by
  rw [shareRun, along_cons, along_cons]
  refine ⟨⟨nofun, ?_, fun _ => by decide⟩, ⟨?_, ?_, fun _ => ?_⟩, along_nil _⟩
  · refine ⟨by decide, nofun, by decide⟩
  · intro g hg
    rw [shareRun_going, List.mem_singleton] at hg
    subst hg
    decide
  · refine ⟨⟨shareDatagram, 8, 0⟩, ?_, rfl, rfl⟩
    rw [shareRun_going]
    exact List.mem_cons_self
  · decide

theorem fragments_reassembled_padded : Along flightStep SendsWanted shareStart (shareRun true) := by
  refine ((fragments_reassembled (fun _ => true) 0xc0a801ff 0xc0a80102 0).1 _ (shareRun_legal true)).mp ?_
  rw [shareRun, along_cons, along_cons]
  refine ⟨?_, ?_, along_nil _⟩
  · show 42 ≤ firstPiece.pkt.length
    decide
  · show 42 ≤ (lastPiece true).pkt.length
    decide

theorem fragments_reassembled_short : ∃ es : List FlightEvent,
    Along flightStep Legal shareStart es ∧ ¬Along flightStep SendsWanted shareStart es := by
  refine ⟨shareRun false, shareRun_legal false, ?_⟩
  rw [shareRun, along_cons, along_cons]
  rintro ⟨-, hsent, -⟩
  revert hsent
  rw [SendsWanted, tx_short (by decide)]
  decide

end RpcEmu.Net
