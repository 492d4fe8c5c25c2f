import RpcEmu.Net.Relay

/-!
# What the relay collects

A slot of `reasm` holds the bytes of fragments of one datagram, each of which starts where the one before it
ended (`Contiguous`), whatever frames the relay is given.  So what it sends for them has no hole and is of
one datagram (`fragment_gathered`, `run_gathered`).
-/

namespace RpcEmu.Net

open Runs

def fragBytes (pkt : List UInt8) : List UInt8 :=
  fragmentBytes (pkt.drop ethHlen) (ipHeaderLen pkt) (pkt.length - ethHlen - ipHeaderLen pkt)

/-- Pieces of one datagram, each where the last left off. -/
inductive Contiguous (key : DatagramKey) : List (List UInt8) → List UInt8 → Prop
  | nil : Contiguous key [] []
  | snoc {pkts bytes} (pkt : List UInt8) (h : Contiguous key pkts bytes) (hkey : (fragmentOf pkt).key = key)
      (hoffset : (fragmentOf pkt).offset = bytes.length) :
      Contiguous key (pkts ++ [pkt]) (bytes ++ fragBytes pkt)

/-- The first of a datagram's bytes have its ports, the socket for them is this, and it is sent to this
port. -/
structure PortsOf (sockets : Nat → Bool) (bytes : List UInt8) (sockIdx : Nat) (dstPort : UInt16) : Prop where
  header : 8 ≤ bytes.length
  port : dstPort = be16 bytes 2
  socket : accessSocket sockets (be16 bytes 0) (be16 bytes 2) = some sockIdx

/-- The slot holds a run of the pieces given. -/
def Gathered (sockets : Nat → Bool) (given : List (List UInt8)) (slot : ReasmSlot) : Prop :=
  slot.totalLen = 0 ∧ PortsOf sockets (slot.bytes slot.nextOffset) slot.sockIdx slot.dstPort ∧
    ∃ pkts, pkts.Sublist given ∧ Contiguous slot.key pkts (slot.bytes slot.nextOffset)

/-- **Nothing but one whole datagram**: what is sent is the payload of contiguous fragments that the relay
was given, the last of which says that it is the last. -/
def OneDatagram (sockets : Nat → Bool) (given : List (List UInt8)) (sent : Sent) : Prop :=
  ∃ key pkts pkt bytes, (pkts ++ [pkt]).Sublist given ∧ Contiguous key (pkts ++ [pkt]) bytes ∧
    (fragmentOf pkt).more = false ∧ sent.payload = bytes.drop 8 ∧ sent.ip = key.dstIp ∧
    PortsOf sockets bytes sent.sockIdx sent.port

/-! ## Bytes -/

lemma length_bytes (slot : ReasmSlot) (n : Nat) : (slot.bytes n).length = n := by simp [ReasmSlot.bytes]

lemma bytes_absorb (slot : ReasmSlot) (f : Fragment) (frag : List UInt8) :
    (absorb slot f frag).bytes (f.offset + frag.length) = slot.bytes f.offset ++ frag := by
  have hold : ∀ i ∈ List.range f.offset, (absorb slot f frag).data i = slot.data i := by
    intro i hi
    refine if_neg ?_
    rintro ⟨hle, -⟩
    exact absurd (List.mem_range.mp hi) (Nat.not_lt.mpr hle)
  have hnew : (List.range frag.length).map (fun i => (absorb slot f frag).data (f.offset + i)) = frag := by
    refine List.ext_getElem (by simp) ?_
    intro i hi hi'
    rw [List.getElem_map, List.getElem_range]
    have hin : f.offset ≤ f.offset + i ∧ f.offset + i < f.offset + frag.length := by omega
    show memcpyAt slot.data f.offset frag (f.offset + i) = _
    rw [memcpyAt, if_pos hin, Nat.add_sub_cancel_left]
    exact List.getD_eq_getElem _ _ hi'
  rw [ReasmSlot.bytes, List.range_add, List.map_append, List.map_congr_left hold, List.map_map]
  exact congrArg _ hnew

lemma u8_append {bytes more : List UInt8} {i : Nat} (hi : i < bytes.length) :
    u8 (bytes ++ more) i = u8 bytes i := List.getD_append _ _ _ _ hi

lemma PortsOf.append {sockets : Nat → Bool} {bytes : List UInt8} {sockIdx : Nat} {dstPort : UInt16}
    (h : PortsOf sockets bytes sockIdx dstPort) (more : List UInt8) :
    PortsOf sockets (bytes ++ more) sockIdx dstPort := by
  have hlen := h.header
  have hports : be16 (bytes ++ more) 0 = be16 bytes 0 ∧ be16 (bytes ++ more) 2 = be16 bytes 2 := by
    refine ⟨?_, ?_⟩ <;> rw [be16, be16, u8_append (by omega), u8_append (by omega)]
  refine ⟨?_, ?_, ?_⟩
  · rw [List.length_append]
    omega
  · rw [hports.2, h.port]
  · rw [hports.1, hports.2, h.socket]

lemma Gathered.more {sockets : Nat → Bool} {given : List (List UInt8)} {slot : ReasmSlot}
    (h : Gathered sockets given slot) (pkt : List UInt8) : Gathered sockets (given ++ [pkt]) slot := by
  obtain ⟨htotal, hports, pkts, hsub, hcontig⟩ := h
  exact ⟨htotal, hports, pkts, hsub.trans (List.sublist_append_left _ _), hcontig⟩

/-! ## One fragment -/

section Fragment

variable {relay : RelayState} {given : List (List UInt8)}

/-- The slot that a fragment is to go in: what is in it ends where the fragment starts, and with the fragment
it has the ports. -/
def Awaits (sockets : Nat → Bool) (given : List (List UInt8)) (f : Fragment) (frag : List UInt8)
    (slot : ReasmSlot) : Prop :=
  slot.key = f.key ∧ slot.totalLen = 0 ∧
    PortsOf sockets (slot.bytes f.offset ++ frag) slot.sockIdx slot.dstPort ∧
    ∃ pkts, pkts.Sublist given ∧ Contiguous f.key pkts (slot.bytes f.offset)

lemma reasmLookup_some {slots : List ReasmSlot} {key : DatagramKey} {i : Nat}
    (h : reasmLookup slots key = some i) : ∃ slot, slots[i]? = some slot ∧ slot.inUse = true ∧ slot.key = key := by
  obtain ⟨hi, hslot, -⟩ := List.findIdx?_eq_some_iff_getElem.mp h
  refine ⟨slots[i], List.getElem?_eq_getElem hi, ?_⟩
  simpa using hslot

lemma getElem?_modify_self {slots : List ReasmSlot} {i : Nat} {f : ReasmSlot → ReasmSlot} {slot : ReasmSlot}
    (h : (slots.modify i f)[i]? = some slot) : ∃ old, slots[i]? = some old ∧ slot = f old := by
  rw [List.getElem?_modify_eq] at h
  obtain ⟨old, hold, rfl⟩ := Option.map_eq_some_iff.mp h
  exact ⟨old, hold, rfl⟩

lemma fragmentSlot_spec (hgathered : ∀ slot ∈ relay.reasm, slot.inUse = true → Gathered relay.sockets given slot)
    (f : Fragment) (frag : List UInt8) (now : Int) :
    (∀ j slot, some j ≠ (fragmentSlot relay f frag now).2 → (fragmentSlot relay f frag now).1[j]? = some slot →
        slot.inUse = true → Gathered relay.sockets given slot) ∧
      ∀ i slot, (fragmentSlot relay f frag now).2 = some i → (fragmentSlot relay f frag now).1[i]? = some slot →
        Awaits relay.sockets given f frag slot := by
  have hsame : ∀ j slot, relay.reasm[j]? = some slot → slot.inUse = true →
      Gathered relay.sockets given slot := fun j slot hslot => hgathered slot (List.mem_of_getElem? hslot)
  unfold fragmentSlot
  split
  next hfirst =>
    split
    next => exact ⟨fun j slot _ => hsame j slot, fun i slot hi => nomatch hi⟩
    next hlen =>
      split
      next => exact ⟨fun j slot _ => hsame j slot, fun i slot hi => nomatch hi⟩
      next sockIdx hsocket =>
        dsimp only [reasmClaim]
        generalize claimedSlot relay.reasm f.key = claimed
        refine ⟨?_, ?_⟩
        · intro j slot hj hslot huse
          have hne : claimed ≠ j := fun h => hj (congrArg some h.symm)
          rw [List.getElem?_modify_ne _ _ hne, List.getElem?_modify_ne _ _ hne] at hslot
          exact hsame j slot hslot huse
        · intro i slot hi hslot
          obtain rfl := Option.some_inj.mp hi
          obtain ⟨claimed, hclaimed, rfl⟩ := getElem?_modify_self hslot
          obtain ⟨old, -, rfl⟩ := getElem?_modify_self hclaimed
          have hnone : ∀ slot : ReasmSlot, slot.bytes f.offset = [] := by
            intro slot
            rw [hfirst]
            rfl
          refine ⟨rfl, rfl, ?_, [], List.nil_sublist _, ?_⟩
          · rw [hnone, List.nil_append]
            exact ⟨Nat.not_lt.mp hlen, rfl, hsocket⟩
          · rw [hnone]
            exact .nil
  next hlater =>
    split
    next => exact ⟨fun j slot _ => hsame j slot, fun i slot hi => nomatch hi⟩
    next i hlookup =>
      obtain ⟨slot, hslot, huse, hkey⟩ := reasmLookup_some hlookup
      simp only [hslot]
      split
      next =>
        refine ⟨?_, fun i slot hi => nomatch hi⟩
        intro j slot' _ hslot' huse'
        by_cases hji : i = j
        · subst hji
          obtain ⟨old, -, rfl⟩ := getElem?_modify_self hslot'
          cases huse'
        · rw [List.getElem?_modify_ne _ _ hji] at hslot'
          exact hsame j slot' hslot' huse'
      next hnext =>
        refine ⟨fun j slot _ => hsame j slot, ?_⟩
        intro i' slot' hi' hslot'
        obtain rfl := Option.some_inj.mp hi'
        obtain rfl := Option.some_inj.mp (hslot.symm.trans hslot')
        obtain ⟨htotal, hports, pkts, hsub, hcontig⟩ := hsame i slot hslot huse
        rw [← not_not.mp hnext] at hports hcontig
        exact ⟨hkey, htotal, hports.append frag, pkts, hsub, hkey ▸ hcontig⟩

lemma Awaits.absorb {sockets : Nat → Bool} {pkt : List UInt8} {slot : ReasmSlot}
    (h : Awaits sockets given (fragmentOf pkt) (fragBytes pkt) slot) :
    ∃ pkts, (pkts ++ [pkt]).Sublist (given ++ [pkt]) ∧
      Contiguous slot.key (pkts ++ [pkt])
        ((Net.absorb slot (fragmentOf pkt) (fragBytes pkt)).bytes
          ((fragmentOf pkt).offset + (fragBytes pkt).length)) ∧
      PortsOf sockets ((Net.absorb slot (fragmentOf pkt) (fragBytes pkt)).bytes
        ((fragmentOf pkt).offset + (fragBytes pkt).length)) slot.sockIdx slot.dstPort := by
  obtain ⟨hkey, -, hports, pkts, hsub, hcontig⟩ := h
  rw [bytes_absorb]
  refine ⟨pkts, hsub.append (List.Sublist.refl _), ?_, hports⟩
  rw [hkey]
  exact hcontig.snoc pkt rfl (length_bytes _ _).symm

lemma completed_sent {slot : ReasmSlot} {now : Int} {sent : Sent} (h : sent ∈ (completed relay slot now).2) :
    sent = ⟨slot.sockIdx, slot.key.dstIp, slot.dstPort, (slot.bytes slot.totalLen).drop 8⟩ := by
  unfold completed at h
  split at h
  next => cases h
  next =>
    dsimp only at h
    split at h
    next => cases h
    next => exact List.mem_singleton.mp h

lemma gathered_of_others {sockets : Nat → Bool} {slots : List ReasmSlot} {i : Nat} {pkt : List UInt8}
    (hothers : ∀ j slot, j ≠ i → slots[j]? = some slot → slot.inUse = true → Gathered sockets given slot)
    (hself : ∀ slot, slots[i]? = some slot → slot.inUse = true → Gathered sockets (given ++ [pkt]) slot) :
    ∀ slot ∈ slots, slot.inUse = true → Gathered sockets (given ++ [pkt]) slot := by
  intro slot hmem huse
  obtain ⟨j, hj⟩ := List.mem_iff_getElem?.mp hmem
  by_cases hji : j = i
  · subst hji
    exact hself slot hj huse
  · exact (hothers j slot hji hj huse).more pkt

/-- **One fragment.**  The slots still hold what was gathered, and what is sent is one datagram. -/
lemma fragment_gathered (pkt : List UInt8)
    (hgathered : ∀ slot ∈ relay.reasm, slot.inUse = true → Gathered relay.sockets given slot)
    (now rateNow : Int) :
    (∀ slot ∈ (relayTxFragment relay (pkt.drop ethHlen) (ipHeaderLen pkt)
        (pkt.length - ethHlen - ipHeaderLen pkt) (fragmentOf pkt) now rateNow).2.1.reasm,
      slot.inUse = true → Gathered relay.sockets (given ++ [pkt]) slot) ∧
    ∀ sent ∈ (relayTxFragment relay (pkt.drop ethHlen) (ipHeaderLen pkt)
        (pkt.length - ethHlen - ipHeaderLen pkt) (fragmentOf pkt) now rateNow).2.2,
      OneDatagram relay.sockets (given ++ [pkt]) sent := by
  unfold relayTxFragment
  rw [show fragmentBytes (pkt.drop ethHlen) (ipHeaderLen pkt) (pkt.length - ethHlen - ipHeaderLen pkt) =
    fragBytes pkt from rfl]
  obtain ⟨hothers, hawaits⟩ := fragmentSlot_spec hgathered (fragmentOf pkt) (fragBytes pkt) now
  dsimp only
  split
  next =>
    exact ⟨fun slot hslot huse => (hgathered slot hslot huse).more pkt, fun sent hsent => nomatch hsent⟩
  next hnonempty =>
    revert hothers hawaits
    generalize fragmentSlot relay (fragmentOf pkt) (fragBytes pkt) now = found
    obtain ⟨slots, _ | i⟩ := found
    · intro hothers _
      refine ⟨?_, fun sent hsent => nomatch hsent⟩
      intro slot hslot huse
      obtain ⟨j, hj⟩ := List.mem_iff_getElem?.mp hslot
      exact (hothers j slot (nofun) hj huse).more pkt
    · intro hothers hawaits
      have hrest : ∀ (f : ReasmSlot → ReasmSlot) j slot, j ≠ i → (slots.modify i f)[j]? = some slot →
          slot.inUse = true → Gathered relay.sockets given slot := by
        intro f j slot hji hj huse
        rw [List.getElem?_modify_ne _ _ (Ne.symm hji)] at hj
        exact hothers j slot (fun h => hji (Option.some_inj.mp h)) hj huse
      have hdropped : ∀ (f : ReasmSlot → ReasmSlot),
          ∀ slot ∈ (slots.modify i f).modify i (fun slot => { slot with inUse := false }),
            slot.inUse = true → Gathered relay.sockets (given ++ [pkt]) slot := by
        intro f
        refine gathered_of_others (i := i) ?_ ?_
        · intro j slot hji hj huse
          rw [List.getElem?_modify_ne _ _ (Ne.symm hji)] at hj
          exact hrest f j slot hji hj huse
        · intro slot hslot huse
          obtain ⟨old, -, rfl⟩ := getElem?_modify_self hslot
          cases huse
      dsimp only
      split
      next =>
        refine ⟨?_, fun sent hsent => nomatch hsent⟩
        have := hdropped id
        rwa [List.modify_id] at this
      next =>
        split
        next hnone =>
          refine ⟨gathered_of_others (hrest _) ?_, fun sent hsent => nomatch hsent⟩
          intro slot hslot
          rw [hnone] at hslot
          cases hslot
        next slot hslot =>
          obtain ⟨old, hold, rfl⟩ := getElem?_modify_self hslot
          have hold := hawaits i old rfl hold
          obtain ⟨pkts, hsub, hcontig, hports⟩ := hold.absorb
          split
          next hwaiting =>
            refine ⟨gathered_of_others (hrest _) ?_, fun sent hsent => nomatch hsent⟩
            intro slot' hslot' huse
            obtain rfl := Option.some_inj.mp (hslot.symm.trans hslot')
            refine ⟨?_, hports, pkts ++ [pkt], hsub, hcontig⟩
            exact hwaiting.resolve_right (by simp only [absorb]; split <;> [rw [hold.2.1]; skip] <;> omega)
          next hwhole =>
            rw [(rateOnly_completed _ _ _).reasm]
            refine ⟨hdropped _, ?_⟩
            intro sent hsent
            obtain rfl := completed_sent hsent
            have hmore : (fragmentOf pkt).more = false := by
              by_contra hmore
              refine hwhole (Or.inl ?_)
              rw [absorb, if_pos (by simpa using hmore)]
              exact hold.2.1
            have htotal : (absorb old (fragmentOf pkt) (fragBytes pkt)).totalLen =
                (fragmentOf pkt).offset + (fragBytes pkt).length := by
              rw [absorb, hmore]
              rfl
            rw [htotal]
            exact ⟨_, pkts, pkt, _, hsub, hcontig, hmore, rfl, rfl, hports⟩

end Fragment

/-! ## A run -/

section Run

structure Transmit where
  pkt : List UInt8
  now : Int
  rateNow : Int

structure Transmitted where
  relay : RelayState
  given : List (List UInt8)

def Transmitted.step (s : Transmitted) (t : Transmit) : Transmitted :=
  ⟨(broadcastRelayTx s.relay t.pkt t.now t.rateNow).2.1, s.given ++ [t.pkt]⟩

/-- What is sent for a fragment is one datagram's. -/
def SendsOneDatagram (s : Transmitted) (t : Transmit) : Prop :=
  isFragment t.pkt = true → ∀ sent ∈ (broadcastRelayTx s.relay t.pkt t.now t.rateNow).2.2,
    OneDatagram s.relay.sockets (s.given ++ [t.pkt]) sent

/-- Every slot in use holds a run of the pieces. -/
def AllGathered (s : Transmitted) : Prop :=
  ∀ slot ∈ s.relay.reasm, slot.inUse = true → Gathered s.relay.sockets s.given slot

lemma AllGathered.more {s : Transmitted} (h : AllGathered s) (pkt : List UInt8) :
    AllGathered ⟨s.relay, s.given ++ [pkt]⟩ := fun slot hslot huse => (h slot hslot huse).more pkt

lemma mem_reasmExpire {slots : List ReasmSlot} {now : Int} {slot : ReasmSlot} (h : slot ∈ reasmExpire slots now)
    (huse : slot.inUse = true) : slot ∈ slots := by
  obtain ⟨old, hold, rfl⟩ := List.mem_map.mp h
  split at huse
  next => cases huse
  next hkept =>
    rw [if_neg hkept]
    exact hold

/-- **One frame** keeps what the slots hold, and sends for a fragment nothing but one whole datagram. -/
lemma transmit_gathered {s : Transmitted} (h : AllGathered s) (t : Transmit) :
    AllGathered (s.step t) ∧ SendsOneDatagram s t := by
  unfold SendsOneDatagram Transmitted.step broadcastRelayTx
  split
  next => exact ⟨h.more t.pkt, fun _ sent hsent => nomatch hsent⟩
  next =>
    cases hlen : udpHeaderLen t.pkt with
    | none => exact ⟨h.more t.pkt, fun _ sent hsent => nomatch hsent⟩
    | some hdrLen =>
      have hhdrLen : hdrLen = ipHeaderLen t.pkt := by
        unfold udpHeaderLen at hlen
        split_ifs at hlen
        exact (Option.some_inj.mp hlen).symm
      subst hhdrLen
      have hexpired : AllGathered
          ⟨{ s.relay with
              guestIp := (learnedFrom t.pkt).getD s.relay.guestIp
              reasm := reasmExpire s.relay.reasm t.now }, s.given⟩ :=
        fun slot hslot huse => h slot (mem_reasmExpire hslot huse) huse
      dsimp only
      by_cases hfragment : isFragment t.pkt = true
      · rw [if_pos hfragment]
        obtain ⟨hslots, hsent⟩ := fragment_gathered t.pkt hexpired t.now t.rateNow
        refine ⟨?_, fun _ => hsent⟩
        unfold AllGathered
        obtain ⟨slots, hrate⟩ := rateOnly_fragment
          { s.relay with
            guestIp := (learnedFrom t.pkt).getD s.relay.guestIp
            reasm := reasmExpire s.relay.reasm t.now }
          (t.pkt.drop ethHlen) (ipHeaderLen t.pkt) (t.pkt.length - ethHlen - ipHeaderLen t.pkt)
          (fragmentOf t.pkt) t.now t.rateNow
        rw [hrate.sockets]
        exact hslots
      · rw [if_neg hfragment]
        refine ⟨?_, fun hyes => absurd hyes hfragment⟩
        have hrate := rateOnly_whole
          { s.relay with
            guestIp := (learnedFrom t.pkt).getD s.relay.guestIp
            reasm := reasmExpire s.relay.reasm t.now } t.pkt (ipHeaderLen t.pkt) t.rateNow
        unfold AllGathered
        rw [hrate.sockets, hrate.reasm]
        exact hexpired.more t.pkt

lemma run_gathered (sockets : Nat → Bool) (bcast host : UInt32) (now : Int) (ts : List Transmit) :
    Along Transmitted.step SendsOneDatagram
      ⟨broadcastRelayInit relayStarted sockets bcast host now, []⟩ ts := by
  have hstart : AllGathered ⟨broadcastRelayInit relayStarted sockets bcast host now, []⟩ := by
    intro slot hslot huse
    obtain ⟨old, -, rfl⟩ := List.mem_map.mp hslot
    cases huse
  exact along_of_inv (I := AllGathered) (C := fun _ _ => True)
    (fun s t h _ => (transmit_gathered h t).1) (fun s t h _ => (transmit_gathered h t).2) ts _ hstart
    fun _ _ => trivial

end Run

end RpcEmu.Net
