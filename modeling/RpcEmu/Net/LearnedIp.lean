import RpcEmu.Net.Relay

/-!
# Whose address the relay learns

Frames for the guest go to the address that the relay learned from the frames it was given; and it is given
the guest's own frames, and those that come from the other machines.

* **`AddressedRight`** — the frames made for the guest go to its own address — is kept by a step exactly
  when the relay learns no other machine's address in it (`step_iff`).
* **The gap.**  `net_switch_poll` gives the relay every frame of every peer.
-/

namespace RpcEmu.Net

open Runs

def netSwitchMaxFrame : Nat := 1522

/-- `own` is the address the guest last transmitted from. -/
structure Bridge where
  relay : RelayState
  guest : NatState
  own : Option UInt32

inductive BridgeEvent
  | transmit (pkt : List UInt8) (now rateNow : Int)
  | peer (frame : List UInt8) (now rateNow : Int)
  | datagram (sockIdx : Nat) (sender : SockAddr) (payload : List UInt8) (now : Int)

def sourceOf (pkt : List UInt8) : Option UInt32 := (udpHeaderLen pkt).bind fun _ => learnedFrom pkt

/-- A frame that comes over the wire, in `net_switch_poll`. -/
def netSwitchRx (hwaddr : Mac) (b : Bridge) (frame : List UInt8) (now rateNow : Int) : Bridge :=
  let frame := frame.take netSwitchMaxFrame
  { b with
    relay := (broadcastRelayTx b.relay frame now rateNow).2.1
    guest := if netSwitchFrameIsForUs frame hwaddr.bytes then (networkNatInjectPacket b.guest frame).2
      else b.guest }

def bridgeStep (hwaddr : Mac) (b : Bridge) : BridgeEvent → Bridge
  | .transmit pkt now rateNow =>
    { b with relay := (broadcastRelayTx b.relay pkt now rateNow).2.1, own := (sourceOf pkt).or b.own }
  | .peer frame now rateNow => netSwitchRx hwaddr b frame now rateNow
  | .datagram sockIdx sender payload now =>
    let (_, relay, guest) := pollSocket b.relay hwaddr b.guest sockIdx sender payload now
    { b with relay := relay, guest := guest }

/-- The address is the guest's own. -/
def IsOwn (hwaddr : Mac) (own : Option UInt32) (ip : UInt32) : Prop :=
  ip = guestSubnetGuest hwaddr ∨ own = some ip

def frameDestIp (frame : List UInt8) : UInt32 := be32 frame 30

/-- **Every frame made for this guest goes to its own address.** -/
structure AddressedRight (hwaddr : Mac) (b : Bridge) : Prop where
  whole : ∀ maxLen sender destPort payload frame,
    buildGuestFrame b.relay hwaddr maxLen sender destPort payload false = some frame →
      IsOwn hwaddr b.own (frameDestIp frame)
  fragments : ∀ guest sender destPort payload,
    ∀ frame ∈ (injectFragmentedUdp b.relay hwaddr guest sender destPort payload false).1,
      IsOwn hwaddr b.own (frameDestIp frame)

/-- A peer's frame teaches the relay no address but the guest's. -/
def LearnsOwn (hwaddr : Mac) (b : Bridge) : BridgeEvent → Prop
  | .peer frame _ _ => b.relay.enabled = true →
      ∀ ip, sourceOf (frame.take netSwitchMaxFrame) = some ip → IsOwn hwaddr b.own ip
  | _ => True

/-! ## The frames made -/

section Frames

variable {relay : RelayState} {hwaddr : Mac}

lemma frameDestIp_eq (broadcast : Bool) (len : Nat) (id flags : UInt16) (src dst : UInt32)
    (rest : List UInt8) :
    frameDestIp (guestEthHeader hwaddr broadcast ++ guestIpHeader len id flags src dst ++ rest) = dst := by
  let front := [0x45, 0] ++ be16Bytes (UInt16.ofNat (ipHdrLen + len)) ++ be16Bytes id ++
    be16Bytes flags ++ [64, ipProtoUdp]
  let cksum := be16Bytes (ipChecksum (front ++ [0, 0] ++ (be32Bytes src ++ be32Bytes dst)))
  have hlen : (guestEthHeader hwaddr broadcast ++ (front ++ cksum ++ be32Bytes src)).length = 30 := by
    cases broadcast <;> rfl
  have hframe : guestEthHeader hwaddr broadcast ++ guestIpHeader len id flags src dst ++ rest =
      (guestEthHeader hwaddr broadcast ++ (front ++ cksum ++ be32Bytes src)) ++ (be32Bytes dst ++ rest) := by
    simp only [guestIpHeader, List.append_assoc, front, cksum]
  have hread := be32_bytes (guestEthHeader hwaddr broadcast ++ (front ++ cksum ++ be32Bytes src)) rest dst
  rw [hlen] at hread
  rw [frameDestIp, hframe, hread]

lemma frameDestIp_whole {maxLen : Nat} {sender : SockAddr} {destPort : UInt16} {payload frame : List UInt8}
    {broadcast : Bool} (h : buildGuestFrame relay hwaddr maxLen sender destPort payload broadcast = some frame) :
    frameDestIp frame = guestDestIp relay hwaddr broadcast := by
  unfold buildGuestFrame at h
  split at h
  · cases h
  · obtain rfl := Option.some_inj.mp h
    rw [List.append_assoc, frameDestIp_eq]

lemma mem_injectLoop {frameAt : Nat → List UInt8} {total offset : Nat} {guest : NatState} {frame : List UInt8}
    (h : frame ∈ (injectLoop frameAt total offset guest).1) : ∃ offset, frame = frameAt offset := by
  fun_induction injectLoop frameAt total offset guest with
  | case1 offset guest _ frame' taken guest' _ _ => exact ⟨offset, List.mem_singleton.mp h⟩
  | case2 offset guest _ frame' taken guest' _ _ frames last hrest ih =>
    rcases List.mem_cons.mp h with hfirst | hlater
    · exact ⟨offset, hfirst⟩
    · exact ih (by rw [hrest]; exact hlater)
  | case3 offset guest _ => cases h

lemma frameDestIp_fragment {guest : NatState} {sender : SockAddr} {destPort : UInt16}
    {payload frame : List UInt8} {broadcast : Bool}
    (h : frame ∈ (injectFragmentedUdp relay hwaddr guest sender destPort payload broadcast).1) :
    frameDestIp frame = guestDestIp relay hwaddr broadcast := by
  simp only [injectFragmentedUdp] at h
  split at h
  · cases h
  · obtain ⟨offset, rfl⟩ := mem_injectLoop h
    simp only [guestFragment]
    rw [frameDestIp_eq]
    rfl

lemma addressedRight_iff {b : Bridge} :
    AddressedRight hwaddr b ↔ b.relay.guestIp ≠ 0 → IsOwn hwaddr b.own b.relay.guestIp := by
  have hdest : IsOwn hwaddr b.own (guestDestIp b.relay hwaddr false) ↔
      (b.relay.guestIp ≠ 0 → IsOwn hwaddr b.own b.relay.guestIp) := by
    unfold guestDestIp
    by_cases hip : b.relay.guestIp = 0
    · simp [hip, IsOwn]
    · simp [hip]
  rw [← hdest]
  constructor
  · intro h
    have hframe : buildGuestFrame b.relay hwaddr 2048 ⟨0, 0⟩ 0 [] false = some _ :=
      if_neg (by decide)
    have hown := h.whole _ _ _ _ _ hframe
    rwa [frameDestIp_whole hframe] at hown
  · intro h
    refine ⟨?_, ?_⟩
    · intro maxLen sender destPort payload frame hframe
      rwa [frameDestIp_whole hframe]
    · intro guest sender destPort payload frame hframe
      rwa [frameDestIp_fragment hframe]

end Frames

/-! ## What is learned -/

section Learned

variable {relay : RelayState}

/-- The address learnt and the switch are the same. -/
def SameIp (relay relay' : RelayState) : Prop :=
  relay'.guestIp = relay.guestIp ∧ relay'.enabled = relay.enabled

lemma SameIp.of_rateOnly {relay' : RelayState} (h : RateOnly relay relay') : SameIp relay relay' := by
  obtain ⟨count, reset, rfl⟩ := h
  exact ⟨rfl, rfl⟩

lemma tx_guestIp (relay : RelayState) (pkt : List UInt8) (now rateNow : Int) :
    (broadcastRelayTx relay pkt now rateNow).2.1.guestIp =
        (if relay.enabled then (sourceOf pkt).getD relay.guestIp else relay.guestIp) ∧
      (broadcastRelayTx relay pkt now rateNow).2.1.enabled = relay.enabled := by
  unfold broadcastRelayTx
  by_cases henabled : relay.enabled = true
  · rw [if_neg (by simp [henabled]), if_pos henabled, sourceOf]
    cases hlen : udpHeaderLen pkt with
    | none => exact ⟨rfl, rfl⟩
    | some hdrLen =>
      dsimp only [Option.bind_some]
      split
      · obtain ⟨slots, hrate⟩ := rateOnly_fragment _ (pkt.drop ethHlen) hdrLen _ (fragmentOf pkt) now rateNow
        exact (SameIp.of_rateOnly hrate : _)
      · exact SameIp.of_rateOnly (rateOnly_whole _ pkt hdrLen rateNow)
  · rw [if_pos (by simp [henabled]), if_neg henabled]
    exact ⟨rfl, rfl⟩

lemma sameIp_pollSocket (relay : RelayState) (hwaddr : Mac) (guest : NatState) (sockIdx : Nat)
    (sender : SockAddr) (payload : List UInt8) (now : Int) :
    SameIp relay (pollSocket relay hwaddr guest sockIdx sender payload now).2.1 := by
  obtain ⟨ipId, count, reset, hrate⟩ := rateOnly_pollSocket relay hwaddr guest sockIdx sender payload now
  rw [hrate]
  exact ⟨rfl, rfl⟩

lemma sourceOf_ne_zero {pkt : List UInt8} {ip : UInt32} (h : sourceOf pkt = some ip) : ip ≠ 0 := by
  obtain ⟨hdrLen, -, hlearned⟩ := Option.bind_eq_some_iff.mp h
  simp only [learnedFrom] at hlearned
  split at hlearned
  next hnet =>
    obtain rfl := Option.some_inj.mp hlearned
    intro hzero
    rw [hzero] at hnet
    exact absurd hnet.1 (by decide)
  next => cases hlearned

end Learned

/-! ## Runs -/

section Runs

variable {hwaddr : Mac} {b : Bridge}

/-- What is sent has the right address. -/
structure Addressed (hwaddr : Mac) (b : Bridge) : Prop where
  right : AddressedRight hwaddr b
  off : b.relay.enabled = false → b.relay.guestIp = 0

lemma off_step (h : b.relay.enabled = false → b.relay.guestIp = 0) (e : BridgeEvent) :
    (bridgeStep hwaddr b e).relay.enabled = false → (bridgeStep hwaddr b e).relay.guestIp = 0 := by
  intro hoff
  cases e with
  | transmit pkt now rateNow =>
    obtain ⟨hip, hon⟩ := tx_guestIp b.relay pkt now rateNow
    have hoff' := hon.symm.trans hoff
    rw [bridgeStep, hip, hoff', if_neg (by simp), h hoff']
  | peer frame now rateNow =>
    obtain ⟨hip, hon⟩ := tx_guestIp b.relay (frame.take netSwitchMaxFrame) now rateNow
    have hoff' := hon.symm.trans hoff
    rw [bridgeStep, netSwitchRx, hip, hoff', if_neg (by simp), h hoff']
  | datagram sockIdx sender payload now =>
    obtain ⟨hip, hon⟩ := sameIp_pollSocket b.relay hwaddr b.guest sockIdx sender payload now
    exact hip.trans (h (hon.symm.trans hoff))

/-- **One step** keeps the frames right exactly when no other machine's address is learned in it. -/
lemma step_iff (h : Addressed hwaddr b) (e : BridgeEvent) :
    LearnsOwn hwaddr b e ↔ AddressedRight hwaddr (bridgeStep hwaddr b e) := by
  have hright := addressedRight_iff.mp h.right
  rw [addressedRight_iff]
  cases e with
  | transmit pkt now rateNow =>
    refine iff_of_true trivial ?_
    obtain ⟨hip, -⟩ := tx_guestIp b.relay pkt now rateNow
    simp only [bridgeStep]
    rw [hip]
    cases henabled : b.relay.enabled with
    | false =>
      intro hne
      rw [if_neg (by simp)] at hne
      exact absurd (h.off henabled) hne
    | true =>
      rw [if_pos rfl]
      cases hsource : sourceOf pkt with
      | none =>
        rw [Option.getD_none, Option.none_or]
        exact hright
      | some ip =>
        intro _
        exact Or.inr rfl
  | peer frame now rateNow =>
    obtain ⟨hip, -⟩ := tx_guestIp b.relay (frame.take netSwitchMaxFrame) now rateNow
    simp only [LearnsOwn, bridgeStep, netSwitchRx]
    rw [hip]
    cases henabled : b.relay.enabled with
    | false =>
      refine iff_of_true (fun hno => nomatch hno) ?_
      rw [if_neg (by simp)]
      exact hright
    | true =>
      rw [if_pos rfl]
      cases hsource : sourceOf (frame.take netSwitchMaxFrame) with
      | none =>
        refine iff_of_true (fun _ ip hip => nomatch hip) ?_
        rw [Option.getD_none]
        exact hright
      | some ip =>
        rw [Option.getD_some]
        constructor
        · intro hown _
          exact hown rfl ip rfl
        · rintro hown - ip' hip'
          obtain rfl := Option.some_inj.mp hip'
          exact hown (sourceOf_ne_zero hsource)
  | datagram sockIdx sender payload now =>
    refine iff_of_true trivial ?_
    obtain ⟨hip, -⟩ := sameIp_pollSocket b.relay hwaddr b.guest sockIdx sender payload now
    simp only [bridgeStep]
    rw [hip]
    exact hright

end Runs

/-- **The relay addresses frames to this guest.**  From the relay's start the frames it makes are right; and
they are in every state of a run exactly when each frame of a peer that it learns an address from comes from
this guest's own address. -/
theorem guest_frames_addressed (hwaddr : Mac) (sockets : Nat → Bool) (bcast host : UInt32) (now : Int)
    (guest : NatState) (es : List BridgeEvent) :
    AddressedRight hwaddr ⟨broadcastRelayInit relayStarted sockets bcast host now, guest, none⟩ ∧
      (Along (bridgeStep hwaddr) (LearnsOwn hwaddr)
          ⟨broadcastRelayInit relayStarted sockets bcast host now, guest, none⟩ es ↔
        Along (bridgeStep hwaddr) (fun b e => AddressedRight hwaddr (bridgeStep hwaddr b e))
          ⟨broadcastRelayInit relayStarted sockets bcast host now, guest, none⟩ es) := by
  have hstart : Addressed hwaddr ⟨broadcastRelayInit relayStarted sockets bcast host now, guest, none⟩ :=
    ⟨addressedRight_iff.mpr fun hne => absurd rfl hne, fun _ => rfl⟩
  refine ⟨hstart.right, ?_⟩
  exact along_iff_of_inv (I := Addressed hwaddr)
    (fun b e h hlearns => ⟨(step_iff h e).mp hlearns, off_step h.off e⟩) (fun b e h => step_iff h e) es _ hstart

theorem guest_frames_misaddressed : ∃ (hwaddr : Mac) (frame : List UInt8),
    ¬AddressedRight hwaddr (exec (bridgeStep hwaddr)
      ⟨broadcastRelayInit relayStarted (fun _ => true) 0xc0a801ff 0xc0a80102 0, started true, none⟩
      [.peer frame 0 0]) := by
  refine ⟨⟨6, 2, 3, 4, 5, 6⟩, [255, 255, 255, 255, 255, 255, 6, 9, 9, 9, 9, 9, 8, 0, 0x45, 0, 0, 29, 0, 0, 0, 0,
    64, 17, 0, 0, 100, 64, 0, 9, 255, 255, 255, 255, 0x80, 2, 0x80, 2, 0, 9, 0, 0, 1], ?_⟩
  rw [addressedRight_iff]
  unfold IsOwn
  decide

end RpcEmu.Net
