import RpcEmu.Net.Relay
import RpcEmu.Lib.Ipv4

/-!
# What the guest can make of a datagram in fragments

`inject_fragmented_udp`, with the receive queue that it gives its frames to and a receiver that puts them
together again.

* **The count.**  How many frames the loop makes is the number that was asked for beforehand,
  `length_fragOffsets`; so the queue, which was asked, takes all of them or is given none.
* **The frames.**  Each is an IPv4 packet as a receiver wants it, `wellFormed_ipPacket`, its checksum
  included, and they are the datagram in pieces that follow one another, `cut_fragments`.
-/

namespace RpcEmu.Net

open Runs

/-! ## Headers in words -/

lemma be16_toNat (p : List UInt8) (i : Nat) : (be16 p i).toNat = Ipv4.word p i := by
  have hhigh := (u8 p i).toNat_lt
  have hlow := (u8 p (i + 1)).toNat_lt
  have hshift : ((u8 p i).toUInt16 <<< 8).toNat = 2 ^ 8 * (u8 p i).toNat := by
    rw [UInt16.toNat_shiftLeft, UInt8.toNat_toUInt16]
    have hval : (u8 p i).toNat <<< ((8 : UInt16).toNat % 16) = (u8 p i).toNat * 2 ^ 8 := Nat.shiftLeft_eq _ 8
    rw [hval]
    omega
  rw [be16, UInt16.toNat_or, hshift, UInt8.toNat_toUInt16, ← Nat.two_pow_add_eq_or_of_lt hlow]
  rfl

lemma be32Bytes_eq (v : UInt32) : be32Bytes v = Ipv4.wordsBytes [(v >>> 16).toUInt16, v.toUInt16] := by
  have hbyte (a b : UInt8) (h : ∀ i < 8, a.toBitVec.getLsbD i = b.toBitVec.getLsbD i) : a = b :=
    UInt8.eq_of_toBitVec_eq (BitVec.eq_of_getLsbD_eq h)
  have h1 : (v >>> 24).toUInt8 = ((v >>> 16).toUInt16 >>> 8).toUInt8 := by
    refine hbyte _ _ fun i hi => ?_
    interval_cases i <;> simp
  have h2 : (v >>> 16).toUInt8 = (v >>> 16).toUInt16.toUInt8 := by
    refine hbyte _ _ fun i hi => ?_
    interval_cases i <;> simp
  have h3 : (v >>> 8).toUInt8 = (v.toUInt16 >>> 8).toUInt8 := by
    refine hbyte _ _ fun i hi => ?_
    interval_cases i <;> simp
  have h4 : v.toUInt8 = v.toUInt16.toUInt8 := by
    refine hbyte _ _ fun i hi => ?_
    interval_cases i <;> simp
  rw [be32Bytes, h1, h2, h3, h4]
  rfl

lemma address_toNat (v : UInt32) :
    65536 * (v >>> 16).toUInt16.toNat + v.toUInt16.toNat = v.toNat := by
  have hlt := v.toNat_lt
  have hshift : v.toNat >>> ((16 : UInt32).toNat % 32) = v.toNat / 65536 := Nat.shiftRight_eq_div_pow _ 16
  rw [UInt32.toNat_toUInt16, UInt32.toNat_toUInt16, UInt32.toNat_shiftRight, hshift]
  omega

def headerFront (payloadLen : Nat) (id flags : UInt16) : List UInt16 :=
  [0x4500, UInt16.ofNat (ipHdrLen + payloadLen), id, flags, 0x4011]

def headerBack (src dst : UInt32) : List UInt16 :=
  [(src >>> 16).toUInt16, src.toUInt16, (dst >>> 16).toUInt16, dst.toUInt16]

lemma headerFront_pos (payloadLen : Nat) (id flags : UInt16) :
    0 < ((headerFront payloadLen id flags).map UInt16.toNat).sum := by
  have hfirst : (0x4500 : UInt16).toNat = 0x4500 := rfl
  rw [headerFront, List.map_cons, List.sum_cons, hfirst]
  omega

/-! ## The checksum -/

lemma foldCarries_spec (sum : Nat) :
    foldCarries sum ≤ 65535 ∧ foldCarries sum % 65535 = sum % 65535 ∧ (foldCarries sum = 0 ↔ sum = 0) := by
  fun_induction foldCarries sum with
  | case1 sum hle ih => omega
  | case2 sum hlt => omega

lemma ipChecksum_words (ws : List UInt16) :
    (ipChecksum (Ipv4.wordsBytes ws)).toNat = 65535 - foldCarries (ws.map UInt16.toNat).sum := by
  have hwords : ((List.range ((Ipv4.wordsBytes ws).length / 2)).map
      fun i => (be16 (Ipv4.wordsBytes ws) (2 * i)).toNat) = ws.map UInt16.toNat := by
    rw [← Ipv4.words_wordsBytes]
    exact List.map_congr_left fun i _ => be16_toNat _ _
  have hfold := (foldCarries_spec (ws.map UInt16.toNat).sum).1
  simp only [ipChecksum, hwords]
  rw [UInt16.toNat_not, UInt16.toNat_ofNat_of_lt' (by rw [UInt16.size]; omega)]
  rfl

/-- **The checksum put in makes the sum right.** -/
lemma onesSum_checksum (front back : List UInt16) (hfront : 0 < (front.map UInt16.toNat).sum) :
    Ipv4.onesSum ((front ++ ipChecksum (Ipv4.wordsBytes (front ++ 0 :: back)) :: back).map UInt16.toNat) =
      65535 := by
  have hword : ∀ w ∈ (front ++ ipChecksum (Ipv4.wordsBytes (front ++ 0 :: back)) :: back).map UInt16.toNat,
      w ≤ 65535 := by
    intro w hw
    obtain ⟨v, -, rfl⟩ := List.mem_map.mp hw
    have := v.toNat_lt
    omega
  rw [Ipv4.onesSum_eq_ones hword]
  have hsum := ipChecksum_words (front ++ 0 :: back)
  have hfold := foldCarries_spec ((front ++ 0 :: back).map UInt16.toNat).sum
  simp only [List.map_append, List.map_cons, List.sum_append, List.sum_cons, UInt16.toNat_zero] at hsum hfold ⊢
  omega

/-! ## One packet -/

def ipPacket (id flags : UInt16) (src dst : UInt32) (data : List UInt8) : List UInt8 :=
  guestIpHeader data.length id flags src dst ++ data

section Packet

variable (id flags : UInt16) (src dst : UInt32) {data : List UInt8}

def headerWords (len : Nat) : List UInt16 :=
  headerFront len id flags ++
    ipChecksum (Ipv4.wordsBytes (headerFront len id flags ++ 0 :: headerBack src dst)) :: headerBack src dst

lemma guestIpHeader_eq (len : Nat) :
    guestIpHeader len id flags src dst = Ipv4.wordsBytes (headerWords id flags src dst len) := by
  simp only [guestIpHeader, be32Bytes_eq]
  rfl

lemma word_ipPacket {i : Nat} {w : UInt16} (hw : (headerWords id flags src dst data.length)[i]? = some w) :
    Ipv4.word (ipPacket id flags src dst data) (2 * i) = w.toNat := by
  obtain ⟨hi, rfl⟩ := List.getElem?_eq_some_iff.mp hw
  rw [ipPacket, guestIpHeader_eq, Ipv4.word_wordsBytes _ _ i hi, List.getD_eq_getElem _ _ hi]

lemma versionWord_ipPacket : Ipv4.word (ipPacket id flags src dst data) 0 = 0x4500 :=
  word_ipPacket id flags src dst (i := 0) rfl

lemma length_header (len : Nat) : (guestIpHeader len id flags src dst).length = 20 := rfl

lemma headerLen_ipPacket : Ipv4.headerLen (ipPacket id flags src dst data) = 20 := by
  rw [Ipv4.headerLen, versionWord_ipPacket]

lemma totalLength_ipPacket (h : data.length ≤ 1480) :
    Ipv4.word (ipPacket id flags src dst data) 2 = 20 + data.length := by
  have hword : Ipv4.word (ipPacket id flags src dst data) 2 = (UInt16.ofNat (ipHdrLen + data.length)).toNat :=
    word_ipPacket _ _ _ _ (i := 1) rfl
  rw [hword, UInt16.toNat_ofNat_of_lt' (by rw [UInt16.size, ipHdrLen]; omega), ipHdrLen]

/-- **A packet is as a receiver wants it**, the checksum of its header included. -/
lemma wellFormed_ipPacket (h : data.length ≤ 1480) : Ipv4.WellFormed (ipPacket id flags src dst data) := by
  have hlen : Ipv4.headerLen (ipPacket id flags src dst data) = 20 := headerLen_ipPacket id flags src dst
  have htotal := totalLength_ipPacket id flags src dst h
  refine ⟨?_, by omega, by omega, ?_, ?_⟩
  · rw [versionWord_ipPacket]
  · rw [htotal, ipPacket, List.length_append, length_header]
  · rw [hlen, ipPacket, List.take_left' (length_header id flags src dst data.length), guestIpHeader_eq,
      Ipv4.words_wordsBytes]
    exact onesSum_checksum _ _ (headerFront_pos data.length id flags)

lemma keyOf_ipPacket :
    Ipv4.keyOf (ipPacket id flags src dst data) = ⟨src.toNat, dst.toNat, 17, id.toNat⟩ := by
  have hid : Ipv4.word (ipPacket id flags src dst data) 4 = id.toNat := word_ipPacket _ _ _ _ (i := 2) rfl
  have hproto : Ipv4.word (ipPacket id flags src dst data) 8 = 0x4011 := word_ipPacket _ _ _ _ (i := 4) rfl
  have hsrc : Ipv4.word (ipPacket id flags src dst data) 12 = (src >>> 16).toUInt16.toNat :=
    word_ipPacket _ _ _ _ (i := 6) rfl
  have hsrc' : Ipv4.word (ipPacket id flags src dst data) 14 = src.toUInt16.toNat :=
    word_ipPacket _ _ _ _ (i := 7) rfl
  have hdst : Ipv4.word (ipPacket id flags src dst data) 16 = (dst >>> 16).toUInt16.toNat :=
    word_ipPacket _ _ _ _ (i := 8) rfl
  have hdst' : Ipv4.word (ipPacket id flags src dst data) 18 = dst.toUInt16.toNat :=
    word_ipPacket _ _ _ _ (i := 9) rfl
  rw [Ipv4.keyOf, hid, hproto, hsrc, hsrc', hdst, hdst', address_toNat, address_toNat]

lemma pieceOf_ipPacket (h : data.length ≤ 1480) :
    Ipv4.pieceOf (ipPacket id flags src dst data) =
      ⟨8 * (flags.toNat % 8192), flags.toNat / 8192 % 2 = 1, data⟩ := by
  have hdata : ((ipPacket id flags src dst data).take (20 + data.length)).drop 20 = data := by
    have hall : (ipPacket id flags src dst data).length ≤ 20 + data.length := by
      rw [ipPacket, List.length_append, length_header]
    rw [List.take_of_length_le hall, ipPacket]
    exact List.drop_left' (length_header id flags src dst data.length)
  have hflags : Ipv4.word (ipPacket id flags src dst data) 6 = flags.toNat :=
    word_ipPacket _ _ _ _ (i := 3) rfl
  rw [Ipv4.pieceOf, totalLength_ipPacket id flags src dst h, headerLen_ipPacket, hdata, hflags]

end Packet

/-! ## The offsets -/

def fragOffsets (total offset : Nat) : List Nat :=
  if offset < total then offset :: fragOffsets total (offset + fragDataLen (total - offset)) else []
termination_by total - offset
decreasing_by
  unfold fragDataLen maxDataPerFrag
  split <;> omega

/-- **The loop makes as many fragments as were asked for.** -/
lemma length_fragOffsets (total offset : Nat) :
    (fragOffsets total offset).length = (total - offset + maxDataPerFrag - 1) / maxDataPerFrag := by
  fun_induction fragOffsets total offset with
  | case1 offset hlt ih =>
    rw [List.length_cons, ih, fragDataLen]
    unfold maxDataPerFrag
    split <;> omega
  | case2 offset hge =>
    unfold maxDataPerFrag
    rw [List.length_nil]
    omega

lemma fragOffsets_eight (total offset : Nat) (h : offset % 8 = 0) :
    (∀ o ∈ fragOffsets total offset, o % 8 = 0 ∧ offset ≤ o ∧ o < total) ∧
      ∀ o ∈ (fragOffsets total offset).dropLast, fragDataLen (total - o) = maxDataPerFrag := by
  fun_induction fragOffsets total offset with
  | case1 offset hlt ih =>
    have hnext : total ≤ offset + fragDataLen (total - offset) ∨
        fragDataLen (total - offset) = maxDataPerFrag := by
      unfold fragDataLen
      split
      · exact .inr rfl
      · exact .inl (by omega)
    rcases hnext with hend | hfull
    · rw [fragOffsets, if_neg (Nat.not_lt.mpr hend)]
      refine ⟨fun o ho => ?_, nofun⟩
      rw [List.mem_singleton.mp ho]
      exact ⟨h, Nat.le_refl _, hlt⟩
    · rw [hfull] at ih ⊢
      obtain ⟨hall, hlast⟩ := ih (by unfold maxDataPerFrag; omega)
      refine ⟨fun o ho => ?_, fun o ho => ?_⟩
      · rcases List.mem_cons.mp ho with rfl | ho
        · exact ⟨h, Nat.le_refl _, hlt⟩
        · have := hall o ho
          omega
      · cases hrest : fragOffsets total (offset + maxDataPerFrag) with
        | nil =>
          rw [hrest] at ho
          cases ho
        | cons o' rest =>
          rw [hrest, List.dropLast_cons_cons] at ho
          rcases List.mem_cons.mp ho with rfl | ho
          · exact hfull
          · exact hlast o (by rw [hrest]; exact ho)
  | case2 offset hge => exact ⟨nofun, nofun⟩

/-! ## The frames -/

section Frames

variable (relay : RelayState) (hwaddr : Mac) (ipId : UInt16) (sender : SockAddr) (destPort : UInt16)
  (payload : List UInt8) (broadcast : Bool)

def udpDatagram : List UInt8 := guestUdpHeader sender destPort payload.length ++ payload

lemma length_udpDatagram : (udpDatagram sender destPort payload).length = 8 + payload.length := by
  rw [udpDatagram, List.length_append]
  rfl

def fragmentData (offset : Nat) : List UInt8 :=
  ((udpDatagram sender destPort payload).drop offset).take (fragDataLen (8 + payload.length - offset))

lemma length_fragmentData (offset : Nat) :
    (fragmentData sender destPort payload offset).length = fragDataLen (8 + payload.length - offset) := by
  rw [fragmentData, List.length_take, List.length_drop, length_udpDatagram]
  unfold fragDataLen
  split <;> omega

lemma fragDataLen_le (left : Nat) : fragDataLen left ≤ 1480 := by
  unfold fragDataLen maxDataPerFrag
  split <;> omega

/-- `flags_frag`. -/
def fragmentFlags (offset : Nat) : UInt16 :=
  (UInt16.ofNat (offset / 8) &&& 0x1fff) |||
    (if 8 + payload.length ≤ offset + fragDataLen (8 + payload.length - offset) then 0 else 0x2000)

lemma fragmentFlags_toNat (offset : Nat) (h : offset < 65536) :
    (fragmentFlags payload offset).toNat = offset / 8 +
      (if 8 + payload.length ≤ offset + fragDataLen (8 + payload.length - offset) then 0 else 8192) := by
  have hlow : (UInt16.ofNat (offset / 8) &&& 0x1fff).toNat = offset / 8 := by
    rw [UInt16.toNat_and, UInt16.toNat_ofNat_of_lt' (by rw [UInt16.size]; omega)]
    exact (Nat.and_two_pow_sub_one_eq_mod _ 13).trans (Nat.mod_eq_of_lt (by omega))
  rw [fragmentFlags, UInt16.toNat_or, hlow]
  split
  · exact Nat.or_zero _
  · have hor := Nat.two_pow_add_eq_or_of_lt (i := 13) (b := offset / 8) (by omega) 1
    rw [Nat.or_comm]
    have hflag : (0x2000 : UInt16).toNat = 2 ^ 13 * 1 := rfl
    rw [hflag, ← hor]
    omega

lemma guestFragment_eq {offset : Nat} (hplace : offset = 0 ∨ 8 ≤ offset) (hlen : 8 ≤ payload.length)
    (hlt : offset < 8 + payload.length) :
    guestFragment relay hwaddr ipId sender destPort payload broadcast offset =
      guestEthHeader hwaddr broadcast ++
        ipPacket ipId (fragmentFlags payload offset) sender.ip (guestDestIp relay hwaddr broadcast)
          (fragmentData sender destPort payload offset) := by
  have hheader : (guestUdpHeader sender destPort payload.length).length = 8 := rfl
  have hdata : (if offset = 0 then guestUdpHeader sender destPort payload.length ++
        payload.take (fragDataLen (8 + payload.length - offset) - 8)
      else (payload.drop (offset - 8)).take (fragDataLen (8 + payload.length - offset))) =
      fragmentData sender destPort payload offset := by
    rw [fragmentData, udpDatagram]
    split
    next hzero =>
      subst hzero
      have hfirst : 8 ≤ fragDataLen (8 + payload.length - 0) := by
        unfold fragDataLen maxDataPerFrag
        split <;> omega
      have htake : (guestUdpHeader sender destPort payload.length).take (fragDataLen (8 + payload.length - 0)) =
          guestUdpHeader sender destPort payload.length := List.take_of_length_le (by omega)
      rw [List.drop_zero, List.take_append, hheader, htake]
    next hlater =>
      have hdrop : (guestUdpHeader sender destPort payload.length).drop offset = [] :=
        List.drop_of_length_le (by omega)
      rw [List.drop_append, hheader, hdrop, List.nil_append]
  simp only [guestFragment]
  rw [hdata, ipPacket, length_fragmentData, List.append_assoc]
  rfl

def pieceAt (offset : Nat) : Ipv4.Piece where
  offset := offset
  more := !decide (8 + payload.length ≤ offset + fragDataLen (8 + payload.length - offset))
  data := fragmentData sender destPort payload offset

def datagramKey : Ipv4.Key := ⟨sender.ip.toNat, (guestDestIp relay hwaddr broadcast).toNat, 17, ipId.toNat⟩

lemma drop_guestFragment {offset : Nat} (hplace : offset = 0 ∨ 8 ≤ offset) (hlen : 8 ≤ payload.length)
    (hlt : offset < 8 + payload.length) :
    (guestFragment relay hwaddr ipId sender destPort payload broadcast offset).drop ethHlen =
      ipPacket ipId (fragmentFlags payload offset) sender.ip (guestDestIp relay hwaddr broadcast)
        (fragmentData sender destPort payload offset) := by
  rw [guestFragment_eq relay hwaddr ipId sender destPort payload broadcast hplace hlen hlt]
  refine List.drop_left' ?_
  cases broadcast <;> rfl

/-- **The receiver reads the piece** that was put in the frame. -/
lemma parse_fragment {offset : Nat} (height : offset % 8 = 0) (hlen : 8 ≤ payload.length)
    (hlt : offset < 8 + payload.length) (hmax : payload.length ≤ 65507) :
    Ipv4.parse ((guestFragment relay hwaddr ipId sender destPort payload broadcast offset).drop ethHlen) =
      some (datagramKey relay hwaddr ipId sender broadcast, pieceAt sender destPort payload offset) := by
  have hshort : (fragmentData sender destPort payload offset).length ≤ 1480 := by
    rw [length_fragmentData]
    exact fragDataLen_le _
  have hflags := fragmentFlags_toNat payload offset (by omega)
  rw [drop_guestFragment relay hwaddr ipId sender destPort payload broadcast (by omega) hlen hlt, Ipv4.parse,
    if_pos (wellFormed_ipPacket _ _ _ _ hshort), keyOf_ipPacket, pieceOf_ipPacket _ _ _ _ hshort, hflags]
  congr 2
  rw [pieceAt, Ipv4.Piece.mk.injEq]
  split
  next hlast => exact ⟨by omega, by simp [hlast]; omega, rfl⟩
  next hmore => exact ⟨by omega, by simp [hmore]; omega, rfl⟩

/-- **The pieces follow one another**, and make up the datagram. -/
lemma cut_fragments (offset : Nat) (hlt : offset < 8 + payload.length) :
    Ipv4.Cut offset ((udpDatagram sender destPort payload).drop offset)
      ((fragOffsets (8 + payload.length) offset).map (pieceAt sender destPort payload)) := by
  have htotal := length_udpDatagram sender destPort payload
  induction hleft : 8 + payload.length - offset using Nat.strong_induction_on generalizing offset with
  | _ left ih =>
    rw [fragOffsets, if_pos hlt, List.map_cons]
    by_cases hlast : 8 + payload.length ≤ offset + fragDataLen (8 + payload.length - offset)
    · have hall : fragmentData sender destPort payload offset = (udpDatagram sender destPort payload).drop offset := by
        rw [fragmentData, List.take_of_length_le]
        rw [List.length_drop, htotal]
        omega
      have hpiece : pieceAt sender destPort payload offset =
          ⟨offset, false, (udpDatagram sender destPort payload).drop offset⟩ := by
        rw [pieceAt, hall, decide_eq_true hlast, Bool.not_true]
      rw [fragOffsets, if_neg (Nat.not_lt.mpr hlast), hpiece]
      exact .last offset _
    · have hpos : 0 < fragDataLen (8 + payload.length - offset) := by
        unfold fragDataLen maxDataPerFrag
        split <;> omega
      have hpiece : pieceAt sender destPort payload offset =
          ⟨offset, true, fragmentData sender destPort payload offset⟩ := by
        rw [pieceAt, decide_eq_false hlast, Bool.not_false]
      have hrest := ih (8 + payload.length - (offset + fragDataLen (8 + payload.length - offset))) (by omega)
        _ (Nat.lt_of_not_le hlast) rfl
      have hsplit : (udpDatagram sender destPort payload).drop offset =
          fragmentData sender destPort payload offset ++
            (udpDatagram sender destPort payload).drop (offset + fragDataLen (8 + payload.length - offset)) := by
        rw [fragmentData, ← List.drop_drop, List.take_append_drop]
      rw [hpiece, hsplit]
      rw [← length_fragmentData sender destPort payload offset] at hrest ⊢
      exact .more _ hrest

lemma parseUdp_datagram (hmax : payload.length ≤ 65507) :
    Ipv4.parseUdp (udpDatagram sender destPort payload) =
      some ⟨sender.port.toNat, destPort.toNat, 8 + payload.length, 0, payload⟩ := by
  have hheader : udpDatagram sender destPort payload =
      Ipv4.wordsBytes [sender.port, destPort, UInt16.ofNat (8 + payload.length), 0] ++ payload := rfl
  have hword := fun i hi => Ipv4.word_wordsBytes
    [sender.port, destPort, UInt16.ofNat (8 + payload.length), 0] payload i hi
  have hlength : (UInt16.ofNat (8 + payload.length)).toNat = 8 + payload.length :=
    UInt16.toNat_ofNat_of_lt' (by rw [UInt16.size]; omega)
  have h4 : Ipv4.word (udpDatagram sender destPort payload) 4 = 8 + payload.length :=
    (hword 2 (by decide : 2 < 4)).trans hlength
  have htotal := length_udpDatagram sender destPort payload
  rw [Ipv4.parseUdp, h4, if_pos ⟨by omega, by omega⟩, List.take_of_length_le (by omega)]
  have h0 : Ipv4.word (udpDatagram sender destPort payload) 0 = sender.port.toNat := hword 0 (by decide : 0 < 4)
  have h2 : Ipv4.word (udpDatagram sender destPort payload) 2 = destPort.toNat := hword 1 (by decide : 1 < 4)
  have h6 : Ipv4.word (udpDatagram sender destPort payload) 6 = 0 := hword 3 (by decide : 3 < 4)
  rw [h0, h2, h6]
  rfl

end Frames

/-! ## All or nothing -/

/-- **Frames that come to one datagram.**  They are short enough, each is a well-formed IPv4 packet with its
checksum right, and the pieces in all but the last are multiples of eight long.  A receiver that has nothing
of the datagram yet makes it of them, once, and it is the UDP datagram that came in. -/
structure ComeTo (key : Ipv4.Key) (sender : SockAddr) (destPort : UInt16) (payload : List UInt8)
    (frames : List (List UInt8)) : Prop where
  short : ∀ f ∈ frames, f.length ≤ 1514
  ip : ∀ f ∈ frames, be16 f 12 = ethPIp ∧ Ipv4.WellFormed (f.drop ethHlen)
  offsets : ∀ f ∈ frames, (Ipv4.pieceOf (f.drop ethHlen)).offset % 8 = 0
  lengths : ∀ f ∈ frames.dropLast, (Ipv4.pieceOf (f.drop ethHlen)).data.length % 8 = 0
  received : ∀ t : Ipv4.Table, t key = [] → ∃ bytes,
    Ipv4.receivePackets t (frames.map (·.drop ethHlen)) = (t, [(key, bytes)]) ∧
      bytes.length = 8 + payload.length ∧
      Ipv4.parseUdp bytes = some ⟨sender.port.toNat, destPort.toNat, 8 + payload.length, 0, payload⟩

section Inject

variable (relay : RelayState) (hwaddr : Mac) (ipId : UInt16) (sender : SockAddr) (destPort : UInt16)
  (payload : List UInt8) (broadcast : Bool)

def guestFragments : List (List UInt8) :=
  (fragOffsets (8 + payload.length) 0).map (guestFragment relay hwaddr ipId sender destPort payload broadcast)

lemma length_guestFragment {offset : Nat} (hplace : offset = 0 ∨ 8 ≤ offset) (hlen : 8 ≤ payload.length)
    (hlt : offset < 8 + payload.length) :
    (guestFragment relay hwaddr ipId sender destPort payload broadcast offset).length =
      34 + fragDataLen (8 + payload.length - offset) := by
  have heth : (guestEthHeader hwaddr broadcast).length = 14 := by cases broadcast <;> rfl
  rw [guestFragment_eq relay hwaddr ipId sender destPort payload broadcast hplace hlen hlt, List.length_append,
    ipPacket, List.length_append, length_header, length_fragmentData, heth]
  omega

lemma type_guestFragment (offset : Nat) :
    be16 (guestFragment relay hwaddr ipId sender destPort payload broadcast offset) 12 = ethPIp := by
  have hhigh : u8 (guestFragment relay hwaddr ipId sender destPort payload broadcast offset) 12 = 0x08 := by
    cases broadcast <;> rfl
  have hlow : u8 (guestFragment relay hwaddr ipId sender destPort payload broadcast offset) 13 = 0x00 := by
    cases broadcast <;> rfl
  rw [be16, hhigh, hlow]
  rfl

/-- **The frames come to the datagram.** -/
lemma comeTo_guestFragments (hlen : 8 ≤ payload.length) (hmax : payload.length ≤ 65507) :
    ComeTo (datagramKey relay hwaddr ipId sender broadcast) sender destPort payload
      (guestFragments relay hwaddr ipId sender destPort payload broadcast) := by
  obtain ⟨hplaces, hfull⟩ := fragOffsets_eight (8 + payload.length) 0 rfl
  have hparse : ∀ o ∈ fragOffsets (8 + payload.length) 0,
      Ipv4.parse ((guestFragment relay hwaddr ipId sender destPort payload broadcast o).drop ethHlen) =
        some (datagramKey relay hwaddr ipId sender broadcast, pieceAt sender destPort payload o) := by
    intro o ho
    obtain ⟨height, -, hlt⟩ := hplaces o ho
    exact parse_fragment relay hwaddr ipId sender destPort payload broadcast height hlen hlt hmax
  have hpiece : ∀ o ∈ fragOffsets (8 + payload.length) 0,
      Ipv4.WellFormed ((guestFragment relay hwaddr ipId sender destPort payload broadcast o).drop ethHlen) ∧
        Ipv4.pieceOf ((guestFragment relay hwaddr ipId sender destPort payload broadcast o).drop ethHlen) =
          pieceAt sender destPort payload o := by
    intro o ho
    have h := hparse o ho
    rw [Ipv4.parse] at h
    split at h
    next hwell => exact ⟨hwell, (Prod.mk.inj (Option.some.inj h)).2⟩
    next => cases h
  constructor
  case short =>
    intro f hf
    obtain ⟨o, ho, rfl⟩ := List.mem_map.mp hf
    obtain ⟨height, -, hlt⟩ := hplaces o ho
    have hle := fragDataLen_le (8 + payload.length - o)
    rw [length_guestFragment relay hwaddr ipId sender destPort payload broadcast (by omega) hlen hlt]
    omega
  case ip =>
    intro f hf
    obtain ⟨o, ho, rfl⟩ := List.mem_map.mp hf
    exact ⟨type_guestFragment relay hwaddr ipId sender destPort payload broadcast o, (hpiece o ho).1⟩
  case offsets =>
    intro f hf
    obtain ⟨o, ho, rfl⟩ := List.mem_map.mp hf
    rw [(hpiece o ho).2]
    exact (hplaces o ho).1
  case lengths =>
    intro f hf
    rw [guestFragments, ← List.map_dropLast] at hf
    obtain ⟨o, ho, rfl⟩ := List.mem_map.mp hf
    rw [(hpiece o (List.mem_of_mem_dropLast ho)).2]
    show (fragmentData sender destPort payload o).length % 8 = 0
    rw [length_fragmentData, hfull o ho]
    rfl
  case received =>
    intro t hempty
    have hcut := cut_fragments sender destPort payload 0 (by omega)
    have hbegun : Ipv4.Begun (t (datagramKey relay hwaddr ipId sender broadcast)) [] := by
      rw [hempty]
      exact Ipv4.begun_nil
    have hreceived := Ipv4.receiveAll_cut (t := t) hcut rfl hbegun
    rw [List.nil_append, List.drop_zero, List.map_map] at hreceived
    have hparsed : ((guestFragments relay hwaddr ipId sender destPort payload broadcast).map
        (·.drop ethHlen)).filterMap Ipv4.parse =
          (fragOffsets (8 + payload.length) 0).map fun o =>
            (datagramKey relay hwaddr ipId sender broadcast, pieceAt sender destPort payload o) := by
      rw [guestFragments, List.map_map, List.filterMap_map, ← List.filterMap_eq_map]
      exact List.filterMap_congr hparse
    refine ⟨udpDatagram sender destPort payload, ?_, length_udpDatagram sender destPort payload,
      parseUdp_datagram sender destPort payload hmax⟩
    rw [Ipv4.receivePackets, hparsed]
    refine hreceived.trans ?_
    rw [← hempty, Function.update_eq_self]

lemma waiting_injectLoop {s : NatState} (h : Settled s) (frameAt : Nat → List UInt8) (total offset : Nat)
    (hroom : (fragOffsets total offset).length ≤ networkNatInjectSpace s)
    (hlen : ∀ o ∈ fragOffsets total offset, 1 ≤ (frameAt o).length ∧ (frameAt o).length ≤ pktMaxSize) :
    waiting (injectLoop frameAt total offset s).2 = waiting s ++ (fragOffsets total offset).map frameAt := by
  induction hleft : total - offset using Nat.strong_induction_on generalizing offset s with
  | _ left ih =>
    rw [injectLoop, fragOffsets]
    by_cases hlt : offset < total
    · rw [if_pos hlt, if_pos hlt]
      rw [fragOffsets, if_pos hlt, List.length_cons] at hroom
      rw [fragOffsets, if_pos hlt] at hlen
      have hfits := hlen offset List.mem_cons_self
      obtain ⟨htaken, hnext, hwaiting, hspace⟩ := rxDeliver_room h hfits (by omega)
      have hinject : networkNatInjectPacket s (frameAt offset) = rxDeliver s (frameAt offset) :=
        if_neg (by omega)
      have hpos : 0 < fragDataLen (total - offset) := by
        unfold fragDataLen maxDataPerFrag
        split <;> omega
      have hrest := ih (total - (offset + fragDataLen (total - offset))) (by omega) hnext _ (by omega)
        (fun o ho => hlen o (List.mem_cons_of_mem _ ho)) rfl
      rw [hwaiting, List.append_assoc, List.singleton_append, ← List.map_cons] at hrest
      simpa only [hinject, htaken, Bool.not_true, Bool.false_eq_true, if_false] using hrest
    · rw [if_neg hlt, if_neg hlt, List.map_nil, List.append_nil]

end Inject

def fragCount (payloadLen : Nat) : Nat := (8 + payloadLen + maxDataPerFrag - 1) / maxDataPerFrag

/-- **A large datagram arrives whole or not at all.**  Whatever has become of the receive queue, all the
frames of the datagram are put on it, and they come to the datagram, or none of them is; and none is only
where there is not the room for them. -/
theorem inbound_fragments_all_or_none (relay : RelayState) (hwaddr : Mac) (poduleinfo : Bool)
    (es : List RxEvent) (sender : SockAddr) (destPort : UInt16) (payload : List UInt8) (broadcast : Bool)
    (hlen : 1473 ≤ payload.length ∧ payload.length ≤ 65507) :
    ∃ frames,
      waiting (injectFragmentedUdp relay hwaddr (exec rxNext (started poduleinfo) es) sender destPort payload
        broadcast).2.2 = waiting (exec rxNext (started poduleinfo) es) ++ frames ∧
      (frames = [] ∨
        ComeTo (datagramKey relay hwaddr relay.ipIdCounter sender broadcast) sender destPort payload frames) ∧
      (frames = [] ↔
        networkNatInjectSpace (exec rxNext (started poduleinfo) es) < fragCount payload.length) := by
  have hsettled := settled_exec (settled_started poduleinfo).1 es
  generalize exec rxNext (started poduleinfo) es = s at hsettled ⊢
  by_cases hroom : networkNatInjectSpace s < fragCount payload.length
  · refine ⟨[], ?_, .inl rfl, iff_of_true rfl hroom⟩
    have hnone : networkNatInjectSpace s < (8 + payload.length + maxDataPerFrag - 1) / maxDataPerFrag := hroom
    simp only [injectFragmentedUdp, if_pos hnone, List.append_nil]
  · have hsome : ¬ networkNatInjectSpace s < (8 + payload.length + maxDataPerFrag - 1) / maxDataPerFrag := hroom
    have hcount : (fragOffsets (8 + payload.length) 0).length = fragCount payload.length :=
      length_fragOffsets (8 + payload.length) 0
    have hpos : 0 < fragCount payload.length := by
      unfold fragCount maxDataPerFrag
      omega
    refine ⟨guestFragments relay hwaddr relay.ipIdCounter sender destPort payload broadcast, ?_,
      .inr (comeTo_guestFragments relay hwaddr relay.ipIdCounter sender destPort payload broadcast (by omega)
        hlen.2), iff_of_false ?_ hroom⟩
    · obtain ⟨hplaces, -⟩ := fragOffsets_eight (8 + payload.length) 0 rfl
      have hwaiting := waiting_injectLoop hsettled
        (guestFragment relay hwaddr relay.ipIdCounter sender destPort payload broadcast)
        (8 + payload.length) 0 (by omega) (fun o ho => by
          obtain ⟨height, -, hlt⟩ := hplaces o ho
          have hle := fragDataLen_le (8 + payload.length - o)
          rw [length_guestFragment relay hwaddr _ sender destPort payload broadcast (by omega) (by omega) hlt,
            pktMaxSize]
          omega)
      simp only [injectFragmentedUdp, if_neg hsome]
      exact hwaiting
    · intro hnil
      have hlength := congrArg List.length hnil
      rw [guestFragments, List.length_map, hcount, List.length_nil] at hlength
      omega

theorem inbound_fragments_all_or_none_ready :
    ∃ frames,
      waiting (injectFragmentedUdp relayStarted gatewayMac (exec rxNext (started true) [.setirqstatus 1])
        ⟨0x0a000001, 32771⟩ 32771 (List.replicate 1473 7) false).2.2 =
        waiting (exec rxNext (started true) [.setirqstatus 1]) ++ frames ∧
      (frames = [] ∨
        ComeTo (datagramKey relayStarted gatewayMac 0x8000 ⟨0x0a000001, 32771⟩ false) ⟨0x0a000001, 32771⟩ 32771
          (List.replicate 1473 7) frames) ∧
      (frames = [] ↔
        networkNatInjectSpace (exec rxNext (started true) [.setirqstatus 1]) <
          fragCount (List.replicate 1473 (7 : UInt8)).length) :=
  inbound_fragments_all_or_none relayStarted gatewayMac true [.setirqstatus 1] ⟨0x0a000001, 32771⟩ 32771
    (List.replicate 1473 7) false (by rw [List.length_replicate]; decide)

end RpcEmu.Net
