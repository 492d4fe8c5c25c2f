import RpcEmu.Lib.Ring
import Mathlib.Logic.Function.Basic
import Mathlib.Algebra.Order.Group.Nat

/-!
# The bytes that wait for the client

The ring of `hostcmd.c`: 64K, of which one byte is always left free, with its two ends masked.
-/

namespace RpcEmu.Hostcmd

/-- `HC_OUT_RING_SZ`. -/
def outRingSz : UInt64 := 64 * 1024

/-- `out_ring`, `out_head` and `out_tail`. -/
structure OutRing where
  bytes : UInt64 → UInt8
  head : UInt64
  tail : UInt64

namespace OutRing

variable (r : OutRing)

/-- `hc_ring_used`. -/
def used : UInt64 := (r.head - r.tail) &&& (outRingSz - 1)

/-- `hc_ring_free`. -/
def free : UInt64 := (outRingSz - 1) - r.used

/-- One round of `hc_ring_write`. -/
def put (b : UInt8) : OutRing :=
  { r with bytes := Function.update r.bytes r.head b, head := (r.head + 1) &&& (outRingSz - 1) }

/-- `hc_ring_write`. -/
def write (data : List UInt8) : OutRing := data.foldl put r

/-- `out_head = out_tail = 0`. -/
def clear : OutRing := { r with head := 0, tail := 0 }

def contig : UInt64 :=
  let toEnd := outRingSz - r.tail
  if r.used < toEnd then r.used else toEnd

def offered (n : ℕ) : List UInt8 := (List.range n).map fun k => r.bytes (r.tail + UInt64.ofNat k)

/-- The socket took `n` bytes. -/
def sent (n : UInt64) : OutRing := { r with tail := (r.tail + n) &&& (outRingSz - 1) }

/-- What is in it, oldest byte first. -/
def unsent : List UInt8 :=
  (Ring.slots 65536 r.tail.toNat r.head.toNat).map fun i => r.bytes (UInt64.ofNat i)

/-- The indexes are inside the ring. -/
structure Good : Prop where
  head_lt : r.head.toNat < 65536
  tail_lt : r.tail.toNat < 65536

variable {r}

lemma toNat_mask (i : UInt64) : (i &&& (outRingSz - 1)).toNat = i.toNat % 65536 := by
  have hmask : (outRingSz - 1).toNat = 2 ^ 16 - 1 := rfl
  rw [UInt64.toNat_and, hmask, Nat.and_two_pow_sub_one_eq_mod]

lemma toNat_step {i : UInt64} (hi : i.toNat < 65536) :
    ((i + 1) &&& (outRingSz - 1)).toNat = Ring.next 65536 i.toNat := by
  rw [toNat_mask, UInt64.toNat_add, UInt64.toNat_one, Ring.next]
  split_ifs <;> omega

lemma good_clear (r : OutRing) : r.clear.Good where
  head_lt := Nat.zero_lt_succ 65535
  tail_lt := Nat.zero_lt_succ 65535

lemma Good.toNat_used (h : r.Good) : r.used.toNat = r.unsent.length := by
  have hh := h.head_lt
  have ht := h.tail_lt
  rw [used, toNat_mask, UInt64.toNat_sub, unsent, List.length_map, Ring.length_slots, Ring.dist]
  split_ifs <;> omega

lemma Good.length_unsent_lt (h : r.Good) : r.unsent.length < 65536 := by
  rw [unsent, List.length_map, Ring.length_slots]
  exact Ring.dist_lt h.tail_lt h.head_lt

lemma Good.toNat_free (h : r.Good) : r.free.toNat = 65535 - r.unsent.length := by
  have hlt := h.length_unsent_lt
  have hfull : (outRingSz - 1).toNat = 65535 := rfl
  rw [free, UInt64.toNat_sub, h.toNat_used, hfull]
  omega

/-! ## Writing -/

lemma Good.put (h : r.Good) (b : UInt8) : (r.put b).Good where
  head_lt := by
    show ((r.head + 1) &&& (outRingSz - 1)).toNat < 65536
    rw [toNat_mask]
    exact Nat.mod_lt _ (by decide)
  tail_lt := h.tail_lt

lemma unsent_put (h : r.Good) (hroom : r.unsent.length < 65535) (b : UInt8) :
    (r.put b).unsent = r.unsent ++ [b] := by
  have hnext : Ring.next 65536 r.head.toNat ≠ r.tail.toNat := by
    intro hfull
    rw [Ring.next_eq_tail_iff h.tail_lt h.head_lt] at hfull
    rw [unsent, List.length_map, Ring.length_slots] at hroom
    omega
  have hkeep : ∀ i ∈ Ring.slots 65536 r.tail.toNat r.head.toNat,
      Function.update r.bytes r.head b (UInt64.ofNat i) = r.bytes (UInt64.ofNat i) := by
    intro i hi
    refine Function.update_of_ne ?_ b r.bytes
    intro heq
    have hlt := Ring.lt_of_mem_slots h.tail_lt h.head_lt hi
    have hi' : (UInt64.ofNat i).toNat = i := UInt64.toNat_ofNat_of_lt' (Nat.lt_trans hlt (by decide))
    rw [heq] at hi'
    rw [← hi'] at hi
    exact Ring.head_notMem_slots h.tail_lt h.head_lt hi
  show (Ring.slots 65536 r.tail.toNat ((r.head + 1) &&& (outRingSz - 1)).toNat).map
    (fun i => Function.update r.bytes r.head b (UInt64.ofNat i)) = _
  rw [toNat_step h.head_lt, Ring.slots_push h.tail_lt h.head_lt hnext, List.map_append,
    List.map_congr_left hkeep, unsent]
  simp

/-- **What fits is added at the end.** -/
theorem write_spec (h : r.Good) (data : List UInt8) (hroom : r.unsent.length + data.length ≤ 65535) :
    (r.write data).Good ∧ (r.write data).unsent = r.unsent ++ data := by
  induction data generalizing r with
  | nil => exact ⟨h, (List.append_nil _).symm⟩
  | cons b data ih =>
    rw [List.length_cons] at hroom
    have hput := unsent_put h (by omega) b
    obtain ⟨hgood, hunsent⟩ := ih (h.put b) (by rw [hput, List.length_append, List.length_singleton]; omega)
    refine ⟨hgood, ?_⟩
    change ((r.put b).write data).unsent = _
    rw [hunsent, hput, List.append_assoc, List.singleton_append]

/-! ## Sending -/

lemma Good.contig_le (h : r.Good) :
    r.contig.toNat ≤ r.unsent.length ∧ r.tail.toNat + r.contig.toNat ≤ 65536 := by
  have ht := h.tail_lt
  have hu := h.toNat_used
  have hend : (outRingSz - r.tail).toNat = 65536 - r.tail.toNat := by
    have hsz : outRingSz.toNat = 65536 := rfl
    rw [UInt64.toNat_sub, hsz]
    omega
  simp only [contig, UInt64.lt_iff_toNat_lt, hend, hu]
  split_ifs with hlt
  · rw [hu]
    omega
  · rw [hend]
    omega

lemma offered_eq_take (h : r.Good) {n : ℕ} (hn : n ≤ r.contig.toNat) : r.offered n = r.unsent.take n := by
  obtain ⟨hused, hend⟩ := h.contig_le
  have ht := h.tail_lt
  apply List.ext_getElem
  · rw [offered, List.length_map, List.length_range, List.length_take]
    omega
  · intro k hk hk'
    rw [offered, List.length_map, List.length_range] at hk
    simp only [offered, unsent, Ring.slots, List.getElem_map, List.getElem_range, List.getElem_take]
    have hforward : Ring.forward 65536 r.tail.toNat k = r.tail.toNat + k := by
      rw [Ring.forward, if_pos (by omega)]
    rw [hforward, UInt64.ofNat_add, UInt64.ofNat_toNat]

/-- **What the socket took is gone from the front.** -/
theorem sent_spec (h : r.Good) {n : UInt64} (hn : n.toNat ≤ r.contig.toNat) :
    (r.sent n).Good ∧ (r.sent n).unsent = r.unsent.drop n.toNat := by
  obtain ⟨hused, hend⟩ := h.contig_le
  have ht := h.tail_lt
  have hh := h.head_lt
  have htail : (r.sent n).tail.toNat = (r.tail.toNat + n.toNat) % 65536 := by
    show ((r.tail + n) &&& (outRingSz - 1)).toNat = _
    rw [toNat_mask, UInt64.toNat_add]
    omega
  have hlt : (r.sent n).tail.toNat < 65536 := htail ▸ Nat.mod_lt _ (by decide)
  have hlen := h.length_unsent_lt
  have hdist : Ring.dist 65536 r.tail.toNat (r.sent n).tail.toNat = n.toNat := by
    rw [Ring.dist, htail]
    split_ifs <;> omega
  refine ⟨⟨hh, hlt⟩, ?_⟩
  have hle : Ring.dist 65536 r.tail.toNat (r.sent n).tail.toNat ≤ Ring.dist 65536 r.tail.toNat r.head.toNat := by
    rw [hdist]
    rw [unsent, List.length_map, Ring.length_slots] at hused
    omega
  show (Ring.slots 65536 (r.sent n).tail.toNat r.head.toNat).map (fun i => r.bytes (UInt64.ofNat i)) = _
  rw [Ring.slots_skip ht hlt hh hle, hdist, List.map_drop, unsent]

end OutRing

/-! ## Frames -/

/-- `HC_FRAME_OUTPUT`, `HC_FRAME_DONE` and `HC_FRAME_NOTICE`. -/
inductive FrameType
  | output
  | done
  | notice
  deriving DecidableEq, Repr

def FrameType.byte : FrameType → UInt8
  | output => 0x4f
  | done => 0x44
  | notice => 0x58

def bigEndian (v : UInt32) : List UInt8 :=
  [(v >>> 24).toUInt8, (v >>> 16).toUInt8, (v >>> 8).toUInt8, v.toUInt8]

def header (type : FrameType) (len : UInt32) : List UInt8 := type.byte :: bigEndian len

@[simp] lemma length_header (type : FrameType) (len : UInt32) : (header type len).length = 5 := rfl

structure Frame where
  type : FrameType
  payload : List UInt8
  deriving DecidableEq, Repr

def Frame.wire (f : Frame) : List UInt8 := header f.type (UInt32.ofNat f.payload.length) ++ f.payload

end RpcEmu.Hostcmd
