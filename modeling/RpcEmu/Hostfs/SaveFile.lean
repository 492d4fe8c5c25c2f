import Mathlib.Algebra.BigOperators.Group.Finset.Basic
import Mathlib.Tactic.Ring
import RpcEmu.Hostfs.Paths

/-!
# A file that is saved

`hostfs_write_file` of `hostfs.c`: the loop that hands the guest's data over to `fwrite`, a block at a time.  What
each `fwrite` takes is the host's to say, anything up to what it is offered.

* **Two counts.**  The length goes down by what was taken, the source goes up by what was offered: `capacity` and
  `offered` are the two in closed form, `length_blocks` and `ptr_blocks`.
* So it ends just when the host takes it all in the end, and what is taken is the guest's data as long as no byte
  differs from the one that was due: `saved_iff`.
-/

namespace RpcEmu.Hostfs

open Finset

/-! ## The buffer -/

/-- `buffer` and `buffer_size`. -/
structure Buffer where
  size : Nat
  bytes : Nat → UInt8

/-- `hostfs_ensure_buffer_size`; what `realloc` finds in the new bytes is `garbage`. -/
def Buffer.ensure (b : Buffer) (needed : Nat) (garbage : Nat → UInt8) : Buffer :=
  if needed > b.size then ⟨needed, fun i => if i < b.size then b.bytes i else garbage i⟩ else b

def Buffer.fill (b : Buffer) (data : List UInt8) : Buffer :=
  { b with bytes := fun i => data.getD i (b.bytes i) }

def Buffer.first (b : Buffer) (n : Nat) : List UInt8 := (List.range n).map b.bytes

abbrev GuestMemory := UInt32 → UInt8

/-- What `ARMul_LoadByte` gives from an address on. -/
def loadBytes (mem : GuestMemory) (ptr : UInt32) (n : Nat) : List UInt8 :=
  (List.range n).map fun i => mem (ptr + UInt32.ofNat i)

@[simp] lemma length_loadBytes (mem : GuestMemory) (ptr : UInt32) (n : Nat) : (loadBytes mem ptr n).length = n := by
  simp [loadBytes]

@[simp] lemma Buffer.length_first (b : Buffer) (n : Nat) : (b.first n).length = n := by simp [Buffer.first]

lemma Buffer.first_fill (b : Buffer) {data : List UInt8} {n : Nat} (hn : n ≤ data.length) :
    (b.fill data).first n = data.take n := by
  refine List.ext_getElem (by simp [hn]) fun i hi _ => ?_
  have hlt : i < n := by simpa using hi
  have hdata : i < data.length := by omega
  simp [Buffer.first, Buffer.fill, hdata]

lemma take_loadBytes (mem : GuestMemory) (ptr : UInt32) {k n : Nat} (hk : k ≤ n) :
    (loadBytes mem ptr n).take k = loadBytes mem ptr k := by
  rw [loadBytes, ← List.map_take, List.take_range, Nat.min_eq_left hk, loadBytes]

/-! ## The loop -/

/-- `MINIMUM_BUFFER_SIZE`. -/
def minimumBufferSize : Nat := 32768

/-- `hostfs_write_file` in its loop, with what the host has taken so far and how often it was asked. -/
structure Saving where
  ptr : UInt32
  length : UInt32
  buffer : Buffer
  accepted : List UInt8
  calls : Nat

section Loop

-- `took` is what each `fwrite` would take of a block, in turn; it takes no more than it is offered
variable (took : Nat → Nat) (mem : GuestMemory) (withData : Bool)

def writeBlock (s : Saving) : Saving :=
  let bufferAmount := min s.length.toNat minimumBufferSize
  let buffer := if withData then s.buffer.fill (loadBytes mem s.ptr bufferAmount) else s.buffer
  let bytesWritten := min (took s.calls) bufferAmount
  { ptr := if withData then s.ptr + UInt32.ofNat bufferAmount else s.ptr
    length := s.length - UInt32.ofNat bytesWritten
    buffer := buffer
    accepted := s.accepted ++ buffer.first bytesWritten
    calls := s.calls + 1 }

/-- `while (length > 0)`, as far as so many turns go. -/
def writeLoop : Nat → Saving → Option Saving
  | 0, s => if s.length = 0 then some s else none
  | fuel + 1, s => if s.length = 0 then some s else writeLoop fuel (writeBlock took mem withData s)

def blocks (n : Nat) (s : Saving) : Saving := (writeBlock took mem withData)^[n] s

end Loop

structure SaveRequest where
  withData : Bool
  /-- R4 and R5. -/
  start : UInt32
  stop : UInt32
  resolved : Resolved
  /-- Whether `rename` succeeds. -/
  renames : Bool
  /-- Whether `fopen` does. -/
  opens : Bool
  took : Nat → Nat
  mem : GuestMemory

def SaveRequest.named (r : SaveRequest) : Bool :=
  match r.resolved.info with
  | none => r.resolved.error.isNone
  | some ⟨.file, _, _, _, _⟩ => r.renames
  | some ⟨_, _, _, _, _⟩ => false

def SaveRequest.opened (r : SaveRequest) : Bool := r.named && r.opens

/-- `length`, at first. -/
def SaveRequest.length (r : SaveRequest) : UInt32 := r.stop - r.start

def SaveRequest.first (r : SaveRequest) (b : Buffer) (garbage : Nat → UInt8) : Saving :=
  let buffer := b.ensure minimumBufferSize garbage
  { ptr := r.start
    length := r.length
    buffer := if r.withData then buffer else buffer.fill (List.replicate minimumBufferSize 0)
    accepted := []
    calls := 0 }

/-- `hostfs_write_file`, as far as so many turns of its loop go. -/
def hostfsWriteFileLoop (fuel : Nat) (r : SaveRequest) (b : Buffer) (garbage : Nat → UInt8) : Option Saving :=
  if r.opened then writeLoop r.took r.mem r.withData fuel (r.first b garbage)
  else some { r.first b garbage with buffer := if r.named then b.ensure minimumBufferSize garbage else b }

def SaveRequest.data (r : SaveRequest) : List UInt8 :=
  if r.withData then loadBytes r.mem r.start r.length.toNat else List.replicate r.length.toNat 0

/-- The allocator goes on giving the smallest buffer. -/
def Recovers (took : Nat → Nat) : Prop := ∀ call, ∃ later ≥ call, minimumBufferSize ≤ took later

/-- **What saving a file should come to.** -/
structure Saved (r : SaveRequest) (b : Buffer) (garbage : Nat → UInt8) : Prop where
  /-- It ends. -/
  ends : ∃ fuel s, hostfsWriteFileLoop fuel r b garbage = some s
  /-- What the host has taken is the start of the data, at any time. -/
  inOrder : r.opened = true → ∀ n, (blocks r.took r.mem r.withData n (r.first b garbage)).accepted <+: r.data
  /-- In the end it is all of it. -/
  all : r.opened = true → Recovers r.took →
    ∃ fuel s, hostfsWriteFileLoop fuel r b garbage = some s ∧ s.accepted = r.data

/-! ## The two counts -/

section Counts

variable (took : Nat → Nat)

/-- What the first `n` calls take when there is enough. -/
def capacity (n : Nat) : Nat := ∑ i ∈ range n, min (took i) minimumBufferSize

/-- What the first `n` calls are offered, of `length` bytes. -/
def offered (length n : Nat) : Nat := ∑ i ∈ range n, min (length - capacity took i) minimumBufferSize

/-- What the `n`th call takes, of `length` bytes. -/
def taken (length n : Nat) : Nat := min (took n) (min (length - capacity took n) minimumBufferSize)

/-- **The source keeps up**: each byte that the host takes is the one that was due, though the source is as far on
as what was offered. -/
def KeepsUp (mem : GuestMemory) (ptr : UInt32) (length : Nat) : Prop :=
  ∀ n, ∀ k < taken took length n,
    mem (ptr + UInt32.ofNat (offered took length n + k)) = mem (ptr + UInt32.ofNat (capacity took n + k))

@[simp] lemma capacity_zero : capacity took 0 = 0 := rfl

@[simp] lemma offered_zero (length : Nat) : offered took length 0 = 0 := rfl

lemma capacity_succ (n : Nat) : capacity took (n + 1) = capacity took n + min (took n) minimumBufferSize :=
  sum_range_succ _ n

lemma offered_succ (length n : Nat) :
    offered took length (n + 1) = offered took length n + min (length - capacity took n) minimumBufferSize :=
  sum_range_succ _ n

end Counts

section Blocks

variable {took : Nat → Nat} {mem : GuestMemory} {withData : Bool} {s : Saving} {length : Nat}

lemma blocks_succ (n : Nat) :
    blocks took mem withData (n + 1) s = writeBlock took mem withData (blocks took mem withData n s) :=
  Function.iterate_succ_apply' _ n s

lemma calls_blocks (hcalls : s.calls = 0) (n : Nat) : (blocks took mem withData n s).calls = n := by
  induction n with
  | zero => exact hcalls
  | succ n ih => rw [blocks_succ, writeBlock, ih]

/-- **The length** goes down by what is taken. -/
lemma length_blocks (hcalls : s.calls = 0) (n : Nat) :
    (blocks took mem withData n s).length.toNat = s.length.toNat - capacity took n := by
  induction n with
  | zero => rfl
  | succ n ih =>
    have hlt := (blocks took mem withData n s).length.toNat_lt
    rw [blocks_succ, writeBlock, calls_blocks hcalls]
    dsimp only
    rw [UInt32.toNat_sub_of_le, UInt32.toNat_ofNat_of_lt', ih, capacity_succ]
    · omega
    · rw [UInt32.size]
      omega
    · rw [UInt32.le_iff_toNat_le, UInt32.toNat_ofNat_of_lt' (by rw [UInt32.size]; omega)]
      omega

/-- **The source** goes up by what is offered. -/
lemma ptr_blocks (hcalls : s.calls = 0) (n : Nat) :
    (blocks took mem true n s).ptr = s.ptr + UInt32.ofNat (offered took s.length.toNat n) := by
  induction n with
  | zero => simp [blocks]
  | succ n ih =>
    rw [blocks_succ, writeBlock]
    dsimp only
    rw [if_pos rfl, ih, length_blocks hcalls, offered_succ, UInt32.ofNat_add, UInt32.add_assoc]

end Blocks

/-! ## What is taken -/

lemma drop_loadBytes (mem : GuestMemory) (ptr : UInt32) (k n : Nat) :
    (loadBytes mem ptr n).drop k = loadBytes mem (ptr + UInt32.ofNat k) (n - k) := by
  refine List.ext_getElem (by simp) fun i _ _ => ?_
  simp [loadBytes, UInt32.ofNat_add, UInt32.add_assoc]

lemma loadBytes_prefix_iff {mem : GuestMemory} {p q : UInt32} {m n : Nat} (hmn : m ≤ n) :
    loadBytes mem p m <+: loadBytes mem q n ↔
      ∀ k < m, mem (p + UInt32.ofNat k) = mem (q + UInt32.ofNat k) := by
  rw [List.prefix_iff_eq_take, length_loadBytes, take_loadBytes mem q hmn, loadBytes, loadBytes]
  simp

lemma append_prefix_iff {l m d : List UInt8} : l ++ m <+: d ↔ l <+: d ∧ m <+: d.drop l.length := by
  constructor
  · intro h
    obtain ⟨rest, rfl⟩ := h
    exact ⟨⟨m ++ rest, by simp⟩, ⟨rest, by simp⟩⟩
  · rintro ⟨⟨d', rfl⟩, hm⟩
    rw [List.drop_left] at hm
    exact (List.prefix_append_right_inj l).mpr hm

section Taken

variable {took : Nat → Nat} {mem : GuestMemory} {s : Saving}

lemma capacity_add_taken (took : Nat → Nat) (length n : Nat) :
    min length (capacity took n) + taken took length n = min length (capacity took (n + 1)) := by
  rw [capacity_succ, taken]
  omega

variable (took mem) in
lemma accepted_guest (hcalls : s.calls = 0) (n : Nat) :
    (blocks took mem true (n + 1) s).accepted =
      (blocks took mem true n s).accepted ++
        loadBytes mem (s.ptr + UInt32.ofNat (offered took s.length.toNat n)) (taken took s.length.toNat n) := by
  rw [blocks_succ, writeBlock, calls_blocks hcalls, length_blocks hcalls, ptr_blocks hcalls]
  dsimp only
  rw [if_pos rfl, Buffer.first_fill _ (by simp), take_loadBytes _ _ (Nat.min_le_right _ _)]
  rfl

variable (took mem) in
lemma accepted_zeros (hcalls : s.calls = 0)
    (hzeros : ∀ k ≤ minimumBufferSize, s.buffer.first k = List.replicate k 0) (n : Nat) :
    (blocks took mem false (n + 1) s).accepted =
      (blocks took mem false n s).accepted ++ List.replicate (taken took s.length.toNat n) 0 := by
  have hbuffer : (blocks took mem false n s).buffer = s.buffer := by
    induction n with
    | zero => rfl
    | succ n ih =>
      rw [blocks_succ, writeBlock]
      exact ih
  rw [blocks_succ, writeBlock, calls_blocks hcalls, length_blocks hcalls]
  dsimp only
  rw [if_neg Bool.false_ne_true, hbuffer, hzeros _ (by omega)]
  rfl

lemma guest_prefix_iff (hcalls : s.calls = 0) (haccepted : s.accepted = []) (n : Nat) :
    (blocks took mem true n s).accepted.length = min s.length.toNat (capacity took n) ∧
      ((blocks took mem true n s).accepted <+: loadBytes mem s.ptr s.length.toNat ↔
        ∀ i < n, ∀ k < taken took s.length.toNat i,
          mem (s.ptr + UInt32.ofNat (offered took s.length.toNat i + k)) =
            mem (s.ptr + UInt32.ofNat (capacity took i + k))) := by
  induction n with
  | zero => simp [blocks, haccepted]
  | succ n ih =>
    obtain ⟨hlength, hprefix⟩ := ih
    rw [accepted_guest took mem hcalls]
    refine ⟨by rw [List.length_append, hlength, length_loadBytes, capacity_add_taken], ?_⟩
    rw [append_prefix_iff, hprefix, hlength, drop_loadBytes, loadBytes_prefix_iff (by rw [taken]; omega),
      Nat.forall_lt_succ_right]
    refine and_congr_right fun _ => forall₂_congr fun k hk => ?_
    have hcapacity : min s.length.toNat (capacity took n) = capacity took n := by
      rw [taken] at hk
      omega
    rw [hcapacity, UInt32.ofNat_add, UInt32.ofNat_add, UInt32.add_assoc, UInt32.add_assoc]

lemma zeros_accepted (hcalls : s.calls = 0) (haccepted : s.accepted = [])
    (hzeros : ∀ k ≤ minimumBufferSize, s.buffer.first k = List.replicate k 0) (n : Nat) :
    (blocks took mem false n s).accepted = List.replicate (min s.length.toNat (capacity took n)) 0 := by
  induction n with
  | zero => simp [blocks, haccepted]
  | succ n ih => rw [accepted_zeros took mem hcalls hzeros, ih, List.replicate_append_replicate, capacity_add_taken]

end Taken

/-! ## The end -/

section Ends

variable {took : Nat → Nat} {mem : GuestMemory} {withData : Bool} {s : Saving}

lemma writeLoop_some {fuel : Nat} {t : Saving} (h : writeLoop took mem withData fuel s = some t) :
    t.length = 0 ∧ ∃ n, t = blocks took mem withData n s := by
  induction fuel generalizing s with
  | zero =>
    obtain ⟨hzero, hsame⟩ := Option.ite_none_right_eq_some.mp h
    obtain rfl := Option.some.inj hsame
    exact ⟨hzero, 0, rfl⟩
  | succ fuel ih =>
    rw [writeLoop] at h
    split at h
    next hzero =>
      obtain rfl := Option.some.inj h
      exact ⟨hzero, 0, rfl⟩
    next =>
      obtain ⟨hzero, n, hn⟩ := ih h
      exact ⟨hzero, n + 1, hn⟩

lemma writeLoop_ends {n : Nat} (h : (blocks took mem withData n s).length = 0) :
    ∃ t, writeLoop took mem withData n s = some t := by
  induction n generalizing s with
  | zero => exact ⟨s, if_pos h⟩
  | succ n ih =>
    rw [writeLoop]
    split
    · exact ⟨s, rfl⟩
    · exact ih h

end Ends

section Request

variable {r : SaveRequest} {b : Buffer} {garbage : Nat → UInt8}

lemma zeros_first (hdata : r.withData = false) {k : Nat} (hk : k ≤ minimumBufferSize) :
    (r.first b garbage).buffer.first k = List.replicate k 0 := by
  unfold SaveRequest.first
  dsimp only
  rw [if_neg (by simp [hdata]), Buffer.first_fill _ (by simpa using hk), List.take_replicate, Nat.min_eq_left hk]

lemma accepted_prefix_iff (n : Nat) :
    (blocks r.took r.mem r.withData n (r.first b garbage)).accepted.length =
        min r.length.toNat (capacity r.took n) ∧
      ((blocks r.took r.mem r.withData n (r.first b garbage)).accepted <+: r.data ↔
        (r.withData = true → ∀ i < n, ∀ k < taken r.took r.length.toNat i,
          r.mem (r.start + UInt32.ofNat (offered r.took r.length.toNat i + k)) =
            r.mem (r.start + UInt32.ofNat (capacity r.took i + k)))) := by
  unfold SaveRequest.data
  cases hdata : r.withData with
  | true =>
    have hguest := @guest_prefix_iff r.took r.mem (r.first b garbage) rfl rfl n
    rw [if_pos rfl, forall_prop_of_true rfl]
    exact hguest
  | false =>
    have hzeros := @zeros_accepted r.took r.mem (r.first b garbage) rfl rfl
      (fun k hk => zeros_first hdata hk) n
    rw [hzeros, List.length_replicate]
    refine ⟨rfl, iff_of_true ?_ (by simp)⟩
    have hle : min (r.first b garbage).length.toNat (capacity r.took n) ≤ r.length.toNat := Nat.min_le_left _ _
    rw [if_neg Bool.false_ne_true, List.prefix_iff_eq_take, List.length_replicate, List.take_replicate,
      Nat.min_eq_left hle]

lemma length_blocks_eq_zero_iff (n : Nat) :
    (blocks r.took r.mem r.withData n (r.first b garbage)).length = 0 ↔ r.length.toNat ≤ capacity r.took n := by
  rw [← UInt32.toNat_inj, length_blocks rfl]
  exact Nat.sub_eq_zero_iff_le

lemma saved_iff_of_opened (hopened : r.opened = true) :
    Saved r b garbage ↔
      (∃ n, r.length.toNat ≤ capacity r.took n) ∧
        (r.withData = true → KeepsUp r.took r.mem r.start r.length.toNat) := by
  have hloop : ∀ fuel, hostfsWriteFileLoop fuel r b garbage =
      writeLoop r.took r.mem r.withData fuel (r.first b garbage) := fun fuel => if_pos hopened
  constructor
  · rintro ⟨⟨fuel, t, hends⟩, horder, -⟩
    rw [hloop] at hends
    obtain ⟨hzero, n, rfl⟩ := writeLoop_some hends
    refine ⟨⟨n, (length_blocks_eq_zero_iff n).mp hzero⟩, fun hdata i => ?_⟩
    exact (accepted_prefix_iff (i + 1)).2.mp (horder hopened (i + 1)) hdata i (Nat.lt_succ_self i)
  · rintro ⟨⟨n, hn⟩, hkeeps⟩
    have horder : ∀ n, (blocks r.took r.mem r.withData n (r.first b garbage)).accepted <+: r.data :=
      fun n => (accepted_prefix_iff n).2.mpr fun hdata i _ => hkeeps hdata i
    obtain ⟨t, ht⟩ := writeLoop_ends ((length_blocks_eq_zero_iff n).mpr hn)
    refine ⟨⟨n, t, (hloop n).trans ht⟩, fun _ => horder, fun _ _ => ⟨n, t, (hloop n).trans ht, ?_⟩⟩
    obtain ⟨hzero, m, rfl⟩ := writeLoop_some ht
    have hlength := (@accepted_prefix_iff r b garbage m).1
    have hall := (length_blocks_eq_zero_iff m).mp hzero
    have hdata : r.data.length = r.length.toNat := by
      unfold SaveRequest.data
      split <;> simp
    exact (horder m).eq_of_length (by rw [hlength, hdata, Nat.min_eq_left hall])

end Request

/-- **When a file is saved**: if there is one to be written to, the host takes as many bytes as there are in the
end, and none of those it takes after it has taken less than it was offered differs from the one that was due. -/
theorem saved_iff (r : SaveRequest) (b : Buffer) (garbage : Nat → UInt8) :
    Saved r b garbage ↔
      (r.opened = true →
        (∃ n, r.length.toNat ≤ capacity r.took n) ∧
          (r.withData = true → KeepsUp r.took r.mem r.start r.length.toNat)) := by
  cases hopened : r.opened with
  | true => simpa using saved_iff_of_opened hopened
  | false =>
    refine iff_of_true ⟨⟨0, _, if_neg (by simp [hopened])⟩, ?_, ?_⟩ (by simp)
    · simp [hopened]
    · simp [hopened]

def twoBytes (took : Nat → Nat) : SaveRequest :=
  ⟨true, 0x8000, 0x8002, ⟨[], none, none, []⟩, true, true, took, UInt32.toUInt8⟩

theorem not_saved :
    ¬Saved (twoBytes fun _ => 0) ⟨0, fun _ => 0⟩ (fun _ => 0) ∧
      ¬Saved (twoBytes fun call => if call = 0 then 1 else 32768) ⟨0, fun _ => 0⟩ (fun _ => 0) := by
  rw [saved_iff_of_opened rfl, saved_iff_of_opened rfl]
  constructor
  · rintro ⟨⟨n, hn⟩, -⟩
    have hnone : capacity (fun _ => 0) n = 0 := by simp [capacity]
    exact absurd (hn.trans hnone.le) (by decide)
  · rintro ⟨-, hkeeps⟩
    exact absurd (hkeeps rfl 1 0 (by decide)) (by decide)

end RpcEmu.Hostfs
