import RpcEmu.Lib.CountedRing
import Mathlib.Data.UInt
import Mathlib.Tactic.Common

/-!
# A PS/2 port

What the keyboard and the mouse of `keyboard.c` have in common: a control register, and a `PS2Queue` of 256 bytes
behind the data register.
-/

namespace RpcEmu.Ps2

open CountedRing

/-! ## The control register -/

def ps2ControlEnable : UInt8 := 0x08
def ps2ControlRxparity : UInt8 := 0x04
def ps2ControlRxFull : UInt8 := 0x20
def ps2ControlTxBusy : UInt8 := 0x40
def ps2ControlTxEmpty : UInt8 := 0x80

def isFull (stat : UInt8) : Bool := stat &&& ps2ControlRxFull != 0

/-- `calculateparity`. -/
def calculateparity (v : UInt8) : Bool := ((List.range 8).countP fun c => v.toNat.testBit c) % 2 = 0

def sentStat (stat v : UInt8) : UInt8 :=
  let stat := stat ||| ps2ControlRxFull
  if calculateparity v then stat ||| ps2ControlRxparity else stat &&& ~~~ps2ControlRxparity

def readStat (stat : UInt8) : UInt8 := stat &&& ~~~ps2ControlRxFull

lemma forall_stat {P : UInt8 → Prop} (h : ∀ n : Fin 256, P (UInt8.ofNat n)) (stat : UInt8) : P stat := by
  simpa using h ⟨stat.toNat, stat.toNat_lt⟩

@[simp] lemma isFull_sentStat (stat v : UInt8) : isFull (sentStat stat v) = true := by
  unfold sentStat
  dsimp only
  split
  · exact forall_stat (P := fun stat => isFull (stat ||| ps2ControlRxFull ||| ps2ControlRxparity) = true)
      (by decide +kernel) stat
  · exact forall_stat (P := fun stat => isFull ((stat ||| ps2ControlRxFull) &&& ~~~ps2ControlRxparity) = true)
      (by decide +kernel) stat

@[simp] lemma isFull_readStat (stat : UInt8) : isFull (readStat stat) = false :=
  forall_stat (P := fun stat => isFull (readStat stat) = false) (by decide +kernel) stat

@[simp] lemma isFull_txEmpty (stat : UInt8) : isFull (stat ||| ps2ControlTxEmpty) = isFull stat :=
  forall_stat (P := fun stat => isFull (stat ||| ps2ControlTxEmpty) = isFull stat) (by decide +kernel) stat

@[simp] lemma isFull_txBusyEmpty (stat : UInt8) :
    isFull (stat &&& 0x3f ||| ps2ControlTxBusy) = isFull stat ∧ isFull (stat &&& 0x3f ||| ps2ControlTxEmpty) = isFull stat :=
  forall_stat (P := fun stat => isFull (stat &&& 0x3f ||| ps2ControlTxBusy) = isFull stat ∧
    isFull (stat &&& 0x3f ||| ps2ControlTxEmpty) = isFull stat) (by decide +kernel) stat

@[simp] lemma isFull_enable (stat : UInt8) : isFull (stat ||| ps2ControlEnable) = isFull stat :=
  forall_stat (P := fun stat => isFull (stat ||| ps2ControlEnable) = isFull stat) (by decide +kernel) stat

@[simp] lemma isFull_disable (stat : UInt8) : isFull (stat &&& ~~~ps2ControlEnable) = isFull stat :=
  forall_stat (P := fun stat => isFull (stat &&& ~~~ps2ControlEnable) = isFull stat) (by decide +kernel) stat

/-! ## The queue -/

def ps2QueueSize : Nat := 256

/-- `PS2Queue`: `wptr` is the head, `rptr` the tail. -/
abbrev PS2Queue := CountedRing.Ring UInt8

abbrev queued (q : PS2Queue) : List UInt8 := q.contents ps2QueueSize

/-- `ps2_queue`. -/
def ps2Queue (q : PS2Queue) (b : UInt8) : PS2Queue := if ps2QueueSize ≤ q.count then q else q.push ps2QueueSize b

def ps2QueueAll (q : PS2Queue) (bs : List UInt8) : PS2Queue := bs.foldl ps2Queue q

/-- `ps2_read_data`: of an empty queue, the byte before. -/
def ps2ReadData (q : PS2Queue) : UInt8 × PS2Queue :=
  if q.count = 0 then (q.slots (if q.tail = 0 then ps2QueueSize - 1 else q.tail - 1), q)
  else (q.slots q.tail, q.pop ps2QueueSize)

section Queue

variable {q : PS2Queue}

lemma good_ps2Queue (h : Good ps2QueueSize q) (b : UInt8) : Good ps2QueueSize (ps2Queue q b) := by
  unfold ps2Queue
  split_ifs with hfull
  · exact h
  · exact h.push (by omega) b

lemma count_ps2Queue (q : PS2Queue) (b : UInt8) : (ps2Queue q b).count = min (q.count + 1) (max q.count ps2QueueSize) := by
  unfold ps2Queue
  split_ifs with hfull
  · omega
  · change q.count + 1 = _
    omega

lemma good_ps2QueueAll (h : Good ps2QueueSize q) (bs : List UInt8) : Good ps2QueueSize (ps2QueueAll q bs) := by
  induction bs generalizing q with
  | nil => exact h
  | cons b bs ih => exact ih (good_ps2Queue h b)

lemma count_ps2QueueAll (h : Good ps2QueueSize q) (bs : List UInt8) :
    (ps2QueueAll q bs).count = min (q.count + bs.length) ps2QueueSize := by
  induction bs generalizing q with
  | nil =>
    have hle := h.count_le
    change q.count = min (q.count + 0) ps2QueueSize
    omega
  | cons b bs ih =>
    have hle := h.count_le
    have hcount := count_ps2Queue q b
    change (ps2QueueAll (ps2Queue q b) bs).count = _
    rw [ih (good_ps2Queue h b), hcount, List.length_cons]
    omega

/-- **The bytes that there is room for** are queued, in order. -/
lemma queued_ps2QueueAll (h : Good ps2QueueSize q) (bs : List UInt8) :
    queued (ps2QueueAll q bs) = queued q ++ bs.take (ps2QueueSize - q.count) := by
  induction bs generalizing q with
  | nil => simp [ps2QueueAll]
  | cons b bs ih =>
    have hnext := ih (good_ps2Queue h b)
    change queued (ps2QueueAll (ps2Queue q b) bs) = _
    by_cases hfull : ps2QueueSize ≤ q.count
    · have hsame : ps2Queue q b = q := if_pos hfull
      have hnone : ps2QueueSize - q.count = 0 := by omega
      rw [hsame, hnone, List.take_zero] at hnext
      rw [hsame, hnone, List.take_zero, hnext]
    · have hone : ps2Queue q b = q.push ps2QueueSize b := if_neg hfull
      have hroom : ps2QueueSize - q.count = ps2QueueSize - (q.count + 1) + 1 := by omega
      have hpush : queued (q.push ps2QueueSize b) = queued q ++ [b] := contents_push h (by omega) b
      rw [hone, hpush] at hnext
      rw [hone, hroom, List.take_succ_cons, hnext, List.append_assoc]
      rfl

lemma queued_ps2ReadData (h : Good ps2QueueSize q) (hsome : 0 < q.count) :
    queued q = (ps2ReadData q).1 :: queued (ps2ReadData q).2 ∧ Good ps2QueueSize (ps2ReadData q).2 := by
  have hread : ps2ReadData q = (q.slots q.tail, q.pop ps2QueueSize) := if_neg (by omega)
  rw [hread]
  exact ⟨contents_pop h hsome, h.pop hsome⟩

end Queue

end RpcEmu.Ps2
