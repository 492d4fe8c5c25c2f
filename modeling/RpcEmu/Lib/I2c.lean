import Mathlib.Data.UInt
import Mathlib.Tactic.Common

/-!
# The two lines of an I²C bus

What the lines say, and nothing about who is on them.  A change of the lines is a `Symbol`: data that fall or
rise with the clock high are a start or a stop, a clock that rises is a bit.  After a start the clocks come in
frames of nine, eight of a byte and one of its acknowledgement, whoever sends and whoever answers; `Framer`
counts them and says when a byte, or an acknowledgement, is complete.

The receiver of the bytes hears the same frames with what is on the line in place of what it puts on it, so
that `Framer` is also how the one who clocks reads.  `byteSoFar` is what has been heard of a byte that is put
on the line bit by bit, the highest first, and `byteSoFar_succ` the step of it.
-/

namespace I2c

structure Pins where
  scl : Bool
  sda : Bool
  deriving DecidableEq, Repr

inductive Symbol where
  | start
  | stop
  | rise (sda : Bool)
  | fall
  | quiet
  deriving DecidableEq, Repr

/-- The meaning of a change from `old` to `new`. -/
def symbol (old new : Pins) : Symbol :=
  if new.scl && old.sda && !new.sda then .start
  else if new.scl && !old.sda && new.sda then .stop
  else if !old.scl && new.scl then .rise new.sda
  else if old.scl && !new.scl then .fall
  else .quiet

/-- What happens on the bus, byte by byte.  `opened` is the clock's going low for the first bit of a frame. -/
inductive BusEvent where
  | start
  | stop
  | opened
  | byte (b : UInt8)
  | ack (sda : Bool)
  deriving DecidableEq, Repr

def shiftIn (b : UInt8) (bit : Bool) : UInt8 :=
  b <<< 1 ||| (if bit then 1 else 0)

structure Frame where
  clocks : Nat
  byte : UInt8
  deriving DecidableEq, Repr

def Frame.empty : Frame := ⟨0, 0⟩

def Frame.clock (f : Frame) (sda : Bool) : Frame × Option BusEvent :=
  if f.clocks < 7 then (⟨f.clocks + 1, shiftIn f.byte sda⟩, none)
  else if f.clocks = 7 then (⟨8, shiftIn f.byte sda⟩, some (.byte (shiftIn f.byte sda)))
  else (.empty, some (.ack sda))

abbrev Framer := Option Frame

def Framer.next : Framer → Symbol → Framer × Option BusEvent
  | _, .start => (some .empty, some .start)
  | _, .stop => (none, some .stop)
  | none, _ => (none, none)
  | some f, .rise sda => (some (f.clock sda).1, (f.clock sda).2)
  | some f, .fall => (some f, if f.clocks = 0 then some .opened else none)
  | some f, .quiet => (some f, none)

/-! ## A byte put on the line -/

/-- The bit of `b` that is on the line for the clock `k`, the highest for the first. -/
def bitAt (b : UInt8) (k : Nat) : Bool := b.toNat.testBit (7 - k)

/-- What there has been of `b` after `k` clocks. -/
def byteSoFar (b : UInt8) (k : Nat) : UInt8 := UInt8.ofNat (b.toNat / 2 ^ (8 - k))

@[simp] lemma byteSoFar_zero (b : UInt8) : byteSoFar b 0 = 0 := by
  have hb : b.toNat / 2 ^ (8 - 0) = 0 := Nat.div_eq_of_lt b.toNat_lt
  rw [byteSoFar, hb]
  rfl

@[simp] lemma byteSoFar_eight (b : UInt8) : byteSoFar b 8 = b := by
  simp [byteSoFar]

lemma shiftIn_ofNat (n : Nat) (bit : Bool) : shiftIn (UInt8.ofNat n) bit = UInt8.ofNat (2 * n + bit.toNat) := by
  apply UInt8.toNat_inj.mp
  have hor : (2 * n % 256) ||| bit.toNat = 2 * n % 256 + bit.toNat := by
    have hlt : bit.toNat < 2 ^ 1 := by cases bit <;> decide
    have heven : 2 * n % 256 = (n % 128) <<< 1 := by rw [Nat.shiftLeft_eq]; omega
    rw [heven, Nat.shiftLeft_add_eq_or_of_lt hlt]
  have hbit : (if bit then (1 : UInt8) else 0).toNat = bit.toNat := by cases bit <;> rfl
  have hshift : (UInt8.ofNat n <<< 1).toNat = 2 * n % 256 := by
    simp [UInt8.toNat_shiftLeft, Nat.shiftLeft_eq]
    omega
  have hlt : bit.toNat < 2 := by cases bit <;> decide
  rw [shiftIn, UInt8.toNat_or, hbit, hshift, hor, UInt8.toNat_ofNat']
  omega

/-- **A clock brings the next bit.** -/
lemma byteSoFar_succ (b : UInt8) {k : Nat} (hk : k < 8) :
    shiftIn (byteSoFar b k) (bitAt b k) = byteSoFar b (k + 1) := by
  have hsplit : 2 ^ (8 - k) = 2 ^ (7 - k) * 2 := by rw [← Nat.pow_succ]; congr 1; omega
  have hbit : (bitAt b k).toNat = b.toNat / 2 ^ (7 - k) % 2 := by
    rw [bitAt, Nat.testBit_eq_decide_div_mod_eq]
    rcases Nat.mod_two_eq_zero_or_one (b.toNat / 2 ^ (7 - k)) with h | h <;> simp [h]
  rw [byteSoFar, shiftIn_ofNat, hbit, byteSoFar, hsplit, ← Nat.div_div_eq_div_mul,
    show 8 - (k + 1) = 7 - k by omega, Nat.div_add_mod]

end I2c
