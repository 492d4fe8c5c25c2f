import RpcEmu.Lib.Runs
import RpcEmu.Lib.WrittenOver
import Mathlib.Data.List.Nodup
import Mathlib.Data.List.Infix
import Mathlib.Data.List.Range
import Mathlib.Algebra.Ring.Nat

/-!
# Frames kept for a reader

`netcapture.c`.  Every frame counted is given a serial, and while the ring is enabled it is put in it; a
reader asks for the frames after the last one it has, and is told the serial of the oldest still held.
-/

namespace RpcEmu.Net

open Runs WrittenOver

def netcapSnaplen : Nat := 1600
def netcapRingFrames : Nat := 4096
def netcapPcapHeaderLen : UInt64 := 24
def netcapPcapRecordLen : UInt64 := 16

/-- `NetcapDirection`. -/
inductive NetcapDirection
  | tx
  | rx
  deriving DecidableEq

/-- `NetcapFrame`; `data` is the captured bytes. -/
structure NetcapFrame where
  serial : Nat
  sec : UInt32
  usec : UInt32
  length : UInt32
  captured : UInt32
  direction : NetcapDirection
  data : List UInt8
  deriving DecidableEq

/-- An entry as `calloc` makes it. -/
def NetcapFrame.zero : NetcapFrame := ⟨0, 0, 0, 0, 0, .tx, []⟩

/-- `NetCapture`. -/
structure NetCapture where
  initialised : Bool
  file : Bool
  fileBytes : UInt64
  fileMaxBytes : UInt64
  fileStoppedFull : Bool
  ringActive : Bool
  ring : Option (Nat → NetcapFrame)
  ringNext : Nat
  ringOldestSerial : Nat
  serial : Nat
  bytes : UInt64
  framesTx : UInt64
  framesRx : UInt64
  droppedRing : UInt64

def NetCapture.zero : NetCapture := ⟨false, false, 0, 0, false, false, none, 0, 0, 0, 0, 0, 0, 0⟩

variable (nc : NetCapture)

/-- `netcap_init`. -/
def netcapInit : NetCapture :=
  if nc.initialised then nc else { NetCapture.zero with initialised := true }

/-- `netcap_file_stop`. -/
def netcapFileStop : NetCapture :=
  if nc.initialised then { nc with file := false } else nc

/-- `netcap_file_start`, of a path that is not empty; `opened` is whether the file is there with its
header. -/
def netcapFileStart (opened : Bool) (maxBytes : UInt64) : NetCapture :=
  let nc := netcapFileStop (netcapInit nc)
  if !opened then nc
  else { nc with
    file := true, fileBytes := netcapPcapHeaderLen, fileMaxBytes := maxBytes, fileStoppedFull := false }

/-- `netcap_ring_enable`; `allocated` is what `calloc` comes back with. -/
def netcapRingEnable (enable allocated : Bool) : NetCapture :=
  let nc := netcapInit nc
  if enable then
    let ring :=
      match nc.ring with
      | some slots => some slots
      | none => if allocated then some fun _ => NetcapFrame.zero else none
    { nc with ring := ring, ringActive := ring.isSome }
  else { nc with ringActive := false, ring := none, ringNext := 0, ringOldestSerial := 0 }

/-- `netcap_clear`. -/
def netcapClear : NetCapture :=
  if !nc.initialised then nc
  else { nc with
    ringNext := 0, ringOldestSerial := 0, serial := 0, bytes := 0, framesTx := 0, framesRx := 0,
    droppedRing := 0, ring := nc.ring.map fun _ _ => NetcapFrame.zero }

/-- A frame, as it comes to `netcap_frame`, with the time it comes at. -/
structure Arriving where
  direction : NetcapDirection
  data : Option (List UInt8)
  sec : UInt32
  usec : UInt32

def counted (a : Arriving) : Option (List UInt8) :=
  if !nc.initialised || (!nc.file && !nc.ringActive) then none
  else a.data.filter fun data => data.length ≠ 0

def entryOf (a : Arriving) (serial : Nat) (data : List UInt8) : NetcapFrame where
  serial := serial
  sec := a.sec
  usec := a.usec
  length := UInt32.ofNat data.length
  captured := UInt32.ofNat (min data.length netcapSnaplen)
  direction := a.direction
  data := data.take netcapSnaplen

def countFrame (a : Arriving) (data : List UInt8) : NetCapture :=
  { nc with
    serial := (nc.serial + 1) % 2 ^ 64
    bytes := nc.bytes + UInt64.ofNat data.length
    framesTx := if a.direction = .tx then nc.framesTx + 1 else nc.framesTx
    framesRx := if a.direction = .tx then nc.framesRx else nc.framesRx + 1 }

def ringFrame (a : Arriving) (data : List UInt8) : NetCapture :=
  match nc.ring with
  | none => nc
  | some slots =>
    if nc.ringActive then
      { nc with
        droppedRing := if (slots nc.ringNext).serial ≠ 0 then nc.droppedRing + 1 else nc.droppedRing
        ring := some (Function.update slots nc.ringNext (entryOf a nc.serial data))
        ringNext := (nc.ringNext + 1) % netcapRingFrames
        ringOldestSerial :=
          if netcapRingFrames < nc.serial then nc.serial - netcapRingFrames + 1 else 1 }
    else nc

/-- Into the file, where there is one; `wrote` is whether both writes went through. -/
def fileFrame (data : List UInt8) (wrote : Bool) : NetCapture :=
  let want := netcapPcapRecordLen + UInt64.ofNat (min data.length netcapSnaplen)
  if !nc.file then nc
  else if nc.fileMaxBytes ≠ 0 ∧ nc.fileMaxBytes < nc.fileBytes + want then
    { nc with file := false, fileStoppedFull := true }
  else if wrote then { nc with fileBytes := nc.fileBytes + want }
  else nc

/-- `netcap_frame`. -/
def netcapFrame (a : Arriving) (wrote : Bool) : NetCapture :=
  match counted nc a with
  | none => nc
  | some data => fileFrame (ringFrame (countFrame nc a data) a data) data wrote

/-- The loop of `netcap_copy_since`; `out` is what has been copied, of at most `max`. -/
def copyLoop (afterSerial max : Nat) : List NetcapFrame → List NetcapFrame → List NetcapFrame
  | [], out => out
  | slot :: slots, out =>
    if out.length < max then
      if slot.serial = 0 ∨ slot.serial ≤ afterSerial then copyLoop afterSerial max slots out
      else copyLoop afterSerial max slots (out ++ [slot])
    else out

/-- `netcap_copy_since`: the serial of the oldest, and the frames. -/
def netcapCopySince (afterSerial max : Nat) : Nat × List NetcapFrame :=
  if !nc.initialised ∨ max = 0 then (0, [])
  else
    (nc.ringOldestSerial,
      match nc.ring with
      | none => []
      | some slots =>
        if nc.ringActive then copyLoop afterSerial max (walk netcapRingFrames slots nc.ringNext) []
        else [])

def ringFrames : List NetcapFrame :=
  match nc.ring with
  | none => []
  | some slots => (walk netcapRingFrames slots nc.ringNext).filter fun f => f.serial ≠ 0

/-! ## A capture with a reader -/

/-- `last` is the serial of the last frame the reader was given, `pending` what was put in the ring after
it, and `issued` the serials given out. -/
structure Watch where
  nc : NetCapture
  last : Nat
  pending : List NetcapFrame
  issued : List Nat

def Watch.start : Watch := ⟨NetCapture.zero, 0, [], []⟩

inductive CapEvent
  | frame (a : Arriving) (wrote : Bool)
  | ringEnable (enable allocated : Bool)
  | fileStart (opened : Bool) (maxBytes : UInt64)
  | fileStop
  | clear
  | poll (max : Nat)

def putInRing (a : Arriving) : List NetcapFrame :=
  match counted nc a with
  | none => []
  | some data => if nc.ringActive then [entryOf a (countFrame nc a data).serial data] else []

def watchStep (g : Watch) : CapEvent → Watch
  | .frame a wrote =>
    { g with
      nc := netcapFrame g.nc a wrote
      pending := g.pending ++ putInRing g.nc a
      issued := g.issued ++ ((counted g.nc a).map fun data => (countFrame g.nc a data).serial).toList }
  | .ringEnable enable allocated => { g with nc := netcapRingEnable g.nc enable allocated }
  | .fileStart opened maxBytes => { g with nc := netcapFileStart g.nc opened maxBytes }
  | .fileStop => { g with nc := netcapFileStop g.nc }
  | .clear => { g with nc := netcapClear g.nc }
  | .poll max =>
    match (netcapCopySince g.nc g.last max).2.getLast? with
    | none => g
    | some f => { g with last := f.serial, pending := g.pending.drop (g.pending.idxOf f + 1) }

/-- **What the reader is owed**: the frames that were put in the ring after the last one it has, as many as
it takes; or else to be told the oldest serial held, and this being one it can tell a gap by. -/
def PollRight (g : Watch) (max : Nat) : Prop :=
  (netcapCopySince g.nc g.last max).2 = g.pending.take max ∨
    (some (netcapCopySince g.nc g.last max).1 = ((ringFrames g.nc).map NetcapFrame.serial).min? ∧
      g.last + 1 < (netcapCopySince g.nc g.last max).1)

/-- Serials are distinct, and every poll is right. -/
structure Watched (g : Watch) : Prop where
  serials : g.issued.Nodup
  polls : ∀ max, PollRight g max

/-- The step cannot let a reader miss a frame. -/
def Careful (g : Watch) : CapEvent → Prop
  | .frame a _ => (counted g.nc a).isSome → g.nc.serial + 1 < 2 ^ 64
  | .ringEnable enable _ => enable = false → ∀ f ∈ ringFrames g.nc, f.serial ≤ g.last
  | .clear => g.nc.serial = 0
  | _ => True

/-! ## Serials that run up to one -/

/-- The frames have the serials up to `serial`. -/
structure Numbered (frames : List NetcapFrame) (serial : Nat) : Prop where
  length_le : frames.length ≤ serial
  serials : frames.map NetcapFrame.serial = List.range' (serial + 1 - frames.length) frames.length

section Numbered

variable {frames : List NetcapFrame} {serial : Nat}

lemma numbered_nil : Numbered [] serial := ⟨Nat.zero_le _, rfl⟩

lemma Numbered.concat (h : Numbered frames serial) {f : NetcapFrame} (hf : f.serial = serial + 1) :
    Numbered (frames ++ [f]) (serial + 1) where
  length_le := by
    have hle := h.length_le
    rw [List.length_append, List.length_singleton]
    omega
  serials := by
    have hle := h.length_le
    have hlast : serial + 1 - frames.length + frames.length = serial + 1 := by omega
    rw [List.map_append, List.map_singleton, h.serials, hf, List.length_append, List.length_singleton,
      List.range'_concat, Nat.add_sub_add_right, Nat.one_mul, hlast]

lemma Numbered.drop {front : List NetcapFrame} (h : Numbered (front ++ frames) serial) :
    Numbered frames serial := by
  have hle := h.length_le
  have hserials := congrArg (List.drop front.length) h.serials
  rw [List.map_append, List.drop_left' (by simp), List.drop_range'] at hserials
  rw [List.length_append] at hle hserials
  refine ⟨by omega, hserials.trans ?_⟩
  congr 1 <;> omega

lemma Numbered.mem (h : Numbered frames serial) {f : NetcapFrame} (hf : f ∈ frames) :
    serial < f.serial + frames.length ∧ f.serial ≤ serial := by
  have hle := h.length_le
  have hmem := List.mem_map_of_mem (f := NetcapFrame.serial) hf
  rw [h.serials, List.mem_range'_1] at hmem
  omega

lemma Numbered.head {f : NetcapFrame} (h : Numbered (f :: frames) serial) :
    f.serial + frames.length = serial := by
  have hle := h.length_le
  have hserials := h.serials
  rw [List.length_cons, List.map_cons, List.range'_succ] at hserials
  rw [List.length_cons] at hle
  have hhead := (List.cons.inj hserials).1
  omega

lemma Numbered.min? {f : NetcapFrame} (h : Numbered (f :: frames) serial) :
    ((f :: frames).map NetcapFrame.serial).min? = some f.serial := by
  rw [List.min?_eq_some_iff]
  refine ⟨List.mem_map_of_mem List.mem_cons_self, ?_⟩
  intro b hb
  obtain ⟨x, hx, rfl⟩ := List.mem_map.mp hb
  have hfirst := h.head
  have hmem := (h.mem hx).1
  rw [List.length_cons] at hmem
  omega

lemma Numbered.before {front : List NetcapFrame} {f : NetcapFrame} (h : Numbered (front ++ f :: frames) serial)
    {x : NetcapFrame} (hx : x ∈ front) : x.serial < f.serial := by
  have hsorted : ((front ++ f :: frames).map NetcapFrame.serial).Pairwise (· < ·) := by
    rw [h.serials]
    exact List.pairwise_lt_range'
  rw [List.map_append, List.pairwise_append] at hsorted
  exact hsorted.2.2 _ (List.mem_map_of_mem hx) _ (List.mem_map_of_mem List.mem_cons_self)

lemma Numbered.nodup (h : Numbered frames serial) : frames.Nodup := by
  refine List.Nodup.of_map NetcapFrame.serial ?_
  rw [h.serials]
  exact List.nodup_range'

end Numbered

/-! ## What the ring holds -/

lemma netcapRingFrames_pos : 0 < netcapRingFrames := by decide

section Copy

variable {nc : NetCapture} {last max : Nat}

lemma copyLoop_eq (slots out : List NetcapFrame) : copyLoop last max slots out =
    out ++ (slots.filter fun f => f.serial ≠ 0 ∧ last < f.serial).take (max - out.length) := by
  induction slots generalizing out with
  | nil => simp [copyLoop]
  | cons slot slots ih =>
    rw [copyLoop]
    by_cases hroom : out.length < max
    · rw [if_pos hroom]
      by_cases hskip : slot.serial = 0 ∨ slot.serial ≤ last
      · have hno : ¬(slot.serial ≠ 0 ∧ last < slot.serial) := by omega
        rw [if_pos hskip, ih, List.filter_cons_of_neg (by simpa using hno)]
      · have hyes : slot.serial ≠ 0 ∧ last < slot.serial := by omega
        obtain ⟨m, hm⟩ : ∃ m, max - out.length = m + 1 := ⟨max - out.length - 1, by omega⟩
        have hm' : max - (out ++ [slot]).length = m := by
          rw [List.length_append, List.length_singleton]
          omega
        rw [if_neg hskip, ih, List.filter_cons_of_pos (by simpa using hyes), hm, hm', List.take_succ_cons,
          List.append_assoc, List.singleton_append]
    · rw [if_neg hroom, Nat.sub_eq_zero_of_le (Nat.le_of_not_lt hroom), List.take_zero, List.append_nil]

/-- The ring's flag and the ring go together, and there is neither before `netcap_init`. -/
structure RingReady (nc : NetCapture) : Prop where
  active : nc.ringActive = nc.ring.isSome
  init : nc.initialised = false → nc.ring = none ∧ nc.serial = 0
  next : nc.ringNext < netcapRingFrames
  walk : ∀ slots, nc.ring = some slots →
    ∃ k, walk netcapRingFrames slots nc.ringNext = List.replicate k NetcapFrame.zero ++ ringFrames nc

lemma ringFrames_none (h : nc.ring = none) : ringFrames nc = [] := by simp [ringFrames, h]

lemma copySince_frames (h : RingReady nc) (last max : Nat) : (netcapCopySince nc last max).2 =
    ((ringFrames nc).filter fun f => last < f.serial).take max := by
  unfold netcapCopySince
  by_cases hcall : !nc.initialised ∨ max = 0
  · rw [if_pos hcall]
    rcases hcall with hinit | hmax
    · rw [ringFrames_none (h.init (by simpa using hinit)).1]
      simp
    · simp [hmax]
  · rw [if_neg hcall]
    cases hring : nc.ring with
    | none => simp [ringFrames_none hring]
    | some slots =>
      have hactive : nc.ringActive = true := by rw [h.active, hring]; rfl
      simp [hactive, copyLoop_eq, ringFrames, hring, List.filter_filter, and_comm]

lemma copySince_oldest (hinit : nc.initialised = true) (hmax : max ≠ 0) :
    (netcapCopySince nc last max).1 = nc.ringOldestSerial := by simp [netcapCopySince, hinit, hmax]

end Copy

end RpcEmu.Net
