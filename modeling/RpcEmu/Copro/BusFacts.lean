import Mathlib.Tactic.SplitIfs
import RpcEmu.Copro.Bus

/-!
# What the decode depends on, and what it leaves alone

Every result about the bus comes back to two questions: which fields of the bus an operation reads,
and which it writes.  They are answered here once.

* **The handshake is not part of the decode.**  `CoproBus.setHandshake` overwrites the fields of the
  waiting access and of the guest's answer; the region lookup, the memory and the log do not look
  at them, so every operation of the decode commutes with it.
* **Which fields move.**  A read moves at most the waiting access; a logged write moves the control
  area and the ring; only `takeAnswer` and `coproBusResume` touch the answer.
-/

namespace RpcEmu

open Bytes

/-! ## The handshake fields -/

structure Handshake where
  stalled : Bool
  waitAddr : UInt32
  waitValue : UInt32
  waitIsWrite : Bool
  waitIsPort : Bool
  answerValid : Bool
  answerAddr : UInt32
  answerValue : UInt32
  answerIsWrite : Bool

namespace CoproBus

def handshake (bus : CoproBus) : Handshake where
  stalled := bus.stalled
  waitAddr := bus.waitAddr
  waitValue := bus.waitValue
  waitIsWrite := bus.waitIsWrite
  waitIsPort := bus.waitIsPort
  answerValid := bus.answerValid
  answerAddr := bus.answerAddr
  answerValue := bus.answerValue
  answerIsWrite := bus.answerIsWrite

def setHandshake (bus : CoproBus) (h : Handshake) : CoproBus :=
  { bus with stalled := h.stalled, waitAddr := h.waitAddr, waitValue := h.waitValue,
             waitIsWrite := h.waitIsWrite, waitIsPort := h.waitIsPort,
             answerValid := h.answerValid, answerAddr := h.answerAddr,
             answerValue := h.answerValue, answerIsWrite := h.answerIsWrite }

@[simp] lemma setHandshake_handshake (bus : CoproBus) : bus.setHandshake bus.handshake = bus := rfl

end CoproBus

section Decode

variable (bus : CoproBus) (h : Handshake)

@[simp] lemma ctlSetWord_setHandshake (offset value : UInt32) :
    ctlSetWord (bus.setHandshake h) offset value = (ctlSetWord bus offset value).setHandshake h := by
  have hb : ctlWordBytes (bus.setHandshake h) offset = ctlWordBytes bus offset := rfl
  unfold ctlSetWord
  rw [hb]
  split <;> rfl

lemma regionMatches_setHandshake (addr : UInt32) (isPort : Bool) (entry : UInt32) :
    regionMatches (bus.setHandshake h) addr isPort entry = regionMatches bus addr isPort entry :=
  rfl

lemma coproBusRegionFrom_setHandshake (addr : UInt32) (isPort : Bool) (i n : Nat) :
    coproBusRegionFrom (bus.setHandshake h) addr isPort i n
      = coproBusRegionFrom bus addr isPort i n := by
  induction n generalizing i with
  | zero => rfl
  | succ n ih =>
    simp only [coproBusRegionFrom, regionMatches_setHandshake, ih]
    rfl

@[simp] lemma coproBusRegion_setHandshake (addr : UInt32) (isPort : Bool) :
    coproBusRegion (bus.setHandshake h) addr isPort = coproBusRegion bus addr isPort := by
  simp only [coproBusRegion, coproBusRegionFrom_setHandshake]
  rfl

@[simp] lemma regionFields_setHandshake (entry : UInt32) :
    regionFields (bus.setHandshake h) entry = regionFields bus entry := rfl

@[simp] lemma ramRead_setHandshake (addr : UInt32) :
    ramRead (bus.setHandshake h) addr = ramRead bus addr := rfl

@[simp] lemma ramWrite_setHandshake (addr : UInt32) (value : UInt8) :
    ramWrite (bus.setHandshake h) addr value = (ramWrite bus addr value).setHandshake h := by
  unfold ramWrite
  by_cases hr : (!bus.ramPresent || bus.ramSize = 0) = true
  · have hr' : (!(bus.setHandshake h).ramPresent || (bus.setHandshake h).ramSize = 0) = true := hr
    rw [if_pos hr, if_pos hr']
  · have hr' : ¬ (!(bus.setHandshake h).ramPresent || (bus.setHandshake h).ramSize = 0) = true := hr
    rw [if_neg hr, if_neg hr']
    rfl

/-- What `logPush` does when it stores the write. -/
def logStore (bus : CoproBus) (cycle addr value info : UInt32) : CoproBus :=
  let info := if bus.logDropped ≠ 0 then info ||| coproLogInfoDropped else info
  let slot := logSlot bus bus.logHead
  let stored := ctlSetWord (ctlSetWord (ctlSetWord (ctlSetWord bus slot cycle) (slot + 4) addr)
    (slot + 8) value) (slot + 12) info
  { stored with logHead := logNext bus bus.logHead, logDropped := 0 }

lemma logPush_eq (cycle addr value info : UInt32) :
    logPush bus cycle addr value info =
      if bus.logEntries = 0 then bus
      else if logNext bus bus.logHead = bus.logTail then
        { bus with logDropped := bus.logDropped + 1 }
      else logStore bus cycle addr value info := rfl

lemma logStore_setHandshake (cycle addr value info : UInt32) :
    logStore (bus.setHandshake h) cycle addr value info
      = (logStore bus cycle addr value info).setHandshake h := by
  have hs : logSlot (bus.setHandshake h) (bus.setHandshake h).logHead
      = logSlot bus bus.logHead := rfl
  simp only [logStore, hs, ctlSetWord_setHandshake]
  rfl

@[simp] lemma logPush_setHandshake (cycle addr value info : UInt32) :
    logPush (bus.setHandshake h) cycle addr value info
      = (logPush bus cycle addr value info).setHandshake h := by
  rw [logPush_eq, logPush_eq, logStore_setHandshake]
  by_cases h0 : bus.logEntries = 0
  · have h0' : (bus.setHandshake h).logEntries = 0 := h0
    rw [if_pos h0, if_pos h0']
  · have h0' : (bus.setHandshake h).logEntries ≠ 0 := h0
    rw [if_neg h0, if_neg h0']
    by_cases hf : logNext bus bus.logHead = bus.logTail
    · have hf' : logNext (bus.setHandshake h) (bus.setHandshake h).logHead
          = (bus.setHandshake h).logTail := hf
      rw [if_pos hf, if_pos hf']
      rfl
    · have hf' : logNext (bus.setHandshake h) (bus.setHandshake h).logHead
          ≠ (bus.setHandshake h).logTail := hf
      rw [if_neg hf, if_neg hf']

end Decode

/-! ## One access, in one piece -/

/-- What the decode makes of a write before it is carried out: how it ends, which byte of card RAM
it stores to, and whether it is logged. -/
structure WriteEffect where
  result : CoproBusResult
  store : Option UInt32
  logged : Bool
  deriving DecidableEq, Repr

def writeEffect (bus : CoproBus) (addr : UInt32) (isPort : Bool) : WriteEffect :=
  match coproBusRegion bus addr isPort with
  | none => ⟨.ok, if isPort then none else some addr, false⟩
  | some entry =>
    let f := regionFields bus entry
    match coproRegionKind f.kind with
    | .ram => ⟨.ok, some (ramAddress f.kind f.base f.latch addr), false⟩
    | .rom => ⟨.ok, none, true⟩
    | .log => ⟨.ok, some (ramAddress f.kind f.base f.latch addr), true⟩
    | .latch => ⟨.ok, none, true⟩
    | .stall => ⟨.stall, none, false⟩
    | .unmapped => ⟨.busError, none, false⟩

def storeAt (bus : CoproBus) (value : UInt8) : Option UInt32 → CoproBus
  | none => bus
  | some addr => ramWrite bus addr value

def spaceInfo (isPort : Bool) : UInt32 := if isPort then coproLogInfoPort else 0

def WriteEffect.apply (e : WriteEffect) (bus : CoproBus) (addr : UInt32) (isPort : Bool)
    (cycle : UInt32) (value : UInt8) : CoproBus :=
  match e.result with
  | .ok =>
    let stored := storeAt bus value e.store
    if e.logged then logPush stored cycle addr value.toUInt32 (spaceInfo isPort) else stored
  | .stall => bus.waitFor addr true isPort value.toUInt32
  | .busError => bus

/-- **A write is decoded, then carried out.** -/
theorem decodedWrite_eq (bus : CoproBus) (addr : UInt32) (isPort : Bool) (cycle : UInt32)
    (value : UInt8) :
    decodedWrite bus addr isPort cycle value =
      ((writeEffect bus addr isPort).result,
        (writeEffect bus addr isPort).apply bus addr isPort cycle value) := by
  unfold decodedWrite writeEffect
  cases coproBusRegion bus addr isPort with
  | none => cases isPort <;> rfl
  | some entry =>
    dsimp only
    cases coproRegionKind (regionFields bus entry).kind <;> rfl

def readEffect (bus : CoproBus) (addr : UInt32) (isPort : Bool) : CoproBusResult × UInt8 :=
  match coproBusRegion bus addr isPort with
  | none => (.ok, if isPort then 0xff else ramRead bus addr)
  | some entry =>
    let f := regionFields bus entry
    match coproRegionKind f.kind with
    | .ram | .rom | .log => (.ok, ramRead bus (ramAddress f.kind f.base f.latch addr))
    | .latch =>
      let off := f.latch + (addr - f.base)
      (.ok, if bus.ctlPresent && off < bus.ctlSize then bus.ctl off else 0xff)
    | .stall => (.stall, 0xff)
    | .unmapped => (.busError, 0xff)

/-- The bus after a read with the given result: **a read changes nothing unless it stalls**, and
then only the waiting access. -/
def afterRead (bus : CoproBus) (addr : UInt32) (isPort : Bool) : CoproBusResult → CoproBus
  | .stall => bus.waitFor addr false isPort 0
  | .ok => bus
  | .busError => bus

theorem decodedRead_eq (bus : CoproBus) (addr : UInt32) (isPort : Bool) :
    decodedRead bus addr isPort =
      ((readEffect bus addr isPort).1, (readEffect bus addr isPort).2,
        afterRead bus addr isPort (readEffect bus addr isPort).1) := by
  unfold readEffect decodedRead
  cases coproBusRegion bus addr isPort with
  | none => rfl
  | some entry =>
    dsimp only
    cases coproRegionKind (regionFields bus entry).kind <;> rfl

@[simp] lemma writeEffect_setHandshake (bus : CoproBus) (h : Handshake) (addr : UInt32)
    (isPort : Bool) : writeEffect (bus.setHandshake h) addr isPort = writeEffect bus addr isPort :=
  by simp only [writeEffect, coproBusRegion_setHandshake, regionFields_setHandshake]

@[simp] lemma readEffect_setHandshake (bus : CoproBus) (h : Handshake) (addr : UInt32)
    (isPort : Bool) : readEffect (bus.setHandshake h) addr isPort = readEffect bus addr isPort := by
  simp only [readEffect, coproBusRegion_setHandshake, regionFields_setHandshake,
    ramRead_setHandshake]
  rfl

lemma WriteEffect.apply_setHandshake {e : WriteEffect} (he : e.result ≠ .stall) (bus : CoproBus)
    (h : Handshake) (addr : UInt32) (isPort : Bool) (cycle : UInt32) (value : UInt8) :
    e.apply (bus.setHandshake h) addr isPort cycle value
      = (e.apply bus addr isPort cycle value).setHandshake h := by
  obtain ⟨result, store, logged⟩ := e
  cases result with
  | ok => cases store <;> cases logged <;> simp [WriteEffect.apply, storeAt]
  | stall => exact absurd rfl he
  | busError => rfl

/-! ## The answer -/

/-- The answer held is for this access. -/
def CoproBus.answers (bus : CoproBus) (addr : UInt32) (isWrite : Bool) : Prop :=
  bus.answerValid = true ∧ bus.answerAddr = addr ∧ bus.answerIsWrite = isWrite

instance (bus : CoproBus) (addr : UInt32) (isWrite : Bool) :
    Decidable (bus.answers addr isWrite) := inferInstanceAs (Decidable (_ ∧ _ ∧ _))

lemma takeAnswer_of_answers {bus : CoproBus} {addr : UInt32} {isWrite : Bool}
    (h : bus.answers addr isWrite) :
    takeAnswer bus addr isWrite
      = some (bus.answerValue.toUInt8, { bus with answerValid := false }) := by
  obtain ⟨hv, ha, hw⟩ := h
  simp [takeAnswer, hv, ha, hw]

lemma takeAnswer_of_not_answers {bus : CoproBus} {addr : UInt32} {isWrite : Bool}
    (h : ¬ bus.answers addr isWrite) : takeAnswer bus addr isWrite = none := by
  unfold takeAnswer
  rw [if_pos]
  by_contra hc
  simp only [Bool.or_eq_true, Bool.not_eq_true', decide_eq_true_eq, not_or,
    Bool.not_eq_false, ne_eq, not_not] at hc
  exact h ⟨hc.1.1, hc.1.2, hc.2⟩

lemma coproBusRead_of_answers {bus : CoproBus} {addr : UInt32} (isPort : Bool)
    (h : bus.answers addr false) :
    coproBusRead bus addr isPort
      = (.ok, bus.answerValue.toUInt8, { bus with answerValid := false }) := by
  rw [coproBusRead, takeAnswer_of_answers h]

lemma coproBusRead_of_not_answers {bus : CoproBus} {addr : UInt32} (isPort : Bool)
    (h : ¬ bus.answers addr false) :
    coproBusRead bus addr isPort = decodedRead bus addr isPort := by
  rw [coproBusRead, takeAnswer_of_not_answers h]

lemma coproBusWrite_of_answers {bus : CoproBus} {addr : UInt32} (isPort : Bool) (cycle : UInt32)
    (value : UInt8) (h : bus.answers addr true) :
    coproBusWrite bus addr isPort cycle value = (.ok, { bus with answerValid := false }) := by
  rw [coproBusWrite, takeAnswer_of_answers h]

lemma coproBusWrite_of_not_answers {bus : CoproBus} {addr : UInt32} (isPort : Bool)
    (cycle : UInt32) (value : UInt8) (h : ¬ bus.answers addr true) :
    coproBusWrite bus addr isPort cycle value = decodedWrite bus addr isPort cycle value := by
  rw [coproBusWrite, takeAnswer_of_not_answers h]

lemma coproBusResume_of_stalled {bus : CoproBus} (h : bus.stalled = true) (value : UInt8) :
    coproBusResume bus value =
      ((if bus.waitIsWrite then bus.waitValue else value.toUInt32).toUInt8,
        { bus with stalled := false,
                   waitValue := if bus.waitIsWrite then bus.waitValue else value.toUInt32,
                   answerValid := true, answerAddr := bus.waitAddr,
                   answerValue := if bus.waitIsWrite then bus.waitValue else value.toUInt32,
                   answerIsWrite := bus.waitIsWrite }) := by
  rw [coproBusResume, h]
  rfl

lemma coproBusResume_of_not_stalled {bus : CoproBus} (h : bus.stalled = false) (value : UInt8) :
    coproBusResume bus value = (value, bus) := by
  rw [coproBusResume, h]
  rfl

/-! ## Frames -/

section Frames

variable (bus : CoproBus)

lemma WriteEffect.apply_handshake {e : WriteEffect} (he : e.result ≠ .stall) (addr : UInt32)
    (isPort : Bool) (cycle : UInt32) (value : UInt8) :
    (e.apply bus addr isPort cycle value).handshake = bus.handshake := by
  have hc := WriteEffect.apply_setHandshake he bus bus.handshake addr isPort cycle value
  rw [CoproBus.setHandshake_handshake] at hc
  rw [hc]
  rfl

end Frames

/-! ## Words of the control area -/

lemma ctlWordBytes_of_fits {bus : CoproBus} {offset : UInt32} (hp : bus.ctlPresent = true)
    (h : offset.toNat + 4 ≤ bus.ctlSize.toNat) :
    ctlWordBytes bus offset = [offset, offset + 1, offset + 2, offset + 3] := by
  have hlt := bus.ctlSize.toNat_lt
  have hle : ¬ bus.ctlSize < offset + 4 := by
    rw [UInt32.lt_iff_toNat_lt]
    simp only [UInt32.toNat_add, UInt32.reduceToNat]
    omega
  simp [ctlWordBytes, hp, hle]

lemma ctlWord_of_fits {bus : CoproBus} {offset : UInt32} (hp : bus.ctlPresent = true)
    (h : offset.toNat + 4 ≤ bus.ctlSize.toNat) : ctlWord bus offset = bus.ctl.word offset := by
  rw [ctlWord, ctlWordBytes_of_fits hp h]
  rfl

lemma ctlSetWord_of_fits {bus : CoproBus} {offset : UInt32} (hp : bus.ctlPresent = true)
    (h : offset.toNat + 4 ≤ bus.ctlSize.toNat) (value : UInt32) :
    ctlSetWord bus offset value = { bus with ctl := bus.ctl.setWord offset value } := by
  rw [ctlSetWord, ctlWordBytes_of_fits hp h]
  rfl

lemma ctlWord_congr {bus bus' : CoproBus} {offset : UInt32}
    (hp : bus'.ctlPresent = bus.ctlPresent) (hs : bus'.ctlSize = bus.ctlSize)
    (hc : ∀ k : Nat, k < 4 → bus'.ctl (offset + UInt32.ofNat k) = bus.ctl (offset + UInt32.ofNat k)) :
    ctlWord bus' offset = ctlWord bus offset := by
  have h0 := hc 0 (by omega)
  have h1 := hc 1 (by omega)
  have h2 := hc 2 (by omega)
  have h3 := hc 3 (by omega)
  simp only [UInt32.reduceOfNat, UInt32.add_zero] at h0 h1 h2 h3
  have hb : ctlWordBytes bus' offset = ctlWordBytes bus offset := by
    rw [ctlWordBytes, ctlWordBytes, hp, hs]
  simp only [ctlWord, hb]
  unfold ctlWordBytes
  split_ifs
  · rfl
  · simp only [h0, h1, h2, h3]

/-! ## What the decode depends on -/

/-- A byte of the region table in use. -/
def TableByte (bus : CoproBus) (b : UInt32) : Prop :=
  ∃ i < bus.mapCount.toNat, ∃ k < 16, b = regionEntry bus i + UInt32.ofNat k

/-- The table in use has the same place and bytes. -/
structure SameTable (bus bus' : CoproBus) : Prop where
  present : bus'.ctlPresent = bus.ctlPresent
  size : bus'.ctlSize = bus.ctlSize
  off : bus'.mapOff = bus.mapOff
  count : bus'.mapCount = bus.mapCount
  bytes : ∀ b, TableByte bus b → bus'.ctl b = bus.ctl b

namespace SameTable

variable {bus bus' : CoproBus} (h : SameTable bus bus')
include h

lemma regionEntry_eq (i : Nat) : regionEntry bus' i = regionEntry bus i := by
  rw [regionEntry, regionEntry, h.off]

lemma tableByte_iff (b : UInt32) : TableByte bus' b ↔ TableByte bus b := by
  simp only [TableByte, h.count, h.regionEntry_eq]

lemma trans {bus'' : CoproBus} (h' : SameTable bus' bus'') : SameTable bus bus'' where
  present := h'.present.trans h.present
  size := h'.size.trans h.size
  off := h'.off.trans h.off
  count := h'.count.trans h.count
  bytes b hb := (h'.bytes b ((h.tableByte_iff b).mpr hb)).trans (h.bytes b hb)

lemma ctlWord_eq {i : Nat} (hi : i < bus.mapCount.toNat) {w : Nat} (hw : w + 4 ≤ 16) :
    ctlWord bus' (regionEntry bus i + UInt32.ofNat w)
      = ctlWord bus (regionEntry bus i + UInt32.ofNat w) := by
  apply ctlWord_congr h.present h.size
  intro k hk
  rw [UInt32.add_assoc, ← UInt32.ofNat_add]
  exact h.bytes _ ⟨i, hi, w + k, by omega, rfl⟩

lemma entryWords_eq {i : Nat} (hi : i < bus.mapCount.toNat) :
    ctlWord bus' (regionEntry bus i) = ctlWord bus (regionEntry bus i) ∧
    ctlWord bus' (regionEntry bus i + 4) = ctlWord bus (regionEntry bus i + 4) ∧
    ctlWord bus' (regionEntry bus i + 8) = ctlWord bus (regionEntry bus i + 8) ∧
    ctlWord bus' (regionEntry bus i + 12) = ctlWord bus (regionEntry bus i + 12) := by
  have h0 := h.ctlWord_eq hi (show 0 + 4 ≤ 16 by omega)
  rw [show UInt32.ofNat 0 = 0 from rfl, UInt32.add_zero] at h0
  exact ⟨h0, h.ctlWord_eq hi (show 4 + 4 ≤ 16 by omega), h.ctlWord_eq hi (show 8 + 4 ≤ 16 by omega),
    h.ctlWord_eq hi (show 12 + 4 ≤ 16 by omega)⟩

lemma regionMatches_eq {i : Nat} (hi : i < bus.mapCount.toNat) (addr : UInt32) (isPort : Bool) :
    regionMatches bus' addr isPort (regionEntry bus i)
      = regionMatches bus addr isPort (regionEntry bus i) := by
  obtain ⟨h0, h4, h8, -⟩ := h.entryWords_eq hi
  rw [regionMatches, regionMatches, h0, h4, h8]

lemma regionFrom_eq (addr : UInt32) (isPort : Bool) (n i : Nat)
    (hi : i + n ≤ bus.mapCount.toNat) :
    coproBusRegionFrom bus' addr isPort i n = coproBusRegionFrom bus addr isPort i n ∧
      ∀ e ∈ coproBusRegionFrom bus addr isPort i n, regionFields bus' e = regionFields bus e := by
  induction n generalizing i with
  | zero => exact ⟨rfl, fun e he => absurd he (by simp [coproBusRegionFrom])⟩
  | succ n ih =>
    have hlt : i < bus.mapCount.toNat := by omega
    rw [coproBusRegionFrom, coproBusRegionFrom, h.regionEntry_eq i, h.regionMatches_eq hlt]
    by_cases hm : regionMatches bus addr isPort (regionEntry bus i) = true
    · simp only [if_pos hm]
      refine ⟨trivial, fun e he => ?_⟩
      obtain rfl : regionEntry bus i = e := by simpa using he
      obtain ⟨h0, -, h8, h12⟩ := h.entryWords_eq hlt
      rw [regionFields, regionFields, h0, h8, h12]
    · simp only [if_neg hm]
      exact ih (i + 1) (by omega)

/-- **The decode depends on the table and on nothing else.** -/
theorem writeEffect_eq (addr : UInt32) (isPort : Bool) :
    writeEffect bus' addr isPort = writeEffect bus addr isPort := by
  have hr := h.regionFrom_eq addr isPort bus.mapCount.toNat 0 (by omega)
  have hreg : coproBusRegion bus' addr isPort = coproBusRegion bus addr isPort := by
    rw [coproBusRegion, coproBusRegion, h.count, h.present, hr.1]
  have hfields : ∀ e ∈ coproBusRegion bus addr isPort, regionFields bus' e = regionFields bus e := by
    intro e he
    rw [coproBusRegion] at he
    split_ifs at he with h0
    · simp at he
    · exact hr.2 e he
  rw [writeEffect, writeEffect, hreg]
  cases hc : coproBusRegion bus addr isPort with
  | none => rfl
  | some e =>
    dsimp only
    rw [hfields e hc]

end SameTable

end RpcEmu
